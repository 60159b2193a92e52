import LogSieve.Json.Writer
import LogSieve.Record.Value

namespace LogSieve

def Double.canonical (x : Double) : List Char :=
  match x.whole? with
  | some i => writeInt i
  | none => NumberStyle.standalone.write x

-- Text as it is, scalars by name or digits, containers as JSON on one line. Only a container can
-- fail to have a text.
def Value.canonical : Value → Except Json.WriteFault String
  | .string s => .ok s
  | .number x => .ok (String.ofList x.canonical)
  | .bool true => .ok "true"
  | .bool false => .ok "false"
  | .null => .ok "null"
  | v => (v.toJson.write false).map String.ofList

end LogSieve
