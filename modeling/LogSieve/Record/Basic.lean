import LogSieve.Record.Canonical

namespace LogSieve

structure Record where
  fields : List (String × Value)
  ordered : Fields.Ordered fields

namespace Record

def ofList (entries : List (String × Value)) : Record :=
  ⟨Fields.ofList entries, Fields.ordered_ofList entries⟩

instance : Inhabited Record := ⟨ofList []⟩

def get? (record : Record) (name : String) : Option Value :=
  Fields.get? name record.fields

def contains (record : Record) (name : String) : Bool :=
  (record.get? name).isSome

def names (record : Record) : List String :=
  record.fields.map Prod.fst

def insert (record : Record) (name : String) (value : Value) : Record :=
  ⟨Fields.insert name value record.fields, Fields.ordered_insert record.ordered⟩

def toJson (record : Record) : Json :=
  .object (Value.toMembers record.fields)

def equal (r s : Record) : Bool :=
  Value.equalFields r.fields s.fields

def timestampNames : List String := ["time", "ts", "timestamp"]

def levelNames : List String := ["level", "lvl", "severity"]

def messageNames : List String := ["message", "msg", "text"]

def wellKnownNames : List String := timestampNames ++ levelNames ++ messageNames

def sourceName : String := "_source"

def withSource (record : Record) (source : String) : Record :=
  record.insert sourceName (.string source)

def firstPresent? (record : Record) (names : List String) : Option (String × Value) :=
  names.findSome? fun name => (record.get? name).map (name, ·)

def textOf (record : Record) (names : List String) : Except Json.WriteFault String :=
  match record.firstPresent? names with
  | some (_, value) => value.canonical
  | none => .ok ""

end Record

end LogSieve
