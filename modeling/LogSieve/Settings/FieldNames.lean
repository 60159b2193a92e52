import LogSieve.Text.Blank
import LogSieve.Text.Split

namespace LogSieve

def fieldNames (text : String) : List String :=
  (((splitAtEach ',' text.toList).map trim).filter (· ≠ [])).map String.ofList

def fieldNamesOr (given : Option String) (others : List String) : List String :=
  match given with
  | some text => fieldNames text
  | none => others

end LogSieve
