import LogSieve.Text.Case
import LogSieve.Text.Blank

namespace LogSieve

abbrev Environment := String → Option String

def Environment.ofList (entries : List (String × String)) : Environment :=
  fun name => entries.reverse.lookup name

def isOn (text : String) : Bool :=
  ["1", "true", "yes", "on"].contains (lowerString (trimString text))

end LogSieve
