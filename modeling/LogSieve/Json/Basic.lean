import LogSieve.Number.Double

namespace LogSieve

inductive Json where
  | null
  | bool (b : Bool)
  | int (i : Int)
  | real (x : Double)
  | string (s : String)
  | array (items : List Json)
  | object (members : List (String × Json))
deriving Inhabited

end LogSieve
