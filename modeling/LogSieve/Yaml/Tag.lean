import LogSieve.Yaml.Moment

namespace LogSieve.Yaml

inductive Tag where
  | null
  | boolean
  | integer
  | decimal
  | binary
  | timestamp
  | orderedPairs
  | pairs
  | set
  | text
  | sequence
  | mapping
  | merge
  | value
  | other
deriving DecidableEq

namespace Tag

def standard : String := "tag:yaml.org,2002:"

def names : List (String × Tag) :=
  [("null", null), ("bool", boolean), ("int", integer), ("float", decimal), ("binary", binary),
   ("timestamp", timestamp), ("omap", orderedPairs), ("pairs", pairs), ("set", set),
   ("str", text), ("seq", sequence), ("map", mapping), ("merge", merge), ("value", value)]

def ofUri (uri : String) : Tag :=
  ((names.find? fun entry => standard ++ entry.1 == uri).map (·.2)).getD other

def unsign : List Char → List Char
  | '+' :: rest => rest
  | '-' :: rest => rest
  | number => number

def isDigitOrJoint (c : Char) : Bool :=
  c.isDigit || c == '_'

def isJoined (text : List Char) : Bool :=
  text.head?.any Char.isDigit && text.all isDigitOrJoint

def nullWords : List String := ["~", "null", "Null", "NULL", ""]

def booleanWords : List String :=
  ["yes", "Yes", "YES", "no", "No", "NO", "true", "True", "TRUE", "false", "False", "FALSE",
   "on", "On", "ON", "off", "Off", "OFF"]

def isExponent : List Char → Bool
  | [] => true
  | e :: sign :: digits =>
    (e == 'e' || e == 'E') && (sign == '+' || sign == '-') && !digits.isEmpty &&
      digits.all Char.isDigit
  | _ => false

-- A count of sixtieths: one digit, or two of which the first is below six.
def isSixtieth : List Char → Bool
  | [c] => c.isDigit
  | [c, d] => '0' ≤ c && c ≤ '5' && d.isDigit
  | _ => false

def isSexagesimal (first : List Char → Bool) (text : List Char) : Bool :=
  match splitAtEach ':' text with
  | whole :: part :: parts => first whole && (part :: parts).all isSixtieth
  | _ => false

def looksDecimal (text : List Char) : Bool :=
  let number := unsign text
  let (whole, rest) := number.span (· != '.')
  match rest with
  | '.' :: behind =>
    let (row, rest) := behind.span isDigitOrJoint
    (isJoined whole && isExponent rest) ||
      (text.head? == some '.' && isJoined row && isExponent rest) ||
      (isSexagesimal isJoined whole && rest.isEmpty) ||
      (whole.isEmpty && ["inf", "Inf", "INF"].contains (String.ofList behind)) ||
      (text.head? == some '.' && ["nan", "NaN", "NAN"].contains (String.ofList behind))
  | _ => false

def isRow (test : Char → Bool) (text : List Char) : Bool :=
  !text.isEmpty && text.all fun c => test c || c == '_'

def isWhole (text : List Char) : Bool :=
  isJoined text && text.head? != some '0'

def looksInteger (text : List Char) : Bool :=
  match unsign text with
  | ['0'] => true
  | '0' :: 'b' :: row => isRow (fun c => c == '0' || c == '1') row
  | '0' :: 'x' :: row => isRow (fun c => (Json.hexValue? c).isSome) row
  | '0' :: row => isRow (fun c => '0' ≤ c && c ≤ '7') row
  | number => isWhole number || isSexagesimal isWhole number

-- The type that a plain scalar looks like. One line break at its end does not count.
def ofPlain (text : List Char) : Tag :=
  let seen := if text.getLast? = some '\n' ∧ text ≠ ['\n'] then text.dropLast else text
  let word := String.ofList seen
  if booleanWords.contains word then boolean
  else if looksDecimal seen then decimal
  else if looksInteger seen then integer
  else if word = "<<" then merge
  else if nullWords.contains word then null
  else if Moment.looksLike seen then timestamp
  else if word = "=" then value
  else if ["!", "&", "*"].contains word then other
  else Tag.text

end Tag

end LogSieve.Yaml
