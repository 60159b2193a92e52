import LogSieve.Pattern.Reader
import LogSieve.Pattern.Search
import LogSieve.Record.Basic

namespace LogSieve

inductive Operator where
  | notEqual
  | search
  | greaterEqual
  | lessEqual
  | equal
  | greater
  | less
deriving DecidableEq

namespace Operator

def priority : List Operator :=
  [.notEqual, .search, .greaterEqual, .lessEqual, .equal, .greater, .less]

def text : Operator → String
  | .notEqual => "!="
  | .search => "~"
  | .greaterEqual => ">="
  | .lessEqual => "<="
  | .equal => "="
  | .greater => ">"
  | .less => "<"

def relates (op : Operator) (actual literal : String) : Bool :=
  match op with
  | .notEqual => actual != literal
  | .search => false
  | .greaterEqual => !(actual < literal)
  | .lessEqual => !(literal < actual)
  | .equal => actual == literal
  | .greater => literal < actual
  | .less => actual < literal

end Operator

inductive FilterFault where
  | noOperator (expression : String)
  | pattern (expression : String) (fault : PatternFault)
deriving DecidableEq

namespace FilterFault

def expression : FilterFault → String
  | .noOperator expression => expression
  | .pattern expression _ => expression

def message : FilterFault → String
  | .noOperator expression => "invalid filter expression: " ++ expression
  | .pattern .. => "invalid regex in filter"

end FilterFault

def splitAtText? (mark : List Char) : List Char → Option (List Char × List Char)
  | [] => if mark = [] then some ([], []) else none
  | c :: rest =>
    if mark.isPrefixOf (c :: rest) then some ([], (c :: rest).drop mark.length)
    else (splitAtText? mark rest).map fun (before, behind) => (c :: before, behind)

structure Filter where
  field : String
  operator : Operator
  literal : String
  pattern : Option Pattern

namespace Filter

-- The first operator in order of priority that occurs in an expression, and the texts around its
-- first occurrence.
def split? (expression : List Char) : Option (List Char × Operator × List Char) :=
  Operator.priority.findSome? fun op =>
    (splitAtText? op.text.toList expression).map fun (field, literal) => (field, op, literal)

def ofTextBy (compile : List Char → Except PatternFault Pattern) (expression : String) :
    Except FilterFault Filter :=
  match split? expression.toList with
  | none => .error (.noOperator expression)
  | some (field, op, literal) =>
    let field := String.ofList field
    match op with
    | .search =>
      match compile literal with
      | .error fault => .error (.pattern expression fault)
      | .ok pattern => .ok ⟨field, op, String.ofList literal, some pattern⟩
    | op => .ok ⟨field, op, String.ofList literal, none⟩

def ofText (expression : String) : Except FilterFault Filter :=
  ofTextBy Pattern.ofText expression

def text (filter : Filter) : String :=
  filter.field ++ filter.operator.text ++ filter.literal

def accepts (filter : Filter) (actual : String) : Bool :=
  match filter.pattern with
  | some pattern => pattern.matchesIn actual
  | none => filter.operator.relates actual filter.literal

def holds (filter : Filter) (record : Record) : Except Json.WriteFault Bool :=
  match record.get? filter.field with
  | none => .ok false
  | some value => value.canonical.map filter.accepts

def ofTextsBy (compile : List Char → Except PatternFault Pattern) :
    List String → Except FilterFault (List Filter)
  | [] => .ok []
  | expression :: rest => do
    let filter ← ofTextBy compile expression
    return filter :: (← ofTextsBy compile rest)

def ofTexts (expressions : List String) : Except FilterFault (List Filter) :=
  ofTextsBy Pattern.ofText expressions

def allHold : List Filter → Record → Except Json.WriteFault Bool
  | [], _ => .ok true
  | filter :: rest, record => do
    if ← filter.holds record then allHold rest record else return false

end Filter

end LogSieve
