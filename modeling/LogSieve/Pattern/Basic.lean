import LogSieve.Text.Blank
import LogSieve.Text.DecimalDigit
import LogSieve.Text.Variants
import LogSieve.Text.Word

namespace LogSieve

-- How a pattern tells letters apart: as they are, or ignoring case among ASCII letters, or among
-- all letters.
inductive Folding where
  | exact
  | ascii
  | full
deriving DecidableEq

inductive CharClass where
  | digit
  | space
  | word
deriving DecidableEq

def CharClass.contains (asciiOnly : Bool) (cls : CharClass) (c : Char) : Bool :=
  (!asciiOnly || c.toNat < 128) &&
    match cls with
    | .digit => isDigit c
    | .space => if asciiOnly then isBlankByte c.toNat.toUInt8 else isBlank c
    | .word => isWordChar c

inductive SetItem where
  | range (low high : Nat)
  | named (cls : CharClass) (negated : Bool)
deriving DecidableEq

structure CharSet where
  items : List SetItem
  negated : Bool := false
  folding : Folding := .exact
  asciiOnly : Bool := false

namespace CharSet

def readings (set : CharSet) (c : Char) : List Char :=
  match set.folding with
  | .exact => [c]
  | .ascii => Case.asciiVariants c
  | .full => Case.variants c

def basicEnd : Nat := 0xFFFF

-- A range that leaves the basic plane ignores the case of all letters where others ignore that of
-- ASCII letters.
def hasItem (set : CharSet) (c : Char) : SetItem → Bool
  | .range low high =>
    let more := if set.folding = .ascii ∧ basicEnd < high then [Case.upperOne c.toLower] else []
    (set.readings c ++ more).any fun v => low ≤ v.toNat && v.toNat ≤ high
  | .named cls negated => cls.contains set.asciiOnly c != negated

def contains (set : CharSet) (c : Char) : Bool :=
  set.items.any (set.hasItem c) != set.negated

end CharSet

inductive Anchor where
  | textStart
  | textEnd
  | lineStart
  | lineEnd
  | lastLineEnd
  | wordEdge (asciiOnly negated : Bool)
deriving DecidableEq

-- How much a repetition takes: as much as the rest allows, as little, or all it can without
-- giving any back.
inductive Greed where
  | greedy
  | lazy
  | possessive
deriving DecidableEq

structure Width where
  least : Nat
  most : Nat
deriving DecidableEq

namespace Width

def limit : Nat := Nat.pow 2 64

def clamp (w : Width) : Width :=
  ⟨min w.least limit, min w.most limit⟩

def add (v w : Width) : Width :=
  ⟨v.least + w.least, v.most + w.most⟩

def either (v w : Width) : Width :=
  ⟨min v.least w.least, max v.most w.most⟩

end Width

namespace Pattern

-- Every flag that a pattern sets is already part of the nodes it concerns.
inductive Node where
  | char (set : CharSet)
  | anchor (place : Anchor)
  | seq (items : List Node)
  | branch (choices : List Node)
  | group (index : Nat) (body : Node)
  | again (index : Nat) (folding : Folding) (width : Width)
  | look (behind negated : Bool) (body : Node)
  | atomic (body : Node)
  | ifGroup (index : Nat) (yes no : Node)
  | loop (least : Nat) (most : Option Nat) (greed : Greed) (body : Node)
deriving Inhabited

mutual

def Node.width : Node → Width
  | .char _ => ⟨1, 1⟩
  | .anchor _ => ⟨0, 0⟩
  | .seq items => (widthOfAll items).clamp
  | .branch choices => (widthOfAny choices).clamp
  | .group _ body => body.width
  | .again _ _ width => width
  | .look .. => ⟨0, 0⟩
  | .atomic body => body.width
  | .ifGroup _ yes no => (yes.width).either no.width
  | .loop least most _ body =>
    let w := body.width
    let highest := match most with
      | some n => w.most * n
      | none => if w.most = 0 then 0 else Width.limit
    Width.clamp ⟨w.least * least, highest⟩

def widthOfAll : List Node → Width
  | [] => ⟨0, 0⟩
  | node :: rest => node.width.add (widthOfAll rest)

def widthOfAny : List Node → Width
  | [] => ⟨Width.limit, 0⟩
  | node :: rest => node.width.either (widthOfAny rest)

end

mutual

def Node.looksFixed : Node → Bool
  | .look behind _ body =>
    let w := body.width
    (!behind || (w.least == w.most && w.least < Nat.pow 2 32)) && body.looksFixed
  | .seq items => allLooksFixed items
  | .branch choices => allLooksFixed choices
  | .group _ body => body.looksFixed
  | .atomic body => body.looksFixed
  | .ifGroup _ yes no => yes.looksFixed && no.looksFixed
  | .loop _ _ _ body => body.looksFixed
  | _ => true

def allLooksFixed : List Node → Bool
  | [] => true
  | node :: rest => node.looksFixed && allLooksFixed rest

end

mutual

def Node.hasLoop : Node → Bool
  | .loop .. => true
  | .look _ _ body => body.hasLoop
  | .seq items => anyHasLoop items
  | .branch choices => anyHasLoop choices
  | .group _ body => body.hasLoop
  | .atomic body => body.hasLoop
  | .ifGroup _ yes no => yes.hasLoop || no.hasLoop
  | _ => false

def anyHasLoop : List Node → Bool
  | [] => false
  | node :: rest => node.hasLoop || anyHasLoop rest

end

end Pattern

structure Pattern where
  root : Pattern.Node

end LogSieve
