import LogSieve.Pattern.Basic

namespace LogSieve

namespace Pattern

structure Place where
  pos : Nat
  starts : List (Option Nat) := []
  ends : List (Option Nat) := []

abbrev Subject := Array Char

abbrev Rest := Place → Option Place

namespace Place

def setEntry : List (Option Nat) → Nat → Nat → List (Option Nat)
  | [], 0, value => [some value]
  | _ :: rest, 0, value => some value :: rest
  | [], index + 1, value => none :: setEntry [] index value
  | entry :: rest, index + 1, value => entry :: setEntry rest index value

def enter (place : Place) (index : Nat) : Place :=
  { place with starts := setEntry place.starts index place.pos }

def leave (place : Place) (index : Nat) : Place :=
  { place with ends := setEntry place.ends index place.pos }

def group? (place : Place) (index : Nat) : Option (Nat × Nat) := do
  let first ← (place.starts[index]?).join
  let last ← (place.ends[index]?).join
  if first ≤ last then some (first, last) else none

end Place

def wordAt (subject : Subject) (asciiOnly : Bool) (pos : Nat) : Bool :=
  (subject[pos]?).any (CharClass.word.contains asciiOnly)

def anchorHolds (subject : Subject) (pos : Nat) : Anchor → Bool
  | .textStart => pos == 0
  | .textEnd => pos == subject.size
  | .lineStart => pos == 0 || subject[pos - 1]? == some '\n'
  | .lineEnd => pos == subject.size || subject[pos]? == some '\n'
  | .lastLineEnd =>
    pos == subject.size || (pos + 1 == subject.size && subject[pos]? == some '\n')
  | .wordEdge asciiOnly negated =>
    let before := pos != 0 && wordAt subject asciiOnly (pos - 1)
    !subject.isEmpty && (before != wordAt subject asciiOnly pos) != negated

def sameLetter (folding : Folding) (c d : Char) : Bool :=
  match folding with
  | .exact => c == d
  | .ascii => c.toLower == d.toLower
  | .full => Case.lowerOne c == Case.lowerOne d

def sameText (subject : Subject) (folding : Folding) (pos other : Nat) : Nat → Bool
  | 0 => true
  | count + 1 =>
    match subject[pos]?, subject[other]? with
    | some c, some d =>
      sameLetter folding c d && sameText subject folding (pos + 1) (other + 1) count
    | _, _ => false

-- Repeats as often as the rest allows. A round that takes nothing is the last; `last` is where the
-- round before started, `rounds` bounds their number.
def greedyLoop (body : Rest → Rest) (least : Nat) (most : Option Nat) (rest : Rest) :
    Nat → Nat → Option Nat → Rest
  | 0, _, _, place => rest place
  | rounds + 1, count, last, place =>
    if count < least then
      body (greedyLoop body least most rest rounds (count + 1) last) place
    else if most.all (count < ·) && last != some place.pos then
      body (greedyLoop body least most rest rounds (count + 1) (some place.pos)) place
        <|> rest place
    else rest place

def lazyLoop (body : Rest → Rest) (least : Nat) (most : Option Nat) (rest : Rest) :
    Nat → Nat → Option Nat → Rest
  | 0, _, _, place => rest place
  | rounds + 1, count, last, place =>
    if count < least then
      body (lazyLoop body least most rest rounds (count + 1) last) place
    else
      rest place <|>
        if most.all (count < ·) && last != some place.pos then
          body (lazyLoop body least most rest rounds (count + 1) (some place.pos)) place
        else none

def possessiveLoop (body : Rest → Rest) (least : Nat) (most : Option Nat) :
    Nat → Nat → Option Nat → Rest
  | 0, _, _, place => some place
  | rounds + 1, count, last, place =>
    if count < least then
      (body some place).bind (possessiveLoop body least most rounds (count + 1) last)
    else if most.all (count < ·) && last != some place.pos then
      match body some place with
      | some next => possessiveLoop body least most rounds (count + 1) (some place.pos) next
      | none => some place
    else some place

mutual

-- A node is tried at a place, and what follows it decides whether the try stands.
def Node.run (subject : Subject) : Node → Rest → Rest
  | .char set, rest, place =>
    match subject[place.pos]? with
    | some c => if set.contains c then rest { place with pos := place.pos + 1 } else none
    | none => none
  | .anchor anchor, rest, place => if anchorHolds subject place.pos anchor then rest place else none
  | .seq items, rest, place => runAll subject items rest place
  | .branch choices, rest, place => runAny subject choices rest place
  | .group index body, rest, place =>
    body.run subject (fun inner => rest (inner.leave index)) (place.enter index)
  | .again index folding _, rest, place =>
    match place.group? index with
    | some (first, last) =>
      if sameText subject folding place.pos first (last - first) then
        rest { place with pos := place.pos + (last - first) }
      else none
    | none => none
  | .look behind negated body, rest, place =>
    let back := if behind then body.width.least else 0
    let found :=
      if place.pos < back then none
      else body.run subject some { place with pos := place.pos - back }
    match found, negated with
    | some seen, false => rest { seen with pos := place.pos }
    | none, true => rest place
    | _, _ => none
  | .atomic body, rest, place => (body.run subject some place).bind rest
  | .ifGroup index yes no, rest, place =>
    if (place.group? index).isSome then yes.run subject rest place else no.run subject rest place
  | .loop least most greed body, rest, place =>
    let rounds := least + subject.size + 2
    match greed with
    | .greedy => greedyLoop (body.run subject) least most rest rounds 0 none place
    | .lazy => lazyLoop (body.run subject) least most rest rounds 0 none place
    | .possessive =>
      (possessiveLoop (body.run subject) least most rounds 0 none place).bind rest

def runAll (subject : Subject) : List Node → Rest → Rest
  | [], rest, place => rest place
  | node :: nodes, rest, place => node.run subject (runAll subject nodes rest) place

def runAny (subject : Subject) : List Node → Rest → Rest
  | [], _, _ => none
  | node :: nodes, rest, place =>
    node.run subject rest place <|> runAny subject nodes rest place

end

end Pattern

def Pattern.matchesIn (pattern : Pattern) (text : String) : Bool :=
  let subject := text.toList.toArray
  (List.range (subject.size + 1)).any fun pos =>
    (pattern.root.run subject some { pos := pos }).isSome

end LogSieve
