import LogSieve.Environment.Basic

namespace LogSieve

inductive Piece where
  | literal (c : Char)
  | reference (name : List Char) (braced : Bool)
deriving DecidableEq

namespace Piece

def spelling : Piece → List Char
  | .literal c => [c]
  | .reference name true => '$' :: '{' :: (name ++ ['}'])
  | .reference name false => '$' :: name

def expand (environment : Environment) : Piece → List Char
  | .literal c => [c]
  | .reference name braced =>
    match environment (String.ofList name) with
    | some value => value.toList
    | none => (reference name braced).spelling

def startsName (c : Char) : Bool :=
  c.isAlpha || c == '_'

def continuesName (c : Char) : Bool :=
  c.isAlphanum || c == '_'

-- The reference that a text starts with, and the rest. In braces any name goes that is not empty;
-- without them it is as long as it can be.
def reference? : List Char → Option (Piece × List Char)
  | '$' :: '{' :: rest =>
    match rest.takeWhile (· != '}'), rest.dropWhile (· != '}') with
    | c :: name, _ :: behind => some (.reference (c :: name) true, behind)
    | _, _ => none
  | '$' :: c :: rest =>
    if startsName c then
      some (.reference (c :: rest.takeWhile continuesName) false, rest.dropWhile continuesName)
    else none
  | _ => none

theorem dropWhile_length {α : Type} (test : α → Bool) (items : List α) :
    (items.dropWhile test).length ≤ items.length :=
  (List.dropWhile_sublist test).length_le

theorem reference?_length {text rest : List Char} {piece : Piece}
    (h : reference? text = some (piece, rest)) : rest.length < text.length := by
  unfold reference? at h
  split at h
  · rename_i body
    split at h
    · rename_i behind _ hdrop
      obtain ⟨-, rfl⟩ := Prod.mk.inj (Option.some.inj h)
      have := dropWhile_length (· != '}') body
      rw [hdrop] at this
      simp only [List.length_cons] at this ⊢
      omega
    · cases h
  · rename_i c body _
    split at h
    · obtain ⟨-, rfl⟩ := Prod.mk.inj (Option.some.inj h)
      have := dropWhile_length continuesName body
      simp only [List.length_cons]
      omega
    · cases h
  · cases h

def ofText (text : List Char) : List Piece :=
  match text with
  | [] => []
  | c :: rest =>
    match _h : reference? (c :: rest) with
    | some (piece, behind) => piece :: ofText behind
    | none => .literal c :: ofText rest
termination_by text.length
decreasing_by
  · exact reference?_length _h
  · simp

end Piece

-- Each piece is replaced on its own, so what a variable holds is never searched for references.
def Environment.expand (environment : Environment) (text : String) : String :=
  String.ofList ((Piece.ofText text.toList).flatMap (Piece.expand environment))

end LogSieve
