import LogSieve.Record.Basic
import LogSieve.Text.Blank

namespace LogSieve.KeyValue

inductive Fault where
  | unterminated
deriving DecidableEq

def Fault.message : Fault → String
  | .unterminated => "unterminated string value"

-- What a quoted value holds and what follows it, read behind its opening quote. The character
-- before decides whether a quote closes the value.
def quotedBody (before : Char) : List Char → Option (List Char × List Char)
  | [] => none
  | c :: rest =>
    if c = '"' ∧ before ≠ '\\' then some ([], rest)
    else (quotedBody c rest).map fun (body, rest) => (c :: body, rest)

def value : List Char → Except Fault (List Char × List Char)
  | '"' :: rest =>
    match quotedBody '"' rest with
    | some found => .ok found
    | none => .error .unterminated
  | text => .ok (text.takeWhile (!isBlank ·), (text.dropWhile (!isBlank ·)).drop 1)

theorem quotedBody_length {before : Char} {text body rest : List Char}
    (h : quotedBody before text = some (body, rest)) : rest.length ≤ text.length := by
  induction text generalizing before body with
  | nil => simp [quotedBody] at h
  | cons c text ih =>
    unfold quotedBody at h
    split at h
    · simp only [Option.some.injEq, Prod.mk.injEq] at h
      simp [h.2]
    · simp only [Option.map_eq_some_iff, Prod.mk.injEq, Prod.exists] at h
      obtain ⟨_, _, hb, _, rfl⟩ := h
      exact Nat.le_succ_of_le (ih hb)

theorem value_length {text body rest : List Char} (h : value text = .ok (body, rest)) :
    rest.length ≤ text.length := by
  unfold value at h
  split at h
  · split at h
    · rename_i found hq
      cases h
      exact Nat.le_succ_of_le (quotedBody_length hq)
    · simp at h
  · cases h
    have := (List.dropWhile_sublist (l := text) (!isBlank ·)).length_le
    simp only [List.length_drop]
    omega

def splitKey? : List Char → Option (List Char × List Char)
  | [] => none
  | c :: rest =>
    if c = '=' then some ([], rest)
    else (splitKey? rest).map fun (key, rest) => (c :: key, rest)

theorem splitKey?_length {text key rest : List Char} (h : splitKey? text = some (key, rest)) :
    rest.length < text.length := by
  induction text generalizing key with
  | nil => simp [splitKey?] at h
  | cons c text ih =>
    unfold splitKey? at h
    split at h
    · simp only [Option.some.injEq, Prod.mk.injEq] at h
      simp [h.2]
    · simp only [Option.map_eq_some_iff, Prod.mk.injEq, Prod.exists] at h
      obtain ⟨_, _, hk, _, rfl⟩ := h
      exact Nat.lt_succ_of_lt (ih hk)

theorem trim_length (text : List Char) : (trim text).length ≤ text.length := by
  have h₁ := (List.dropWhile_sublist (l := text) isBlank).length_le
  have h₂ := (List.dropWhile_sublist (l := (text.dropWhile isBlank).reverse) isBlank).length_le
  simp only [trim, stripBoth, List.length_reverse] at h₂ ⊢
  omega

def entries (text : List Char) : Except Fault (List (String × Value)) :=
  if trim text = [] then .ok []
  else
    match _hk : splitKey? (trim text) with
    | none => .ok [(String.ofList (trim text), .bool true)]
    | some (key, rest) =>
      match _hv : value rest with
      | .error fault => .error fault
      | .ok (body, rest) => do
        let more ← entries rest
        .ok ((String.ofList key, .string (String.ofList body)) :: more)
termination_by text.length
decreasing_by
  have h₁ := trim_length text
  have h₂ := splitKey?_length _hk
  have h₃ := value_length _hv
  omega

def read (line : List Char) : Except Fault Record :=
  (entries line).map Record.ofList

end LogSieve.KeyValue
