import LogSieve.Json.Reader
import LogSieve.Json.Writer

namespace LogSieve.Json

private theorem hexValue?_digitChar : ∀ n < 16, hexValue? (Nat.digitChar n) = some n := by
  decide

theorem unit?_control {n : Nat} (h : n < 0x20) :
    unit? '0' '0' (Nat.digitChar (n / 16)) (Nat.digitChar (n % 16)) = some n := by
  have hzero : hexValue? '0' = some 0 := rfl
  rw [unit?, hzero, hexValue?_digitChar _ (by omega), hexValue?_digitChar _ (by omega)]
  simp
  omega

theorem stringBody_escape (c : Char) (more : List Char) :
    stringBody (escape c ++ more) = (stringBody more).map fun (text, rest) => (c :: text, rest) := by
  have hmap : (stringBody more).map (fun (text, rest) => (c :: text, rest)) =
      (stringBody more).bind fun (text, rest) => some (c :: text, rest) := by
    cases stringBody more <;> rfl
  rw [hmap]
  unfold escape
  split
  · simp [stringBody, escaped?]
  · simp [stringBody, escaped?]
  · simp [stringBody, escaped?]
  · simp [stringBody, escaped?]
  · simp [stringBody, escaped?]
  · simp [stringBody, escaped?]
  · simp [stringBody, escaped?]
  · -- A character without a letter of its own: by number below the space, else as it is.
    rename_i hquote hslash _ _ _ _ _
    split
    · rename_i hlow
      have hunit := unit?_control hlow
      have hplain : c.toNat < 0xD800 ∨ 0xDFFF < c.toNat := by omega
      simp [stringBody, hunit, hplain]
    · rename_i hlow
      rw [List.singleton_append, stringBody.eq_def]
      split
      · contradiction
      · simp_all
      · simp_all
      · simp_all
      · rename_i heq
        cases heq
        rw [if_neg (not_or.mpr ⟨hlow, hslash⟩)]
        rfl

theorem stringBody_flatMap_escape (text rest : List Char) :
    stringBody (text.flatMap escape ++ '"' :: rest) = some (text, rest) := by
  induction text with
  | nil => rw [List.flatMap_nil, List.nil_append, stringBody]
  | cons c text ih =>
    rw [List.flatMap_cons, List.append_assoc, stringBody_escape, ih]
    rfl

theorem quote_append (text : String) (rest : List Char) :
    ∃ body, quote text ++ rest = '"' :: body ∧ stringBody body = some (text.toList, rest) := by
  refine ⟨text.toList.flatMap escape ++ '"' :: rest, ?_, stringBody_flatMap_escape _ _⟩
  simp [quote]

end LogSieve.Json
