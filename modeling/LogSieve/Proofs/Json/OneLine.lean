import LogSieve.Proofs.Json.Numeral

namespace LogSieve

theorem newline_not_mem_toDigits (n : Nat) : '\n' ∉ Nat.toDigits 10 n := fun h =>
  absurd (isDigit_toDigits h) (by decide)

theorem newline_not_mem_writeInt (i : Int) : '\n' ∉ writeInt i := by
  unfold writeInt
  split <;> simp [newline_not_mem_toDigits]

theorem newline_not_mem_positional (d : Decimal) : '\n' ∉ NumberStyle.positional d := by
  have hdigits := newline_not_mem_toDigits d.digits
  unfold NumberStyle.positional
  simp only
  split_ifs
  · simp [hdigits]
  · simp only [List.mem_append, List.mem_cons, not_or]
    exact ⟨fun h => hdigits (List.mem_of_mem_take h), by decide,
      fun h => hdigits (List.mem_of_mem_drop h)⟩
  · simp [hdigits]

theorem newline_not_mem_scientific (style : NumberStyle) (d : Decimal) :
    '\n' ∉ style.scientific d := by
  have hdigits := newline_not_mem_toDigits d.digits
  have hexponent (e : Int) : '\n' ∉ style.exponentText e := by
    unfold NumberStyle.exponentText
    split_ifs <;> simp [newline_not_mem_toDigits]
  unfold NumberStyle.scientific
  simp only [List.mem_append, not_or]
  refine ⟨?_, hexponent _⟩
  split
  · rename_i heq
    rw [heq] at hdigits
    simpa using hdigits
  · exact hdigits

theorem newline_not_mem_write {style : NumberStyle} {x : Double} : '\n' ∉ style.write x := by
  cases x with
  | nan => simp [NumberStyle.write]
  | infinite negative => cases negative <;> simp [NumberStyle.write]
  | finite negative units hr =>
    have hdecimal : '\n' ∉ style.decimal (.shortest units) := by
      unfold NumberStyle.decimal
      simp only
      split_ifs
      · exact newline_not_mem_positional _
      · exact newline_not_mem_scientific style _
    cases negative <;> simp [NumberStyle.write, hdecimal]

namespace Json

private theorem newline_not_mem_unit {n : Nat} (h : n < 0x20) :
    '\n' ∉ ['\\', 'u', '0', '0', Nat.digitChar (n / 16), Nat.digitChar (n % 16)] := by
  have hdigit : ∀ k < 16, '\n' ≠ Nat.digitChar k := by decide
  have h₁ := hdigit (n / 16) (by omega)
  have h₂ := hdigit (n % 16) (by omega)
  simp [h₁, h₂]

theorem newline_not_mem_escape (c : Char) : '\n' ∉ escape c := by
  unfold escape
  split
  · decide
  · decide
  · decide
  · decide
  · decide
  · decide
  · decide
  · rename_i hbreak _ _
    split_ifs with hlow
    · exact newline_not_mem_unit hlow
    · exact fun h => hbreak (List.mem_singleton.mp h).symm

theorem newline_not_mem_quote (text : String) : '\n' ∉ quote text := by
  simp [quote, newline_not_mem_escape]

mutual

theorem newline_not_mem_compact : ∀ document : Json, '\n' ∉ document.compact
  | .null => by decide
  | .bool true => by decide
  | .bool false => by decide
  | .int i => newline_not_mem_writeInt i
  | .real x => by
    rw [compact, writeReal]
    split_ifs
    · exact newline_not_mem_write
    · decide
  | .string s => newline_not_mem_quote s
  | .array items => by simp [compact, newline_not_mem_compactItems items]
  | .object members => by simp [compact, newline_not_mem_compactMembers members]

theorem newline_not_mem_compactItems : ∀ items : List Json, '\n' ∉ compactItems items
  | [] => by decide
  | [item] => by simp [compactItems, newline_not_mem_compact item]
  | item :: next :: more => by
    have hitem := newline_not_mem_compact item
    have hmore := newline_not_mem_compactItems (next :: more)
    simp [compactItems, hitem, hmore]

theorem newline_not_mem_compactMembers : ∀ members : List (String × Json),
    '\n' ∉ compactMembers members
  | [] => by decide
  | [(name, item)] => by
    simp [compactMembers, newline_not_mem_quote, newline_not_mem_compact item]
  | (name, item) :: next :: more => by
    have hitem := newline_not_mem_compact item
    have hmore := newline_not_mem_compactMembers (next :: more)
    simp [compactMembers, newline_not_mem_quote, hitem, hmore]

end

theorem compactMembers_last (members : List (String × Json)) :
    ∃ text, compactMembers members = text ++ ['}'] := by
  induction members with
  | nil => exact ⟨[], rfl⟩
  | cons member more ih =>
    obtain ⟨name, item⟩ := member
    cases more with
    | nil => exact ⟨quote name ++ ':' :: item.compact, rfl⟩
    | cons next more =>
      obtain ⟨text, htext⟩ := ih
      refine ⟨quote name ++ ':' :: item.compact ++ ',' :: text, ?_⟩
      simp [compactMembers, htext]

-- An object's text keeps its ends whatever white space is taken away around it.
theorem trim_compact_object (members : List (String × Json)) :
    trim ((Json.object members).compact ++ ['\n']) = (Json.object members).compact := by
  obtain ⟨text, htext⟩ := compactMembers_last members
  have hopen : isBlank '{' = false := by decide
  have hclose : isBlank '}' = false := by decide
  have hbreak : isBlank '\n' = true := by decide
  simp [compact, htext, trim, stripBoth, hopen, hclose, hbreak]

end Json

end LogSieve
