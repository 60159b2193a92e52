import LogSieve.Number.Reading
import LogSieve.Proofs.Text.Blank
import Mathlib.Data.List.TakeDrop

namespace LogSieve

theorem mem_of_spanDigits {c : Char} {text row rest : List Char} (h : spanDigits text = (row, rest))
    (hc : c ∈ text) (hdigit : c.isDigit = false) : c ∈ rest := by
  rw [spanDigits, List.span_eq_takeWhile_dropWhile, Prod.mk.injEq] at h
  obtain ⟨rfl, rfl⟩ := h
  exact mem_dropWhile_of_not hc hdigit

theorem spanDigits_of_not_digit {c : Char} {rest : List Char} (h : c.isDigit = false) :
    spanDigits (c :: rest) = ([], c :: rest) := by
  rw [spanDigits, List.span_eq_takeWhile_dropWhile, List.takeWhile_cons_of_neg (by simp [h]),
    List.dropWhile_cons_of_neg (by simp [h])]

theorem mem_of_mapM {α β : Type} {f : α → Option β} {items : List α} {results : List β} {item : α}
    {result : β} (h : items.mapM f = some results) (hitem : item ∈ items)
    (hresult : f item = some result) : result ∈ results := by
  induction items generalizing results with
  | nil => cases hitem
  | cons first rest ih =>
    simp only [List.mapM_cons, Option.bind_eq_bind, Option.bind_eq_some_iff, Option.pure_def,
      Option.some.injEq] at h
    obtain ⟨y, hy, more, hmore, rfl⟩ := h
    rcases List.mem_cons.mp hitem with rfl | hrest
    · rw [hresult] at hy
      cases hy
      exact List.mem_cons_self
    · exact List.mem_cons_of_mem _ (ih hmore hrest)

namespace Decimal

def unsigned? (text : List Char) : Option Decimal :=
  let (whole, rest) := spanDigits text
  let (fraction, rest) := match rest with
    | '.' :: rest => spanDigits rest
    | rest => ([], rest)
  if whole = [] ∧ fraction = [] then none
  else (Double.exponent? rest).map fun exponent =>
    ⟨digitsValue (whole ++ fraction), exponent - fraction.length⟩

def splitSign : List Char → Bool × List Char
  | '-' :: rest => (true, rest)
  | '+' :: rest => (false, rest)
  | rest => (false, rest)

-- The decimal of a text and whether it is below zero. Infinity and NaN are no decimals.
def ofText? (text : List Char) : Option (Bool × Decimal) := do
  let plain ← text.mapM Double.plainChar?
  let number ← Double.joinDigits? false (stripBoth Double.isPlainSpace plain)
  (unsigned? (splitSign number).2).map fun d => ((splitSign number).1, d)

theorem unsigned?_lead {text : List Char} {d : Decimal} (h : unsigned? text = some d) :
    ∃ c rest, text = c :: rest ∧ (c.isDigit = true ∨ c = '.') := by
  cases text with
  | nil =>
    rw [unsigned?, show spanDigits [] = ([], []) from rfl] at h
    cases h
  | cons c rest =>
    refine ⟨c, rest, rfl, ?_⟩
    by_contra hc
    obtain ⟨hdigit, hpoint⟩ := not_or.mp hc
    have hspan : spanDigits (c :: rest) = ([], c :: rest) :=
      spanDigits_of_not_digit (by simpa using hdigit)
    simp [unsigned?, hspan, hpoint] at h

end Decimal

namespace Double

theorem toLower_of_isDigit {c : Char} (h : c.isDigit = true) : c.toLower = c := by
  simp only [Char.isDigit, Bool.and_eq_true, decide_eq_true_eq] at h
  have hcapital : ¬('A'.val ≤ c.val ∧ c.val ≤ 'Z'.val) := by
    rintro ⟨hlow, -⟩
    have hdigit := UInt32.le_iff_toNat_le.mp h.2
    have hletter := UInt32.le_iff_toNat_le.mp hlow
    simp at hdigit hletter
    omega
  exact dif_neg hcapital

theorem unsigned?_of_not_name {text : List Char} (hinf : text.map Char.toLower ≠ "inf".toList)
    (hinfinity : text.map Char.toLower ≠ "infinity".toList)
    (hnan : text.map Char.toLower ≠ "nan".toList) (negative : Bool) :
    unsigned? negative text = (Decimal.unsigned? text).map (Decimal.toDouble negative) := by
  simp only [unsigned?, Decimal.unsigned?, hinf, hinfinity, hnan, or_self, if_false]
  generalize spanDigits text = parts
  obtain ⟨whole, rest⟩ := parts
  have hround (parts : List Char × List Char) :
      (if whole = [] ∧ parts.1 = [] then none
        else (exponent? parts.2).map fun exponent =>
          Decimal.toDouble negative
            ⟨digitsValue (whole ++ parts.1), exponent - parts.1.length⟩) =
      (if whole = [] ∧ parts.1 = [] then none
        else (exponent? parts.2).map fun exponent =>
          (⟨digitsValue (whole ++ parts.1), exponent - parts.1.length⟩ : Decimal)).map
        (Decimal.toDouble negative) := by
    by_cases hnone : whole = [] ∧ parts.1 = []
    · rw [if_pos hnone, if_pos hnone, Option.map_none]
    · rw [if_neg hnone, if_neg hnone, Option.map_map]
      rfl
  cases rest with
  | nil => exact hround ([], [])
  | cons c behind =>
    by_cases hc : c = '.'
    · subst hc
      exact hround (spanDigits behind)
    · simpa [hc] using hround ([], c :: behind)

theorem unsigned?_of_decimal {text : List Char} {d : Decimal} (h : Decimal.unsigned? text = some d)
    (negative : Bool) : unsigned? negative text = some (d.toDouble negative) := by
  obtain ⟨c, rest, rfl, hc⟩ := Decimal.unsigned?_lead h
  have hlower : c.toLower ≠ 'i' ∧ c.toLower ≠ 'n' := by
    rcases hc with hdigit | rfl
    · rw [toLower_of_isDigit hdigit]
      constructor <;> (rintro rfl; revert hdigit; decide)
    · decide
  rw [unsigned?_of_not_name, h, Option.map_some]
  · exact fun heq => hlower.1 (List.cons.inj heq).1
  · exact fun heq => hlower.1 (List.cons.inj heq).1
  · exact fun heq => hlower.2 (List.cons.inj heq).1

theorem exists_decimal_of_unsigned? {text : List Char} {negative : Bool} {x : Double}
    (h : unsigned? negative text = some x) (hx : x.isFinite = true) :
    ∃ d, Decimal.unsigned? text = some d ∧ x = d.toDouble negative := by
  by_cases hinf : text.map Char.toLower = "inf".toList
  · simp only [unsigned?, hinf, true_or, if_true] at h
    cases h
    cases hx
  by_cases hinfinity : text.map Char.toLower = "infinity".toList
  · simp only [unsigned?, hinfinity, or_true, if_true] at h
    cases h
    cases hx
  by_cases hnan : text.map Char.toLower = "nan".toList
  · simp only [unsigned?, hnan, if_true] at h
    cases h
    cases hx
  rw [unsigned?_of_not_name hinf hinfinity hnan] at h
  obtain ⟨d, hd, rfl⟩ := Option.map_eq_some_iff.mp h
  exact ⟨d, hd, rfl⟩

theorem ofText?_eq_bind (text : List Char) :
    ofText? text = (text.mapM plainChar?).bind fun plain =>
      (joinDigits? false (stripBoth isPlainSpace plain)).bind fun number =>
        unsigned? (Decimal.splitSign number).1 (Decimal.splitSign number).2 := by
  simp only [ofText?, Option.bind_eq_bind]
  congr 1
  funext plain
  congr 1
  funext number
  cases number with
  | nil => rfl
  | cons c rest =>
    by_cases hminus : c = '-'
    · subst hminus
      rfl
    · by_cases hplus : c = '+'
      · subst hplus
        rfl
      · simp [Decimal.splitSign, hminus, hplus]

-- A finite number is read as the double of the decimal that its text denotes.
theorem ofText?_eq_some_iff {text : List Char} {x : Double} (hx : x.isFinite = true) :
    ofText? text = some x ↔
      ∃ negative d, Decimal.ofText? text = some (negative, d) ∧ x = d.toDouble negative := by
  rw [ofText?_eq_bind, Decimal.ofText?]
  simp only [Option.bind_eq_bind, Option.bind_eq_some_iff, Option.map_eq_some_iff, Prod.mk.injEq]
  constructor
  · rintro ⟨plain, hplain, number, hnumber, hread⟩
    obtain ⟨d, hd, rfl⟩ := exists_decimal_of_unsigned? hread hx
    exact ⟨_, d, ⟨plain, hplain, number, hnumber, d, hd, rfl, rfl⟩, rfl⟩
  · rintro ⟨negative, d, ⟨plain, hplain, number, hnumber, d', hd, rfl, rfl⟩, rfl⟩
    exact ⟨plain, hplain, number, hnumber, unsigned?_of_decimal hd _⟩

theorem exponent?_of_colon {text : List Char} (h : ':' ∈ text) : exponent? text = none := by
  have hdigits {digits : List Char} (hmem : ':' ∈ digits) :
      ¬(digits ≠ [] ∧ digits.all Char.isDigit = true) := by
    rintro ⟨-, hall⟩
    exact absurd (List.all_eq_true.mp hall ':' hmem) (by decide)
  cases text with
  | nil => cases h
  | cons c rest =>
    by_cases hc : c = 'e' ∨ c = 'E'
    · have hrest : ':' ∈ rest := by
        rcases List.mem_cons.mp h with rfl | hrest
        · simp at hc
        · exact hrest
      cases rest with
      | nil => cases hrest
      | cons d digits =>
        by_cases hsign : d = '-' ∨ d = '+'
        · have hmem : ':' ∈ digits := by rcases hsign with rfl | rfl <;> simpa using hrest
          rcases hsign with rfl | rfl <;> simp only [exponent?, if_pos hc, if_neg (hdigits hmem)]
        · obtain ⟨hminus, hplus⟩ := not_or.mp hsign
          unfold exponent?
          simp only [if_pos hc]
          split
          · rename_i hsigned
            exact absurd (List.cons.inj hsigned).1 hminus
          · rename_i hsigned
            exact absurd (List.cons.inj hsigned).1 hplus
          · exact if_neg (hdigits hrest)
    · unfold exponent?
      simp only [if_neg hc]

theorem unsigned?_of_colon {text : List Char} (h : ':' ∈ text) (negative : Bool) :
    unsigned? negative text = none := by
  have hname {name : List Char} (hname : ':' ∉ name) : text.map Char.toLower ≠ name := by
    rintro rfl
    exact hname (List.mem_map.mpr ⟨':', h, by decide⟩)
  rw [unsigned?_of_not_name (hname (by decide)) (hname (by decide)) (hname (by decide)),
    Option.map_eq_none_iff, Decimal.unsigned?]
  cases hwhole : spanDigits text with
  | mk whole rest =>
    have hrest : ':' ∈ rest := mem_of_spanDigits hwhole h (by decide)
    simp only
    split
    · rename_i behind
      cases hfraction : spanDigits behind with
      | mk fraction rest =>
        have hbehind : ':' ∈ behind := by simpa using hrest
        have hmore : ':' ∈ rest := mem_of_spanDigits hfraction hbehind (by decide)
        simp only [exponent?_of_colon hmore, Option.map_none, ite_self]
    · simp only [exponent?_of_colon hrest, Option.map_none, ite_self]

theorem mem_of_joinDigits? {c : Char} {afterDigit : Bool} {text joined : List Char}
    (h : joinDigits? afterDigit text = some joined) (hc : c ∈ text) (hne : c ≠ '_') :
    c ∈ joined := by
  induction afterDigit, text using joinDigits?.induct generalizing joined with
  | case1 => cases hc
  | case2 afterDigit d rest hdigits ih =>
    rw [joinDigits?, if_pos hdigits] at h
    exact ih h ((List.mem_cons.mp hc).resolve_left hne)
  | case3 afterDigit d rest hdigits =>
    rw [joinDigits?, if_neg hdigits] at h
    cases h
  | case4 afterDigit =>
    rw [joinDigits?] at h
    cases h
  | case5 afterDigit d rest hpair hlast ih =>
    rw [joinDigits?] at h
    · obtain ⟨more, hmore, rfl⟩ := Option.map_eq_some_iff.mp h
      rcases List.mem_cons.mp hc with rfl | hrest
      · exact List.mem_cons_self
      · exact List.mem_cons_of_mem _ (ih hmore hrest)
    · exact hpair
    · exact hlast

theorem ofText?_of_colon {text : List Char} (h : ':' ∈ text) : ofText? text = none := by
  cases hresult : ofText? text with
  | none => rfl
  | some x =>
    rw [ofText?_eq_bind] at hresult
    simp only [Option.bind_eq_some_iff] at hresult
    obtain ⟨plain, hplain, number, hnumber, hread⟩ := hresult
    have hmem : ':' ∈ plain := mem_of_mapM hplain h (by decide)
    have hstripped : ':' ∈ number :=
      mem_of_joinDigits? hnumber (mem_stripBoth hmem (by decide)) (by decide)
    have hbehind : ':' ∈ (Decimal.splitSign number).2 := by
      unfold Decimal.splitSign
      split
      · simpa using hstripped
      · simpa using hstripped
      · exact hstripped
    rw [unsigned?_of_colon hbehind] at hread
    cases hread

end Double

end LogSieve
