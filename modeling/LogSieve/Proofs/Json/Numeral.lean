import LogSieve.Json.Reader
import LogSieve.Json.Writer
import LogSieve.Proofs.Number.ReadBack
import LogSieve.Proofs.Text.Blank
import Mathlib.Data.List.TakeDrop

namespace LogSieve

theorem digitsValue_append (row more : List Char) :
    digitsValue (row ++ more) = 10 ^ more.length * digitsValue row + digitsValue more := by
  rw [digitsValue, Nat.ofDigitChars_append, Nat.ofDigitChars_eq_ofDigitChars_zero]
  rfl

theorem digitsValue_toDigits (n : Nat) : digitsValue (Nat.toDigits 10 n) = n :=
  Nat.ofDigitChars_ten_toDigits

theorem digitsValue_zeros (count : Nat) : digitsValue (List.replicate count '0') = 0 := by
  rw [digitsValue, Nat.ofDigitChars_replicate_zero, Nat.mul_zero]

theorem isDigit_toDigits {n : Nat} {c : Char} (h : c ∈ Nat.toDigits 10 n) : c.isDigit = true :=
  Nat.isDigit_of_mem_toDigits (by decide) (by decide) h

theorem spanDigits_append {row rest : List Char} (hrow : ∀ c ∈ row, c.isDigit = true)
    (hrest : ∀ c ∈ rest.head?, c.isDigit = false) : spanDigits (row ++ rest) = (row, rest) := by
  obtain ⟨htake, hdrop⟩ := span_append hrow hrest
  rw [spanDigits, List.span_eq_takeWhile_dropWhile, htake, hdrop]

theorem digit_ne {c d : Char} (hc : c.isDigit = true) (hd : d.isDigit = false) : c ≠ d := by
  rintro rfl
  rw [hc] at hd
  exact absurd hd (by decide)

theorem toDigits_lead {n : Nat} (hn : n ≠ 0) :
    ∃ lead more, Nat.toDigits 10 n = lead :: more ∧ lead ≠ '0' := by
  induction n using Nat.strongRecOn with
  | _ n ih =>
    by_cases h : n < 10
    · refine ⟨n.digitChar, [], Nat.toDigits_of_lt_base h, ?_⟩
      rw [ne_eq, Nat.digitChar_eq_zero]
      exact hn
    · obtain ⟨lead, more, hd, hl⟩ := ih (n / 10) (by omega) (by omega)
      rw [Nat.toDigits_of_base_le (by decide) (by omega), hd]
      exact ⟨lead, _, rfl, hl⟩

namespace Json

-- Nothing that could belong to a number stands here.
def EndsNumber (text : List Char) : Prop :=
  ∀ c ∈ text.head?, c.isDigit = false ∧ c ≠ '.' ∧ c ≠ 'e' ∧ c ≠ 'E'

theorem endsNumber_nil : EndsNumber [] := by
  intro c hc
  simp at hc

theorem endsNumber_cons {c : Char} {text : List Char}
    (h : c.isDigit = false ∧ c ≠ '.' ∧ c ≠ 'e' ∧ c ≠ 'E') : EndsNumber (c :: text) := by
  intro d hd
  simp only [List.head?_cons, Option.mem_some_iff] at hd
  exact hd ▸ h

def IsWholePart (row : List Char) : Prop :=
  row = ['0'] ∨ (∀ c ∈ row, c.isDigit = true) ∧ ∃ lead more, row = lead :: more ∧ lead ≠ '0'

theorem isWholePart_toDigits (n : Nat) : IsWholePart (Nat.toDigits 10 n) := by
  by_cases h : n = 0
  · left
    rw [h, Nat.toDigits_zero]
  · exact .inr ⟨fun c hc => isDigit_toDigits hc, toDigits_lead h⟩

theorem digits_append {row rest : List Char} (hne : row ≠ []) (hrow : ∀ c ∈ row, c.isDigit = true)
    (hrest : ∀ c ∈ rest.head?, c.isDigit = false) : digits (row ++ rest) = some (row, rest) := by
  rw [digits, spanDigits_append hrow hrest]
  cases row with
  | nil => exact absurd rfl hne
  | cons c row => rfl

theorem wholePart_append (row : List Char) {rest : List Char} (hrow : IsWholePart row)
    (hrest : ∀ c ∈ rest.head?, c.isDigit = false) : wholePart (row ++ rest) = some (row, rest) := by
  rcases hrow with rfl | ⟨hall, lead, more, rfl, hlead⟩
  · rfl
  · rw [wholePart.eq_2 _ (by rintro rest' he; exact hlead (List.cons.inj he).1)]
    exact digits_append (by simp) hall hrest

theorem fractionPart_none {rest : List Char} (h : ∀ c ∈ rest.head?, c ≠ '.') :
    fractionPart rest = some (none, rest) := by
  cases rest with
  | nil => rfl
  | cons c rest =>
    rw [fractionPart.eq_2 _ (by rintro rest' he; exact h c rfl (List.cons.inj he).1)]

theorem fractionPart_append (row : List Char) {rest : List Char} (hne : row ≠ [])
    (hrow : ∀ c ∈ row, c.isDigit = true) (hrest : ∀ c ∈ rest.head?, c.isDigit = false) :
    fractionPart ('.' :: (row ++ rest)) = some (some row, rest) := by
  rw [fractionPart, digits_append hne hrow hrest]
  rfl

theorem exponentPart_none {rest : List Char} (h : EndsNumber rest) :
    exponentPart rest = some (none, rest) := by
  cases rest with
  | nil => rfl
  | cons c rest =>
    have hc := h c rfl
    simp [exponentPart, hc]

theorem exponentPart_append (style : NumberStyle) (e : Int) {rest : List Char}
    (h : EndsNumber rest) : exponentPart (style.exponentText e ++ rest) = some (some e, rest) := by
  have hrow : ∀ c ∈ List.replicate (style.exponentWidth - (Nat.toDigits 10 e.natAbs).length) '0' ++
      Nat.toDigits 10 e.natAbs, c.isDigit = true := by
    intro c hc
    rcases List.mem_append.mp hc with hc | hc
    · rw [List.eq_of_mem_replicate hc]
      rfl
    · exact isDigit_toDigits hc
  have hread := digits_append (by simp [Nat.toDigits_ne_nil]) hrow fun c hc => (h c hc).1
  have hvalue : digitsValue (List.replicate
      (style.exponentWidth - (Nat.toDigits 10 e.natAbs).length) '0' ++
        Nat.toDigits 10 e.natAbs) = e.natAbs := by
    rw [digitsValue_append, digitsValue_zeros, digitsValue_toDigits, Nat.mul_zero, Nat.zero_add]
  by_cases he : e < 0
  · simp only [NumberStyle.exponentText, he, if_true, List.cons_append, exponentPart, true_or,
      hread, Option.map_some, hvalue, Option.some.injEq, Prod.mk.injEq, and_true]
    omega
  · simp only [NumberStyle.exponentText, he, if_false, List.cons_append, exponentPart, true_or,
      if_true, hread, Option.map_some, hvalue, Option.some.injEq, Prod.mk.injEq, and_true]
    omega

theorem unsignedNumber_real (negative : Bool) {text whole rest₁ rest₂ rest : List Char}
    {fraction : Option (List Char)} {exponent : Option Int}
    (hw : wholePart text = some (whole, rest₁)) (hf : fractionPart rest₁ = some (fraction, rest₂))
    (he : exponentPart rest₂ = some (exponent, rest))
    (hsome : fraction.isSome ∨ exponent.isSome) {x : Double}
    (hx : Decimal.toDouble negative ⟨digitsValue (whole ++ fraction.getD []),
      exponent.getD 0 - (fraction.getD []).length⟩ = x) (hfin : x.isFinite = true) :
    unsignedNumber negative text = some (.real x, rest) := by
  have hmark : fraction = none → exponent ≠ none := by
    rintro rfl rfl
    simp at hsome
  simp [unsignedNumber, hw, hf, he, hx, hfin]
  exact hmark

private theorem not_digit_cons {c : Char} (h : c.isDigit = false) (text : List Char) :
    ∀ d ∈ (c :: text).head?, d.isDigit = false := by
  intro d hd
  simp only [List.head?_cons, Option.mem_some_iff] at hd
  exact hd ▸ h

private theorem isDigit_zeros {count : Nat} {c : Char} (h : c ∈ List.replicate count '0') :
    c.isDigit = true := by
  rw [List.eq_of_mem_replicate h]
  rfl

private theorem unsignedNumber_point (negative : Bool) {whole row rest : List Char} {x : Double}
    (hwhole : IsWholePart whole) (hne : row ≠ []) (hrow : ∀ c ∈ row, c.isDigit = true)
    (hrest : EndsNumber rest)
    (hx : Decimal.toDouble negative ⟨digitsValue (whole ++ row), -row.length⟩ = x)
    (hfin : x.isFinite = true) :
    unsignedNumber negative (whole ++ '.' :: row ++ rest) = some (.real x, rest) := by
  rw [List.append_assoc, List.cons_append]
  refine unsignedNumber_real negative (wholePart_append whole hwhole (not_digit_cons rfl _))
    (fractionPart_append row hne hrow fun c hc => (hrest c hc).1) (exponentPart_none hrest)
    (by simp) ?_ hfin
  simpa using hx

-- Zeros fill the places up to the point.
private theorem unsignedNumber_filled (negative : Bool) {d : Decimal} {rest : List Char}
    (hd : d.digits ≠ 0) (he : 0 ≤ d.exponent) (hfin : (d.toDouble negative).isFinite = true)
    (hrest : EndsNumber rest) :
    unsignedNumber negative (Nat.toDigits 10 d.digits ++ List.replicate d.exponent.toNat '0' ++
      ['.', '0'] ++ rest) = some (.real (d.toDouble negative), rest) := by
  obtain ⟨lead, more, hdig, hlead⟩ := toDigits_lead hd
  have hwhole : IsWholePart (Nat.toDigits 10 d.digits ++ List.replicate d.exponent.toNat '0') := by
    refine .inr ⟨fun c hc => ?_, lead, more ++ List.replicate d.exponent.toNat '0', ?_, hlead⟩
    · rcases List.mem_append.mp hc with hc | hc
      · exact isDigit_toDigits hc
      · exact isDigit_zeros hc
    · rw [hdig, List.cons_append]
  refine unsignedNumber_point negative hwhole (List.cons_ne_nil '0' []) (by simp) hrest
    (Decimal.toDouble_congr negative ?_) hfin
  rw [← Decimal.value_shift d.digits (d.exponent.toNat + 1) d.exponent]
  congr 2
  · simp only [digitsValue_append, digitsValue_zeros, digitsValue_toDigits]
    simp [digitsValue, Nat.ofDigitChars, Nat.pow_succ]
    ring
  · simp only [List.length_singleton]
    omega

-- The point stands among the digits.
private theorem unsignedNumber_parted (negative : Bool) {d : Decimal} {rest : List Char}
    (hd : d.digits ≠ 0) (he : d.exponent < 0)
    (hb : 0 < (Nat.toDigits 10 d.digits).length + d.exponent)
    (hfin : (d.toDouble negative).isFinite = true) (hrest : EndsNumber rest) :
    unsignedNumber negative
      ((Nat.toDigits 10 d.digits).take ((Nat.toDigits 10 d.digits).length + d.exponent).toNat ++
        '.' :: (Nat.toDigits 10 d.digits).drop
          ((Nat.toDigits 10 d.digits).length + d.exponent).toNat ++ rest) =
      some (.real (d.toDouble negative), rest) := by
  obtain ⟨lead, more, hdig, hlead⟩ := toDigits_lead hd
  have hall : ∀ c ∈ Nat.toDigits 10 d.digits, c.isDigit = true := fun c hc => isDigit_toDigits hc
  have hvalue := digitsValue_toDigits d.digits
  generalize Nat.toDigits 10 d.digits = row at hdig hall hvalue hb
  have hdrop : (row.drop (row.length + d.exponent).toNat).length = -d.exponent := by
    rw [List.length_drop]
    omega
  have hwhole : IsWholePart (row.take (row.length + d.exponent).toNat) := by
    refine .inr ⟨fun c hc => hall c (List.mem_of_mem_take hc), lead,
      more.take ((row.length + d.exponent).toNat - 1), ?_, hlead⟩
    obtain ⟨n, hn⟩ : ∃ n, (row.length + d.exponent).toNat = n + 1 :=
      ⟨(row.length + d.exponent).toNat - 1, by omega⟩
    rw [hn, hdig, List.take_succ_cons, Nat.add_sub_cancel]
  have hne : row.drop (row.length + d.exponent).toNat ≠ [] := by
    intro hnil
    rw [hnil, List.length_nil] at hdrop
    omega
  refine unsignedNumber_point negative hwhole hne (fun c hc => hall c (List.mem_of_mem_drop hc))
    hrest (congrArg (Decimal.toDouble negative) ?_) hfin
  rw [List.take_append_drop, hvalue, hdrop, Int.neg_neg]

-- Zeros stand between the point and the digits.
private theorem unsignedNumber_led (negative : Bool) {d : Decimal} {rest : List Char}
    (hb : (Nat.toDigits 10 d.digits).length + d.exponent ≤ 0)
    (hfin : (d.toDouble negative).isFinite = true) (hrest : EndsNumber rest) :
    unsignedNumber negative ('0' :: '.' ::
      (List.replicate (-((Nat.toDigits 10 d.digits).length + d.exponent)).toNat '0' ++
        Nat.toDigits 10 d.digits) ++ rest) = some (.real (d.toDouble negative), rest) := by
  have hzeros : ∀ c ∈ List.replicate (-((Nat.toDigits 10 d.digits).length + d.exponent)).toNat '0' ++
      Nat.toDigits 10 d.digits, c.isDigit = true := by
    intro c hc
    rcases List.mem_append.mp hc with hc | hc
    · exact isDigit_zeros hc
    · exact isDigit_toDigits hc
  have hwhole : IsWholePart ['0'] := .inl rfl
  have hlead : digitsValue ['0'] = 0 := rfl
  refine unsignedNumber_point negative hwhole (by simp [Nat.toDigits_ne_nil]) hzeros hrest
    (congrArg (Decimal.toDouble negative) ?_) hfin
  simp only [digitsValue_append, digitsValue_zeros, digitsValue_toDigits, hlead,
    List.length_append, List.length_replicate, Nat.mul_zero, Nat.zero_add]
  congr 1
  omega

private theorem unsignedNumber_positional (negative : Bool) {d : Decimal} {rest : List Char}
    (hd : d.digits ≠ 0) (hfin : (d.toDouble negative).isFinite = true) (hrest : EndsNumber rest) :
    unsignedNumber negative (NumberStyle.positional d ++ rest) =
      some (.real (d.toDouble negative), rest) := by
  unfold NumberStyle.positional
  simp only
  split_ifs with he hb
  · exact unsignedNumber_filled negative hd he hfin hrest
  · exact unsignedNumber_parted negative hd (by omega) hb hfin hrest
  · exact unsignedNumber_led negative (by omega) hfin hrest

private theorem unsignedNumber_scientific (style : NumberStyle) (negative : Bool) {d : Decimal}
    {rest : List Char} (hd : d.digits ≠ 0) (hfin : (d.toDouble negative).isFinite = true)
    (hrest : EndsNumber rest) :
    unsignedNumber negative (style.scientific d ++ rest) =
      some (.real (d.toDouble negative), rest) := by
  obtain ⟨lead, more, hdig, hlead⟩ := toDigits_lead hd
  have hall : ∀ c ∈ Nat.toDigits 10 d.digits, c.isDigit = true := fun c hc => isDigit_toDigits hc
  have hvalue := digitsValue_toDigits d.digits
  have hexp := exponentPart_append style (d.exponent + (Nat.toDigits 10 d.digits).length - 1) hrest
  have hmark (e : Int) : ∀ c ∈ (style.exponentText e ++ rest).head?, c.isDigit = false :=
    not_digit_cons rfl _
  unfold NumberStyle.scientific
  simp only
  rw [hdig] at hall hvalue hexp ⊢
  have hwhole : IsWholePart [lead] :=
    .inr ⟨fun c hc => hall c (List.mem_of_mem_take (i := 1) hc), lead, [], rfl, hlead⟩
  -- A single digit has no point behind it.
  cases more with
  | nil =>
    have hplain (e : Int) : ∀ c ∈ (style.exponentText e ++ rest).head?, c ≠ '.' := by
      intro c hc
      simp only [NumberStyle.exponentText, List.cons_append, List.head?_cons,
        Option.mem_some_iff] at hc
      rw [← hc]
      decide
    refine unsignedNumber_real negative (wholePart_append _ hwhole (hmark _))
      (fractionPart_none (hplain _)) hexp (by simp) (congrArg (Decimal.toDouble negative) ?_) hfin
    simp [hvalue]
  | cons second more =>
    simp only [List.cons_append, List.append_assoc]
    refine unsignedNumber_real negative
      (wholePart_append [lead] hwhole (not_digit_cons (c := '.') rfl _))
      (fractionPart_append (second :: more) (by simp)
        (fun c hc => hall c (List.mem_cons_of_mem _ hc)) (hmark _))
      hexp (by simp) (congrArg (Decimal.toDouble negative) ?_) hfin
    simp only [Option.getD_some, List.singleton_append, hvalue, List.length_cons]
    congr 1
    omega

-- A decimal as any style writes it denotes itself.
theorem unsignedNumber_decimal (style : NumberStyle) (negative : Bool) {d : Decimal}
    {rest : List Char} (hd : d.digits ≠ 0) (hfin : (d.toDouble negative).isFinite = true)
    (hrest : EndsNumber rest) :
    unsignedNumber negative (style.decimal d ++ rest) = some (.real (d.toDouble negative), rest) := by
  unfold NumberStyle.decimal
  simp only
  split
  · exact unsignedNumber_positional negative hd hfin hrest
  · exact unsignedNumber_scientific style negative hd hfin hrest

def StartsWithDigit (text : List Char) : Prop :=
  ∃ lead more, text = lead :: more ∧ lead.isDigit = true

theorem startsWithDigit_append {text : List Char} (h : StartsWithDigit text) (more : List Char) :
    StartsWithDigit (text ++ more) := by
  obtain ⟨lead, rest, rfl, hlead⟩ := h
  exact ⟨lead, rest ++ more, rfl, hlead⟩

theorem startsWithDigit_toDigits (n : Nat) : StartsWithDigit (Nat.toDigits 10 n) := by
  cases h : Nat.toDigits 10 n with
  | nil => exact absurd h Nat.toDigits_ne_nil
  | cons lead more => exact ⟨lead, more, rfl, isDigit_toDigits (h ▸ List.mem_cons_self)⟩

theorem startsWithDigit_decimal (style : NumberStyle) (d : Decimal) :
    StartsWithDigit (style.decimal d) := by
  obtain ⟨lead, more, hdig, hlead⟩ := startsWithDigit_toDigits d.digits
  unfold NumberStyle.decimal NumberStyle.positional NumberStyle.scientific
  simp only [hdig]
  split
  · split
    · exact ⟨lead, _, rfl, hlead⟩
    · split
      · rename_i hb
        obtain ⟨n, hn⟩ : ∃ n, ((lead :: more).length + d.exponent).toNat = n + 1 :=
          ⟨((lead :: more).length + d.exponent).toNat - 1, by omega⟩
        rw [hn]
        exact ⟨lead, _, rfl, hlead⟩
      · exact ⟨'0', _, rfl, rfl⟩
  · cases more with
    | nil => exact ⟨lead, _, rfl, hlead⟩
    | cons second more => exact ⟨lead, _, rfl, hlead⟩

theorem number_of_digit {text : List Char} (h : StartsWithDigit text) :
    number text = unsignedNumber false text := by
  obtain ⟨lead, more, rfl, hlead⟩ := h
  rw [number.eq_2 _ (by
    rintro rest he
    rw [(List.cons.inj he).1] at hlead
    exact absurd hlead (by decide))]

theorem number_signed (negative : Bool) {text rest : List Char} (h : StartsWithDigit text) :
    number ((if negative then ['-'] else []) ++ text ++ rest) =
      unsignedNumber negative (text ++ rest) := by
  cases negative with
  | false => exact number_of_digit (startsWithDigit_append h rest)
  | true => rfl

theorem number_write (style : NumberStyle) (negative : Bool) {units : Nat} {rest : List Char}
    (hr : Representable units) (hne : units ≠ 0) (hrest : EndsNumber rest) :
    number (style.write (.finite negative units hr) ++ rest) =
      some (.real (.finite negative units hr), rest) := by
  have hread := Decimal.toDouble_shortest negative hr
  have hfin : ((Decimal.shortest units).toDouble negative).isFinite = true := by
    rw [hread]
    rfl
  rw [NumberStyle.write, number_signed negative (startsWithDigit_decimal _ _),
    unsignedNumber_decimal style negative (Decimal.digits_shortest_ne_zero hr hne) hfin hrest, hread]

theorem number_writeReal {x : Double} {rest : List Char} (hx : x.isFinite = true)
    (hrest : EndsNumber rest) : number (writeReal x ++ rest) = some (.real x, rest) := by
  cases x with
  | infinite negative => simp [Double.isFinite] at hx
  | nan => simp [Double.isFinite] at hx
  | finite negative units hr =>
    simp only [writeReal, hx, if_true]
    by_cases hz : units = 0
    · -- zero has no leading digit to speak of: it is written `0.0`
      subst hz
      have hzero : NumberStyle.json.decimal (Decimal.shortest 0) = ['0', '.', '0'] := by decide
      rw [NumberStyle.write, number_signed negative (startsWithDigit_decimal _ _), hzero]
      have hwhole : IsWholePart ['0'] := .inl rfl
      have hdigits : digitsValue (['0'] ++ ['0']) = 0 := rfl
      refine unsignedNumber_point negative hwhole (List.cons_ne_nil '0' []) (by simp) hrest ?_ hx
      rw [Decimal.toDouble, if_pos hdigits, Double.ofUnits_of_representable negative hr]
    · exact number_write _ negative hr hz hrest

theorem toDouble_natAbs (i : Int) :
    Decimal.toDouble (decide (i < 0)) ⟨i.natAbs, 0⟩ = Double.ofInt i := by
  simp [Decimal.toDouble_eq_ofRatio, Double.ofInt]

theorem unsignedNumber_toDigits {negative : Bool} {n : Nat} {rest : List Char}
    (hfin : (Decimal.toDouble negative ⟨n, 0⟩).isFinite = true) (hrest : EndsNumber rest) :
    unsignedNumber negative (Nat.toDigits 10 n ++ rest) =
      some (.int (if negative then -n else n), rest) := by
  have hdigit : ∀ c ∈ rest.head?, c.isDigit = false := fun c hc => (hrest c hc).1
  have hplain : ∀ c ∈ rest.head?, c ≠ '.' := fun c hc => (hrest c hc).2.1
  simp [unsignedNumber, wholePart_append _ (isWholePart_toDigits n) hdigit,
    fractionPart_none hplain, exponentPart_none hrest, digitsValue_toDigits, hfin]

theorem number_writeInt {i : Int} {rest : List Char} (hi : (Double.ofInt i).isFinite = true)
    (hrest : EndsNumber rest) : number (writeInt i ++ rest) = some (.int i, rest) := by
  have hsign : writeInt i = (if decide (i < 0) then ['-'] else []) ++ Nat.toDigits 10 i.natAbs := by
    simp [writeInt]
  rw [hsign, number_signed _ (startsWithDigit_toDigits _),
    unsignedNumber_toDigits (toDouble_natAbs i ▸ hi) hrest]
  by_cases hneg : i < 0
  · rw [decide_eq_true hneg, if_pos rfl, Int.ofNat_natAbs_of_nonpos (Int.le_of_lt hneg),
      Int.neg_neg]
  · rw [decide_eq_false hneg, if_neg Bool.false_ne_true,
      Int.natAbs_of_nonneg (Int.not_lt.mp hneg)]

end Json

end LogSieve
