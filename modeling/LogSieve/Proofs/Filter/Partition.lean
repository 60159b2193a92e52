import LogSieve.Proofs.Filter.Expression
import LogSieve.Proofs.Run.Faults
import Mathlib.Data.String.Basic

namespace LogSieve

def codePoints (text : String) : List Nat :=
  text.toList.map Char.toNat

theorem codePoints_strictMono : StrictMono codePoints := fun _ _ hlt =>
  List.map_lt (fun _ _ h => h) (String.lt_iff.mp hlt)

def Record.Shows (record : Record) (field text : String) : Prop :=
  ∃ value, record.get? field = some value ∧ value.canonical = .ok text

theorem Record.exists_shows {record : Record} {field : String} (h : record.TextAt field)
    (hfield : record.contains field = true) : ∃ text, record.Shows field text := by
  obtain ⟨value, hvalue⟩ := Option.isSome_iff_exists.mp hfield
  obtain ⟨text, htext⟩ := value.exists_canonical_iff.mpr (h value hvalue)
  exact ⟨text, value, hvalue, htext⟩

namespace Filter

def comparing (field : String) (op : Operator) (literal : String) : Filter :=
  ⟨field, op, literal, none⟩

theorem holds_of_shows {record : Record} {field text : String} (h : record.Shows field text)
    (op : Operator) (literal : String) :
    (comparing field op literal).holds record = .ok (op.relates text literal) := by
  obtain ⟨value, hvalue, htext⟩ := h
  rw [holds, comparing, hvalue]
  simp only [htext]
  rfl

theorem holds_of_lacks {record : Record} {field : String} (h : record.contains field = false)
    (op : Operator) (literal : String) (pattern : Option Pattern) :
    holds ⟨field, op, literal, pattern⟩ record = .ok false := by
  have hnone : record.get? field = none := by simpa [Record.contains] using h
  rw [holds, hnone]

-- The lists of operators of which exactly one relates any two texts.
def divisions : List (List Operator) :=
  [[.equal, .notEqual], [.less, .greaterEqual], [.greater, .lessEqual], [.less, .equal, .greater]]

theorem exists_relates (text literal : String) {ops : List Operator} (h : ops ∈ divisions) :
    ∃ op ∈ ops, op.relates text literal = true ∧
      ∀ other ∈ ops, other ≠ op → other.relates text literal = false := by
  simp only [divisions, List.mem_cons, List.not_mem_nil, or_false] at h
  rcases lt_trichotomy text literal with hlt | rfl | hgt
  · have hne : text ≠ literal := hlt.ne
    have hnot : ¬literal < text := hlt.asymm
    rcases h with rfl | rfl | rfl | rfl <;> simp [Operator.relates, hlt, hne, hnot]
  · rcases h with rfl | rfl | rfl | rfl <;> simp [Operator.relates]
  · have hne : text ≠ literal := hgt.ne'
    have hnot : ¬text < literal := hgt.asymm
    rcases h with rfl | rfl | rfl | rfl <;> simp [Operator.relates, hgt, hne, hnot]

-- What is at or above a literal stays there in texts that come later, and what is at or below it in
-- texts that come before.
theorem holds_of_codePoints_le {record other : Record} {field text more : String}
    (hrecord : record.Shows field text) (hother : other.Shows field more)
    (hle : codePoints text ≤ codePoints more) (literal : String) :
    ((comparing field .greaterEqual literal).holds record = .ok true →
        (comparing field .greaterEqual literal).holds other = .ok true) ∧
      ((comparing field .lessEqual literal).holds other = .ok true →
        (comparing field .lessEqual literal).holds record = .ok true) := by
  have htexts : text ≤ more := codePoints_strictMono.le_iff_le.mp hle
  simp only [holds_of_shows hrecord, holds_of_shows hother, Operator.relates, Except.ok.injEq,
    Bool.not_eq_true', decide_eq_false_iff_not]
  exact ⟨fun hnot hlt => hnot (htexts.trans_lt hlt), fun hnot hlt => hnot (hlt.trans_le htexts)⟩

def keep (filters : List Filter) : List Record → Except Json.WriteFault (List Record)
  | [] => .ok []
  | record :: rest => do
    if ← allHold filters record then return record :: (← keep filters rest)
    else keep filters rest

section Keep

variable {filters : List Filter} {record : Record}

theorem keep_of_error {fault : Json.WriteFault} (h : allHold filters record = .error fault)
    (rest : List Record) : keep filters (record :: rest) = .error fault := by
  rw [keep, h]
  rfl

theorem keep_of_false (h : allHold filters record = .ok false) (rest : List Record) :
    keep filters (record :: rest) = keep filters rest := by
  rw [keep, h]
  rfl

theorem keep_of_true (h : allHold filters record = .ok true) (rest : List Record) :
    keep filters (record :: rest) = (keep filters rest).map (record :: ·) := by
  rw [keep, h]
  cases keep filters rest <;> rfl

end Keep

def satisfies (filters : List Filter) (record : Record) : Bool :=
  decide (allHold filters record = .ok true)

theorem keep_eq_ok_iff (filters : List Filter) (records kept : List Record) :
    keep filters records = .ok kept ↔
      (∀ record ∈ records, ∃ answer, allHold filters record = .ok answer) ∧
        kept = records.filter (satisfies filters) := by
  induction records generalizing kept with
  | nil => simp [keep, eq_comm]
  | cons record rest ih =>
    rw [List.forall_mem_cons, List.filter_cons, satisfies]
    cases hanswer : allHold filters record with
    | error fault =>
      rw [keep_of_error hanswer]
      refine iff_of_false (fun h => ?_) fun h => ?_
      · cases h
      · obtain ⟨⟨⟨answer, h⟩, -⟩, -⟩ := h
        cases h
    | ok answer =>
      cases answer with
      | false =>
        rw [keep_of_false hanswer]
        exact (ih kept).trans (by simp)
      | true =>
        rw [keep_of_true hanswer, decide_eq_true rfl, if_pos rfl]
        constructor
        · intro h
          obtain ⟨more, hmore, rfl⟩ := exists_of_map h
          obtain ⟨hrest, rfl⟩ := (ih more).mp hmore
          exact ⟨⟨⟨true, rfl⟩, hrest⟩, rfl⟩
        · rintro ⟨⟨-, hrest⟩, rfl⟩
          rw [(ih _).mpr ⟨hrest, rfl⟩]
          rfl

theorem allHold_append (filters others : List Filter) (record : Record) :
    allHold (filters ++ others) record = do
      if ← allHold filters record then allHold others record else return false := by
  induction filters with
  | nil => rfl
  | cons filter rest ih =>
    rw [List.cons_append, allHold, allHold]
    cases hholds : filter.holds record with
    | error fault => rfl
    | ok answer =>
      cases answer with
      | false => rfl
      | true => exact ih

theorem satisfies_append (filters others : List Filter) (record : Record) :
    satisfies (filters ++ others) record =
      (satisfies filters record && satisfies others record) := by
  simp only [satisfies, allHold_append]
  cases allHold filters record with
  | error fault => rfl
  | ok answer => cases answer <;> rfl

theorem exists_allHold_append_iff (filters others : List Filter) (record : Record) :
    (∃ answer, allHold (filters ++ others) record = .ok answer) ↔
      (∃ answer, allHold filters record = .ok answer) ∧
        (satisfies filters record = true → ∃ answer, allHold others record = .ok answer) := by
  simp only [satisfies, allHold_append]
  cases allHold filters record with
  | error fault =>
    refine iff_of_false ?_ ?_
    · rintro ⟨answer, h⟩
      cases h
    · rintro ⟨⟨answer, h⟩, -⟩
      cases h
  | ok answer =>
    cases answer with
    | false => exact iff_of_true ⟨false, rfl⟩ ⟨⟨false, rfl⟩, fun h => by simp at h⟩
    | true => exact ⟨fun h => ⟨⟨true, rfl⟩, fun _ => h⟩, fun h => h.2 (by simp)⟩

-- Records that are kept by one list of filters and then by another are those that both together
-- keep, and the two ways end without a result for the same records.
theorem keep_append_eq_ok_iff (filters others : List Filter) (records kept : List Record) :
    keep (filters ++ others) records = .ok kept ↔
      (keep filters records >>= keep others) = .ok kept := by
  have hfilter : records.filter (satisfies (filters ++ others)) =
      (records.filter (satisfies filters)).filter (satisfies others) := by
    rw [List.filter_filter]
    apply List.filter_congr
    intro record _
    rw [satisfies_append, Bool.and_comm]
  rw [keep_eq_ok_iff, hfilter]
  constructor
  · rintro ⟨hanswers, rfl⟩
    have hfirst : keep filters records = .ok (records.filter (satisfies filters)) :=
      (keep_eq_ok_iff ..).mpr ⟨fun record hrecord =>
        ((exists_allHold_append_iff ..).mp (hanswers record hrecord)).1, rfl⟩
    rw [hfirst]
    refine (keep_eq_ok_iff ..).mpr ⟨fun record hrecord => ?_, rfl⟩
    obtain ⟨hmem, hholds⟩ := List.mem_filter.mp hrecord
    exact ((exists_allHold_append_iff ..).mp (hanswers record hmem)).2 hholds
  · intro h
    obtain ⟨middle, hmiddle, hkept⟩ := exists_of_bind h
    obtain ⟨hfirst, rfl⟩ := (keep_eq_ok_iff ..).mp hmiddle
    obtain ⟨hsecond, rfl⟩ := (keep_eq_ok_iff ..).mp hkept
    refine ⟨fun record hrecord => (exists_allHold_append_iff ..).mpr
      ⟨hfirst record hrecord, fun hholds => ?_⟩, rfl⟩
    exact hsecond record (List.mem_filter.mpr ⟨hrecord, hholds⟩)

theorem satisfies_iff (filters : List Filter) (record : Record) :
    satisfies filters record = true ↔ ∀ filter ∈ filters, filter.holds record = .ok true := by
  rw [satisfies, decide_eq_true_eq]
  induction filters with
  | nil => simp [allHold]
  | cons filter rest ih =>
    rw [allHold, List.forall_mem_cons, ← ih]
    cases filter.holds record with
    | error fault =>
      refine iff_of_false (fun h => ?_) fun h => ?_
      · cases h
      · cases h.1
    | ok answer =>
      cases answer with
      | false =>
        refine iff_of_false (fun h => ?_) fun h => ?_
        · cases h
        · cases h.1
      | true => exact ⟨fun h => ⟨rfl, h⟩, fun h => h.2⟩

theorem keep_of_texts {filters : List Filter} {records : List Record}
    (h : ∀ record ∈ records, ∀ filter ∈ filters, record.TextAt filter.field) :
    keep filters records = .ok (records.filter (satisfies filters)) := by
  refine (keep_eq_ok_iff ..).mpr ⟨fun record hrecord => ?_, rfl⟩
  exact (exists_allHold_iff filters record).mpr (allReached_of_forall (h record hrecord))

theorem keep_congr {filters others : List Filter} {records : List Record}
    (h : ∀ record ∈ records, ∀ filter ∈ filters, record.TextAt filter.field)
    (hsame : ∀ filter, filter ∈ others ↔ filter ∈ filters) :
    keep others records = keep filters records := by
  have hothers : ∀ record ∈ records, ∀ filter ∈ others, record.TextAt filter.field :=
    fun record hrecord filter hfilter => h record hrecord filter ((hsame filter).mp hfilter)
  rw [keep_of_texts h, keep_of_texts hothers]
  congr 1
  apply List.filter_congr
  intro record _
  rw [Bool.eq_iff_iff, satisfies_iff, satisfies_iff]
  exact forall_congr' fun filter => imp_congr_left (hsame filter)

section Compile

variable {compile : List Char → Except PatternFault Pattern}

theorem ofTextsBy_append {first second : List String} {filters others : List Filter}
    (hfirst : ofTextsBy compile first = .ok filters)
    (hsecond : ofTextsBy compile second = .ok others) :
    ofTextsBy compile (first ++ second) = .ok (filters ++ others) := by
  induction first generalizing filters with
  | nil =>
    cases hfirst
    exact hsecond
  | cons expression rest ih =>
    rw [ofTextsBy] at hfirst
    obtain ⟨filter, hfilter, hmore⟩ := exists_of_bind hfirst
    obtain ⟨more, hrest, heq⟩ := exists_of_bind hmore
    cases heq
    rw [List.cons_append, ofTextsBy_of_ok hfilter, ih hrest]
    rfl

theorem mem_iff_of_ofTextsBy {expressions : List String} {filters : List Filter}
    (h : ofTextsBy compile expressions = .ok filters) (filter : Filter) :
    filter ∈ filters ↔
      ∃ expression ∈ expressions, ofTextBy compile expression = .ok filter := by
  induction expressions generalizing filters with
  | nil =>
    cases h
    simp
  | cons expression rest ih =>
    rw [ofTextsBy] at h
    obtain ⟨found, hfound, hmore⟩ := exists_of_bind h
    obtain ⟨more, hrest, heq⟩ := exists_of_bind hmore
    cases heq
    rw [List.mem_cons, ih hrest, List.exists_mem_cons_iff, hfound, Except.ok.injEq, eq_comm]

theorem exists_ofTextsBy_of_mem_iff {expressions again : List String} {filters : List Filter}
    (h : ofTextsBy compile expressions = .ok filters)
    (hsame : ∀ expression, expression ∈ again ↔ expression ∈ expressions) :
    ∃ others, ofTextsBy compile again = .ok others ∧
      ∀ filter, filter ∈ others ↔ filter ∈ filters := by
  cases hagain : ofTextsBy compile again with
  | error fault =>
    obtain ⟨expression, hmem, hfault⟩ := (exists_ofTextsBy_error_iff again).mp ⟨fault, hagain⟩
    obtain ⟨other, hother⟩ :=
      (exists_ofTextsBy_error_iff expressions).mpr ⟨expression, (hsame expression).mp hmem, hfault⟩
    cases h.symm.trans hother
  | ok others =>
    refine ⟨others, rfl, fun filter => ?_⟩
    rw [mem_iff_of_ofTextsBy hagain, mem_iff_of_ofTextsBy h]
    exact exists_congr fun expression => and_congr_left' (hsame expression)

end Compile

-- Of the records of a list on which a field's values have texts, those that lack the field satisfy
-- nothing that is asked of it. Any other satisfies exactly one of equal and not equal, of less and
-- at least, of greater and at most, and of less, equal and greater. With a record that is at least
-- a literal those are whose text does not come before its text, and with one that is at most a
-- literal those whose text does not come after. Two lists of expressions keep together what one
-- keeps of that which the other does. Where the values that the filters look at have texts, they do
-- keep some records, and the same for the expressions in any order and any number.
theorem divided_and_composed (records : List Record) :
    (∀ field literal : String, (∀ record ∈ records, record.TextAt field) →
      ∀ record ∈ records,
        (record.contains field = false →
          ∀ op pattern, holds ⟨field, op, literal, pattern⟩ record = .ok false) ∧
        (record.contains field = true → ∀ ops ∈ divisions, ∃ op ∈ ops,
          (comparing field op literal).holds record = .ok true ∧
          ∀ other ∈ ops, other ≠ op → (comparing field other literal).holds record = .ok false) ∧
        ∀ other ∈ records, ∀ text more, record.Shows field text → other.Shows field more →
          codePoints text ≤ codePoints more →
            ((comparing field .greaterEqual literal).holds record = .ok true →
              (comparing field .greaterEqual literal).holds other = .ok true) ∧
            ((comparing field .lessEqual literal).holds other = .ok true →
              (comparing field .lessEqual literal).holds record = .ok true)) ∧
    ∀ first second filters others,
      ofTexts first = .ok filters → ofTexts second = .ok others →
      ∃ both, ofTexts (first ++ second) = .ok both ∧
        (∀ kept, keep both records = .ok kept ↔
          (keep filters records >>= keep others) = .ok kept) ∧
        ((∀ record ∈ records, ∀ filter ∈ both, record.TextAt filter.field) →
          ∃ kept, keep both records = .ok kept ∧
            ∀ again, (∀ expression, expression ∈ again ↔ expression ∈ first ++ second) →
              ∃ same, ofTexts again = .ok same ∧ keep same records = .ok kept) := by
  constructor
  · intro field literal htexts record hrecord
    refine ⟨fun hlacks op pattern => holds_of_lacks hlacks op literal pattern, ?_, ?_⟩
    · intro hfield ops hops
      obtain ⟨text, htext⟩ := Record.exists_shows (htexts record hrecord) hfield
      obtain ⟨op, hop, hholds, hothers⟩ := exists_relates text literal hops
      refine ⟨op, hop, by rw [holds_of_shows htext, hholds], fun other hother hne => ?_⟩
      rw [holds_of_shows htext, hothers other hother hne]
    · intro other _ text more htext hmore hle
      exact holds_of_codePoints_le htext hmore hle literal
  · intro first second filters others hfirst hsecond
    have hboth := ofTextsBy_append hfirst hsecond
    refine ⟨filters ++ others, hboth, fun kept => keep_append_eq_ok_iff .., fun htexts => ?_⟩
    refine ⟨_, keep_of_texts htexts, fun again hagain => ?_⟩
    obtain ⟨same, hsame, hmem⟩ := exists_ofTextsBy_of_mem_iff hboth hagain
    exact ⟨same, hsame, (keep_congr htexts hmem).trans (keep_of_texts htexts)⟩

-- Texts are compared here, not numbers: 9 is above 10. One record has no such field, and one has an
-- array in it.
theorem divided_and_composed_mixedKinds :
    let number (n : Nat) : Record := .ofList [("n", .number (.ofNat n)), ("k", .string "b")]
    let lacking : Record := .ofList [("k", .string "a")]
    let array : Record := .ofList [("n", .array [.bool true]), ("k", .null)]
    let records := [number 9, lacking, number 10, array, number 100]
    let filters := [comparing "n" .greaterEqual "10"]
    let others := [comparing "k" .notEqual "null", comparing "n" .less "2"]
    (∀ record ∈ records, record.TextAt "n") ∧
      ofTexts ["n>=10"] = .ok filters ∧ ofTexts ["k!=null", "n<2"] = .ok others ∧
      (∀ record ∈ records, ∀ filter ∈ filters ++ others, record.TextAt filter.field) ∧
      (∃ op ∈ [Operator.less, .equal, .greater],
        (comparing "n" op "10").holds (number 9) = .ok true ∧
        ∀ other ∈ [Operator.less, .equal, .greater], other ≠ op →
          (comparing "n" other "10").holds (number 9) = .ok false) ∧
      keep (filters ++ others) records = .ok [number 10, number 100] ∧
      (keep filters records >>= keep others) = .ok [number 10, number 100] ∧
      ∃ same, ofTexts ["n<2", "n>=10", "k!=null", "n<2"] = .ok same ∧
        keep same records = .ok [number 10, number 100] := by
  intro number lacking array records filters others
  have hanswers : ∀ record ∈ records, ∀ filter ∈ filters ++ others,
      (filter.holds record).isOk = true := by
    decide +kernel
  have htexts : ∀ record ∈ records, ∀ filter ∈ filters ++ others,
      record.TextAt filter.field := by
    intro record hrecord filter hfilter
    refine (exists_holds_iff filter record).mp ?_
    have hanswer := hanswers record hrecord filter hfilter
    cases hholds : filter.holds record with
    | error fault =>
      rw [hholds] at hanswer
      cases hanswer
    | ok answer => exact ⟨answer, rfl⟩
  have hfield : ∀ record ∈ records, record.TextAt "n" := fun record hrecord =>
    htexts record hrecord _ (List.mem_cons_self ..)
  have hkept : keep (filters ++ others) records = .ok [number 10, number 100] := by
    have hnine : satisfies (filters ++ others) (number 9) = false := by decide +kernel
    have hlacking : satisfies (filters ++ others) lacking = false := by decide +kernel
    have hten : satisfies (filters ++ others) (number 10) = true := by decide +kernel
    have harray : satisfies (filters ++ others) array = false := by decide +kernel
    have hhundred : satisfies (filters ++ others) (number 100) = true := by decide +kernel
    rw [keep_of_texts htexts]
    simp only [records, List.filter_cons, hnine, hlacking, hten, harray, hhundred]
    rfl
  obtain ⟨hdivided, hcomposed⟩ := divided_and_composed records
  obtain ⟨both, hboth, hchain, hsets⟩ :=
    hcomposed ["n>=10"] ["k!=null", "n<2"] filters others rfl rfl
  obtain rfl : filters ++ others = both := Except.ok.inj hboth
  obtain ⟨kept, hall, hagain⟩ := hsets htexts
  obtain rfl : kept = [number 10, number 100] := Except.ok.inj (hall.symm.trans hkept)
  refine ⟨hfield, rfl, rfl, htexts, ?_, hkept, (hchain _).mp hkept, hagain _ (by simp)⟩
  exact (hdivided "n" "10" hfield (number 9) (by simp [records])).2.1 (by decide +kernel) _
    (by simp [divisions])

end Filter

end LogSieve
