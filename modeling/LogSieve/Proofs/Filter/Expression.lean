import LogSieve.Filter
import LogSieve.Proofs.Attempt
import Mathlib.Data.List.Infix

namespace LogSieve

section Mark

variable {mark text before behind : List Char}

theorem splitAtText?_eq_none_iff (hmark : mark ≠ []) :
    splitAtText? mark text = none ↔ ¬mark <:+: text := by
  induction text with
  | nil => simp [splitAtText?, hmark]
  | cons c rest ih =>
    rw [splitAtText?, List.infix_cons_iff]
    by_cases hstarts : mark <+: c :: rest
    · simp [hstarts]
    · simp [hstarts, ih]

theorem append_of_splitAtText? (h : splitAtText? mark text = some (before, behind)) :
    before ++ mark ++ behind = text ∧
      ∀ front back, front ++ mark ++ back = text → before.length ≤ front.length := by
  induction text generalizing before with
  | nil =>
    rw [splitAtText?] at h
    split at h
    · rename_i hmark
      cases h
      subst hmark
      exact ⟨rfl, fun front back _ => Nat.zero_le _⟩
    · cases h
  | cons c rest ih =>
    rw [splitAtText?] at h
    split at h
    · rename_i hstarts
      cases h
      refine ⟨?_, fun front back _ => Nat.zero_le _⟩
      rw [List.nil_append]
      exact (List.prefix_append_drop (List.isPrefixOf_iff_prefix.mp hstarts)).symm
    · rename_i hstarts
      obtain ⟨⟨tail, rest'⟩, hrest, heq⟩ := Option.map_eq_some_iff.mp h
      cases heq
      obtain ⟨happend, hfirst⟩ := ih hrest
      refine ⟨by rw [← happend]; rfl, fun front back hfront => ?_⟩
      -- An occurrence at the very front would have been found there.
      cases front with
      | nil =>
        exact absurd (List.isPrefixOf_iff_prefix.mpr ⟨back, hfront⟩) hstarts
      | cons d front =>
        have htail : front ++ mark ++ back = rest := (List.cons.inj hfront).2
        exact Nat.succ_le_succ (hfirst front back htail)

theorem splitAtText?_eq_some_iff (hmark : mark ≠ []) :
    splitAtText? mark text = some (before, behind) ↔
      before ++ mark ++ behind = text ∧
        ∀ front back, front ++ mark ++ back = text → before.length ≤ front.length := by
  refine ⟨append_of_splitAtText?, fun ⟨happend, hfirst⟩ => ?_⟩
  have hoccurs : mark <:+: text := ⟨before, behind, happend⟩
  cases hsplit : splitAtText? mark text with
  | none => exact absurd hoccurs ((splitAtText?_eq_none_iff hmark).mp hsplit)
  | some found =>
    obtain ⟨front, back⟩ := found
    obtain ⟨hfound, hleast⟩ := append_of_splitAtText? hsplit
    have hlength : front.length = before.length :=
      Nat.le_antisymm (hleast before behind happend) (hfirst front back hfound)
    have hsame := hfound.trans happend.symm
    rw [List.append_assoc, List.append_assoc] at hsame
    obtain ⟨rfl, hmore⟩ := List.append_inj hsame hlength
    rw [List.append_cancel_left hmore]

theorem forall_occurrence_iff :
    (∀ front back, front ++ mark ++ back = before ++ mark ++ behind →
        before.length ≤ front.length) ↔
      ∀ front back, front ++ mark ++ back = before ++ mark → before.length ≤ front.length := by
  constructor
  · intro h front back hfront
    apply h front (back ++ behind)
    rw [← List.append_assoc, hfront]
  · intro h front back hfront
    by_contra hlt
    have hshort : (front ++ mark).length ≤ (before ++ mark).length := by
      rw [List.length_append, List.length_append]
      omega
    obtain ⟨more, hmore⟩ := List.prefix_of_prefix_length_le ⟨back, hfront⟩
      ⟨behind, rfl⟩ hshort
    exact hlt (h front more hmore)

end Mark

namespace Operator

def higher (op : Operator) : List Operator :=
  priority.takeWhile (· ≠ op)

theorem higher_eq {op : Operator} {before behind : List Operator}
    (h : priority = before ++ op :: behind) : op.higher = before := by
  have hnodup : priority.Nodup := by decide
  rw [h] at hnodup
  have hnot : ∀ other ∈ before, decide (other ≠ op) = true := by
    intro other hother
    rw [decide_eq_true_eq]
    rintro rfl
    exact (List.nodup_append.mp hnodup).2.2 other hother other (by simp) rfl
  rw [higher, h, List.takeWhile_append_of_pos hnot]
  simp

theorem exists_priority_eq (op : Operator) :
    ∃ before behind, priority = before ++ op :: behind ∧ op.higher = before := by
  have hmem : op ∈ priority := by cases op <;> decide
  obtain ⟨before, behind, h⟩ := List.append_of_mem hmem
  exact ⟨before, behind, h, higher_eq h⟩

theorem text_ne_nil (op : Operator) : op.text.toList ≠ [] := by
  cases op <;> decide

-- The characters of which every operator has one, each of which is one.
def marks : List Char := ['~', '=', '>', '<']

theorem exists_mark (op : Operator) : ∃ c ∈ op.text.toList, c ∈ marks := by
  refine ⟨op.text.toList.getLast op.text_ne_nil, List.getLast_mem _, ?_⟩
  cases op <;> decide

theorem exists_text_of_mem_marks {c : Char} (h : c ∈ marks) :
    ∃ op : Operator, op.text.toList = [c] := by
  simp only [marks, List.mem_cons, List.not_mem_nil, or_false] at h
  rcases h with rfl | rfl | rfl | rfl
  · exact ⟨.search, rfl⟩
  · exact ⟨.equal, rfl⟩
  · exact ⟨.greater, rfl⟩
  · exact ⟨.less, rfl⟩

def OccursIn (op : Operator) (text : List Char) : Prop :=
  op.text.toList <:+: text

theorem not_occursIn_iff (op : Operator) (text : List Char) :
    ¬op.OccursIn text ↔ splitAtText? op.text.toList text = none :=
  (splitAtText?_eq_none_iff op.text_ne_nil).symm

theorem exists_occursIn_iff (text : List Char) :
    (∃ op : Operator, op.OccursIn text) ↔ ∃ c ∈ text, c ∈ marks := by
  constructor
  · rintro ⟨op, hop⟩
    obtain ⟨c, hc, hmark⟩ := op.exists_mark
    exact ⟨c, hop.subset hc, hmark⟩
  · rintro ⟨c, hc, hmark⟩
    obtain ⟨op, hop⟩ := exists_text_of_mem_marks hmark
    obtain ⟨front, back, rfl⟩ := List.append_of_mem hc
    exact ⟨op, front, back, by rw [hop]; simp⟩

end Operator

namespace Filter

theorem split?_eq_none_iff (expression : List Char) :
    split? expression = none ↔ ∀ c ∈ expression, c ∉ Operator.marks := by
  have hnone : split? expression = none ↔ ¬∃ op : Operator, op.OccursIn expression := by
    rw [split?, List.findSome?_eq_none_iff]
    constructor
    · rintro h ⟨op, hop⟩
      obtain ⟨before, behind, hpriority, -⟩ := op.exists_priority_eq
      have hmem : op ∈ Operator.priority := by simp [hpriority]
      have hsplit := h op hmem
      rw [Option.map_eq_none_iff, ← op.not_occursIn_iff] at hsplit
      exact hsplit hop
    · intro h op _
      rw [Option.map_eq_none_iff, ← op.not_occursIn_iff]
      exact fun hop => h ⟨op, hop⟩
  rw [hnone, Operator.exists_occursIn_iff]
  simp

-- An expression is cut at an operator exactly if none of higher priority occurs in it, and exactly
-- around the first occurrence of that operator.
theorem split?_eq_some_iff (expression field literal : List Char) (op : Operator) :
    split? expression = some (field, op, literal) ↔
      field ++ op.text.toList ++ literal = expression ∧
        (∀ other ∈ op.higher, ¬other.OccursIn expression) ∧
        ∀ front back, front ++ op.text.toList ++ back = expression →
          field.length ≤ front.length := by
  rw [split?, List.findSome?_eq_some_iff]
  constructor
  · rintro ⟨before, other, behind, hpriority, hfound, hbefore⟩
    obtain ⟨⟨front, back⟩, hcut, heq⟩ := Option.map_eq_some_iff.mp hfound
    cases heq
    obtain ⟨happend, hfirst⟩ := append_of_splitAtText? hcut
    rw [Operator.higher_eq hpriority]
    refine ⟨happend, fun other hother => ?_, hfirst⟩
    exact (other.not_occursIn_iff _).mpr (Option.map_eq_none_iff.mp (hbefore other hother))
  · rintro ⟨happend, hhigher, hfirst⟩
    obtain ⟨before, behind, hpriority, hbefore⟩ := op.exists_priority_eq
    rw [hbefore] at hhigher
    refine ⟨before, op, behind, hpriority, ?_, fun other hother => ?_⟩
    · rw [(splitAtText?_eq_some_iff op.text_ne_nil).mpr ⟨happend, hfirst⟩]
      rfl
    · exact Option.map_eq_none_iff.mpr ((other.not_occursIn_iff _).mp (hhigher other hother))

-- An expression is a field, an operator and a literal, no operator of higher priority occurs in it,
-- and the operator itself does not occur before the field ends.
structure IsCut (expression field : String) (op : Operator) (literal : String) : Prop where
  whole : field ++ op.text ++ literal = expression
  noHigher : ∀ other ∈ op.higher, ¬other.OccursIn expression.toList
  first : ∀ front back, front ++ op.text.toList ++ back = field.toList ++ op.text.toList →
    field.toList.length ≤ front.length

theorem isCut_iff_split? (expression field : String) (op : Operator) (literal : String) :
    IsCut expression field op literal ↔
      split? expression.toList = some (field.toList, op, literal.toList) := by
  rw [split?_eq_some_iff]
  have hwhole : field ++ op.text ++ literal = expression ↔
      field.toList ++ op.text.toList ++ literal.toList = expression.toList := by
    rw [← String.toList_inj, String.toList_append, String.toList_append]
  constructor
  · rintro ⟨happend, hhigher, hfirst⟩
    rw [hwhole] at happend
    refine ⟨happend, hhigher, ?_⟩
    rw [← happend]
    exact forall_occurrence_iff.mpr hfirst
  · rintro ⟨happend, hhigher, hfirst⟩
    refine ⟨hwhole.mpr happend, hhigher, ?_⟩
    rw [← happend] at hfirst
    exact forall_occurrence_iff.mp hfirst

theorem exists_isCut_iff (expression : String) :
    (∃ field op literal, IsCut expression field op literal) ↔
      ∃ c ∈ expression.toList, c ∈ Operator.marks := by
  constructor
  · rintro ⟨field, op, literal, hcut⟩
    by_contra hnone
    have hsplit := (split?_eq_none_iff expression.toList).mpr fun c hc hmark =>
      hnone ⟨c, hc, hmark⟩
    rw [(isCut_iff_split? ..).mp hcut] at hsplit
    cases hsplit
  · rintro ⟨c, hc, hmark⟩
    cases hsplit : split? expression.toList with
    | none => exact absurd hmark ((split?_eq_none_iff expression.toList).mp hsplit c hc)
    | some found =>
      obtain ⟨field, op, literal⟩ := found
      refine ⟨.ofList field, op, .ofList literal, (isCut_iff_split? ..).mpr ?_⟩
      rw [hsplit, String.toList_ofList, String.toList_ofList]

section Compile

variable {compile : List Char → Except PatternFault Pattern}

def ofPartsBy (compile : List Char → Except PatternFault Pattern) (field : String) (op : Operator)
    (literal : String) : Except PatternFault Filter :=
  if op = .search then
    (compile literal.toList).map fun pattern => ⟨field, op, literal, some pattern⟩
  else .ok ⟨field, op, literal, none⟩

theorem of_ofPartsBy {field literal : String} {op : Operator} {filter : Filter}
    (h : ofPartsBy compile field op literal = .ok filter) :
    filter.field = field ∧ filter.operator = op ∧ filter.literal = literal ∧
      (filter.pattern.isSome ↔ op = .search) := by
  unfold ofPartsBy at h
  split at h
  · rename_i hsearch
    obtain ⟨pattern, -, rfl⟩ := exists_of_map h
    exact ⟨rfl, rfl, rfl, iff_of_true rfl hsearch⟩
  · rename_i hother
    cases h
    exact ⟨rfl, rfl, rfl, iff_of_false (by simp) hother⟩

theorem exists_ofPartsBy_iff (field : String) (op : Operator) (literal : String) :
    (∃ filter, ofPartsBy compile field op literal = .ok filter) ↔
      (op = .search → ∃ pattern, compile literal.toList = .ok pattern) := by
  unfold ofPartsBy
  by_cases hsearch : op = .search
  · rw [if_pos hsearch]
    constructor
    · rintro ⟨filter, hfilter⟩ _
      obtain ⟨pattern, hpattern, -⟩ := exists_of_map hfilter
      exact ⟨pattern, hpattern⟩
    · intro h
      obtain ⟨pattern, hpattern⟩ := h hsearch
      rw [hpattern]
      exact ⟨_, rfl⟩
  · rw [if_neg hsearch]
    exact iff_of_true ⟨_, rfl⟩ fun h => absurd h hsearch

theorem ofTextBy_of_isCut {expression field literal : String} {op : Operator}
    (h : IsCut expression field op literal) :
    ofTextBy compile expression =
      (ofPartsBy compile field op literal).mapError (.pattern expression) := by
  rw [ofTextBy, (isCut_iff_split? ..).mp h, ofPartsBy]
  simp only [String.ofList_toList]
  cases op <;> try rfl
  simp only [if_true]
  cases compile literal.toList <;> rfl

theorem exists_isCut_of_ofTextBy {expression : String} {filter : Filter}
    (h : ofTextBy compile expression = .ok filter) :
    ∃ field op literal, IsCut expression field op literal ∧
      ofPartsBy compile field op literal = .ok filter := by
  cases hsplit : split? expression.toList with
  | none => simp [ofTextBy, hsplit] at h
  | some found =>
    obtain ⟨field, op, literal⟩ := found
    have hcut : IsCut expression (.ofList field) op (.ofList literal) := by
      rw [isCut_iff_split?, hsplit, String.toList_ofList, String.toList_ofList]
    rw [ofTextBy_of_isCut hcut] at h
    exact ⟨_, _, _, hcut, eq_of_mapError h⟩

theorem exists_ofTextBy_iff (expression : String) :
    (∃ filter, ofTextBy compile expression = .ok filter) ↔
      (∃ c ∈ expression.toList, c ∈ Operator.marks) ∧
        ∀ field literal, IsCut expression field .search literal →
          ∃ pattern, compile literal.toList = .ok pattern := by
  constructor
  · rintro ⟨filter, hfilter⟩
    obtain ⟨field, op, literal, hcut, -⟩ := exists_isCut_of_ofTextBy hfilter
    refine ⟨(exists_isCut_iff expression).mp ⟨_, _, _, hcut⟩, fun field literal hsearch => ?_⟩
    rw [ofTextBy_of_isCut hsearch] at hfilter
    exact (exists_ofPartsBy_iff ..).mp ⟨filter, eq_of_mapError hfilter⟩ rfl
  · rintro ⟨hmark, hsearch⟩
    obtain ⟨field, op, literal, hcut⟩ := (exists_isCut_iff expression).mpr hmark
    obtain ⟨filter, hfilter⟩ := (exists_ofPartsBy_iff field op literal).mpr fun hop => by
      subst hop
      exact hsearch field literal hcut
    exact ⟨filter, by rw [ofTextBy_of_isCut hcut, hfilter]; rfl⟩

theorem ofTextsBy_of_error {expression : String} {fault : FilterFault}
    (h : ofTextBy compile expression = .error fault) (rest : List String) :
    ofTextsBy compile (expression :: rest) = .error fault := by
  rw [ofTextsBy, h]
  rfl

theorem ofTextsBy_of_ok {expression : String} {filter : Filter}
    (h : ofTextBy compile expression = .ok filter) (rest : List String) :
    ofTextsBy compile (expression :: rest) = (ofTextsBy compile rest).map (filter :: ·) := by
  rw [ofTextsBy, h]
  cases ofTextsBy compile rest <;> rfl

theorem ofTextsBy_eq_error_iff (expressions : List String) (fault : FilterFault) :
    ofTextsBy compile expressions = .error fault ↔
      ∃ before expression rest, expressions = before ++ expression :: rest ∧
        (∀ other ∈ before, ∃ filter, ofTextBy compile other = .ok filter) ∧
        ofTextBy compile expression = .error fault := by
  induction expressions with
  | nil => simp [ofTextsBy]
  | cons first rest ih =>
    cases hfirst : ofTextBy compile first with
    | error other =>
      rw [ofTextsBy_of_error hfirst]
      constructor
      · intro h
        exact ⟨[], first, rest, rfl, by simp, by rw [hfirst, Except.error.inj h]⟩
      · rintro ⟨before, expression, more, heq, hbefore, hfault⟩
        cases before with
        | nil =>
          cases heq
          rw [Except.error.inj (hfirst.symm.trans hfault)]
        | cons head before =>
          cases heq
          obtain ⟨filter, hfilter⟩ := hbefore first (by simp)
          cases hfirst.symm.trans hfilter
    | ok filter =>
      have hmap : (ofTextsBy compile rest).map (filter :: ·) = .error fault ↔
          ofTextsBy compile rest = .error fault := by
        cases ofTextsBy compile rest <;> simp [Except.map]
      rw [ofTextsBy_of_ok hfirst, hmap, ih]
      constructor
      · rintro ⟨before, expression, more, rfl, hbefore, hfault⟩
        refine ⟨first :: before, expression, more, rfl, ?_, hfault⟩
        exact List.forall_mem_cons.mpr ⟨⟨filter, hfirst⟩, hbefore⟩
      · rintro ⟨before, expression, more, heq, hbefore, hfault⟩
        cases before with
        | nil =>
          cases heq
          cases hfirst.symm.trans hfault
        | cons head before =>
          cases heq
          exact ⟨before, expression, more, rfl, (List.forall_mem_cons.mp hbefore).2, hfault⟩

theorem exists_ofTextsBy_error_iff (expressions : List String) :
    (∃ fault, ofTextsBy compile expressions = .error fault) ↔
      ∃ expression ∈ expressions, ∃ fault, ofTextBy compile expression = .error fault := by
  constructor
  · rintro ⟨fault, h⟩
    obtain ⟨before, expression, rest, rfl, -, hfault⟩ := (ofTextsBy_eq_error_iff ..).mp h
    exact ⟨expression, by simp, fault, hfault⟩
  · rintro ⟨expression, hmem, hfault⟩
    induction expressions with
    | nil => simp at hmem
    | cons first rest ih =>
      cases hfirst : ofTextBy compile first with
      | error fault => exact ⟨fault, ofTextsBy_of_error hfirst rest⟩
      | ok filter =>
        rcases List.mem_cons.mp hmem with rfl | hmem
        · obtain ⟨fault, hfault⟩ := hfault
          cases hfirst.symm.trans hfault
        · obtain ⟨fault, hrest⟩ := ih hmem
          exact ⟨fault, by rw [ofTextsBy_of_ok hfirst, hrest]; rfl⟩

-- Whatever reads the patterns: an expression is a filter exactly if it has one of four characters
-- and, where it is cut at the sign of a search, what stands behind that is read as a pattern. A
-- filter is its expression cut at the first occurrence of the operator of highest priority, with a
-- pattern exactly for a search. Any field, operator and literal that are such a cut of their text
-- are the filter of that text, if the literal of a search is a pattern. Several expressions fail if
-- one of them does, as the first that does.
theorem ofTextBy_iff_isCut (compile : List Char → Except PatternFault Pattern) :
    (∀ expression, (∃ filter, ofTextBy compile expression = .ok filter) ↔
      (∃ c ∈ expression.toList, c ∈ ['~', '=', '>', '<']) ∧
        ∀ field literal, IsCut expression field .search literal →
          ∃ pattern, compile literal.toList = .ok pattern) ∧
    (∀ expression filter, ofTextBy compile expression = .ok filter →
      IsCut expression filter.field filter.operator filter.literal ∧
        filter.text = expression ∧ (filter.pattern.isSome ↔ filter.operator = .search)) ∧
    (∀ (field : String) (op : Operator) (literal : String),
      let expression := field ++ op.text ++ literal
      (∀ other ∈ op.higher, ¬other.OccursIn expression.toList) →
      (∀ front back, front ++ op.text.toList ++ back = expression.toList →
        field.toList.length ≤ front.length) →
      (op ≠ .search → ofTextBy compile expression = .ok ⟨field, op, literal, none⟩) ∧
      (op = .search → ∀ pattern, compile literal.toList = .ok pattern →
        ofTextBy compile expression = .ok ⟨field, op, literal, some pattern⟩)) ∧
    ∀ expressions,
      ((∃ fault, ofTextsBy compile expressions = .error fault) ↔
        ∃ expression ∈ expressions, ∃ fault, ofTextBy compile expression = .error fault) ∧
      ∀ fault, ofTextsBy compile expressions = .error fault ↔
        ∃ before expression rest, expressions = before ++ expression :: rest ∧
          (∀ other ∈ before, ∃ filter, ofTextBy compile other = .ok filter) ∧
          ofTextBy compile expression = .error fault := by
  refine ⟨exists_ofTextBy_iff, ?_, ?_, fun expressions =>
    ⟨exists_ofTextsBy_error_iff expressions, ofTextsBy_eq_error_iff expressions⟩⟩
  · intro expression filter h
    obtain ⟨field, op, literal, hcut, hparts⟩ := exists_isCut_of_ofTextBy h
    obtain ⟨rfl, rfl, rfl, hpattern⟩ := of_ofPartsBy hparts
    exact ⟨hcut, hcut.whole, hpattern⟩
  · intro field op literal expression hhigher hfirst
    have hcut : IsCut expression field op literal := by
      refine ⟨rfl, hhigher, ?_⟩
      have htext : expression.toList = field.toList ++ op.text.toList ++ literal.toList := by
        rw [String.toList_append, String.toList_append]
      rw [htext] at hfirst
      exact forall_occurrence_iff.mp hfirst
    rw [ofTextBy_of_isCut hcut, ofPartsBy]
    constructor
    · intro hother
      rw [if_neg hother]
      rfl
    · intro hsearch pattern hpattern
      rw [if_pos hsearch, hpattern]
      rfl

end Compile

-- An equal sign before a greater sign is an operator alone, and the literal starts with the other.
theorem ofTextBy_iff_isCut_adjacentSigns :
    (∀ other ∈ Operator.equal.higher, ¬other.OccursIn "x=>1".toList) ∧
      (∀ front back, front ++ Operator.equal.text.toList ++ back = "x=>1".toList →
        "x".toList.length ≤ front.length) ∧
      ofText "x=>1" = .ok ⟨"x", .equal, ">1", none⟩ ∧ IsCut "x=>1" "x" .equal ">1" := by
  have hhigher : ∀ other ∈ Operator.equal.higher, ¬other.OccursIn "x=>1".toList := by
    unfold Operator.OccursIn
    decide
  have hsplit : splitAtText? Operator.equal.text.toList "x=>1".toList =
      some ("x".toList, ">1".toList) := by decide
  have hfirst := (append_of_splitAtText? hsplit).2
  obtain ⟨-, hcut, hfilter, -⟩ := ofTextBy_iff_isCut Pattern.ofText
  have htext : ofText "x=>1" = .ok ⟨"x", .equal, ">1", none⟩ :=
    (hfilter "x" .equal ">1" hhigher hfirst).1 (by decide)
  exact ⟨hhigher, hfirst, htext, (hcut "x=>1" _ htext).1⟩

-- A field, the sign of a search and an open bracket are a cut of their text, but no pattern stands
-- behind the sign.
theorem not_ofText_of_isCut :
    ¬∀ (field : String) (op : Operator) (literal : String),
      let expression := field ++ op.text ++ literal
      (∀ other ∈ op.higher, ¬other.OccursIn expression.toList) →
      (∀ front back, front ++ op.text.toList ++ back = expression.toList →
        field.toList.length ≤ front.length) →
      ∃ pattern, ofText expression = .ok ⟨field, op, literal, pattern⟩ := by
  intro h
  have hhigher : ∀ other ∈ Operator.search.higher, ¬other.OccursIn "a~(".toList := by
    intro other hother
    have hne : other = .notEqual := by
      simpa [Operator.higher, Operator.priority] using hother
    subst hne
    unfold Operator.OccursIn
    decide
  have hsplit : splitAtText? Operator.search.text.toList "a~(".toList =
      some ("a".toList, "(".toList) := by decide
  have hfirst := (append_of_splitAtText? hsplit).2
  obtain ⟨pattern, hfilter⟩ := h "a" .search "(" hhigher hfirst
  have hfault : (ofText "a~(").isOk = false := by decide +kernel
  have htext : "a" ++ Operator.search.text ++ "(" = "a~(" := by decide
  simp only [htext] at hfilter
  rw [hfilter] at hfault
  cases hfault

end Filter

end LogSieve
