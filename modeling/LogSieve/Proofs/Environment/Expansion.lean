import LogSieve.Environment.Reference
import LogSieve.Proofs.Text.Blank
import Mathlib.Logic.Function.Basic

namespace LogSieve

namespace Piece

def IsIdentifier : List Char → Prop
  | [] => False
  | c :: rest => (c.isAlpha = true ∨ c = '_') ∧ ∀ d ∈ rest, d.isAlphanum = true ∨ d = '_'

-- A reference in front of the rest of its text. In braces a name is any text that is not empty and
-- has no closing brace; without them it is an identifier, the longest that stands there.
inductive IsReference : Piece → List Char → List Char → Prop
  | braced {name rest : List Char} (hname : name ≠ []) (hopen : '}' ∉ name) :
      IsReference (.reference name true) ('$' :: '{' :: (name ++ '}' :: rest)) rest
  | plain {name rest : List Char} (hname : IsIdentifier name)
      (hlongest : ∀ c ∈ rest.head?, ¬IsIdentifier (name ++ [c])) :
      IsReference (.reference name false) ('$' :: (name ++ rest)) rest

-- A text and its pieces, from left to right: a reference wherever one starts, else one character.
inductive FallsInto : List Char → List Piece → Prop
  | nil : FallsInto [] []
  | reference {piece : Piece} {text rest : List Char} {pieces : List Piece}
      (hpiece : IsReference piece text rest) (hrest : FallsInto rest pieces) :
      FallsInto text (piece :: pieces)
  | literal {c : Char} {rest : List Char} {pieces : List Piece}
      (hnone : ¬∃ piece behind, IsReference piece (c :: rest) behind)
      (hrest : FallsInto rest pieces) : FallsInto (c :: rest) (.literal c :: pieces)

theorem isIdentifier_cons {c : Char} {rest : List Char} :
    IsIdentifier (c :: rest) ↔ startsName c = true ∧ ∀ d ∈ rest, continuesName d = true := by
  simp [IsIdentifier, startsName, continuesName]

theorem isIdentifier_concat {name : List Char} (h : IsIdentifier name) (c : Char) :
    IsIdentifier (name ++ [c]) ↔ continuesName c = true := by
  cases name with
  | nil => exact h.elim
  | cons d name =>
    obtain ⟨hstart, hmore⟩ := isIdentifier_cons.mp h
    rw [List.cons_append, isIdentifier_cons, List.forall_mem_append, List.forall_mem_singleton]
    exact ⟨fun h => h.2.2, fun hc => ⟨hstart, hmore, hc⟩⟩

theorem isReference_of_reference? {text rest : List Char} {piece : Piece}
    (h : reference? text = some (piece, rest)) : IsReference piece text rest := by
  unfold reference? at h
  split at h
  · rename_i body
    split at h
    · rename_i c name d behind htake hdrop
      cases h
      obtain rfl : d = '}' := by
        have hstop := head?_dropWhile (· != '}') body d (by rw [hdrop]; rfl)
        simpa using hstop
      have hopen : '}' ∉ c :: name := by
        intro hmem
        rw [← htake] at hmem
        simpa using List.mem_takeWhile_imp hmem
      have hbody : body = (c :: name) ++ '}' :: rest := by
        rw [← htake, ← hdrop, List.takeWhile_append_dropWhile]
      rw [hbody]
      exact .braced (List.cons_ne_nil c name) hopen
    · cases h
  · rename_i c body _
    split at h
    · rename_i hstart
      cases h
      have hname : IsIdentifier (c :: body.takeWhile continuesName) :=
        isIdentifier_cons.mpr ⟨hstart, fun d hd => List.mem_takeWhile_imp hd⟩
      -- The name ends where the next character would not continue it.
      have hlongest : ∀ d ∈ (body.dropWhile continuesName).head?,
          ¬IsIdentifier ((c :: body.takeWhile continuesName) ++ [d]) := by
        intro d hd
        rw [isIdentifier_concat hname, head?_dropWhile continuesName body d hd]
        exact Bool.false_ne_true
      have hplain := IsReference.plain hname hlongest
      rwa [List.cons_append, List.takeWhile_append_dropWhile] at hplain
    · cases h
  · cases h

theorem reference?_of_isReference {text rest : List Char} {piece : Piece}
    (h : IsReference piece text rest) : reference? text = some (piece, rest) := by
  cases h with
  | braced hname hopen =>
    rename_i name
    obtain ⟨c, name, rfl⟩ := List.exists_cons_of_ne_nil hname
    have hfront : ∀ d ∈ c :: name, (d != '}') = true := by
      intro d hd
      simpa using ne_of_mem_of_not_mem hd hopen
    have hback : ∀ d ∈ ('}' :: rest).head?, (d != '}') = false := by
      rintro _ ⟨⟩
      rfl
    obtain ⟨htake, hdrop⟩ := span_append hfront hback
    rw [reference?, htake, hdrop]
  | plain hname hlongest =>
    rename_i name
    obtain _ | ⟨c, name⟩ := name
    · exact hname.elim
    obtain ⟨hstart, hmore⟩ := isIdentifier_cons.mp hname
    have hbrace : c ≠ '{' := by
      rintro rfl
      exact absurd hstart (by decide)
    have hback : ∀ d ∈ rest.head?, continuesName d = false := by
      intro d hd
      have hnot := hlongest d hd
      rwa [isIdentifier_concat hname, Bool.not_eq_true] at hnot
    obtain ⟨htake, hdrop⟩ := span_append hmore hback
    rw [List.cons_append, reference?, if_pos hstart, htake, hdrop]
    exact hbrace

theorem reference?_eq_some_iff {text rest : List Char} {piece : Piece} :
    reference? text = some (piece, rest) ↔ IsReference piece text rest :=
  ⟨isReference_of_reference?, reference?_of_isReference⟩

theorem reference?_eq_none_iff {text : List Char} :
    reference? text = none ↔ ¬∃ piece rest, IsReference piece text rest := by
  simp only [← reference?_eq_some_iff, Option.eq_none_iff_forall_ne_some, Prod.forall, not_exists,
    ne_eq]

theorem ofText_of_isReference {text rest : List Char} {piece : Piece}
    (h : IsReference piece text rest) : ofText text = piece :: ofText rest := by
  have href := reference?_of_isReference h
  cases text with
  | nil => cases h
  | cons c text =>
    rw [ofText]
    split
    · rename_i found behind hfound
      rw [href] at hfound
      cases hfound
      rfl
    · rename_i hnone
      rw [href] at hnone
      cases hnone

theorem ofText_of_literal {c : Char} {rest : List Char}
    (h : ¬∃ piece behind, IsReference piece (c :: rest) behind) :
    ofText (c :: rest) = .literal c :: ofText rest := by
  have hnone := reference?_eq_none_iff.mpr h
  rw [ofText]
  split
  · rename_i found behind hfound
    rw [hnone] at hfound
    cases hfound
  · rfl

theorem fallsInto_ofText (text : List Char) : FallsInto text (ofText text) := by
  induction text using ofText.induct with
  | case1 =>
    rw [ofText]
    exact .nil
  | case2 c rest piece behind h ih =>
    have hpiece := isReference_of_reference? h
    rw [ofText_of_isReference hpiece]
    exact .reference hpiece ih
  | case3 c rest h ih =>
    have hnone := reference?_eq_none_iff.mp h
    rw [ofText_of_literal hnone]
    exact .literal hnone ih

theorem fallsInto_iff {text : List Char} {pieces : List Piece} :
    FallsInto text pieces ↔ pieces = ofText text := by
  constructor
  · intro h
    induction h with
    | nil => rw [ofText]
    | reference hpiece _ ih => rw [ofText_of_isReference hpiece, ih]
    | literal hnone _ ih => rw [ofText_of_literal hnone, ih]
  · rintro rfl
    exact fallsInto_ofText text

theorem IsReference.spelling_append {text rest : List Char} {piece : Piece}
    (h : IsReference piece text rest) : piece.spelling ++ rest = text := by
  cases h with
  | braced => simp [spelling]
  | plain => simp [spelling]

theorem FallsInto.flatMap_spelling {text : List Char} {pieces : List Piece}
    (h : FallsInto text pieces) : pieces.flatMap spelling = text := by
  induction h with
  | nil => rfl
  | reference hpiece _ ih => rw [List.flatMap_cons, ih, hpiece.spelling_append]
  | literal _ _ ih => rw [List.flatMap_cons, ih, spelling, List.singleton_append]

def name? : Piece → Option String
  | .literal _ => none
  | .reference name _ => some (String.ofList name)

theorem expand_eq (environment : Environment) (piece : Piece) :
    piece.expand environment =
      (piece.name?.bind environment).elim piece.spelling String.toList := by
  cases piece with
  | literal c => rfl
  | reference name braced =>
    rw [expand, name?, Option.bind_some]
    cases environment (String.ofList name) <;> rfl

theorem expand_congr {environment other : Environment} {piece : Piece}
    (h : ∀ name ∈ piece.name?, environment name = other name) :
    piece.expand environment = piece.expand other := by
  have hvalue : piece.name?.bind environment = piece.name?.bind other := by
    cases hname : piece.name? with
    | none => rfl
    | some name => exact h name hname
  rw [expand_eq, expand_eq, hvalue]

theorem flatMap_expand_congr {environment other : Environment} {pieces : List Piece}
    (h : ∀ name ∈ pieces.filterMap name?, environment name = other name) :
    pieces.flatMap (expand environment) = pieces.flatMap (expand other) := by
  apply List.flatMap_congr
  intro piece hpiece
  apply expand_congr
  intro name hname
  exact h name (List.mem_filterMap.mpr ⟨piece, hpiece, hname⟩)

theorem flatMap_expand_unknown (pieces : List Piece) :
    pieces.flatMap (expand fun _ => none) = pieces.flatMap spelling := by
  apply List.flatMap_congr
  intro piece _
  rw [expand_eq]
  cases piece.name? <;> rfl

-- What a variable holds is put between texts that do not depend on it.
theorem exists_parts (environment : Environment) (name : String) (pieces : List Piece) :
    ∃ parts : List String, parts.length = (pieces.filterMap name?).count name + 1 ∧
      ∀ value, String.ofList
        (pieces.flatMap (expand (Function.update environment name (some value)))) =
          value.intercalate parts := by
  -- A reference to the variable starts a new part; any other piece joins the first one.
  induction pieces with
  | nil => exact ⟨[""], rfl, fun value => by simp⟩
  | cons piece pieces ih =>
    obtain ⟨parts, hlength, hparts⟩ := ih
    obtain ⟨first, rest, rfl⟩ := List.exists_cons_of_length_eq_add_one hlength
    by_cases hname : piece.name? = some name
    · refine ⟨"" :: first :: rest, ?_, fun value => ?_⟩
      · rw [List.filterMap_cons_some hname, List.count_cons_self, List.length_cons, hlength]
      · have hpiece : piece.expand (Function.update environment name (some value)) =
            value.toList := by
          rw [expand_eq, hname, Option.bind_some, Function.update_self]
          rfl
        rw [List.flatMap_cons, hpiece, String.ofList_append, hparts,
          String.intercalate_cons_cons, String.ofList_toList, String.empty_append]
    · refine ⟨(String.ofList (piece.expand environment) ++ first) :: rest, ?_, fun value => ?_⟩
      · have hcount : ((piece :: pieces).filterMap name?).count name =
            (pieces.filterMap name?).count name := by
          cases hother : piece.name? with
          | none => rw [List.filterMap_cons_none hother]
          | some other =>
            have hne : other ≠ name := by
              rintro rfl
              exact hname hother
            rw [List.filterMap_cons_some hother, List.count_cons_of_ne hne]
        rw [hcount]
        exact hlength
      · have hpiece : piece.expand (Function.update environment name (some value)) =
            piece.expand environment := by
          apply expand_congr
          intro other hother
          apply Function.update_of_ne
          rintro rfl
          exact hname hother
        rw [List.flatMap_cons, hpiece, String.ofList_append, hparts,
          String.intercalate_cons_append]

end Piece

namespace Environment

open Piece

-- A text falls into pieces in one way, and these spell it. Whatever the environment is, each piece
-- that refers to a known variable becomes its value, and any other stays. So a text that refers to no
-- known variable stays what it is, and no other variables count than those that it refers to. What
-- one of these holds is put, as it is, between texts that do not depend on it, as often as the text
-- refers to it.
theorem expand_onePass (text : String) :
    ∃ pieces, (∀ others, FallsInto text.toList others ↔ others = pieces) ∧
      pieces.flatMap spelling = text.toList ∧
      (∀ environment : Environment, environment.expand text = String.ofList
        (pieces.flatMap fun piece =>
          (piece.name?.bind environment).elim piece.spelling String.toList)) ∧
      (∀ environment : Environment, (∀ name ∈ pieces.filterMap name?, environment name = none) →
        environment.expand text = text) ∧
      (∀ environment other : Environment,
        (∀ name ∈ pieces.filterMap name?, environment name = other name) →
          environment.expand text = other.expand text) ∧
      ∀ (environment : Environment) (name : String), ∃ parts : List String,
        parts.length = (pieces.filterMap name?).count name + 1 ∧
          ∀ value, Environment.expand (Function.update environment name (some value)) text =
            value.intercalate parts := by
  have hspelling := (fallsInto_ofText text.toList).flatMap_spelling
  refine ⟨ofText text.toList, fun others => fallsInto_iff, hspelling, fun environment => ?_,
    fun environment hunknown => ?_, fun environment other hsame => ?_,
    fun environment name => exists_parts environment name _⟩
  · rw [expand]
    congr 1
    apply List.flatMap_congr
    intro piece _
    exact expand_eq environment piece
  · rw [expand, flatMap_expand_congr hunknown, flatMap_expand_unknown, hspelling,
      String.ofList_toList]
  · rw [expand, expand, flatMap_expand_congr hsame]

-- A dollar sign in front of a reference, empty and open braces, a brace within a name. What `A` holds
-- looks like a reference to `C`, and stays as it is.
theorem expand_onePass_signsInValues :
    let text := "$$A$\x7b\x7d$\x7bB$\x7bA\x7d$A_1$\x7bA\x7d$C$\x7bD"
    let known := [("A", "$C"), ("B$\x7bA", "\x7d"), ("A_1", ""), ("C", "x")]
    let environment := ofList known
    let larger := ofList (known ++ [("D", "y"), ("B", "z")])
    FallsInto text.toList
        [.literal '$', .reference ['A'] false, .literal '$', .literal '{', .literal '}',
         .reference ['B', '$', '{', 'A'] true, .reference ['A', '_', '1'] false,
         .reference ['A'] true, .reference ['C'] false, .literal '$', .literal '{',
         .literal 'D'] ∧
      environment.expand text = "$$C$\x7b\x7d\x7d$Cx$\x7bD" ∧
      (ofList [("D", "y"), ("B", "z")]).expand text = text ∧
      (∀ name ∈ ["A", "B$\x7bA", "A_1", "A", "C"], environment name = larger name) ∧
      larger.expand text = "$$C$\x7b\x7d\x7d$Cx$\x7bD" ∧
      ∃ parts : List String, parts.length = 3 ∧
        ∀ value, Environment.expand (Function.update environment "A" (some value)) text =
          value.intercalate parts := by
  intro text known environment larger
  obtain ⟨pieces, hpieces, -, hexpand, hunknown, hsame, hparts⟩ := expand_onePass text
  have hfound : ofText text.toList =
      [.literal '$', .reference ['A'] false, .literal '$', .literal '{', .literal '}',
       .reference ['B', '$', '{', 'A'] true, .reference ['A', '_', '1'] false,
       .reference ['A'] true, .reference ['C'] false, .literal '$', .literal '{',
       .literal 'D'] := by
    decide +kernel
  have hfalls := fallsInto_ofText text.toList
  obtain rfl := (hpieces _).mp hfalls
  have hnames : (ofText text.toList).filterMap name? = ["A", "B$\x7bA", "A_1", "A", "C"] := by
    rw [hfound]
    rfl
  have hagree : ∀ name ∈ ["A", "B$\x7bA", "A_1", "A", "C"], environment name = larger name := by
    decide +kernel
  have hresult : environment.expand text = "$$C$\x7b\x7d\x7d$Cx$\x7bD" := by
    rw [hexpand, hfound]
    decide +kernel
  refine ⟨by rwa [hfound] at hfalls, hresult, hunknown _ ?_, hagree, ?_, ?_⟩
  · rw [hnames]
    decide +kernel
  · rw [← hsame environment larger (by rwa [hnames]), hresult]
  · obtain ⟨parts, hlength, hvalues⟩ := hparts environment "A"
    rw [hnames] at hlength
    exact ⟨parts, hlength, hvalues⟩

end Environment

end LogSieve
