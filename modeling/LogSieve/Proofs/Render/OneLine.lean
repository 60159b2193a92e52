import LogSieve.Log.Scan
import LogSieve.Proofs.Attempt
import LogSieve.Proofs.Json.OneLine
import LogSieve.Proofs.Record.Limits
import LogSieve.Proofs.Text.Case
import LogSieve.Render.Line

namespace LogSieve

def Value.HasBreak (value : Value) : Prop :=
  ∃ s, value = .string s ∧ '\n' ∈ s.toList

theorem Json.newline_not_mem_write {document : Json} {text : List Char}
    (h : document.write false = .ok text) : '\n' ∉ text := by
  obtain ⟨-, rfl⟩ := eq_of_write h
  exact newline_not_mem_compact document

namespace Value

theorem not_hasBreak {value : Value} (h : value.kind ≠ .string) : ¬value.HasBreak := by
  rintro ⟨s, rfl, -⟩
  exact h rfl

theorem newline_not_mem_canonical {value : Value} {text : String} (hkind : value.kind ≠ .string)
    (h : value.canonical = .ok text) : '\n' ∉ text.toList := by
  have hwritten {value : Value} (h : (value.toJson.write false).map String.ofList = .ok text) :
      '\n' ∉ text.toList := by
    obtain ⟨written, hwrite, rfl⟩ := exists_of_map h
    rw [String.toList_ofList]
    exact Json.newline_not_mem_write hwrite
  cases value with
  | string s => exact absurd rfl hkind
  | number x =>
    cases h
    rw [String.toList_ofList, Double.canonical]
    cases x.whole? with
    | some i => exact newline_not_mem_writeInt i
    | none => exact LogSieve.newline_not_mem_write
  | bool b =>
    cases b with
    | true => cases h; decide
    | false => cases h; decide
  | null =>
    cases h
    decide
  | object fields => exact hwritten h
  | array items => exact hwritten h

theorem newline_mem_canonical_iff {value : Value} {text : String}
    (h : value.canonical = .ok text) : '\n' ∈ text.toList ↔ value.HasBreak := by
  by_cases hkind : value.kind = .string
  · cases value with
    | string s =>
      cases h
      simp [HasBreak]
    | _ => cases hkind
  · exact iff_of_false (newline_not_mem_canonical hkind h) (not_hasBreak hkind)

end Value

namespace Record

def FieldOnLine (record : Record) (name : String) : Prop :=
  ∀ value, record.get? name = some value → '\n' ∉ name.toList ∧ ¬value.HasBreak

def SlotOnLine (record : Record) (names : List String) : Prop :=
  ∀ name value, record.firstPresent? names = some (name, value) → ¬value.HasBreak

-- As much of a text under the names of timestamps as the column of times shows is on one line. Of
-- one that denotes an instant that column shows a clock time.
def TimeOnLine (record : Record) : Prop :=
  ∀ name s, record.firstPresent? timestampNames = some (name, .string s) →
    Timestamp.ofText? s.toList = none → '\n' ∉ s.toList.take Renderer.timeWidth

end Record

namespace Renderer

theorem newline_mem_apply_iff (paint : Paint) (text : List Char) :
    '\n' ∈ paint.apply text ↔ '\n' ∈ text := by
  have hcode : '\n' ∉ paint.code.toList := by cases paint <;> decide
  unfold Paint.apply
  split_ifs with hnil
  · rw [hnil]
  · simp [hcode]

theorem newline_mem_paintIf_iff (colored : Bool) (paint : Paint) (text : List Char) :
    '\n' ∈ paintIf colored paint text ↔ '\n' ∈ text := by
  cases colored with
  | true => exact newline_mem_apply_iff paint text
  | false => exact Iff.rfl

theorem newline_mem_joinWith_iff (parts : List (List Char)) :
    '\n' ∈ joinWith [' '] parts ↔ ∃ part ∈ parts, '\n' ∈ part := by
  induction parts with
  | nil => simp [joinWith]
  | cons part rest ih =>
    cases rest with
    | nil => simp [joinWith]
    | cons next rest => simp [joinWith, ih]

theorem newline_mem_quoteValue_iff (value : List Char) :
    '\n' ∈ quoteValue value ↔ '\n' ∈ value := by
  have hone (c : Char) : '\n' ∈ (if c = '"' then ['\\', '"'] else [c]) ↔ c = '\n' := by
    split_ifs with hquote
    · subst hquote
      decide
    · simp [eq_comm]
  unfold quoteValue
  split_ifs
  · simp only [List.mem_cons, List.mem_append, List.mem_flatMap, hone]
    simp
  · exact Iff.rfl

theorem newline_not_mem_clockText (clock : Clock) : '\n' ∉ DateTime.clockText clock := by
  simp [DateTime.clockText, DateTime.padded, newline_not_mem_toDigits]

theorem newline_mem_timeColumn_iff (colored : Bool) (text : List Char) :
    '\n' ∈ timeColumn colored text ↔
      Timestamp.ofText? text = none ∧ '\n' ∈ text.take timeWidth := by
  unfold timeColumn
  split_ifs with hnil
  · subst hnil
    simp [newline_mem_paintIf_iff]
  · cases Timestamp.ofText? text with
    | some t => simp [newline_not_mem_clockText]
    | none => simp

-- A level that is shown by a name of fixed width is one of those that mean it, whatever the case of
-- its letters, and has no line break itself.
theorem levelPaint_of_newline {level : List Char} (h : '\n' ∈ level) :
    levelPaint level = (.other, none) := by
  have hunnamed {names : List String} (hnames : ∀ name ∈ names, '\n' ∉ name.toList) :
      names.contains (String.ofList (lower level)) = false := by
    rw [List.contains_eq_mem, decide_eq_false_iff_not]
    intro hmem
    refine hnames _ hmem ?_
    rw [String.toList_ofList]
    exact newline_mem_lower h
  rw [levelPaint, hunnamed (by decide), hunnamed (by decide), hunnamed (by decide)]
  rfl

theorem newline_not_mem_levelPaint {level : List Char} {name : String}
    (h : (levelPaint level).2 = some name) : '\n' ∉ name.toList := by
  unfold levelPaint at h
  simp only at h
  split_ifs at h <;> cases h <;> decide

theorem newline_mem_levelColumn_iff (colored : Bool) (level : List Char) :
    '\n' ∈ levelColumn colored level ↔ '\n' ∈ level := by
  cases colored with
  | false => simp [levelColumn, newline_mem_upper_iff]
  | true =>
    by_cases hbreak : '\n' ∈ level
    · refine iff_of_true ?_ hbreak
      rw [levelColumn, if_pos rfl, levelPaint_of_newline hbreak]
      simp [newline_mem_apply_iff, newline_mem_upper_iff, hbreak]
    · refine iff_of_false ?_ hbreak
      rw [levelColumn, if_pos rfl]
      simp only [newline_mem_apply_iff, List.mem_cons, List.mem_append]
      cases hname : (levelPaint level).2 with
      | none => simp [newline_mem_upper_iff, hbreak]
      | some name => simp [newline_not_mem_levelPaint hname]

theorem newline_mem_pairs_iff {quote : List Char → List Char}
    (hquote : ∀ text, '\n' ∈ quote text ↔ '\n' ∈ text) {record : Record} {names : List String}
    {parts : List (List Char)} (h : pairs quote record names = .ok parts) :
    (∃ part ∈ parts, '\n' ∈ part) ↔ ¬∀ name ∈ names, record.FieldOnLine name := by
  induction names generalizing parts with
  | nil =>
    cases h
    simp
  | cons name rest ih =>
    rw [List.forall_mem_cons]
    cases hget : record.get? name with
    | none =>
      have hline : record.FieldOnLine name := by simp [Record.FieldOnLine, hget]
      simp only [pairs, hget] at h
      simp only [ih h, hline, true_and]
    | some value =>
      simp only [pairs, hget] at h
      obtain ⟨text, htext, h⟩ := exists_of_bind h
      obtain ⟨more, hmore, h⟩ := exists_of_bind h
      cases h
      have hfirst : '\n' ∈ name.toList ++ '=' :: quote text.toList ↔ ¬record.FieldOnLine name := by
        simp only [Record.FieldOnLine, hget, Option.some.injEq, forall_eq', List.mem_append,
          List.mem_cons, hquote, Value.newline_mem_canonical_iff htext, not_and_or, not_not]
        simp
      rw [List.exists_mem_cons_iff, hfirst, ih hmore, not_and_or]

-- What keeps the text of a record on one line: nothing that is shown has a line break of its own. JSON
-- shows none, but indented it is one line only if there is nothing to indent.
def KeepsLine (renderer : Renderer) (record : Record) : Prop :=
  match renderer with
  | .json pretty => pretty = false ∨ record.fields = []
  | .text _ fields =>
    record.TimeOnLine ∧ record.SlotOnLine Record.levelNames ∧
      record.SlotOnLine Record.messageNames ∧
      ∀ name ∈ extraNames record fields, record.FieldOnLine name
  | .logfmt => ∀ name ∈ record.names, record.FieldOnLine name

theorem newline_mem_textOf_iff {record : Record} {names : List String} {text : String}
    (h : record.textOf names = .ok text) : '\n' ∈ text.toList ↔ ¬record.SlotOnLine names := by
  unfold Record.textOf at h
  unfold Record.SlotOnLine
  cases hfirst : record.firstPresent? names with
  | none =>
    rw [hfirst] at h
    cases h
    simp
  | some entry =>
    obtain ⟨name, value⟩ := entry
    rw [hfirst] at h
    simp [Value.newline_mem_canonical_iff h]

theorem newline_mem_time_iff (colored : Bool) {record : Record} {text : String}
    (h : record.textOf Record.timestampNames = .ok text) :
    '\n' ∈ timeColumn colored text.toList ↔ ¬record.TimeOnLine := by
  rw [newline_mem_timeColumn_iff]
  unfold Record.textOf at h
  unfold Record.TimeOnLine
  cases hfirst : record.firstPresent? Record.timestampNames with
  | none =>
    rw [hfirst] at h
    cases h
    simp
  | some entry =>
    obtain ⟨name, value⟩ := entry
    rw [hfirst] at h
    cases value with
    | string s =>
      cases h
      simp
    | _ =>
      have hnone := Value.newline_not_mem_canonical (by simp [Value.kind]) h
      refine iff_of_false (fun hmem => hnone (List.mem_of_mem_take hmem.2)) ?_
      simp

theorem newline_mem_extras_iff {colored : Bool} {fields : List String} {record : Record}
    {text : List Char} (h : extras colored fields record = .ok text) :
    '\n' ∈ text ↔ ¬∀ name ∈ extraNames record fields, record.FieldOnLine name := by
  obtain ⟨parts, hparts, h⟩ := exists_of_bind h
  have hbreak := newline_mem_pairs_iff (fun _ => Iff.rfl) hparts
  cases h
  split_ifs with hnil
  · simp [hnil]
  · rw [← hbreak, List.mem_cons, newline_mem_paintIf_iff, newline_mem_joinWith_iff]
    simp

-- Indented JSON breaks the line behind the opening brace, unless the closing one follows.
theorem newline_mem_write_iff {pretty : Bool} {record : Record} {text : List Char}
    (h : record.toJson.write pretty = .ok text) :
    '\n' ∈ text ↔ ¬(json pretty).KeepsLine record := by
  cases pretty with
  | false => exact iff_of_false (Json.newline_not_mem_write h) (by simp [KeepsLine])
  | true =>
    obtain ⟨-, rfl⟩ := Json.eq_of_write h
    obtain ⟨fields, hordered⟩ := record
    cases fields with
    | nil =>
      have hempty : '\n' ∉ (Json.object []).indented 0 := by decide
      exact iff_of_false hempty (by simp [KeepsLine])
    | cons field rest =>
      refine iff_of_true ?_ (by simp [KeepsLine])
      simp [Record.toJson, Value.toMembers, Json.indented, Json.newline]

-- A rendered record ends in a line break, and has another in front of it only if something that is
-- shown has one.
theorem exists_body {renderer : Renderer} {record : Record} {text : List Char}
    (h : renderer.render record = .ok text) :
    ∃ body, text = body ++ ['\n'] ∧ ('\n' ∈ body ↔ ¬renderer.KeepsLine record) := by
  cases renderer with
  | json pretty =>
    obtain ⟨body, hbody, rfl⟩ := exists_of_map h
    exact ⟨body, rfl, newline_mem_write_iff hbody⟩
  | text colored fields =>
    obtain ⟨time, htime, h⟩ := exists_of_bind h
    obtain ⟨level, hlevel, h⟩ := exists_of_bind h
    obtain ⟨message, hmessage, h⟩ := exists_of_bind h
    obtain ⟨shown, hshown, h⟩ := exists_of_bind h
    cases h
    refine ⟨_, rfl, ?_⟩
    simp only [List.mem_append, List.mem_cons, newline_mem_time_iff colored htime,
      newline_mem_levelColumn_iff, newline_mem_textOf_iff hlevel, newline_mem_textOf_iff hmessage,
      newline_mem_extras_iff hshown, KeepsLine, not_and_or]
    simp [or_assoc]
  | logfmt =>
    obtain ⟨parts, hparts, rfl⟩ := exists_of_map h
    refine ⟨_, rfl, ?_⟩
    rw [newline_mem_joinWith_iff, newline_mem_pairs_iff newline_mem_quoteValue_iff hparts]
    rfl

def OneLine (text : List Char) : Prop :=
  text.count '\n' = 1 ∧ text.getLast? = some '\n'

theorem oneLine_append_iff (body : List Char) : OneLine (body ++ ['\n']) ↔ '\n' ∉ body := by
  simp [OneLine, List.count_eq_zero]

theorem length_le_count_flatten {renderer : Renderer} {records : List Record}
    {texts : List (List Char)}
    (h : List.Forall₂ (fun record text => renderer.render record = .ok text) records texts) :
    records.length ≤ texts.flatten.count '\n' := by
  induction h with
  | nil => exact Nat.zero_le _
  | cons hrender _ ih =>
    obtain ⟨body, rfl, -⟩ := exists_body hrender
    simp only [List.length_cons, List.flatten_cons, List.count_append, List.count_singleton_self]
    omega

-- A record that is rendered is one line exactly if nothing that is shown of it has a line break of
-- its own. So records take up as many lines as there are records exactly if that holds of each.
theorem oneLine_iff_keepsLine (renderer : Renderer) :
    (∀ record text, renderer.render record = .ok text →
      (OneLine text ↔ renderer.KeepsLine record)) ∧
    ∀ records texts,
      List.Forall₂ (fun record text => renderer.render record = .ok text) records texts →
        (texts.flatten.count '\n' = records.length ↔
          ∀ record ∈ records, renderer.KeepsLine record) := by
  constructor
  · intro record text hrender
    obtain ⟨body, rfl, hbody⟩ := exists_body hrender
    rw [oneLine_append_iff, hbody, not_not]
  · intro records texts hrenders
    induction hrenders with
    | nil => simp
    | @cons record text rest texts hrender hrenders ih =>
      obtain ⟨body, rfl, hbody⟩ := exists_body hrender
      have hleast := length_le_count_flatten hrenders
      have hzero : body.count '\n' = 0 ↔ renderer.KeepsLine record := by
        rw [List.count_eq_zero, hbody, not_not]
      rw [List.forall_mem_cons, ← hzero, ← ih]
      simp only [List.length_cons, List.flatten_cons, List.count_append, List.count_singleton_self]
      omega

-- A string inside an array is written as JSON, so its line break is escaped.
theorem oneLine_iff_keepsLine_nestedBreak :
    let record : Record := .ofList [("id", .bool true), ("v", .array [.string "a\nb"])]
    let text := "id=true v=\"[\\\"a\\nb\\\"]\"\n".toList
    logfmt.render record = .ok text ∧ OneLine text ∧ logfmt.KeepsLine record ∧
      [text, text].flatten.count '\n' = 2 := by
  intro record text
  have hrender : logfmt.render record = .ok text := by decide +kernel
  have hline : OneLine text := by
    unfold OneLine
    decide
  obtain ⟨hone, hall⟩ := oneLine_iff_keepsLine logfmt
  have hkeeps := (hone record text hrender).mp hline
  have hcount := (hall [record, record] [text, text] (.cons hrender (.cons hrender .nil))).mpr
    (by simpa using hkeeps)
  exact ⟨hrender, hline, hkeeps, hcount⟩

-- A message of two lines makes two lines of its record, in both of these forms.
theorem not_oneLine_brokenMessage :
    ∃ record : Record,
      Dialect.jsonLines.readLine "\x7b\"msg\":\"a\\nb\"\x7d".toList = .ok record ∧
      logfmt.render record = .ok "msg=a\nb\n".toList ∧
      (text false []).render record = .ok "                [     ] a\nb\n".toList ∧
      ¬OneLine "msg=a\nb\n".toList ∧ ¬OneLine "                [     ] a\nb\n".toList := by
  have hrendered : (Dialect.jsonLines.readLine "\x7b\"msg\":\"a\\nb\"\x7d".toList).toOption.map
      (fun record => (logfmt.render record, (text false []).render record)) =
        some (.ok "msg=a\nb\n".toList, .ok "                [     ] a\nb\n".toList) := by
    decide +kernel
  have hbroken : ¬OneLine "msg=a\nb\n".toList ∧
      ¬OneLine "                [     ] a\nb\n".toList := by
    unfold OneLine
    decide
  cases hread : Dialect.jsonLines.readLine "\x7b\"msg\":\"a\\nb\"\x7d".toList with
  | error fault =>
    rw [hread] at hrendered
    cases hrendered
  | ok record =>
    rw [hread] at hrendered
    obtain ⟨hlogfmt, htext⟩ := Prod.mk.inj (Option.some.inj hrendered)
    exact ⟨record, rfl, hlogfmt, htext, hbroken⟩

end Renderer

end LogSieve
