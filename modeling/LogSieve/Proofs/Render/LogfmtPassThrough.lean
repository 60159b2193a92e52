import LogSieve.Proofs.Render.Logfmt
import Mathlib.Algebra.GroupWithZero.Nat

namespace LogSieve

-- Part of a list that weighs as much as the list is the whole list.
theorem perm_of_subperm_of_sum_le {α : Type} {items others : List α} (weight : α → Nat)
    (hpos : ∀ item, 0 < weight item) (h : items.Subperm others)
    (hsum : (others.map weight).sum ≤ (items.map weight).sum) : items.Perm others := by
  obtain ⟨same, hperm, hsublist⟩ := h
  obtain ⟨rest, hrest⟩ := hsublist.exists_perm_append
  have hothers := (hrest.map weight).sum_nat
  have hitems := (hperm.map weight).sum_nat
  rw [List.map_append, List.sum_append] at hothers
  cases rest with
  | nil => exact hperm.symm.trans (by simpa using hrest.symm)
  | cons item rest =>
    have hitem := hpos item
    rw [List.map_cons, List.sum_cons] at hothers
    omega

namespace KeyValue

theorem IsValue.count {spelling : Spelling} {text rest : List Char}
    (h : IsValue spelling text rest) :
    text.count '=' = spelling.content.count '=' + rest.count '=' := by
  cases h with
  | quoted hbody => simp [Spelling.content]
  | bare hrun hrest => simp [Spelling.content]

theorem IsSpace.count {space : List Char} (h : IsSpace space) : space.count '=' = 0 :=
  List.count_eq_zero.mpr (not_mem_of_isSpace h)

-- Each pair takes one equals sign of its line, and those of its value.
theorem IsLine.count {pairs : List Pair} {flag : Option (List Char)} {line : List Char}
    (h : IsLine pairs flag line) :
    line.count '=' = (pairs.map fun pair => 1 + pair.value.content.count '=').sum := by
  induction h with
  | blank hspace => simpa using hspace.count
  | flag hbefore hflag hafter =>
    have hnone := List.count_eq_zero.mpr hflag.2.2
    simp [hbefore.count, hafter.count, hnone]
  | pair hbefore hkey hvalue hmore ih =>
    have hnone := List.count_eq_zero.mpr hkey.1
    simp only [List.count_append, List.count_cons_self, hbefore.count, hnone, hvalue.count, ih,
      List.map_cons, List.sum_cons]
    omega

theorem IsFlag.isKey {flag : List Char} (h : IsFlag flag) : IsKey flag := by
  obtain ⟨-, htrim, hsign⟩ := h
  refine ⟨hsign, ?_⟩
  rw [← htrim]
  exact head?_stripBoth flag

theorem IsLine.isKey {pairs : List Pair} {flag : Option (List Char)} {line : List Char}
    (h : IsLine pairs flag line) :
    (∀ pair ∈ pairs, IsKey pair.key ∧ (IsBody pair.value.content ∨ IsRun pair.value.content)) ∧
      ∀ text ∈ flag, IsKey text := by
  induction h with
  | blank hspace => simp
  | flag hbefore hflag hafter => simp [hflag.isKey]
  | pair hbefore hkey hvalue hmore ih =>
    refine ⟨List.forall_mem_cons.mpr ⟨⟨hkey, ?_⟩, ih.1⟩, ih.2⟩
    cases hvalue with
    | quoted hbody => exact .inl hbody
    | bare hrun hrest => exact .inr hrun

inductive IsRead : Value → Prop
  | flag : IsRead (.bool true)
  | text {text : List Char} (h : IsBody text ∨ IsRun text) : IsRead (.string (String.ofList text))

theorem isKey_isRead_of_read {line : List Char} {record : Record}
    (h : KeyValue.read line = .ok record) :
    ∀ field ∈ record.fields, IsKey field.1.toList ∧ IsRead field.2 := by
  intro field hfield
  simp only [KeyValue.read] at h
  cases hentries : entries line with
  | error fault => simp [hentries, Except.map] at h
  | ok found =>
    rw [hentries] at h
    cases h
    obtain ⟨pairs, flag, hline, rfl⟩ := exists_isLine_of_entries hentries
    obtain ⟨hpairs, hflag⟩ := hline.isKey
    rcases List.mem_append.mp ((Fields.ofList_subperm _).subset hfield) with hmem | hmem
    · obtain ⟨pair, hpair, rfl⟩ := List.mem_map.mp hmem
      obtain ⟨hkey, hvalue⟩ := hpairs pair hpair
      exact ⟨by simpa using hkey, .text hvalue⟩
    · obtain ⟨text, htext, rfl⟩ := List.mem_map.mp hmem
      exact ⟨by simpa using hflag text (by simpa using htext), .flag⟩

end KeyValue

namespace Logfmt

open KeyValue
open Renderer (quoteValue)

def ComesBack (text : List Char) : Prop :=
  '"' ∉ text ∧ ((∃ c ∈ text, isBlank c = true) → ' ' ∈ text ∨ '\t' ∈ text)

instance (text : List Char) : Decidable (ComesBack text) :=
  decidable_of_iff ('"' ∉ text ∧ (text.any isBlank = true → ' ' ∈ text ∨ '\t' ∈ text)) (by
    simp [ComesBack])

theorem getLast?_ne_of_isRead {value : Value} (h : IsRead value) {c : Char}
    (hc : c ∈ value.text.toList) (hblank : isBlank c = true) :
    value.text.toList.getLast? ≠ some '\\' := by
  cases h with
  | flag => decide
  | @text text hread =>
    have htext : (Value.string (String.ofList text)).text.toList = text := String.toList_ofList
    rw [htext] at hc ⊢
    rcases hread with hbody | hrun
    · exact hbody.2
    · rw [hrun.1 c hc] at hblank
      cases hblank

theorem delimited_of_comesBack {text : List Char}
    (hlast : ∀ c ∈ text, isBlank c = true → text.getLast? ≠ some '\\') (h : ComesBack text) :
    Delimited text := by
  obtain ⟨hquote, hblank⟩ := h
  unfold Delimited
  split_ifs with hquotes
  · rcases hquotes with hmem | hmem | hmem
    · exact hlast ' ' hmem (by decide)
    · exact hlast '\t' hmem (by decide)
    · exact absurd hmem hquote
  · intro c hc
    by_contra hcblank
    rcases hblank ⟨c, hc, by simpa using hcblank⟩ with hmem | hmem
    · exact hquotes (.inl hmem)
    · exact hquotes (.inr (.inl hmem))

-- The first quote of a text would have to be the backslash in front of it.
theorem not_mem_of_escapeQuotes_append {text rest behind : List Char}
    (h : escapeQuotes text ++ '"' :: rest = text ++ '"' :: behind) : '"' ∉ text ∧ behind = rest := by
  induction text with
  | nil => exact ⟨by simp, (List.cons.inj h).2.symm⟩
  | cons c text ih =>
    rw [escapeQuotes_cons] at h
    split_ifs at h with hc
    · subst hc
      exact absurd (List.cons.inj h).1 (by decide)
    · obtain ⟨hmore, hbehind⟩ := ih (List.cons.inj h).2
      refine ⟨?_, hbehind⟩
      rw [List.mem_cons, not_or]
      exact ⟨Ne.symm hc, hmore⟩

-- A written value that is read as the text that it was written for is one that comes back, and it
-- ends where it was written to.
theorem comesBack_of_isValue {spelling : Spelling} {text rest behind : List Char}
    (hrest : ∀ c ∈ rest.head?, isBlank c = true)
    (h : IsValue spelling (quoteValue text ++ rest) behind) (hsame : text = spelling.content) :
    ComesBack text ∧ behind = rest := by
  rw [quoteValue_eq] at h
  generalize hwritten : (if NeedsQuotes text then '"' :: (escapeQuotes text ++ ['"']) else text) ++
    rest = written at h
  -- The written value and the one that is read may differ in whether they stand in quotes.
  cases h with
  | quoted hbody =>
    rename_i body
    obtain rfl : text = body := hsame
    split_ifs at hwritten with hquotes
    · rw [List.cons_append, List.append_assoc] at hwritten
      obtain ⟨hquote, hbehind⟩ := not_mem_of_escapeQuotes_append (List.cons.inj hwritten).2
      refine ⟨⟨hquote, fun _ => ?_⟩, hbehind⟩
      rcases hquotes with hmem | hmem | hmem
      · exact .inl hmem
      · exact .inr hmem
      · exact absurd hmem hquote
    · -- Without quotes around it the value starts with none, and neither does what follows it.
      cases text with
      | nil =>
        rw [List.nil_append] at hwritten
        exact absurd (hrest '"' (by rw [hwritten]; rfl)) (by decide)
      | cons c text =>
        obtain ⟨rfl, -⟩ := List.cons.inj hwritten
        exact absurd (.inr (.inr (by simp))) hquotes
  | bare hrun hblank =>
    rename_i run
    obtain rfl : text = run := hsame
    split_ifs at hwritten with hquotes
    · have hhead := head?_run_ne hrun hblank
      rw [← hwritten] at hhead
      exact absurd rfl hhead
    · refine ⟨⟨fun hmem => hquotes (.inr (.inr hmem)), ?_⟩, (List.append_cancel_left hwritten).symm⟩
      rintro ⟨c, hc, hcblank⟩
      rw [hrun.1 c hc] at hcblank
      cases hcblank

theorem count_quoteValue (text : List Char) : (quoteValue text).count '=' = text.count '=' := by
  have hescaped : (escapeQuotes text).count '=' = text.count '=' := by
    induction text with
    | nil => rfl
    | cons c text ih =>
      rw [escapeQuotes_cons, List.count_append, ih]
      split_ifs with hc
      · subst hc
        simp
      · simp only [List.count_cons, List.count_nil]
        omega
  rw [quoteValue_eq]
  split_ifs <;> simp [hescaped]

theorem count_behind (entries : List (String × String)) :
    (behind entries).count '=' = (line entries).count '=' := by
  unfold behind
  split_ifs with hnil
  · subst hnil
    rfl
  · simp

-- Each entry puts one equals sign into its line, and those of its text.
theorem count_line {entries : List (String × String)}
    (hnames : ∀ entry ∈ entries, IsKey entry.1.toList) :
    (line entries).count '=' = (entries.map fun entry => 1 + entry.2.toList.count '=').sum := by
  induction entries with
  | nil => rfl
  | cons entry rest ih =>
    obtain ⟨hname, hnames⟩ := List.forall_mem_cons.mp hnames
    have hnone := List.count_eq_zero.mpr hname.1
    simp only [line_cons, List.count_append, List.count_cons_self, hnone, count_quoteValue,
      count_behind, ih hnames, List.map_cons, List.sum_cons]
    omega

theorem comesBack_of_isLine {entries : List (String × String)} {pairs : List Pair}
    {flag : Option (List Char)} {before : List Char} (hbefore : IsSpace before)
    (hnames : ∀ entry ∈ entries, IsKey entry.1.toList)
    (h : IsLine pairs flag (before ++ line entries))
    (hsame : ∀ pair ∈ pairs, ∀ entry ∈ entries, entry.1.toList = pair.key →
      entry.2.toList = pair.value.content) :
    ∀ entry ∈ entries, ComesBack entry.2.toList := by
  -- Entry by entry: the key of the next pair is found where the entry's name was written.
  induction entries generalizing pairs before with
  | nil => simp
  | cons entry rest ih =>
    obtain ⟨hname, hnames⟩ := List.forall_mem_cons.mp hnames
    rw [line_cons] at h
    cases pairs with
    | nil => exact absurd (by simp) h.of_nil.1
    | cons pair pairs =>
      obtain ⟨text, more, hkey, hvalue, hmore, -⟩ := h.of_cons
      rw [dropWhile_key _ hbefore hname, splitKey?_append _ hname.1] at hkey
      obtain ⟨hpair, rfl⟩ := Prod.mk.inj (Option.some.inj hkey)
      have hcontent := hsame pair (by simp) entry (by simp) hpair
      obtain ⟨hentry, rfl⟩ := comesBack_of_isValue (head?_behind rest) hvalue hcontent
      refine List.forall_mem_cons.mpr ⟨hentry, ?_⟩
      have hsame' : ∀ pair ∈ pairs, ∀ entry ∈ rest, entry.1.toList = pair.key →
          entry.2.toList = pair.value.content := fun pair hpair entry hentry =>
        hsame pair (List.mem_cons_of_mem _ hpair) entry (List.mem_cons_of_mem _ hentry)
      unfold behind at hmore
      split_ifs at hmore with hnil
      · simp [hnil]
      · have hspace : IsSpace [' '] := by decide
        exact ih hspace hnames hmore hsame'

def unflagged : Value → Value
  | .bool true => .string "true"
  | value => value

theorem unflagged_of_isRead {value : Value} (h : IsRead value) :
    unflagged value = .string value.text ∧ ∃ text, value.canonical = .ok text := by
  cases h with
  | flag => exact ⟨rfl, _, rfl⟩
  | text => exact ⟨rfl, _, rfl⟩

section

variable {record : Record} (hread : ∀ field ∈ record.fields, IsKey field.1.toList ∧ IsRead field.2)

include hread

theorem isKey_texts : ∀ entry ∈ record.texts, IsKey entry.1.toList :=
  List.forall_mem_map.mpr fun field hfield => (hread field hfield).1

theorem fields_unflagged :
    (record.mapValues unflagged).fields = record.texts.map fun entry => (entry.1, .string entry.2) := by
  simp only [Record.mapValues, Record.texts, List.map_map]
  refine List.map_congr_left fun field hfield => ?_
  rw [(unflagged_of_isRead (hread field hfield).2).1]
  rfl

def signs (field : String × Value) : Nat :=
  1 + field.2.text.toList.count '='

theorem forall_texts_iff {P : List Char → Prop} (hflag : P "true".toList) :
    (∀ entry ∈ record.texts, P entry.2.toList) ↔
      ∀ name text, record.get? name = some (.string text) → P text.toList := by
  rw [Record.texts, List.forall_mem_map]
  constructor
  · intro h name text htext
    exact h (name, .string text) (Fields.mem_of_get? htext)
  · rintro h ⟨name, value⟩ hfield
    have hget := Fields.get?_of_mem record.ordered hfield
    have hvalue := (hread _ hfield).2
    cases hvalue with
    | flag => exact hflag
    | text => exact h name _ hget

-- A flag would be found as one, so a line that gives texts only has none.
theorem flag_eq_none_of_ofList {pairs : List Pair} {flag : Option (List Char)}
    (h : Fields.ofList (denoted pairs flag) = (record.mapValues unflagged).fields) :
    flag = none := by
  cases flag with
  | none => rfl
  | some text =>
    have hflag := Fields.get?_insert_self (String.ofList text) (.bool true)
      (Fields.ofList (pairs.map fun pair =>
        (String.ofList pair.key, Value.string (String.ofList pair.value.content))))
    rw [← Fields.ofList_concat _ (_, _)] at hflag
    change Fields.get? _ (Fields.ofList (denoted pairs (some text))) = _ at hflag
    rw [h, fields_unflagged hread] at hflag
    obtain ⟨entry, -, hentry⟩ := List.mem_map.mp (Fields.mem_of_get? hflag)
    cases (Prod.mk.inj hentry).2

-- A line that gives all texts back is read as it was written: no field is found twice, since the
-- equals signs of the line are all taken.
theorem comesBack_of_read
    (h : KeyValue.read (line record.texts) = .ok (record.mapValues unflagged)) :
    ∀ entry ∈ record.texts, ComesBack entry.2.toList := by
  have hnames := isKey_texts hread
  have hfields := fields_unflagged hread
  simp only [KeyValue.read] at h
  cases hentries : entries (line record.texts) with
  | error fault => simp [hentries, Except.map] at h
  | ok found =>
    obtain ⟨pairs, flag, hline, rfl⟩ := exists_isLine_of_entries hentries
    have hback : Fields.ofList (denoted pairs flag) = (record.mapValues unflagged).fields := by
      rw [hentries] at h
      exact congrArg Record.fields (Except.ok.inj h)
    obtain rfl := flag_eq_none_of_ofList hread hback
    -- Line and record have as many equals signs, so the pairs are the fields, each of them once.
    have hsum : ((denoted pairs none).map signs).sum ≤
        ((record.mapValues unflagged).fields.map signs).sum := by
      have hcount := hline.count.symm.trans (count_line hnames)
      rw [hfields]
      simp [denoted, signs, Value.text, Value.canonical, Except.toOption, Function.comp_def, hcount]
    have hperm : (record.mapValues unflagged).fields.Perm (denoted pairs none) :=
      perm_of_subperm_of_sum_le signs (fun _ => Nat.add_pos_left Nat.one_pos _)
        (hback ▸ Fields.ofList_subperm (denoted pairs none)) hsum
    have hspace : IsSpace [] := by simp [IsSpace]
    refine comesBack_of_isLine hspace hnames hline fun pair hpair entry hentry hname => ?_
    have hread : (entry.1, .string (String.ofList pair.value.content)) ∈
        (record.mapValues unflagged).fields := by
      refine hperm.symm.subset (List.mem_append_left _ (List.mem_map.mpr ⟨pair, hpair, ?_⟩))
      rw [← hname, String.ofList_toList]
    have hwritten : (entry.1, .string entry.2) ∈ (record.mapValues unflagged).fields := by
      rw [hfields]
      exact List.mem_map_of_mem hentry
    have hordered := (record.mapValues unflagged).ordered
    have hsame := (Fields.get?_of_mem hordered hwritten).symm.trans
      (Fields.get?_of_mem hordered hread)
    rw [Value.string.inj (Option.some.inj hsame), String.toList_ofList]

theorem read_line_of_comesBack (h : ∀ entry ∈ record.texts, ComesBack entry.2.toList) :
    KeyValue.read (line record.texts) = .ok (record.mapValues unflagged) := by
  rw [Record.texts, List.forall_mem_map] at h
  have hnames : ∀ name ∈ record.names, IsKey name.toList :=
    List.forall_mem_map.mpr fun field hfield => (hread field hfield).1
  have hdelimited : ∀ field ∈ record.fields, Delimited field.2.text.toList := fun field hfield =>
    delimited_of_comesBack (fun _ => getLast?_ne_of_isRead (hread field hfield).2) (h field hfield)
  rw [read_line hnames hdelimited]
  refine congrArg Except.ok (Record.mapValues_congr fun field hfield => ?_)
  rw [readBack, escapeQuotes_of_not_mem (h field hfield).1, String.ofList_toList,
    (unflagged_of_isRead (hread field hfield).2).1]

end

-- Whatever was read is written. It comes back as it was, with flags as text, exactly if no text has
-- a quote, or white space without a space or a tab. Where the written texts end as they should it
-- comes back too, with each of its quotes behind one backslash more.
theorem read_render_read_iff {input : List Char} {record : Record}
    (h : KeyValue.read input = .ok record) :
    ∃ output, Renderer.logfmt.render record = .ok output ∧
      (KeyValue.read output = .ok (record.mapValues unflagged) ↔
        ∀ name text, record.get? name = some (.string text) → ComesBack text.toList) ∧
      ((∀ name text, record.get? name = some (.string text) → Delimited text.toList) →
        KeyValue.read output = .ok (record.mapValues readBack)) := by
  have hread := isKey_isRead_of_read h
  have htexts : ∀ field ∈ record.fields, ∃ text, field.2.canonical = .ok text := fun field hfield =>
    (unflagged_of_isRead (hread field hfield).2).2
  have hnames : ∀ name ∈ record.names, IsKey name.toList :=
    List.forall_mem_map.mpr fun field hfield => (hread field hfield).1
  have hback : ComesBack "true".toList := by decide
  have hdelimited : Delimited "true".toList := by decide
  refine ⟨line record.texts, render_eq htexts, ?_, ?_⟩
  · rw [← forall_texts_iff hread hback]
    exact ⟨comesBack_of_read hread, read_line_of_comesBack hread⟩
  · rw [← forall_texts_iff hread hdelimited, Record.texts, List.forall_mem_map]
    exact read_line hnames

def spacedRecord : Record where
  fields := [("debug", .bool true), ("msg", .string "a b"), ("path", .string "c:\\")]
  ordered := by
    unfold Fields.Ordered
    decide

theorem read_render_read_spacedRecord :
    KeyValue.read "path=c:\\ msg=\"a b\"debug".toList = .ok spacedRecord ∧
      ∃ output, Renderer.logfmt.render spacedRecord = .ok output ∧
        KeyValue.read output = .ok (spacedRecord.mapValues unflagged) := by
  have hread : KeyValue.read "path=c:\\ msg=\"a b\"debug".toList = .ok spacedRecord := by
    with_unfolding_all rfl
  obtain ⟨output, houtput, hback, -⟩ := read_render_read_iff hread
  refine ⟨hread, output, houtput, hback.mpr fun name text htext => ?_⟩
  have hmem := Fields.mem_of_get? htext
  simp only [spacedRecord, List.mem_cons, Prod.mk.injEq, Value.string.injEq, reduceCtorEq, and_false,
    List.not_mem_nil, or_false, false_or] at hmem
  rcases hmem with ⟨-, rfl⟩ | ⟨-, rfl⟩ <;> decide

-- A quote inside a value comes back behind a backslash that was not read.
theorem read_render_read_ne :
    ∃ record back : Record,
      KeyValue.read "k=a\"b".toList = .ok record ∧
      Renderer.logfmt.render record = .ok "k=\"a\\\"b\"\n".toList ∧
      KeyValue.read "k=\"a\\\"b\"\n".toList = .ok back ∧
      record.get? "k" = some (.string "a\"b") ∧ back.get? "k" = some (.string "a\\\"b") ∧
      back ≠ record.mapValues unflagged := by
  have hread : KeyValue.read "k=a\"b".toList = .ok (.ofList [("k", .string "a\"b")]) := by
    with_unfolding_all rfl
  have hback : KeyValue.read "k=\"a\\\"b\"\n".toList =
      .ok (.ofList [("k", .string "a\\\"b")]) := by
    with_unfolding_all rfl
  refine ⟨_, _, hread, rfl, hback, rfl, rfl, fun hsame => ?_⟩
  have hvalue := congrArg (Record.get? · "k") hsame
  have htext : "a\\\"b" = "a\"b" := Value.string.inj (Option.some.inj hvalue)
  exact absurd htext (by decide)

end Logfmt

end LogSieve
