import LogSieve.Proofs.Log.KeyValue
import LogSieve.Proofs.Record.Fields
import LogSieve.Render.Line

namespace LogSieve

def Value.text (value : Value) : String :=
  value.canonical.toOption.getD ""

namespace Record

def texts (record : Record) : List (String × String) :=
  record.fields.map fun field => (field.1, field.2.text)

def mapValues (f : Value → Value) (record : Record) : Record where
  fields := record.fields.map fun field => (field.1, f field.2)
  ordered := by
    rw [Fields.Ordered, List.map_map]
    exact record.ordered

theorem names_mapValues (f : Value → Value) (record : Record) :
    (record.mapValues f).names = record.names := by
  simp [names, mapValues]

theorem mapValues_congr {f g : Value → Value} {record : Record}
    (h : ∀ field ∈ record.fields, f field.2 = g field.2) :
    record.mapValues f = record.mapValues g := by
  simp only [mapValues, mk.injEq]
  exact List.map_congr_left fun field hfield => by rw [h field hfield]

theorem get?_mapValues (f : Value → Value) (record : Record) (name : String) :
    (record.mapValues f).get? name = (record.get? name).map f := by
  obtain ⟨fields, hordered⟩ := record
  simp only [get?, mapValues, Fields.get?]
  clear hordered
  induction fields with
  | nil => rfl
  | cons field rest ih =>
    rw [List.map_cons, List.lookup_cons, List.lookup_cons, ih]
    split <;> rfl

theorem ofList_fields_mapValues (f : Value → Value) (record : Record) :
    ofList (record.mapValues f).fields = record.mapValues f := by
  obtain ⟨fields, hordered⟩ := record.mapValues f
  simp only [ofList, mk.injEq]
  exact Fields.ofList_of_ordered hordered

end Record

namespace Logfmt

open KeyValue
open Renderer (quoteValue joinWith)

def escapeQuotes (text : List Char) : List Char :=
  text.flatMap fun c => if c = '"' then ['\\', '"'] else [c]

theorem escapeQuotes_cons (c : Char) (text : List Char) :
    escapeQuotes (c :: text) = (if c = '"' then ['\\', '"'] else [c]) ++ escapeQuotes text := rfl

theorem escapeQuotes_of_not_mem {text : List Char} (h : '"' ∉ text) : escapeQuotes text = text := by
  induction text with
  | nil => rfl
  | cons c text ih =>
    obtain ⟨hc, hmore⟩ := List.ne_and_not_mem_of_not_mem_cons h
    rw [escapeQuotes_cons, if_neg hc.symm, ih hmore]
    rfl

def NeedsQuotes (text : List Char) : Prop :=
  ' ' ∈ text ∨ '\t' ∈ text ∨ '"' ∈ text

instance (text : List Char) : Decidable (NeedsQuotes text) :=
  inferInstanceAs (Decidable (_ ∨ _))

-- A text whose end is found where it stands as a value: no backslash makes the closing quote an
-- escaped one, and without quotes around it there is no white space.
def Delimited (text : List Char) : Prop :=
  if NeedsQuotes text then text.getLast? ≠ some '\\' else ∀ c ∈ text, isBlank c = false

instance (text : List Char) : Decidable (Delimited text) :=
  decidable_of_iff
    (if NeedsQuotes text then text.getLast? ≠ some '\\' else text.any isBlank = false) (by
      simp [Delimited])

theorem quoteValue_eq (text : List Char) :
    quoteValue text =
      if NeedsQuotes text then '"' :: (escapeQuotes text ++ ['"']) else text := by
  have hany : (text.any fun c => c == ' ' || c == '\t' || c == '"') = true ↔ NeedsQuotes text := by
    simp only [List.any_eq_true, Bool.or_eq_true, beq_iff_eq, NeedsQuotes]
    grind
  simp only [quoteValue, hany]
  rfl

theorem escaped_escapeQuotes {before : Char} {text : List Char}
    (h : (before :: text).getLast? ≠ some '\\') : Escaped before (escapeQuotes text) := by
  induction text generalizing before with
  | nil => simpa [escapeQuotes, Escaped] using h
  | cons c text ih =>
    rw [List.getLast?_cons_cons] at h
    rw [escapeQuotes_cons]
    split_ifs with hc
    · subst hc
      exact ⟨fun hslash => absurd hslash (by decide), fun _ => rfl, ih h⟩
    · exact ⟨fun hquote => absurd hquote hc, ih h⟩

theorem isBody_escapeQuotes {text : List Char} (h : text.getLast? ≠ some '\\') :
    IsBody (escapeQuotes text) := by
  refine isBody_iff_escaped.mpr (escaped_escapeQuotes ?_)
  cases text with
  | nil => decide
  | cons c text => rwa [List.getLast?_cons_cons]

-- A written value reads as its text with the quotes escaped, and ends where it was written to.
theorem isValue_quoteValue {text rest : List Char} (h : Delimited text)
    (hrest : ∀ c ∈ rest.head?, isBlank c = true) :
    ∃ spelling, IsValue spelling (quoteValue text ++ rest) rest ∧
      spelling.content = escapeQuotes text := by
  rw [quoteValue_eq]
  unfold Delimited at h
  split_ifs at h ⊢ with hquotes
  · refine ⟨.quoted (escapeQuotes text), ?_, rfl⟩
    rw [List.cons_append, List.append_assoc]
    exact .quoted (isBody_escapeQuotes h)
  · have hquote : '"' ∉ text := fun hmem => hquotes (.inr (.inr hmem))
    refine ⟨.bare text, .bare ⟨h, fun hhead => ?_⟩ hrest, (escapeQuotes_of_not_mem hquote).symm⟩
    exact hquote (List.mem_of_mem_head? hhead)

def part (entry : String × String) : List Char :=
  entry.1.toList ++ '=' :: quoteValue entry.2.toList

def line (entries : List (String × String)) : List Char :=
  joinWith [' '] (entries.map part) ++ ['\n']

def behind (entries : List (String × String)) : List Char :=
  if entries = [] then ['\n'] else ' ' :: line entries

theorem line_cons (entry : String × String) (rest : List (String × String)) :
    line (entry :: rest) =
      entry.1.toList ++ '=' :: (quoteValue entry.2.toList ++ behind rest) := by
  cases rest <;> simp [line, behind, part, joinWith]

theorem head?_behind (entries : List (String × String)) :
    ∀ c ∈ (behind entries).head?, isBlank c = true := by
  have hspaces : isBlank '\n' = true ∧ isBlank ' ' = true := by decide
  unfold behind
  split_ifs <;> simp [hspaces]

theorem isLine_behind {pairs : List Pair} {flag : Option (List Char)}
    {entries : List (String × String)} (h : IsLine pairs flag (line entries)) :
    IsLine pairs flag (behind entries) := by
  unfold behind
  split_ifs with hnil
  · subst hnil
    exact h
  · exact h.cons_space (by decide)

theorem exists_isLine_line {entries : List (String × String)}
    (hnames : ∀ entry ∈ entries, IsKey entry.1.toList)
    (htexts : ∀ entry ∈ entries, Delimited entry.2.toList) :
    ∃ pairs, IsLine pairs none (line entries) ∧
      denoted pairs none = entries.map fun entry =>
        (entry.1, .string (String.ofList (escapeQuotes entry.2.toList))) := by
  induction entries with
  | nil => exact ⟨[], .blank (show IsSpace ['\n'] by decide), rfl⟩
  | cons entry rest ih =>
    obtain ⟨hname, hnames⟩ := List.forall_mem_cons.mp hnames
    obtain ⟨htext, htexts⟩ := List.forall_mem_cons.mp htexts
    obtain ⟨pairs, hpairs, hdenoted⟩ := ih hnames htexts
    obtain ⟨spelling, hspelling, hcontent⟩ := isValue_quoteValue htext (head?_behind rest)
    have hspace : IsSpace [] := by simp [IsSpace]
    have hpair := IsLine.pair hspace hname hspelling (isLine_behind hpairs)
    rw [List.nil_append, ← line_cons] at hpair
    refine ⟨_, hpair, ?_⟩
    rw [List.map_cons, ← hdenoted, ← hcontent, denoted, List.map_cons, String.ofList_toList]
    rfl

theorem pairs_eq (quote : List Char → List Char) {record : Record} {fields : List (String × Value)}
    (hfields : ∀ field ∈ fields, record.get? field.1 = some field.2)
    (htexts : ∀ field ∈ fields, ∃ text, field.2.canonical = .ok text) :
    Renderer.pairs quote record (fields.map Prod.fst) =
      .ok (fields.map fun field => field.1.toList ++ '=' :: quote field.2.text.toList) := by
  induction fields with
  | nil => rfl
  | cons field rest ih =>
    obtain ⟨hfield, hfields⟩ := List.forall_mem_cons.mp hfields
    obtain ⟨⟨text, htext⟩, htexts⟩ := List.forall_mem_cons.mp htexts
    have hsame : field.2.text = text := by simp [Value.text, htext, Except.toOption]
    simp only [List.map_cons, Renderer.pairs, hfield, htext, ih hfields htexts, hsame]
    rfl

theorem render_eq {record : Record}
    (h : ∀ field ∈ record.fields, ∃ text, field.2.canonical = .ok text) :
    Renderer.logfmt.render record = .ok (line record.texts) := by
  have hget : ∀ field ∈ record.fields, record.get? field.1 = some field.2 := fun field hfield =>
    Fields.get?_of_mem record.ordered hfield
  have hpairs := pairs_eq quoteValue hget h
  have hparts : record.texts.map part =
      record.fields.map fun field => field.1.toList ++ '=' :: quoteValue field.2.text.toList := by
    simp [Record.texts, part]
  rw [Renderer.render, Renderer.logfmtLine, Record.names, hpairs, line, hparts]
  rfl

def readBack (value : Value) : Value :=
  .string (String.ofList (escapeQuotes value.text.toList))

theorem read_line {record : Record} (hnames : ∀ name ∈ record.names, IsKey name.toList)
    (htexts : ∀ field ∈ record.fields, Delimited field.2.text.toList) :
    KeyValue.read (line record.texts) = .ok (record.mapValues readBack) := by
  have hkeys : ∀ entry ∈ record.texts, IsKey entry.1.toList :=
    List.forall_mem_map.mpr fun field hfield => hnames field.1 (List.mem_map_of_mem hfield)
  obtain ⟨pairs, hline, hdenoted⟩ := exists_isLine_line hkeys (List.forall_mem_map.mpr htexts)
  have hfields : denoted pairs none = (record.mapValues readBack).fields := by
    rw [hdenoted, Record.texts, List.map_map]
    rfl
  rw [KeyValue.read, entries_of_isLine hline, hfields]
  exact congrArg Except.ok (record.ofList_fields_mapValues readBack)

-- A record whose names are keys and whose texts end where they were written to comes back from its
-- line: under the same names, each text with its quotes behind backslashes.
theorem read_render {record : Record} (hnames : ∀ name ∈ record.names, IsKey name.toList)
    (htexts : ∀ field ∈ record.fields,
      ∃ text, field.2.canonical = .ok text ∧ Delimited text.toList) :
    ∃ output back, Renderer.logfmt.render record = .ok output ∧ KeyValue.read output = .ok back ∧
      back.names = record.names ∧
      ∀ name value text, record.get? name = some value → value.canonical = .ok text →
        back.get? name = some (.string (String.ofList (escapeQuotes text.toList))) := by
  have htext {value : Value} {text : String} (h : value.canonical = .ok text) :
      value.text = text := by simp [Value.text, h, Except.toOption]
  have hdelimited : ∀ field ∈ record.fields, Delimited field.2.text.toList := by
    intro field hfield
    obtain ⟨text, hcanonical, hdelimited⟩ := htexts field hfield
    rwa [htext hcanonical]
  refine ⟨line record.texts, record.mapValues readBack, render_eq fun field hfield => ?_,
    read_line hnames hdelimited, record.names_mapValues _, ?_⟩
  · obtain ⟨text, hcanonical, -⟩ := htexts field hfield
    exact ⟨text, hcanonical⟩
  · intro name value text hvalue hcanonical
    rw [Record.get?_mapValues, hvalue, Option.map_some, readBack, htext hcanonical]

-- Names and values at the edge: an empty name, one with a space and a quote, an escaped quote, and
-- values that are empty or end in a backslash.
def edgeRecord : Record where
  fields := [("", .string ""), ("a \"b", .string "say \\\"hi\""), ("flag", .bool true),
    ("path", .string "c:\\")]
  ordered := by
    unfold Fields.Ordered
    decide

theorem read_render_edgeRecord :
    (∀ name ∈ edgeRecord.names, IsKey name.toList) ∧
    (∀ field ∈ edgeRecord.fields,
      ∃ text, field.2.canonical = .ok text ∧ Delimited text.toList) ∧
    ∃ back, Renderer.logfmt.render edgeRecord =
        .ok "= a \"b=\"say \\\\\"hi\\\"\" flag=true path=c:\\\n".toList ∧
      KeyValue.read "= a \"b=\"say \\\\\"hi\\\"\" flag=true path=c:\\\n".toList = .ok back ∧
      back.names = edgeRecord.names ∧
      back.get? "a \"b" = some (.string "say \\\\\"hi\\\"") := by
  have hnames : ∀ name ∈ edgeRecord.names, IsKey name.toList := by decide
  have htexts : ∀ field ∈ edgeRecord.fields,
      ∃ text, field.2.canonical = .ok text ∧ Delimited text.toList := by
    simp only [edgeRecord, List.forall_mem_cons, List.not_mem_nil, false_implies, implies_true,
      and_true]
    exact ⟨⟨_, rfl, by decide⟩, ⟨_, rfl, by decide⟩, ⟨_, rfl, by decide⟩, ⟨_, rfl, by decide⟩⟩
  obtain ⟨output, back, houtput, hread, hsame, hback⟩ := read_render hnames htexts
  have hwritten : Renderer.logfmt.render edgeRecord =
      .ok "= a \"b=\"say \\\\\"hi\\\"\" flag=true path=c:\\\n".toList := rfl
  have hescaped : String.ofList (escapeQuotes "say \\\"hi\"".toList) = "say \\\\\"hi\\\"" := by
    decide
  have hvalue := hback "a \"b" (.string "say \\\"hi\"") "say \\\"hi\"" rfl rfl
  rw [hescaped] at hvalue
  obtain rfl := Except.ok.inj (hwritten.symm.trans houtput)
  exact ⟨hnames, htexts, back, hwritten, hread, hsame, hvalue⟩

end Logfmt

end LogSieve
