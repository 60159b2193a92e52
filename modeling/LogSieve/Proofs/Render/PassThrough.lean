import LogSieve.Log.Scan
import LogSieve.Proofs.Attempt
import LogSieve.Proofs.Json.OneLine
import LogSieve.Proofs.Record.Alike
import LogSieve.Proofs.Record.Limits
import LogSieve.Proofs.Stream.Lines
import LogSieve.Proofs.Text.Utf8
import LogSieve.Render.Line

namespace LogSieve

namespace Record

def WellFormed (record : Record) : Prop :=
  Value.FieldsWellFormed record.fields

def Alike (r s : Record) : Prop :=
  Value.FieldsAlike r.fields s.fields

theorem toJson_of_alike {r s : Record} (h : r.Alike s) : r.toJson = s.toJson := by
  rw [toJson, toJson, Value.toMembers_of_alike h]

def reread (record : Record) : Record :=
  ofList (Value.ofMembers (Value.toMembers record.fields))

theorem reread_alike {record : Record} (h : record.WellFormed) : record.reread.Alike record := by
  have hsame := Value.ofList_ofMembers_toMembers record.ordered
  change Value.FieldsAlike (Fields.ofList _) record.fields
  rw [hsame]
  exact Value.alike_ofMembers_toMembers h

end Record

namespace Dialect

theorem wellFormed_of_readLine {line : List Char} {record : Record}
    (h : jsonLines.readLine line = .ok record) : record.WellFormed := by
  simp only [readLine] at h
  cases hread : Json.read? line with
  | none => simp [hread] at h
  | some document =>
    have hlegible := Json.legible_of_read? hread
    rw [hread] at h
    cases document with
    | object members =>
      cases h
      exact Value.fieldsWellFormed_ofList (Value.fieldsWellFormed_ofMembers hlegible)
    | _ => simp [recordOfJson] at h

theorem readLine_compact {record : Record} (h : record.WellFormed)
    (hfault : record.toJson.fault? Json.writeDepth = none) :
    jsonLines.readLine record.toJson.compact = .ok record.reread := by
  have hlegible : record.toJson.Legible := Value.legible_toMembers h
  have hread := Json.read?_compact hlegible hfault
  simp only [readLine, hread]
  rfl

end Dialect

namespace Scan

theorem run_single {dialect : Dialect} {raw : RawLine} {line : List Char}
    (hraw : trim raw.decode = line) (hne : line ≠ []) (tally : Tally) :
    ((ofStream dialect ⟨[raw], .finished⟩).run tally).1.map Prod.fst =
      [⟨1, dialect.readLine line⟩] := by
  simp [run, ofStream, runOf, hraw, hne]

end Scan

namespace Renderer

theorem render_json (record : Record) :
    render (.json false) record =
      match record.toJson.fault? Json.writeDepth with
      | some fault => .error fault
      | none => .ok (record.toJson.compact ++ ['\n']) := by
  rw [render, Json.write]
  cases record.toJson.fault? Json.writeDepth <;> rfl

theorem eq_of_render_json {record : Record} {text : List Char}
    (h : render (.json false) record = .ok text) :
    record.toJson.fault? Json.writeDepth = none ∧ text = record.toJson.compact ++ ['\n'] := by
  obtain ⟨body, hbody, rfl⟩ := exists_of_map h
  obtain ⟨hfault, rfl⟩ := Json.eq_of_write hbody
  exact ⟨hfault, rfl⟩

-- A line break of text is one byte, which is in the bytes of no other character.
theorem encode_newline {body : List Char} (h : '\n' ∉ body) :
    Utf8.encode (body ++ ['\n']) = Utf8.encode body ++ [10] ∧ (10 : UInt8) ∉ Utf8.encode body := by
  refine ⟨by simp [Utf8.encode, Utf8.encodeChar], fun hmem => ?_⟩
  obtain ⟨c, hc, hbyte⟩ := List.mem_flatMap.mp hmem
  exact h (Utf8.newline_mem_encodeChar hbyte ▸ hc)

-- The text of a record, as text or as bytes, is one line, and its content is the record's document.
theorem lines_compact (record : Record) {stream : LineStream}
    (hstream : stream ∈ [LineStream.ofText (record.toJson.compact ++ ['\n']) .finished,
      ByteStream.lines ⟨Utf8.encode (record.toJson.compact ++ ['\n']), .finished⟩]) :
    ∃ raw, stream = ⟨[raw], .finished⟩ ∧ trim raw.decode = record.toJson.compact := by
  have hbreak := Json.newline_not_mem_compact record.toJson
  have htrim := Json.trim_compact_object (Value.toMembers record.fields)
  simp only [List.mem_cons, List.not_mem_nil, or_false] at hstream
  rcases hstream with rfl | rfl
  · refine ⟨.text (record.toJson.compact ++ ['\n']), ?_, htrim⟩
    have hnone : ∀ c ∈ record.toJson.compact, isNewline c = false := fun c hc =>
      beq_eq_false_iff_ne.mpr fun heq => hbreak (heq ▸ hc)
    rw [LineStream.ofText, splitLines_append [] hnone rfl]
    rfl
  · obtain ⟨hencode, hbyte⟩ := encode_newline hbreak
    refine ⟨.bytes (Utf8.encode (record.toJson.compact ++ ['\n'])), ?_, ?_⟩
    · have hnone : ∀ b ∈ Utf8.encode record.toJson.compact, isNewlineByte b = false := fun b hb =>
        beq_eq_false_iff_ne.mpr fun heq => hbyte (heq ▸ hb)
      rw [ByteStream.lines, hencode, splitLines_append [] hnone rfl]
      rfl
    · rw [RawLine.decode, Utf8.decode_encode]
      exact htrim

theorem exists_render_error_iff (record : Record) :
    (∃ fault, render (.json false) record = .error fault) ↔
      (∃ x ∈ record.numbers, x.IsOversized) ∨ 254 < record.nesting := by
  have hlimits := record.fault?_toJson_eq_none_iff
  rw [render_json]
  cases hfault : record.toJson.fault? Json.writeDepth with
  | some fault =>
    refine iff_of_true ⟨fault, rfl⟩ ?_
    by_contra hnone
    simp only [not_or, not_exists, not_and, Nat.not_lt] at hnone
    rw [hlimits.mpr ⟨hnone.2, hnone.1⟩] at hfault
    cases hfault
  | none =>
    obtain ⟨hnesting, hnumbers⟩ := hlimits.mp hfault
    refine iff_of_false (by simp) ?_
    rintro (⟨x, hx, hwide⟩ | hdeep)
    · exact hnumbers x hx hwide
    · exact absurd hdeep (Nat.not_lt.mpr hnesting)

theorem run_render {record : Record} (h : record.WellFormed) {text : List Char}
    (htext : render (.json false) record = .ok text) {stream : LineStream}
    (hstream : stream ∈ [LineStream.ofText text .finished,
      ByteStream.lines ⟨Utf8.encode text, .finished⟩]) (tally : Tally) :
    ((Scan.ofStream .jsonLines stream).run tally).1.map Prod.fst = [⟨1, .ok record.reread⟩] := by
  obtain ⟨hfault, rfl⟩ := eq_of_render_json htext
  obtain ⟨raw, rfl, htrim⟩ := lines_compact record hstream
  rw [Scan.run_single htrim (by simp [Record.toJson, Json.compact]),
    Dialect.readLine_compact h hfault]

-- Writing a record that was read fails exactly for what is beyond the limits of writing. In every
-- other case one line is written, which reads as that record and is written the same again.
theorem render_readLine {line : List Char} {record : Record}
    (h : Dialect.jsonLines.readLine line = .ok record) :
    ((∃ fault, render (.json false) record = .error fault) ↔
      (∃ x ∈ record.numbers, x.IsOversized) ∨ 254 < record.nesting) ∧
    ∀ text, render (.json false) record = .ok text →
      (∃ body, text = body ++ ['\n'] ∧ '\n' ∉ body) ∧
      ∃ reread : Record,
        (∀ stream ∈ [LineStream.ofText text .finished,
            ByteStream.lines ⟨Utf8.encode text, .finished⟩],
          ∀ tally, ((Scan.ofStream .jsonLines stream).run tally).1.map Prod.fst =
            [⟨1, .ok reread⟩]) ∧
        reread.equal record = true ∧ reread.Alike record ∧
        render (.json false) reread = .ok text := by
  have hwell := Dialect.wellFormed_of_readLine h
  have halike := Record.reread_alike hwell
  refine ⟨exists_render_error_iff record, fun text htext => ⟨?_, record.reread, ?_,
    Value.equalFields_of_alike halike, halike, ?_⟩⟩
  · exact ⟨record.toJson.compact, (eq_of_render_json htext).2, Json.newline_not_mem_compact _⟩
  · intro stream hstream tally
    exact run_render hwell htext hstream tally
  · rw [render_json, Record.toJson_of_alike halike, ← render_json, htext]

theorem render_readLine_nested :
    ∃ record reread : Record,
      Dialect.jsonLines.readLine "\x7b\"n\":[12,-0.5]\x7d".toList = .ok record ∧
      render (.json false) record = .ok "\x7b\"n\":[12,-0.5]\x7d\n".toList ∧
      (∀ tally, ((Scan.ofStream .jsonLines
        (LineStream.ofText "\x7b\"n\":[12,-0.5]\x7d\n".toList .finished)).run tally).1.map Prod.fst =
          [⟨1, .ok reread⟩]) ∧
      reread.Alike record ∧ render (.json false) reread = .ok "\x7b\"n\":[12,-0.5]\x7d\n".toList := by
  have hdone : (Dialect.jsonLines.readLine "\x7b\"n\":[12,-0.5]\x7d".toList).toOption.map
      (render (.json false)) = some (.ok "\x7b\"n\":[12,-0.5]\x7d\n".toList) := by
    decide +kernel
  cases hread : Dialect.jsonLines.readLine "\x7b\"n\":[12,-0.5]\x7d".toList with
  | error fault =>
    rw [hread] at hdone
    cases hdone
  | ok record =>
    rw [hread] at hdone
    have htext := Option.some.inj hdone
    obtain ⟨-, reread, hrun, -, halike, hagain⟩ := (render_readLine hread).2 _ htext
    exact ⟨record, reread, rfl, htext, hrun _ (by simp), halike, hagain⟩

end Renderer

end LogSieve
