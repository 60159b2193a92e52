import LogSieve.Proofs.Log.Lines
import LogSieve.Proofs.Render.PassThrough
import LogSieve.Proofs.Text.Blank

namespace LogSieve

def compactLines (records : List Record) : List Char :=
  records.flatMap fun record => record.toJson.compact ++ ['\n']

theorem encode_compactLines (records : List Record) :
    Utf8.encode (compactLines records) =
      (records.map fun record => Utf8.encode record.toJson.compact).flatMap (· ++ [10]) := by
  induction records with
  | nil => rfl
  | cons record rest ih =>
    have hline := (Renderer.encode_newline (Json.newline_not_mem_compact record.toJson)).1
    rw [compactLines, List.flatMap_cons, Utf8.encode, List.flatMap_append]
    exact congrArg₂ (· ++ ·) hline ih

theorem lines_compactLines (records : List Record) :
    (ByteStream.lines ⟨Utf8.encode (compactLines records), .finished⟩).lines =
      records.map fun record => .bytes (Utf8.encode (record.toJson.compact ++ ['\n'])) := by
  have hbreaks : ∀ body ∈ records.map (fun record => Utf8.encode record.toJson.compact),
      ∀ b ∈ body, isNewlineByte b = false := by
    intro body hbody b hb
    obtain ⟨record, -, rfl⟩ := List.mem_map.mp hbody
    have hbyte := (Renderer.encode_newline (Json.newline_not_mem_compact record.toJson)).2
    exact beq_eq_false_iff_ne.mpr fun heq => hbyte (heq ▸ hb)
  rw [ByteStream.lines, encode_compactLines, splitLines_flatMap hbreaks rfl, List.map_map,
    List.map_map]
  refine List.map_congr_left fun record _ => ?_
  have hline := (Renderer.encode_newline (Json.newline_not_mem_compact record.toJson)).1
  exact congrArg RawLine.bytes hline.symm

theorem content_compactLines (records : List Record) :
    (ByteStream.lines ⟨Utf8.encode (compactLines records), .finished⟩).content =
      (records.map (·.toJson.compact)).zipIdx 1 := by
  have htext : (fun raw : RawLine => trim raw.decode) ∘
      (fun record : Record => RawLine.bytes (Utf8.encode (record.toJson.compact ++ ['\n']))) =
        fun record => record.toJson.compact := by
    funext record
    simp only [Function.comp_apply, RawLine.decode, Utf8.decode_encode]
    exact Json.trim_compact_object (Value.toMembers record.fields)
  rw [LineStream.content, LineStream.contentFrom, lines_compactLines, List.map_map, htext,
    List.filter_eq_self]
  intro line hline
  obtain ⟨record, -, hrecord⟩ := List.mem_map.mp (List.fst_mem_of_mem_zipIdx hline)
  simp [← hrecord, Record.toJson, Json.compact]

namespace ByteStream

theorem dialect_of_brace (rest : List UInt8) (ending : Ending) :
    dialect ⟨123 :: rest, ending⟩ = .jsonLines := by
  obtain ⟨line, lines, hsplit⟩ :
      ∃ line lines, splitLines isNewlineByte (123 :: rest) = (123 :: line) :: lines := by
    simp only [splitLines]
    cases splitLines isNewlineByte rest with
    | nil => exact ⟨[], [], rfl⟩
    | cons line lines => exact ⟨line, lines, rfl⟩
  obtain ⟨kept, hkept⟩ :=
    exists_stripBoth_cons line (show isBlankByte 123 = false by decide)
  simp [dialect, firstContent, hsplit, trimBytes, hkept, Sniff.dialectOf]

theorem dialect_compactLines (records : List Record) :
    dialect ⟨Utf8.encode (compactLines records), .finished⟩ = .jsonLines := by
  cases records with
  | nil => rfl
  | cons record rest => exact dialect_of_brace _ _

theorem outcomesIn_compactLines {records : List Record}
    (hwell : ∀ record ∈ records, record.WellFormed)
    (hfault : ∀ record ∈ records, record.toJson.fault? Json.writeDepth = none) :
    outcomesIn .auto ⟨Utf8.encode (compactLines records), .finished⟩ =
      (records.zipIdx 1).map fun (record, line) => ⟨line, .ok record.reread⟩ := by
  rw [outcomesIn, content_compactLines, List.zipIdx_map, List.map_map]
  refine List.map_congr_left fun entry hentry => ?_
  obtain ⟨record, line⟩ := entry
  have hrecord : record ∈ records := List.fst_mem_of_mem_zipIdx hentry
  have hread := Dialect.readLine_compact (hwell record hrecord) (hfault record hrecord)
  simp [InputFormat.dialectOf, dialect_compactLines, hread]

end ByteStream

end LogSieve
