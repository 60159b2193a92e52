import LogSieve.Log.Scan
import LogSieve.Proofs.Stream.Lines
import LogSieve.Proofs.Text.Ascii

namespace LogSieve

theorem isNewlineByte_iff (b : UInt8) : isNewlineByte b = true ↔ b.toNat = '\n'.toNat := by
  rw [isNewlineByte, beq_iff_eq, ← UInt8.toNat_inj]
  rfl

theorem forall_decode_not_isNewline {line : List UInt8} (h : ∀ b ∈ line, isNewlineByte b = false) :
    ∀ c ∈ Utf8.decode line, isNewline c = false := by
  intro c hc
  by_contra hbreak
  have hnewline : c = '\n' := by simpa [isNewline] using hbreak
  subst hnewline
  obtain ⟨b, hb, hcode⟩ :=
    Utf8.exists_mem_of_mem_decodeFrom Utf8.State.sound_ready (by decide) (by decide) hc
  have hno := h b hb
  rw [(isNewlineByte_iff b).mpr hcode] at hno
  cases hno

theorem decode_ne_nil {bytes : List UInt8} (h : bytes ≠ []) : Utf8.decode bytes ≠ [] := by
  obtain ⟨b, rest, rfl⟩ := List.exists_cons_of_ne_nil h
  obtain ⟨c, text, htext, -⟩ :=
    Utf8.exists_decode_cons b rest (show 0 < '\n'.toNat by decide) (by decide)
  rw [htext]
  exact List.cons_ne_nil c text

-- A character that was begun before a line break does not reach into the next line.
theorem decode_append_newline (line : List UInt8) {b : UInt8} (hb : isNewlineByte b = true)
    (rest : List UInt8) :
    Utf8.decode (line ++ b :: rest) = Utf8.decode line ++ '\n' :: Utf8.decode rest := by
  have hcode := (isNewlineByte_iff b).mp hb
  have hcut := Utf8.decodeFrom_append_ascii Utf8.State.sound_ready line
    (show b.toNat < 0x80 by rw [hcode]; decide) rest
  rwa [hcode, Char.ofNat_toNat] at hcut

theorem splitLines_decode (bytes : List UInt8) :
    splitLines isNewline (Utf8.decode bytes) =
      (splitLines isNewlineByte bytes).map Utf8.decode := by
  cases hfirst : firstLine? isNewlineByte bytes with
  | none =>
    have hnone := firstLine?_eq_none hfirst
    by_cases hnil : bytes = []
    · subst hnil
      rfl
    · rw [splitLines_of_forall hnil hnone,
        splitLines_of_forall (decode_ne_nil hnil) (forall_decode_not_isNewline hnone)]
      rfl
  | some found =>
    obtain ⟨line, rest⟩ := found
    obtain ⟨body, b, hbytes, hline, hbody, hb⟩ := exists_of_firstLine? hfirst
    have hshort : rest.length < bytes.length := by
      rw [hbytes, List.length_append, List.length_cons]
      omega
    have hdecode : Utf8.decode line = Utf8.decode body ++ ['\n'] := by
      rw [hline]
      exact decode_append_newline body hb []
    rw [splitLines_of_firstLine? hfirst, List.map_cons, ← splitLines_decode rest, hdecode, hbytes,
      decode_append_newline body hb]
    exact splitLines_append _ (forall_decode_not_isNewline hbody) rfl
termination_by bytes.length

-- Two characters are cut off here, one by a line break and one by the end.
example :
    splitLines isNewline (Utf8.decode [0x61, 0xE2, 0x82, 0x0A, 0xC2, 0x85, 0x0D, 0xF0, 0x9F]) =
      [['a', '\uFFFD', '\n'], ['\u0085', '\r', '\uFFFD']] := by
  decide

namespace LineStream

def decoded (stream : LineStream) : LineStream :=
  ⟨stream.lines.map fun raw => .text raw.decode, stream.ending⟩

theorem ofText_decode (bytes : List UInt8) (ending : Ending) :
    ofText (Utf8.decode bytes) ending = (ByteStream.mk bytes ending).lines.decoded := by
  rw [ofText, splitLines_decode, decoded, ByteStream.lines, List.map_map, List.map_map]
  rfl

end LineStream

namespace Scan

theorem runOf_decoded (dialect : Dialect) (ending : Ending) (lines : List RawLine) (taken : Nat)
    (tally : Tally) :
    runOf dialect ending (lines.map fun raw => .text raw.decode) taken tally =
      runOf dialect ending lines taken tally := by
  induction lines generalizing taken tally with
  | nil => rfl
  | cons raw rest ih =>
    have hraw : (RawLine.text raw.decode).decode = raw.decode := rfl
    rw [List.map_cons, runOf, runOf]
    simp only [hraw, ih]

theorem run_decoded (dialect : Dialect) (stream : LineStream) (tally : Tally) :
    (ofStream dialect stream.decoded).run tally = (ofStream dialect stream).run tally :=
  runOf_decoded dialect stream.ending stream.lines 0 tally

-- The lines of some bytes, each decoded on its own, are the lines of the text that the bytes decode
-- to, in number and order. In either dialect the two streams give the same outcomes, each with the
-- same counts right behind it, and the same counts at their end.
theorem run_bytes_eq_run_text (bytes : List UInt8) (ending : Ending) :
    let binary := (ByteStream.mk bytes ending).lines
    let text := LineStream.ofText (Utf8.decode bytes) ending
    text.lines = binary.lines.map (fun raw => .text raw.decode) ∧
      ∀ dialect tally,
        (ofStream dialect binary).run tally = (ofStream dialect text).run tally := by
  intro binary text
  have htext : text = binary.decoded := LineStream.ofText_decode bytes ending
  rw [htext]
  exact ⟨rfl, fun dialect tally => (run_decoded dialect binary tally).symm⟩

end Scan

end LogSieve
