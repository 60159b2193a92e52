import LogSieve.Proofs.Log.Scan
import LogSieve.Proofs.Text.Ascii

namespace LogSieve

namespace LineStream

def firstText? (stream : LineStream) : Option (List Char) :=
  (stream.lines.map fun raw => trim raw.decode).find? (· != [])

def OpensWithBrace (stream : LineStream) : Prop :=
  ∀ text ∈ stream.firstText?, text.head? = some '{'

theorem firstText?_of_blank {raw : RawLine} {rest : List RawLine} {ending : Ending}
    (h : trim raw.decode = []) : firstText? ⟨raw :: rest, ending⟩ = firstText? ⟨rest, ending⟩ := by
  simp [firstText?, h]

theorem firstText?_of_content {raw : RawLine} {rest : List RawLine} {ending : Ending}
    (h : trim raw.decode ≠ []) : firstText? ⟨raw :: rest, ending⟩ = some (trim raw.decode) := by
  simp [firstText?, h]

end LineStream

theorem Scan.next_eq_firstText? (dialect : Dialect) (lines : List RawLine) (tally : Tally) :
    ((Scan.ofStream dialect ⟨lines, .finished⟩).next tally).1.map Outcome.result =
      (LineStream.mk lines .finished).firstText?.map dialect.readLine := by
  simp only [next, ofStream]
  generalize 0 = taken
  induction lines generalizing taken tally with
  | nil => rfl
  | cons raw rest ih =>
    rw [nextOf]
    by_cases h : trim raw.decode = []
    · simp only [h, if_true, LineStream.firstText?_of_blank h]
      exact ih _ _
    · simp only [h, if_false, LineStream.firstText?_of_content h, Option.map_some]

-- Lines of nothing but white space among the bytes are passed over in parsing, and so is nothing
-- that starts with content in its text.
theorem firstText?_of_bytes (lines : List (List UInt8)) (ending : Ending) :
    match (lines.map trimBytes).find? (· != []) with
    | none => (LineStream.mk (lines.map .bytes) ending).firstText? = none
    | some content =>
      ∀ c ∈ (Utf8.decode content).head?, isBlank c = false →
        ∃ text, (LineStream.mk (lines.map .bytes) ending).firstText? = some (c :: text) := by
  induction lines with
  | nil => rfl
  | cons line rest ih =>
    have htrim := trim_decode line
    rw [List.map_cons, List.map_cons, List.find?_cons]
    by_cases hline : trimBytes line = []
    · have hblank : trim (RawLine.bytes line).decode = [] := by
        rw [RawLine.decode, htrim, hline]
        rfl
      rw [LineStream.firstText?_of_blank hblank]
      simpa [hline] using ih
    · have hfound : (trimBytes line != []) = true := by simpa using hline
      simp only [hfound]
      intro c hhead hc
      obtain ⟨text, htext⟩ := List.head?_eq_some_iff.mp hhead
      obtain ⟨kept, hkept⟩ := exists_stripBoth_cons text hc
      have hdecode : trim (RawLine.bytes line).decode = c :: kept := by
        rw [RawLine.decode, htrim, htext, trim, hkept]
      refine ⟨kept, ?_⟩
      rw [LineStream.firstText?_of_content (by simp [hdecode]), hdecode]

namespace ByteStream

-- The dialect is JSON exactly if parsing finds no content, or a brace first, and what the bytes
-- have first is no white space in their text.
theorem dialect_eq_jsonLines_iff (stream : ByteStream) :
    stream.dialect = .jsonLines ↔
      stream.lines.OpensWithBrace ∧
        ∀ c ∈ (Utf8.decode stream.firstContent).head?, isBlank c = false := by
  have hfound := firstText?_of_bytes (splitLines isNewlineByte stream.bytes) stream.ending
  rw [dialect, firstContent]
  cases hcontent : ((splitLines isNewlineByte stream.bytes).map trimBytes).find? (· != []) with
  | none =>
    rw [hcontent] at hfound
    refine iff_of_true rfl ⟨?_, by simp [Utf8.decode, Utf8.decodeFrom, Utf8.finish]⟩
    simp only at hfound
    simp [LineStream.OpensWithBrace, lines, hfound]
  | some content =>
    rw [hcontent] at hfound
    have hne : content ≠ [] := by simpa using List.find?_some hcontent
    obtain ⟨b, more, rfl⟩ := List.exists_cons_of_ne_nil hne
    obtain ⟨c, text, htext, hbrace⟩ :=
      Utf8.exists_decode_cons b more (show 0 < '{'.toNat by decide) (by decide)
    have hdialect : Sniff.dialectOf (b :: more) = .jsonLines ↔ c = '{' := by
      rw [hbrace, Sniff.dialectOf]
      split <;> simp_all
    rw [Option.getD_some, hdialect, htext]
    simp only [List.head?_cons, Option.mem_def, Option.some.injEq, forall_eq']
    -- A first character that only the text shows as white space hides what parsing finds first.
    cases hc : isBlank c with
    | true =>
      refine iff_of_false ?_ (by simp)
      rintro rfl
      exact absurd hc (by decide)
    | false =>
      obtain ⟨kept, hkept⟩ := hfound c (by simp [htext]) hc
      simp [LineStream.OpensWithBrace, lines, hkept]

end ByteStream

-- A stream that ends can be sniffed, whatever it holds, and what parsing it in any dialect gives
-- first is what its first line with content reads as. Sniffing and parsing agree on that line, so
-- that the dialect is JSON exactly if there is none or it starts with a brace, exactly if it does
-- not do so behind white space that only its text shows.
theorem sniff_agrees_iff (bytes : List UInt8) (delivery : Delivery) :
    let stream : ByteStream := ⟨bytes, .finished⟩
    (∀ dialect tally, ((Scan.ofStream dialect stream.lines).next tally).1.map Outcome.result =
      stream.lines.firstText?.map dialect.readLine) ∧
    ∃ sniffed, sniff stream delivery = .ok sniffed ∧
      ((sniffed.dialect = .jsonLines ↔ stream.lines.OpensWithBrace) ↔
        (stream.lines.OpensWithBrace →
          ∀ c ∈ (Utf8.decode stream.firstContent).head?, isBlank c = false)) := by
  intro stream
  refine ⟨fun dialect tally => Scan.next_eq_firstText? dialect _ tally, ?_⟩
  obtain ⟨sniffed, hsniff⟩ := @exists_sniff_of_finished bytes delivery
  refine ⟨sniffed, hsniff, ?_⟩
  have hdialect : sniffed.dialect = stream.dialect := (sniff_spec hsniff).1
  rw [hdialect, ByteStream.dialect_eq_jsonLines_iff]
  exact ⟨fun h hopens => (h.mpr hopens).2, fun h => ⟨And.left, fun hopens => ⟨hopens, h hopens⟩⟩⟩

-- A line of one information separator has no content for parsing, and it is the first line with
-- content to sniffing, which does not see the brace behind it.
theorem sniff_disagrees_behind_separator :
    let stream : ByteStream := ⟨Utf8.encode "\x1C\n\x7b\"a\":1\x7d\n".toList, .finished⟩
    ∃ sniffed, sniff stream = .ok sniffed ∧
      ¬(sniffed.dialect = .jsonLines ↔ stream.lines.OpensWithBrace) := by
  intro stream
  have htext : stream.lines.firstText? = some "\x7b\"a\":1\x7d".toList := by decide +kernel
  have hdialect : stream.dialect = .keyValue := by decide +kernel
  have hopens : stream.lines.OpensWithBrace := by
    rw [LineStream.OpensWithBrace, htext]
    simp
  obtain ⟨sniffed, hsniff⟩ := @exists_sniff_of_finished stream.bytes .whole
  refine ⟨sniffed, hsniff, fun hagree => ?_⟩
  have hsniffed : sniffed.dialect = stream.dialect := (sniff_spec hsniff).1
  rw [hsniffed, hdialect] at hagree
  cases hagree.mpr hopens

end LogSieve
