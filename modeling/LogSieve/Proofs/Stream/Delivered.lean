import LogSieve.Proofs.Stream.Replay
import Mathlib.Data.Seq.Basic

namespace LogSieve

open Stream' (Seq)

variable {σ : Type} [ByteSource σ]

def reads (source : σ) : List Nat → List (Except ReadFault (List UInt8)) × σ
  | [] => ([], source)
  | size :: rest =>
    let (answer, next) := ByteSource.read source size
    let (answers, last) := reads next rest
    (answer :: answers, last)

def delivered (answers : List (Except ReadFault (List UInt8))) : List UInt8 :=
  answers.flatMap fun answer => answer.toOption.getD []

theorem reads_cons (source : σ) (size : Nat) (rest : List Nat) :
    reads source (size :: rest) =
      ((ByteSource.read source size).1 :: (reads (ByteSource.read source size).2 rest).1,
        (reads (ByteSource.read source size).2 rest).2) := rfl

theorem reads_append (source : σ) (front back : List Nat) :
    reads source (front ++ back) =
      ((reads source front).1 ++ (reads (reads source front).2 back).1,
        (reads (reads source front).2 back).2) := by
  induction front generalizing source with
  | nil => rfl
  | cons size front ih =>
    rw [List.cons_append, reads_cons, ih, reads_cons]
    rfl

theorem delivered_cons (answer : Except ReadFault (List UInt8))
    (answers : List (Except ReadFault (List UInt8))) :
    delivered (answer :: answers) = answer.toOption.getD [] ++ delivered answers := rfl

theorem delivered_append (front back : List (Except ReadFault (List UInt8))) :
    delivered (front ++ back) = delivered front ++ delivered back :=
  List.flatMap_append

theorem delivered_map_ok (chunks : List (List UInt8)) :
    delivered (chunks.map .ok) = chunks.flatten := by
  induction chunks with
  | nil => rfl
  | cons chunk rest ih =>
    rw [List.map_cons, delivered_cons, ih]
    rfl

-- A source supplies some bytes: whatever the sizes of the reads and whichever of them fail, what
-- they deliver is the front of these bytes. A read takes as many as it was asked for at most, and
-- answers with none only if all were delivered before.
structure Supplies (source : σ) (content : Seq UInt8) : Prop where
  inOrder : ∀ sizes : List Nat, (∀ size ∈ sizes, 0 < size) →
    ∃ rest, Seq.append (delivered (reads source sizes).1) rest = content
  atMost : ∀ sizes : List Nat, (∀ size ∈ sizes, 0 < size) → ∀ size chunk, 0 < size →
    (ByteSource.read (reads source sizes).2 size).1 = .ok chunk → chunk.length ≤ size
  noneAtEnd : ∀ sizes : List Nat, (∀ size ∈ sizes, 0 < size) → ∀ size, 0 < size →
    (ByteSource.read (reads source sizes).2 size).1 = .ok [] →
      Seq.ofList (delivered (reads source sizes).1) = content

-- What each state of a source has to deliver, such that a read takes its bytes off the front, none
-- only at the end, and one that fails takes nothing.
structure Delivers (content : σ → Seq UInt8) : Prop where
  took : ∀ (source : σ) (size : Nat) (chunk : List UInt8), 0 < size →
    (ByteSource.read source size).1 = .ok chunk →
      Seq.append chunk (content (ByteSource.read source size).2) = content source ∧
        chunk.length ≤ size ∧ (chunk = [] → content source = .nil)
  kept : ∀ (source : σ) (size : Nat) (fault : ReadFault), 0 < size →
    (ByteSource.read source size).1 = .error fault →
      content (ByteSource.read source size).2 = content source

namespace Delivers

variable {content : σ → Seq UInt8}

theorem append_reads (h : Delivers content) (source : σ) {sizes : List Nat}
    (hsizes : ∀ size ∈ sizes, 0 < size) :
    Seq.append (delivered (reads source sizes).1) (content (reads source sizes).2) =
      content source := by
  induction sizes generalizing source with
  | nil => exact Seq.nil_append _
  | cons size rest ih =>
    obtain ⟨hsize, hrest⟩ := List.forall_mem_cons.mp hsizes
    rw [reads_cons, delivered_cons, Seq.ofList_append, Seq.append_assoc, ih _ hrest]
    cases hanswer : (ByteSource.read source size).1 with
    | ok chunk => exact (h.took source size chunk hsize hanswer).1
    | error fault => exact (Seq.nil_append _).trans (h.kept source size fault hsize hanswer)

theorem supplies (h : Delivers content) (source : σ) : Supplies source (content source) where
  inOrder sizes hsizes := ⟨_, h.append_reads source hsizes⟩
  atMost sizes _ size chunk hsize hchunk := (h.took _ size chunk hsize hchunk).2.1
  noneAtEnd sizes hsizes size hsize hchunk := by
    have hrun := h.append_reads source hsizes
    rwa [(h.took _ size [] hsize hchunk).2.2 rfl, Seq.append_nil] at hrun

end Delivers

namespace ByteStream

theorem length_le_of_read {stream rest : ByteStream} {size : Nat} {chunk : List UInt8}
    (h : stream.read size = (.ok chunk, rest)) : chunk.length ≤ size := by
  obtain ⟨bytes, ending⟩ := stream
  cases bytes with
  | cons b bytes =>
    cases h
    exact List.length_take_le size _
  | nil =>
    cases ending with
    | finished =>
      cases h
      exact Nat.zero_le size
    | failed fault => simp [read, atEnd] at h

theorem eq_of_read_error {stream rest : ByteStream} {size : Nat} {fault : ReadFault}
    (h : stream.read size = (.error fault, rest)) : rest = stream := by
  obtain ⟨hbytes, -⟩ := read_error h
  obtain ⟨bytes, ending⟩ := stream
  subst hbytes
  exact (congrArg Prod.snd h).symm

end ByteStream

theorem Delivery.next_le (delivery : Delivery) (size : Nat) : (delivery.next size).1 ≤ size := by
  cases delivery with
  | whole => exact Nat.le_refl size
  | portions sizes =>
    cases sizes with
    | nil => exact Nat.le_refl size
    | cons portion rest => exact Nat.min_le_left size _

theorem Pipe.delivers : Delivers fun pipe : Pipe => Seq.ofList pipe.stream.bytes where
  took pipe size chunk hsize hchunk := by
    have hread : pipe.stream.read (pipe.delivery.next size).1 =
        (.ok chunk, (ByteSource.read pipe size).2.stream) := Prod.ext hchunk rfl
    have hsome := ByteStream.read_some hread
    refine ⟨?_, ?_, ?_⟩
    · rw [← Seq.ofList_append, hsome.1]
    · exact (ByteStream.length_le_of_read hread).trans (pipe.delivery.next_le size)
    · rintro rfl
      rw [(ByteStream.read_nil (pipe.delivery.next_pos hsize) hread).1, Seq.ofList_nil]
  kept pipe size fault hsize hfault := by
    have hread : pipe.stream.read (pipe.delivery.next size).1 =
        (.error fault, (ByteSource.read pipe size).2.stream) := Prod.ext hfault rfl
    rw [ByteStream.eq_of_read_error hread]

-- A source some reads of which fail, as they are told to, and take nothing.
structure Interrupted (σ : Type) where
  source : σ
  faults : List (Option ReadFault)

instance : ByteSource (Interrupted σ) where
  read interrupted size :=
    match interrupted.faults with
    | some fault :: rest => (.error fault, ⟨interrupted.source, rest⟩)
    | faults =>
      let (answer, next) := ByteSource.read interrupted.source size
      (answer, ⟨next, faults.tail⟩)

theorem Interrupted.delivers {content : σ → Seq UInt8} (h : Delivers content) :
    Delivers fun interrupted : Interrupted σ => content interrupted.source where
  took := by
    rintro ⟨source, faults⟩ size chunk hsize hchunk
    match faults with
    | some fault :: rest => cases hchunk
    | none :: rest => exact h.took source size chunk hsize hchunk
    | [] => exact h.took source size chunk hsize hchunk
  kept := by
    rintro ⟨source, faults⟩ size fault hsize hfault
    match faults with
    | some _ :: rest => rfl
    | none :: rest => exact h.kept source size fault hsize hfault
    | [] => exact h.kept source size fault hsize hfault

namespace Replay

instance : ByteSource (Replay σ) := ⟨Replay.readInto⟩

def sizesBehind (pending : Nat) : List Nat → List Nat
  | [] => []
  | size :: rest => if pending = 0 then size :: rest else sizesBehind (pending - size) rest

def cuts (bytes : List UInt8) : List Nat → List (List UInt8)
  | [] => []
  | size :: rest => if bytes = [] then [] else bytes.take size :: cuts (bytes.drop size) rest

theorem sizesBehind_suffix (pending : Nat) (sizes : List Nat) :
    sizesBehind pending sizes <:+ sizes := by
  induction sizes generalizing pending with
  | nil => exact List.suffix_refl []
  | cons size rest ih =>
    rw [sizesBehind]
    split
    · exact List.suffix_refl _
    · exact (ih _).trans (List.suffix_cons size rest)

theorem sizesBehind_eq_nil {pending : Nat} {sizes : List Nat} (h : sizes.sum < pending) :
    sizesBehind pending sizes = [] := by
  induction sizes generalizing pending with
  | nil => rfl
  | cons size rest ih =>
    rw [List.sum_cons] at h
    rw [sizesBehind, if_neg (by omega)]
    apply ih
    omega

theorem exists_front (pending : Nat) (sizes : List Nat) :
    ∃ front, front ++ sizesBehind pending sizes = sizes ∧ sizesBehind pending front = [] ∧
      (sizesBehind pending sizes ≠ [] → pending ≤ front.sum) := by
  induction sizes generalizing pending with
  | nil => exact ⟨[], rfl, rfl, fun h => absurd rfl h⟩
  | cons size rest ih =>
    by_cases hpending : pending = 0
    · subst hpending
      exact ⟨[], rfl, rfl, fun _ => Nat.zero_le _⟩
    · obtain ⟨front, happend, hfront, hsum⟩ := ih (pending - size)
      rw [sizesBehind, if_neg hpending]
      refine ⟨size :: front, by rw [List.cons_append, happend], ?_, fun h => ?_⟩
      · rw [sizesBehind, if_neg hpending, hfront]
      · have hrest := hsum h
        rw [List.sum_cons]
        omega

theorem flatten_cuts (bytes : List UInt8) (sizes : List Nat) :
    (cuts bytes sizes).flatten = bytes.take sizes.sum := by
  induction sizes generalizing bytes with
  | nil => rfl
  | cons size rest ih =>
    rw [cuts]
    by_cases hnil : bytes = []
    · simp [hnil]
    · rw [if_neg hnil, List.flatten_cons, ih, List.sum_cons, List.take_add]

theorem reads_nil (source : σ) (sizes : List Nat) :
    reads (⟨[], source⟩ : Replay σ) sizes =
      ((reads source sizes).1, ⟨[], (reads source sizes).2⟩) := by
  induction sizes generalizing source with
  | nil => rfl
  | cons size rest ih =>
    have hread : ByteSource.read (⟨[], source⟩ : Replay σ) size =
        ((ByteSource.read source size).1, ⟨[], (ByteSource.read source size).2⟩) := rfl
    rw [reads_cons, hread, ih, reads_cons]

-- A run is pieces of the bytes to deliver once more, and behind them a run on the source, which is
-- not read before.
theorem reads_eq (bytes : List UInt8) (source : σ) (sizes : List Nat) :
    reads (⟨bytes, source⟩ : Replay σ) sizes =
      ((cuts bytes sizes).map .ok ++ (reads source (sizesBehind bytes.length sizes)).1,
        ⟨bytes.drop sizes.sum, (reads source (sizesBehind bytes.length sizes)).2⟩) := by
  induction sizes generalizing bytes with
  | nil => rfl
  | cons size rest ih =>
    by_cases hnil : bytes = []
    · subst hnil
      simp [reads_nil, cuts, sizesBehind]
    · have hread : ByteSource.read (⟨bytes, source⟩ : Replay σ) size =
          (.ok (bytes.take size), ⟨bytes.drop size, source⟩) := by
        cases bytes with
        | nil => exact absurd rfl hnil
        | cons b more => rfl
      have hlength : bytes.length ≠ 0 := by simpa using hnil
      rw [reads_cons, hread, ih, cuts, if_neg hnil, sizesBehind, if_neg hlength, List.length_drop,
        List.drop_drop, List.sum_cons]
      rfl

-- While bytes are left to deliver once more, a run takes of them and leaves the source alone.
theorem reads_of_lt {bytes : List UInt8} {sizes : List Nat} (source : σ)
    (h : sizes.sum < bytes.length) :
    delivered (reads (⟨bytes, source⟩ : Replay σ) sizes).1 = bytes.take sizes.sum ∧
      (reads (⟨bytes, source⟩ : Replay σ) sizes).2 = ⟨bytes.drop sizes.sum, source⟩ := by
  rw [reads_eq, sizesBehind_eq_nil h, delivered_append, delivered_map_ok, flatten_cuts]
  exact ⟨List.append_nil _, rfl⟩

theorem reads_of_le {bytes : List UInt8} {sizes : List Nat} (source : σ)
    (h : bytes.length ≤ sizes.sum) :
    delivered (reads (⟨bytes, source⟩ : Replay σ) sizes).1 =
        bytes ++ delivered (reads source (sizesBehind bytes.length sizes)).1 ∧
      (reads (⟨bytes, source⟩ : Replay σ) sizes).2 =
        ⟨[], (reads source (sizesBehind bytes.length sizes)).2⟩ := by
  rw [reads_eq, delivered_append, delivered_map_ok, flatten_cuts, List.take_of_length_le h,
    List.drop_eq_nil_of_le h]
  exact ⟨rfl, rfl⟩

theorem read_of_ne_nil {bytes : List UInt8} (source : σ) (size : Nat) (h : bytes ≠ []) :
    ByteSource.read (⟨bytes, source⟩ : Replay σ) size =
      (.ok (bytes.take size), ⟨bytes.drop size, source⟩) := by
  cases bytes with
  | nil => exact absurd rfl h
  | cons b more => rfl

theorem supplies {source : σ} {content : Seq UInt8} (h : Supplies source content)
    (bytes : List UInt8) :
    Supplies (⟨bytes, source⟩ : Replay σ) (Seq.append bytes content) := by
  have hasked : ∀ sizes : List Nat, (∀ size ∈ sizes, 0 < size) →
      ∀ size ∈ sizesBehind bytes.length sizes, 0 < size := fun sizes hsizes size hsize =>
    hsizes size ((sizesBehind_suffix bytes.length sizes).mem hsize)
  constructor
  case inOrder =>
    intro sizes hsizes
    rcases Nat.lt_or_ge sizes.sum bytes.length with hlt | hge
    · refine ⟨Seq.append (bytes.drop sizes.sum) content, ?_⟩
      rw [(reads_of_lt source hlt).1, ← Seq.append_assoc, ← Seq.ofList_append,
        List.take_append_drop]
    · obtain ⟨rest, hrest⟩ := h.inOrder _ (hasked sizes hsizes)
      refine ⟨rest, ?_⟩
      rw [(reads_of_le source hge).1, Seq.ofList_append, Seq.append_assoc, hrest]
  case atMost =>
    intro sizes hsizes size chunk hsize hchunk
    rcases Nat.lt_or_ge sizes.sum bytes.length with hlt | hge
    · have hleft : bytes.drop sizes.sum ≠ [] := by simpa using hlt
      rw [(reads_of_lt source hlt).2, read_of_ne_nil source size hleft] at hchunk
      cases hchunk
      exact List.length_take_le size _
    · rw [(reads_of_le source hge).2] at hchunk
      exact h.atMost _ (hasked sizes hsizes) size chunk hsize hchunk
  case noneAtEnd =>
    intro sizes hsizes size hsize hchunk
    rcases Nat.lt_or_ge sizes.sum bytes.length with hlt | hge
    · have hleft : bytes.drop sizes.sum ≠ [] := by simpa using hlt
      rw [(reads_of_lt source hlt).2, read_of_ne_nil source size hleft] at hchunk
      have hnone : (bytes.drop sizes.sum).take size = [] := by simpa using hchunk
      rcases List.take_eq_nil_iff.mp hnone with hzero | hnil
      · omega
      · exact absurd hnil hleft
    · rw [(reads_of_le source hge).2] at hchunk
      rw [(reads_of_le source hge).1, Seq.ofList_append,
        h.noneAtEnd _ (hasked sizes hsizes) size hsize hchunk]

theorem reads_split (bytes : List UInt8) (source : σ) (sizes : List Nat) :
    ∃ front asked, front ++ asked = sizes ∧ (asked ≠ [] → bytes.length ≤ front.sum) ∧
      (reads (⟨bytes, source⟩ : Replay σ) front).2.source = source ∧
      (reads (⟨bytes, source⟩ : Replay σ) sizes).2.source = (reads source asked).2 ∧
      (reads (⟨bytes, source⟩ : Replay σ) sizes).1 =
        (reads (⟨bytes, source⟩ : Replay σ) front).1 ++ (reads source asked).1 := by
  obtain ⟨front, happend, hfront, hsum⟩ := exists_front bytes.length sizes
  have hbefore : (reads (⟨bytes, source⟩ : Replay σ) front).2 = ⟨bytes.drop front.sum, source⟩ := by
    rw [reads_eq, hfront]
    rfl
  have hrun := reads_append (⟨bytes, source⟩ : Replay σ) front (sizesBehind bytes.length sizes)
  rw [happend, hbefore] at hrun
  refine ⟨front, sizesBehind bytes.length sizes, happend, hsum, by rw [hbefore], ?_⟩
  by_cases hasked : sizesBehind bytes.length sizes = []
  · rw [hasked] at hrun ⊢
    rw [hrun]
    exact ⟨rfl, rfl⟩
  · rw [List.drop_eq_nil_of_le (hsum hasked), reads_nil] at hrun
    rw [hrun]
    exact ⟨rfl, rfl⟩

-- Reads of any positive sizes on a replayed stream, with the bytes to deliver once more in front of
-- what the source supplies. What they deliver is the front of that, none of them takes more than it
-- was asked for, and one that answers with nothing comes behind everything. The source is asked for
-- nothing until the bytes are taken. A read that fails holds nothing back, and whatever is read
-- behind it goes on where the reads before it stopped.
theorem reads_through {source : σ} {content : Seq UInt8} (h : Supplies source content)
    (bytes : List UInt8) :
    let replay : Replay σ := ⟨bytes, source⟩
    Supplies replay (Seq.append bytes content) ∧
      ∀ sizes : List Nat, (∀ size ∈ sizes, 0 < size) →
        (∃ front asked, front ++ asked = sizes ∧ (asked ≠ [] → bytes.length ≤ front.sum) ∧
          (reads replay front).2.source = source ∧
          (reads replay sizes).2.source = (reads source asked).2 ∧
          (reads replay sizes).1 = (reads replay front).1 ++ (reads source asked).1) ∧
        ∀ (size : Nat) (fault : ReadFault) (failed : Replay σ), 0 < size →
          (reads replay sizes).2.readInto size = (.error fault, failed) →
          failed.pending = [] ∧
            ∀ more : List Nat, (∀ size ∈ more, 0 < size) →
              ∃ rest, Seq.append (delivered (reads replay sizes).1 ++
                delivered (reads failed more).1) rest = Seq.append bytes content := by
  intro replay
  refine ⟨supplies h bytes, fun sizes hsizes => ⟨reads_split bytes source sizes, ?_⟩⟩
  intro size fault failed hsize hread
  constructor
  · generalize (reads replay sizes).2 = state at hread
    obtain ⟨pending, state⟩ := state
    cases pending with
    | nil => exact (congrArg (fun outcome => outcome.2.pending) hread).symm
    | cons b pending => cases hread
  · intro more hmore
    -- The failing read and what is read behind it are one more run of the whole.
    have hall : ∀ other ∈ sizes ++ size :: more, 0 < other := by
      intro other hother
      rcases List.mem_append.mp hother with hother | hother
      · exact hsizes other hother
      · rcases List.mem_cons.mp hother with rfl | hother
        · exact hsize
        · exact hmore other hother
    obtain ⟨rest, hrest⟩ := (supplies h bytes).inOrder _ hall
    refine ⟨rest, ?_⟩
    rw [← hrest, reads_append, reads_cons, delivered_append, delivered_cons]
    have hanswer : ByteSource.read (reads replay sizes).2 size = (.error fault, failed) := hread
    rw [hanswer]
    rfl

-- Two bytes are put back in front of a stream that delivers two bytes, then as many as it is asked
-- for. It fails once in between, and at its end.
theorem reads_through_interrupted :
    let bytes : List UInt8 := [1, 2]
    let pipe : Pipe := ⟨⟨[3, 4, 5, 6, 7], .failed ⟨"gone"⟩⟩, .portions [2]⟩
    let source : Interrupted Pipe := ⟨pipe, [none, some ⟨"busy"⟩]⟩
    let replay : Replay (Interrupted Pipe) := ⟨bytes, source⟩
    let content := Seq.ofList pipe.stream.bytes
    let failed := ((reads replay [1, 4, 4]).2.readInto 4).2
    Supplies source content ∧ (∀ size ∈ [1, 4, 4], 0 < size) ∧
      (reads replay [1, 4, 4]).1 = [.ok [1], .ok [2], .ok [3, 4]] ∧
      (reads replay [1, 4, 4]).2.readInto 4 = (.error ⟨"busy"⟩, failed) ∧
      (reads failed [2, 4, 4]).1 = [.ok [5, 6], .ok [7], .error ⟨"gone"⟩] ∧
      Supplies replay (Seq.append bytes content) ∧
      ∃ rest, Seq.append (delivered (reads replay [1, 4, 4]).1 ++
        delivered (reads failed [2, 4, 4]).1) rest = Seq.append bytes content := by
  intro bytes pipe source replay content failed
  have hsource : Supplies source content := (Interrupted.delivers Pipe.delivers).supplies source
  obtain ⟨hsupplies, hruns⟩ := reads_through hsource bytes
  have hfailed := (hruns [1, 4, 4] (by decide)).2 4 ⟨"busy"⟩ failed (by decide) rfl
  exact ⟨hsource, by decide, rfl, rfl, rfl, hsupplies, hfailed.2 [2, 4, 4] (by decide)⟩

end Replay

end LogSieve
