import LogSieve.Proofs.Run.Undated
import LogSieve.Proofs.Time.Spelling

namespace LogSieve

def Value.Spells (v : Value) (spelling : Timestamp.Spelling) : Prop :=
  ∃ text, v.canonical = .ok text ∧ Timestamp.Spells text.toList spelling

theorem Value.Spells.exists_instant? {v : Value} {spelling : Timestamp.Spelling}
    (h : v.Spells spelling) :
    ∃ t, v.instant? = some t ∧ t.instant = spelling.kept := by
  obtain ⟨text, htext, hspells⟩ := h
  obtain ⟨t, ht, hinstant⟩ := hspells.exists_ofText?
  exact ⟨t, by simpa [instant?, htext, Except.toOption] using ht, hinstant⟩

theorem Value.exists_spells {v : Value} {t : DateTime} (h : v.instant? = some t) :
    ∃ spelling, v.Spells spelling := by
  rw [instant?] at h
  cases htext : v.canonical with
  | error fault =>
    rw [htext] at h
    cases h
  | ok text =>
    rw [htext] at h
    obtain ⟨spelling, hspells⟩ := Timestamp.exists_spells h
    exact ⟨spelling, text, htext, hspells⟩

namespace Record

-- A record spells what the first of its timestamp fields spells that spells an instant.
def Spells (record : Record) (spelling : Timestamp.Spelling) : Prop :=
  ∃ before name behind value, timestampNames = before ++ name :: behind ∧
    record.get? name = some value ∧ value.Spells spelling ∧
    ∀ other ∈ before, ∀ v, record.get? other = some v → ¬∃ s, v.Spells s

theorem instantAt?_eq_none_iff (record : Record) (name : String) :
    record.instantAt? name = none ↔ ∀ v, record.get? name = some v → ¬∃ s, v.Spells s := by
  rw [instantAt?]
  cases hget : record.get? name with
  | none => simp
  | some value =>
    simp only [Option.bind_some, Option.some.injEq, forall_eq']
    constructor
    · rintro hnone ⟨s, hs⟩
      obtain ⟨t, ht, -⟩ := hs.exists_instant?
      rw [hnone] at ht
      cases ht
    · intro hnever
      cases hinstant : value.instant? with
      | none => rfl
      | some t => exact absurd (Value.exists_spells hinstant) hnever

theorem Spells.exists_timestamp {record : Record} {spelling : Timestamp.Spelling}
    (h : record.Spells spelling) :
    ∃ t, timestampNames.findSome? record.instantAt? = some t ∧ t.instant = spelling.kept := by
  obtain ⟨before, name, behind, value, hnames, hget, hspells, hbefore⟩ := h
  obtain ⟨t, ht, hinstant⟩ := hspells.exists_instant?
  refine ⟨t, ?_, hinstant⟩
  rw [List.findSome?_eq_some_iff]
  refine ⟨before, name, behind, hnames, ?_, fun other hother => ?_⟩
  · rw [instantAt?, hget, Option.bind_some, ht]
  · exact (record.instantAt?_eq_none_iff other).mpr (hbefore other hother)

theorem exists_spells {record : Record} {t : DateTime}
    (h : timestampNames.findSome? record.instantAt? = some t) :
    ∃ spelling, record.Spells spelling := by
  obtain ⟨before, name, behind, hnames, ht, hbefore⟩ := List.findSome?_eq_some_iff.mp h
  obtain ⟨value, hget, hvalue⟩ := Option.bind_eq_some_iff.mp ht
  obtain ⟨spelling, hspells⟩ := Value.exists_spells hvalue
  exact ⟨spelling, before, name, behind, value, hnames, hget, hspells, fun other hother =>
    (record.instantAt?_eq_none_iff other).mp (hbefore other hother)⟩

theorem Spells.congr {record other : Record} {spelling : Timestamp.Spelling}
    (h : record.Spells spelling)
    (hget : ∀ name ∈ timestampNames, record.get? name = other.get? name) :
    other.Spells spelling := by
  obtain ⟨before, name, behind, value, hnames, hvalue, hspells, hbefore⟩ := h
  have hmem : ∀ {n}, n ∈ before ∨ n = name → n ∈ timestampNames := by
    intro n hn
    rw [hnames, List.mem_append, List.mem_cons]
    tauto
  refine ⟨before, name, behind, value, hnames, ?_, hspells, fun n hn v hv => ?_⟩
  · rw [← hget name (hmem (.inr rfl)), hvalue]
  · rw [← hget n (hmem (.inl hn))] at hv
    exact hbefore n hn v hv

theorem get?_withSource_of_mem (record : Record) (source : String) :
    ∀ name ∈ timestampNames, (record.withSource source).get? name = record.get? name := by
  intro name hname
  refine record.get?_withSource_of_ne source ?_
  rintro rfl
  exact absurd hname (by decide)

end Record

namespace Merge

theorem key_of_spells {sources : List (String × ByteStream)} {merged : Merged}
    (h : merged ∈ entries sources) {spelling : Timestamp.Spelling}
    (hspells : merged.record.Spells spelling) :
    merged.key.instant = spelling.kept := by
  obtain ⟨source, -, hmerged⟩ := List.mem_flatMap.mp h
  obtain ⟨record, -, rfl⟩ := List.mem_map.mp hmerged
  have hrecord : record.Spells spelling :=
    hspells.congr (record.get?_withSource_of_mem source.1)
  obtain ⟨t, ht, hinstant⟩ := hrecord.exists_timestamp
  rw [Merged.instant_key_of_some (t := t) ht, hinstant]

theorem isSome_timestamp_iff {sources : List (String × ByteStream)} {merged : Merged}
    (h : merged ∈ entries sources) :
    merged.timestamp.isSome = true ↔ ∃ spelling, merged.record.Spells spelling := by
  obtain ⟨source, -, hmerged⟩ := List.mem_flatMap.mp h
  obtain ⟨record, -, rfl⟩ := List.mem_map.mp hmerged
  constructor
  · intro hsome
    obtain ⟨t, ht⟩ := Option.isSome_iff_exists.mp hsome
    obtain ⟨spelling, hspells⟩ := Record.exists_spells ht
    refine ⟨spelling, hspells.congr fun name hname => ?_⟩
    exact (record.get?_withSource_of_mem source.1 name hname).symm
  · rintro ⟨spelling, hspells⟩
    have hrecord : record.Spells spelling :=
      hspells.congr (record.get?_withSource_of_mem source.1)
    obtain ⟨t, ht, -⟩ := hrecord.exists_timestamp
    exact Option.isSome_iff_exists.mpr ⟨t, ht⟩

-- Of two records of a merge that spell instants, the one of the earlier instant comes first, as far
-- as the two instants are kept, whatever the spellings, the sources and the lines. Of date-times with
-- microseconds at most and of whole seconds since 1970 everything is kept, so between such the
-- earlier instant comes first. The records that spell instants are those with a timestamp.
theorem run_instants {sources : List (String × ByteStream)} {sorted : List Merged}
    (h : (run sources).entries = .ok sorted) :
    (∀ merged ∈ sorted,
      merged.timestamp.isSome = true ↔ ∃ spelling, merged.record.Spells spelling) ∧
    ∀ (i j : Nat) (a b : Merged) (first second : Timestamp.Spelling),
      sorted[i]? = some a → sorted[j]? = some b →
      a.record.Spells first → b.record.Spells second →
        (first.kept < second.kept → i < j) ∧
        (first.IsKept → second.IsKept → first.instant < second.instant → i < j) := by
  have hsort := (stableSort_of_run h).1
  refine ⟨fun merged hmerged => isSome_timestamp_iff (hsort.perm.subset hmerged), ?_⟩
  intro i j a b first second ha hb hfirst hsecond
  have hka := key_of_spells (hsort.perm.subset (List.mem_of_getElem? ha)) hfirst
  have hkb := key_of_spells (hsort.perm.subset (List.mem_of_getElem? hb)) hsecond
  have hkept : first.kept < second.kept → i < j := by
    intro hlt
    exact hsort.index_lt ha hb (by omega)
  refine ⟨hkept, fun hwhole hwhole' hlt => hkept ?_⟩
  obtain ⟨-, -, -, -, -, -, ⟨text, -, hspells⟩, -⟩ := hfirst
  obtain ⟨-, -, -, -, -, -, ⟨text', -, hspells'⟩, -⟩ := hsecond
  have heq := hspells.kept_eq_instant hwhole
  have heq' := hspells'.kept_eq_instant hwhole'
  have hscaled : (first.kept : ℚ) < second.kept := by
    rw [heq, heq']
    linarith
  exact_mod_cast hscaled

-- Half a second behind a second, and nine tenths of one behind the same second.
def tenthsSources : List (String × ByteStream) :=
  [("app", ⟨Utf8.encode ("\x7b\"ts\":\"2023-11-14T22:13:20.5Z\"\x7d\n" ++
    "\x7b\"ts\":1700000000.9\x7d\n").toList, .finished⟩)]

def halfSecond : Timestamp.Spelling :=
  .dateTime ⟨2023, 11, 14, by decide, by decide, by decide⟩ 80000 [5] 0

def nineTenths : Timestamp.Spelling :=
  .epoch ⟨17000000009, -1⟩

def halfSecondShape : Timestamp.Shape :=
  ⟨"2023".toList, "11".toList, "14".toList, "22".toList, "13".toList, "20".toList, "5".toList,
    false, ['0'], ['0']⟩

theorem spells_halfSecond : Timestamp.Spells "2023-11-14T22:13:20.5Z".toList halfSecond := by
  have hshape : Timestamp.shape? "2023-11-14T22:13:20.5Z".toList = some halfSecondShape := rfl
  have hdigits : (halfSecondShape.rows.all fun row => row.all Char.isDigit) = true := rfl
  exact .dateTime (Timestamp.shape?_eq_some_iff.mp hshape)
    (fun row hrow => List.all_eq_true.mp (List.all_eq_true.mp hdigits row hrow)) ⟨rfl, rfl, rfl⟩
    (by decide) (by decide)

theorem spells_nineTenths : Timestamp.Spells "1700000000.9".toList nineTenths := by
  have hwhole : (Decimal.toDouble false ⟨17000000009, -1⟩).truncate? = some 1700000000 := by
    decide +kernel
  exact Timestamp.spells_epoch (by decide +kernel) (by decide +kernel) hwhole (by decide)

theorem instant_halfSecond_lt : halfSecond.instant < nineTenths.instant := by
  have hday : Date.dayNumber ⟨2023, 11, 14, by decide, by decide, by decide⟩ = 738837 := rfl
  rw [halfSecond, nineTenths, Timestamp.Spelling.instant, Timestamp.Spelling.instant, hday,
    Decimal.value, DateTime.epochDay]
  norm_num [fractionValue]

theorem spells_of_ts {record : Record} {text : String} {spelling : Timestamp.Spelling}
    (htime : record.get? "time" = none)
    (hts : (record.get? "ts").bind (fun value => value.canonical.toOption) = some text)
    (h : Timestamp.Spells text.toList spelling) : record.Spells spelling := by
  obtain ⟨value, hvalue, htext⟩ := Option.bind_eq_some_iff.mp hts
  have hcanonical : value.canonical = .ok text := by
    cases hresult : value.canonical with
    | error fault => simp [hresult, Except.toOption] at htext
    | ok found => simpa [hresult, Except.toOption] using htext
  refine ⟨["time"], "ts", ["timestamp"], value, rfl, hvalue, ⟨text, hcanonical, h⟩, ?_⟩
  intro other hother v hv
  rw [List.mem_singleton.mp hother, htime] at hv
  cases hv

theorem entries_tenthsSources :
    ∃ a b, entries tenthsSources = [a, b] ∧ a.record.Spells halfSecond ∧
      b.record.Spells nineTenths ∧ b.key.instant < a.key.instant := by
  have hevaluated : (entries tenthsSources).map (fun merged =>
      ((merged.record.get? "time").isNone,
        (merged.record.get? "ts").bind (fun value => value.canonical.toOption),
        merged.key.instant)) =
      [(true, some "2023-11-14T22:13:20.5Z", 63835596800500000),
        (true, some "1700000000.9", 63835596800000000)] := by
    decide +kernel
  obtain ⟨a, more, hentries, ha, hmore⟩ := List.map_eq_cons_iff.mp hevaluated
  obtain ⟨b, rest, rfl, hb, hrest⟩ := List.map_eq_cons_iff.mp hmore
  rw [List.map_eq_nil_iff.mp hrest] at hentries
  simp only [Prod.mk.injEq, Option.isNone_iff_eq_none] at ha hb
  refine ⟨a, b, hentries, spells_of_ts ha.1 ha.2.1 spells_halfSecond,
    spells_of_ts hb.1 hb.2.1 spells_nineTenths, ?_⟩
  rw [ha.2.2, hb.2.2]
  decide

theorem exists_run_tenthsSources : ∃ sorted, (run tenthsSources).entries = .ok sorted := by
  have hsniff : ∀ source ∈ tenthsSources, ∃ sniffed, sniff source.2 = .ok sniffed := by
    simp only [tenthsSources, List.forall_mem_cons]
    exact ⟨exists_sniff_of_finished _, by simp⟩
  exact exists_run_of_text hsniff (text_of_all (by decide +kernel))

-- Of the nine tenths nothing is kept, so the record on the second line comes out in front.
theorem run_instants_tenthsSources :
    ∃ (sorted : List Merged) (i j : Nat) (a b : Merged),
      (run tenthsSources).entries = .ok sorted ∧ sorted[i]? = some b ∧ sorted[j]? = some a ∧
      b.record.Spells nineTenths ∧ a.record.Spells halfSecond ∧
      nineTenths.kept < halfSecond.kept ∧ i < j := by
  obtain ⟨sorted, hsorted⟩ := exists_run_tenthsSources
  obtain ⟨a, b, hentries, hfirst, hsecond, hkey⟩ := entries_tenthsSources
  have ha : a ∈ entries tenthsSources := by simp [hentries]
  have hb : b ∈ entries tenthsSources := by simp [hentries]
  have hperm := (stableSort_of_run hsorted).1.perm
  obtain ⟨i, hi⟩ := List.getElem?_of_mem (hperm.symm.subset hb)
  obtain ⟨j, hj⟩ := List.getElem?_of_mem (hperm.symm.subset ha)
  have hkept : nineTenths.kept < halfSecond.kept := by
    rw [← key_of_spells ha hfirst, ← key_of_spells hb hsecond]
    exact hkey
  exact ⟨sorted, i, j, a, b, hsorted, hi, hj, hsecond, hfirst, hkept,
    ((run_instants hsorted).2 i j b a nineTenths halfSecond hi hj hsecond hfirst).1 hkept⟩

-- The earlier of two instants need not come first.
theorem not_run_instants :
    ¬∀ (sources : List (String × ByteStream)) (sorted : List Merged),
      (run sources).entries = .ok sorted →
      ∀ (i j : Nat) (a b : Merged) (first second : Timestamp.Spelling),
        sorted[i]? = some a → sorted[j]? = some b →
        a.record.Spells first → b.record.Spells second → first.instant < second.instant →
          i < j := by
  intro hinstants
  obtain ⟨sorted, hsorted⟩ := exists_run_tenthsSources
  obtain ⟨a, b, hentries, hfirst, hsecond, hkey⟩ := entries_tenthsSources
  have hsort := (stableSort_of_run hsorted).1
  obtain ⟨i, hi⟩ := List.getElem?_of_mem (hsort.perm.symm.subset (a := a) (by simp [hentries]))
  obtain ⟨j, hj⟩ := List.getElem?_of_mem (hsort.perm.symm.subset (a := b) (by simp [hentries]))
  have hearlier : i < j := hinstants tenthsSources sorted hsorted i j a b halfSecond nineTenths hi
    hj hfirst hsecond instant_halfSecond_lt
  have hlater : j < i := hsort.index_lt hj hi hkey
  omega

end Merge

end LogSieve
