import LogSieve.Log.KeyValue
import LogSieve.Proofs.Text.Blank

namespace LogSieve

namespace Record

theorem fields_foldl_insert (entries : List (String × Value)) (record : Record) :
    (entries.foldl (fun record (name, value) => record.insert name value) record).fields =
      entries.foldl (fun fields entry => Fields.insert entry.1 entry.2 fields) record.fields := by
  induction entries generalizing record with
  | nil => rfl
  | cons entry rest ih => exact ih (record.insert entry.1 entry.2)

theorem ofList_eq_foldl (entries : List (String × Value)) :
    ofList entries =
      entries.foldl (fun record (name, value) => record.insert name value) (ofList []) := by
  have hfields := fields_foldl_insert entries (ofList [])
  generalize entries.foldl (fun record (name, value) => record.insert name value)
    (ofList []) = record at hfields ⊢
  obtain ⟨fields, hordered⟩ := record
  simp only at hfields
  subst hfields
  rfl

end Record

namespace KeyValue

inductive Spelling where
  | quoted (body : List Char)
  | bare (run : List Char)

def Spelling.content : Spelling → List Char
  | .quoted body => body
  | .bare run => run

structure Pair where
  key : List Char
  value : Spelling

def IsSpace (text : List Char) : Prop :=
  ∀ c ∈ text, isBlank c = true

instance (text : List Char) : Decidable (IsSpace text) :=
  decidable_of_iff (text.all isBlank = true) List.all_eq_true

-- A key may be empty and hold white space, though not at its start.
def IsKey (key : List Char) : Prop :=
  '=' ∉ key ∧ ∀ c ∈ key.head?, isBlank c = false

instance (key : List Char) : Decidable (IsKey key) :=
  decidable_of_iff ('=' ∉ key ∧ key.head?.any isBlank = false) (by
    cases key <;> simp [IsKey])

-- Right before every quote stands a backslash, and none at the end.
def IsBody (body : List Char) : Prop :=
  (∀ front back, body = front ++ '"' :: back → front.getLast? = some '\\') ∧
    body.getLast? ≠ some '\\'

def IsRun (run : List Char) : Prop :=
  (∀ c ∈ run, isBlank c = false) ∧ run.head? ≠ some '"'

def IsFlag (flag : List Char) : Prop :=
  flag ≠ [] ∧ trim flag = flag ∧ '=' ∉ flag

-- A value in front of the rest of its line. White space or the end follows a bare value; anything
-- may follow a quoted one.
inductive IsValue : Spelling → List Char → List Char → Prop
  | quoted {body rest : List Char} (hbody : IsBody body) :
      IsValue (.quoted body) ('"' :: (body ++ '"' :: rest)) rest
  | bare {run rest : List Char} (hrun : IsRun run) (hrest : ∀ c ∈ rest.head?, isBlank c = true) :
      IsValue (.bare run) (run ++ rest) rest

-- Pairs, then a flag if there is one, with white space around them.
inductive IsLine : List Pair → Option (List Char) → List Char → Prop
  | blank {space : List Char} (hspace : IsSpace space) : IsLine [] none space
  | flag {before flag after : List Char} (hbefore : IsSpace before) (hflag : IsFlag flag)
      (hafter : IsSpace after) : IsLine [] (some flag) (before ++ flag ++ after)
  | pair {before key text rest : List Char} {value : Spelling} {pairs : List Pair}
      {flag : Option (List Char)} (hbefore : IsSpace before) (hkey : IsKey key)
      (hvalue : IsValue value text rest) (hmore : IsLine pairs flag rest) :
      IsLine (⟨key, value⟩ :: pairs) flag (before ++ (key ++ '=' :: text))

def denoted (pairs : List Pair) (flag : Option (List Char)) : List (String × Value) :=
  pairs.map (fun pair => (String.ofList pair.key, .string (String.ofList pair.value.content))) ++
    flag.toList.map fun flag => (String.ofList flag, .bool true)

theorem splitKey?_append {key : List Char} (text : List Char) (hkey : '=' ∉ key) :
    splitKey? (key ++ '=' :: text) = some (key, text) := by
  induction key with
  | nil => simp [splitKey?]
  | cons c key ih =>
    obtain ⟨hc, hmore⟩ := List.ne_and_not_mem_of_not_mem_cons hkey
    simp [splitKey?, hc.symm, ih hmore]

theorem eq_of_splitKey? {text key rest : List Char} (h : splitKey? text = some (key, rest)) :
    text = key ++ '=' :: rest ∧ '=' ∉ key := by
  induction text generalizing key with
  | nil => simp [splitKey?] at h
  | cons c text ih =>
    unfold splitKey? at h
    split at h
    · rename_i hc
      cases h
      exact ⟨by rw [hc]; rfl, by simp⟩
    · rename_i hc
      simp only [Option.map_eq_some_iff, Prod.exists, Prod.mk.injEq] at h
      obtain ⟨tail, _, htail, rfl, rfl⟩ := h
      obtain ⟨htext, hnot⟩ := ih htail
      refine ⟨by rw [htext]; rfl, ?_⟩
      rw [List.mem_cons, not_or]
      exact ⟨Ne.symm hc, hnot⟩

theorem splitKey?_eq_none_iff {text : List Char} : splitKey? text = none ↔ '=' ∉ text := by
  induction text with
  | nil => simp [splitKey?]
  | cons c text ih =>
    by_cases hc : c = '='
    · simp [splitKey?, hc]
    · simp [splitKey?, hc, ih, Ne.symm hc]

def Escaped (before : Char) : List Char → Prop
  | [] => before ≠ '\\'
  | c :: rest => (c = '"' → before = '\\') ∧ Escaped c rest

theorem quotedBody_append {before : Char} {body : List Char} (rest : List Char)
    (h : Escaped before body) : quotedBody before (body ++ '"' :: rest) = some (body, rest) := by
  induction body generalizing before with
  | nil => exact if_pos ⟨rfl, h⟩
  | cons c body ih =>
    obtain ⟨hquote, hmore⟩ := h
    have hopen : ¬(c = '"' ∧ before ≠ '\\') := fun hclose => hclose.2 (hquote hclose.1)
    rw [List.cons_append, quotedBody, if_neg hopen, ih hmore]
    rfl

theorem eq_of_quotedBody {before : Char} {text body rest : List Char}
    (h : quotedBody before text = some (body, rest)) :
    text = body ++ '"' :: rest ∧ Escaped before body := by
  induction text generalizing before body with
  | nil => simp [quotedBody] at h
  | cons c text ih =>
    unfold quotedBody at h
    split at h
    · rename_i hclose
      cases h
      exact ⟨by rw [hclose.1]; rfl, hclose.2⟩
    · rename_i hopen
      simp only [Option.map_eq_some_iff, Prod.exists, Prod.mk.injEq] at h
      obtain ⟨tail, _, htail, rfl, rfl⟩ := h
      obtain ⟨htext, hescaped⟩ := ih htail
      refine ⟨by rw [htext]; rfl, fun hc => ?_, hescaped⟩
      by_contra hbefore
      exact hopen ⟨hc, hbefore⟩

theorem escaped_iff {before : Char} {body : List Char} :
    Escaped before body ↔
      (∀ front back, body = front ++ '"' :: back → (before :: front).getLast? = some '\\') ∧
        (before :: body).getLast? ≠ some '\\' := by
  induction body generalizing before with
  | nil => simp [Escaped]
  | cons c body ih =>
    rw [Escaped, ih]
    constructor
    · rintro ⟨hquote, hmore, hlast⟩
      refine ⟨fun front back hbody => ?_, by rwa [List.getLast?_cons_cons]⟩
      cases front with
      | nil =>
        obtain ⟨hc, -⟩ := List.cons.inj hbody
        rw [hquote hc]
        rfl
      | cons d front =>
        obtain ⟨rfl, htail⟩ := List.cons.inj hbody
        rw [List.getLast?_cons_cons]
        exact hmore front back htail
    · rintro ⟨hquote, hlast⟩
      refine ⟨fun hc => ?_, fun front back hbody => ?_, by rwa [List.getLast?_cons_cons] at hlast⟩
      · simpa using hquote [] body (by rw [hc]; rfl)
      · have hfront := hquote (c :: front) back (by rw [hbody]; rfl)
        rwa [List.getLast?_cons_cons] at hfront

-- Right behind the opening quote there is nothing yet that could escape.
theorem isBody_iff_escaped {body : List Char} : IsBody body ↔ Escaped '"' body := by
  have hlast : ∀ text : List Char,
      ('"' :: text).getLast? = some '\\' ↔ text.getLast? = some '\\' := by
    intro text
    cases text with
    | nil => decide
    | cons c text => rw [List.getLast?_cons_cons]
  simp only [escaped_iff, IsBody, ne_eq, hlast]

theorem quotedBody_of_isBody {body : List Char} (rest : List Char) (h : IsBody body) :
    quotedBody '"' (body ++ '"' :: rest) = some (body, rest) :=
  quotedBody_append rest (isBody_iff_escaped.mp h)

theorem takeWhile_run {run rest : List Char} (hrun : IsRun run)
    (hrest : ∀ c ∈ rest.head?, isBlank c = true) :
    (run ++ rest).takeWhile (!isBlank ·) = run ∧ (run ++ rest).dropWhile (!isBlank ·) = rest := by
  have hall : ∀ c ∈ run, (!isBlank c) = true := fun c hc => by rw [hrun.1 c hc]; rfl
  have hstop : ∀ c ∈ rest.head?, (!isBlank c) = false := fun c hc => by rw [hrest c hc]; rfl
  exact span_append hall hstop

theorem head?_run_ne {run rest : List Char} (hrun : IsRun run)
    (hrest : ∀ c ∈ rest.head?, isBlank c = true) : (run ++ rest).head? ≠ some '"' := by
  cases run with
  | cons c run => exact hrun.2
  | nil =>
    intro hquote
    have hblank := hrest '"' hquote
    revert hblank
    decide

theorem IsValue.unique {value value' : Spelling} {text text' rest rest' : List Char}
    (h : IsValue value text rest) (h' : IsValue value' text' rest') (htext : text = text') :
    value = value' ∧ rest = rest' := by
  cases h with
  | quoted hbody =>
    cases h' with
    | quoted hbody' =>
      have hsome := quotedBody_of_isBody rest hbody
      rw [(List.cons.inj htext).2, quotedBody_of_isBody rest' hbody'] at hsome
      cases hsome
      exact ⟨rfl, rfl⟩
    | bare hrun' hrest' =>
      have hne := head?_run_ne hrun' hrest'
      rw [← htext] at hne
      exact absurd rfl hne
  | bare hrun hrest =>
    cases h' with
    | quoted hbody' =>
      have hne := head?_run_ne hrun hrest
      rw [htext] at hne
      exact absurd rfl hne
    | bare hrun' hrest' =>
      obtain ⟨htake, hdrop⟩ := takeWhile_run hrun hrest
      obtain ⟨htake', hdrop'⟩ := takeWhile_run hrun' hrest'
      rw [htext] at htake hdrop
      rw [← htake, ← hdrop, htake', hdrop']
      exact ⟨rfl, rfl⟩

theorem isBlank_eq_sign : isBlank '=' = false := by decide

theorem not_mem_of_isSpace {space : List Char} (h : IsSpace space) : '=' ∉ space :=
  not_mem_of_forall isBlank_eq_sign h

theorem IsLine.of_nil {flag : Option (List Char)} {text : List Char} (h : IsLine [] flag text) :
    '=' ∉ text ∧ flag = if trim text = [] then none else some (trim text) := by
  cases h with
  | blank hspace =>
    have htrim : trim text = [] := stripBoth_eq_nil_iff.mpr hspace
    exact ⟨not_mem_of_isSpace hspace, by simp [htrim]⟩
  | flag hbefore hflag hafter =>
    rename_i before flag after
    obtain ⟨hne, htrim, hsign⟩ := hflag
    have htext : trim (before ++ flag ++ after) = flag :=
      (stripBoth_surround flag hbefore hafter).trans htrim
    refine ⟨?_, by rw [htext, if_neg hne]⟩
    simp [hsign, not_mem_of_isSpace hbefore, not_mem_of_isSpace hafter]

theorem dropWhile_key {before key : List Char} (text : List Char) (hbefore : IsSpace before)
    (hkey : IsKey key) :
    (before ++ (key ++ '=' :: text)).dropWhile isBlank = key ++ '=' :: text := by
  rw [List.dropWhile_append_of_pos hbefore]
  apply dropWhile_of_head?
  intro c hc
  cases key with
  | nil =>
    obtain rfl : '=' = c := by simpa using hc
    exact isBlank_eq_sign
  | cons d key => exact hkey.2 c hc

theorem IsLine.of_cons {pair : Pair} {pairs : List Pair} {flag : Option (List Char)}
    {line : List Char} (h : IsLine (pair :: pairs) flag line) :
    ∃ text rest, splitKey? (line.dropWhile isBlank) = some (pair.key, text) ∧
      IsValue pair.value text rest ∧ IsLine pairs flag rest ∧ '=' ∈ line := by
  cases h with
  | pair hbefore hkey hvalue hmore =>
    rename_i before key text rest value
    refine ⟨text, rest, ?_, hvalue, hmore, by simp⟩
    rw [dropWhile_key text hbefore hkey]
    exact splitKey?_append text hkey.1

theorem IsLine.unique {pairs pairs' : List Pair} {flag flag' : Option (List Char)}
    {line : List Char} (h : IsLine pairs flag line) (h' : IsLine pairs' flag' line) :
    pairs = pairs' ∧ flag = flag' := by
  induction pairs generalizing pairs' line with
  | nil =>
    obtain ⟨hsign, hflag⟩ := h.of_nil
    cases pairs' with
    | nil => exact ⟨rfl, hflag.trans h'.of_nil.2.symm⟩
    | cons pair' pairs' =>
      obtain ⟨_, _, -, -, -, hmem⟩ := h'.of_cons
      exact absurd hmem hsign
  | cons pair pairs ih =>
    obtain ⟨text, rest, hkey, hvalue, hmore, hmem⟩ := h.of_cons
    cases pairs' with
    | nil => exact absurd hmem h'.of_nil.1
    | cons pair' pairs' =>
      obtain ⟨text', rest', hkey', hvalue', hmore', -⟩ := h'.of_cons
      rw [hkey] at hkey'
      obtain ⟨hkeys, htexts⟩ := Prod.mk.inj (Option.some.inj hkey')
      obtain ⟨hvalues, rfl⟩ := hvalue.unique hvalue' htexts
      obtain ⟨rfl, hflags⟩ := ih hmore hmore'
      obtain ⟨key, value⟩ := pair
      obtain ⟨key', value'⟩ := pair'
      simp only at hkeys hvalues
      subst hkeys hvalues
      exact ⟨rfl, hflags⟩

theorem value_of_head?_ne {text : List Char} (h : text.head? ≠ some '"') :
    value text =
      .ok (text.takeWhile (!isBlank ·), (text.dropWhile (!isBlank ·)).drop 1) := by
  unfold value
  split
  · exact absurd rfl h
  · rfl

theorem trim_rdropWhile (text : List Char) : trim (text.rdropWhile isBlank) = trim text := by
  have hspace : IsSpace (text.rtakeWhile isBlank) := fun c hc => List.mem_rtakeWhile_imp hc
  calc trim (text.rdropWhile isBlank)
      = trim ([] ++ text.rdropWhile isBlank ++ text.rtakeWhile isBlank) :=
        (stripBoth_surround _ (by simp) hspace).symm
    _ = trim text := by rw [List.nil_append, List.rdropWhile_append_rtakeWhile]

theorem trim_cons {c : Char} (text : List Char) (hc : isBlank c = true) :
    trim (c :: text) = trim text := by
  have hspace : IsSpace [c] := by simpa [IsSpace] using hc
  calc trim (c :: text) = trim ([c] ++ text ++ []) := by rw [List.append_nil]; rfl
    _ = trim text := stripBoth_surround text hspace (by simp)

theorem value_of_isValue {spelling : Spelling} {text rest : List Char}
    (h : IsValue spelling text rest) :
    ∃ behind, value (text.rdropWhile isBlank) = .ok (spelling.content, behind) ∧
      trim behind = trim rest := by
  cases h with
  | quoted hbody =>
    rename_i body
    have hcut : ('"' :: (body ++ '"' :: rest)).rdropWhile isBlank =
        '"' :: (body ++ '"' :: rest.rdropWhile isBlank) :=
      rdropWhile_append_cons ('"' :: body) rest (by decide)
    refine ⟨rest.rdropWhile isBlank, ?_, trim_rdropWhile rest⟩
    rw [hcut, value, quotedBody_of_isBody _ hbody]
    rfl
  | bare hrun hrest =>
    rename_i run
    have hcut : (run ++ rest).rdropWhile isBlank = run ++ rest.rdropWhile isBlank :=
      rdropWhile_append_of_forall_not rest hrun.1
    have hhead : ∀ c ∈ (rest.rdropWhile isBlank).head?, isBlank c = true := by
      intro c hc
      obtain ⟨back, hback⟩ := List.rdropWhile_prefix isBlank rest
      apply hrest c
      rw [← hback]
      exact List.mem_head?_append_of_mem_head? hc
    obtain ⟨htake, hdrop⟩ := takeWhile_run hrun hhead
    refine ⟨(rest.rdropWhile isBlank).drop 1, ?_, ?_⟩
    · rw [hcut, value_of_head?_ne (head?_run_ne hrun hhead), htake, hdrop]
      rfl
    · rw [← trim_rdropWhile rest]
      cases hmore : rest.rdropWhile isBlank with
      | nil => rfl
      | cons c more =>
        rw [hmore] at hhead
        exact (trim_cons more (hhead c rfl)).symm

theorem entries_of_blank {text : List Char} (h : trim text = []) : entries text = .ok [] := by
  rw [entries, if_pos h]

theorem entries_of_flag {text : List Char} (hne : trim text ≠ []) (hsign : '=' ∉ trim text) :
    entries text = .ok [(String.ofList (trim text), .bool true)] := by
  rw [entries, if_neg hne]
  split
  · rfl
  · rename_i hkey
    rw [splitKey?_eq_none_iff.mpr hsign] at hkey
    cases hkey

theorem entries_of_key {text key more : List Char} (hkey : '=' ∉ key)
    (htext : trim text = key ++ '=' :: more) :
    entries text =
      match value more with
      | .error fault => .error fault
      | .ok (body, rest) =>
        (entries rest).map ((String.ofList key, .string (String.ofList body)) :: ·) := by
  have hne : trim text ≠ [] := by simp [htext]
  have hsplit : splitKey? (trim text) = some (key, more) := by
    rw [htext]
    exact splitKey?_append more hkey
  rw [entries, if_neg hne]
  split
  · rename_i hnone
    rw [hsplit] at hnone
    cases hnone
  · rename_i key' more' hsome
    rw [hsplit] at hsome
    cases hsome
    split
    · rename_i fault hfault
      rw [hfault]
    · rename_i body rest hok
      rw [hok]
      simp only
      cases entries rest <;> rfl

theorem entries_congr {text other : List Char} (h : trim text = trim other) :
    entries text = entries other := by
  unfold entries
  generalize trim text = trimmed at h
  subst h
  rfl

theorem entries_of_isLine {pairs : List Pair} {flag : Option (List Char)} {line : List Char}
    (h : IsLine pairs flag line) : entries line = .ok (denoted pairs flag) := by
  induction h with
  | blank hspace => exact entries_of_blank (stripBoth_eq_nil_iff.mpr hspace)
  | flag hbefore hflag hafter =>
    rename_i before flag after
    obtain ⟨hne, htrim, hsign⟩ := hflag
    have htext : trim (before ++ flag ++ after) = flag :=
      (stripBoth_surround flag hbefore hafter).trans htrim
    rw [entries_of_flag (by rwa [htext]) (by rwa [htext]), htext]
    rfl
  | pair hbefore hkey hvalue hmore ih =>
    rename_i before key text rest value pairs flag
    obtain ⟨behind, hread, hbehind⟩ := value_of_isValue hvalue
    have htext : trim (before ++ (key ++ '=' :: text)) = key ++ '=' :: text.rdropWhile isBlank := by
      rw [trim, stripBoth_eq_rdropWhile, dropWhile_key text hbefore hkey]
      exact rdropWhile_append_cons key text isBlank_eq_sign
    rw [entries_of_key hkey.1 htext, hread]
    simp only [entries_congr hbehind, ih]
    rfl

theorem IsValue.append_space {spelling : Spelling} {text rest space : List Char}
    (h : IsValue spelling text rest) (hspace : IsSpace space) :
    IsValue spelling (text ++ space) (rest ++ space) := by
  cases h with
  | quoted hbody =>
    rw [List.cons_append, List.append_assoc, List.cons_append]
    exact .quoted hbody
  | bare hrun hrest =>
    rw [List.append_assoc]
    refine .bare hrun fun c hc => ?_
    cases rest with
    | nil => exact hspace c (List.mem_of_mem_head? hc)
    | cons d rest => exact hrest c hc

theorem IsLine.append_space {pairs : List Pair} {flag : Option (List Char)}
    {line space : List Char} (h : IsLine pairs flag line) (hspace : IsSpace space) :
    IsLine pairs flag (line ++ space) := by
  induction h with
  | blank hblank =>
    exact .blank fun c hc => (List.mem_append.mp hc).elim (hblank c) (hspace c)
  | flag hbefore hflag hafter =>
    rw [List.append_assoc]
    exact .flag hbefore hflag fun c hc => (List.mem_append.mp hc).elim (hafter c) (hspace c)
  | pair hbefore hkey hvalue hmore ih =>
    rename_i before key text rest value pairs flag
    rw [List.append_assoc, List.append_assoc, List.cons_append]
    exact .pair hbefore hkey (hvalue.append_space hspace) ih

theorem IsLine.cons_space {pairs : List Pair} {flag : Option (List Char)} {line : List Char}
    {c : Char} (h : IsLine pairs flag line) (hc : isBlank c = true) :
    IsLine pairs flag (c :: line) := by
  have hmore {space : List Char} (hspace : IsSpace space) : IsSpace (c :: space) :=
    List.forall_mem_cons.mpr ⟨hc, hspace⟩
  cases h with
  | blank hspace => exact .blank (hmore hspace)
  | flag hbefore hflag hafter => exact .flag (hmore hbefore) hflag hafter
  | pair hbefore hkey hvalue hrest => exact .pair (hmore hbefore) hkey hvalue hrest

-- What is found as a value is one. Of the white space behind a bare value one is passed over.
theorem isValue_of_value {text body rest : List Char} (h : value text = .ok (body, rest)) :
    ∃ spelling behind, spelling.content = body ∧ IsValue spelling text behind ∧
      (behind = rest ∨ ∃ c, behind = c :: rest ∧ isBlank c = true) := by
  by_cases hquote : text.head? = some '"'
  · obtain ⟨more, rfl⟩ : ∃ more, text = '"' :: more := by
      cases text with
      | nil => cases hquote
      | cons c more => exact ⟨more, by rw [Option.some.inj hquote]⟩
    rw [value] at h
    cases hbody : quotedBody '"' more with
    | none =>
      rw [hbody] at h
      cases h
    | some found =>
      rw [hbody] at h
      cases h
      obtain ⟨rfl, hescaped⟩ := eq_of_quotedBody hbody
      exact ⟨.quoted body, rest, rfl, .quoted (isBody_iff_escaped.mpr hescaped), .inl rfl⟩
  · -- A bare value runs up to the first blank.
    rw [value_of_head?_ne hquote] at h
    cases h
    have hrun : IsRun (text.takeWhile (!isBlank ·)) := by
      refine ⟨fun c hc => ?_, fun hhead => hquote ?_⟩
      · simpa using List.mem_takeWhile_imp hc
      · rw [← List.takeWhile_append_dropWhile (p := (!isBlank ·)) (l := text), List.head?_append,
          hhead]
        rfl
    have hrest : ∀ c ∈ (text.dropWhile (!isBlank ·)).head?, isBlank c = true := by
      intro c hc
      simpa using head?_dropWhile (!isBlank ·) text c hc
    have hvalue := IsValue.bare hrun hrest
    rw [List.takeWhile_append_dropWhile] at hvalue
    refine ⟨.bare _, _, rfl, hvalue, ?_⟩
    cases hdrop : text.dropWhile (!isBlank ·) with
    | nil => exact .inl rfl
    | cons c more =>
      rw [hdrop] at hrest
      exact .inr ⟨c, rfl, hrest c rfl⟩

theorem exists_isLine_of_entries {line : List Char} {found : List (String × Value)}
    (h : entries line = .ok found) :
    ∃ pairs flag, IsLine pairs flag line ∧ denoted pairs flag = found := by
  induction line using entries.induct generalizing found with
  | case1 line htrim =>
    rw [entries_of_blank htrim] at h
    cases h
    exact ⟨[], none, .blank (stripBoth_eq_nil_iff.mp htrim), rfl⟩
  | case2 line hne hkey =>
    have hsign := splitKey?_eq_none_iff.mp hkey
    rw [entries_of_flag hne hsign] at h
    cases h
    obtain ⟨before, after, hline, hbefore, hafter⟩ := exists_trim line
    have hflag := IsLine.flag hbefore ⟨hne, trim_trim line, hsign⟩ hafter
    rw [hline] at hflag
    exact ⟨[], some (trim line), hflag, rfl⟩
  | case3 line hne key text hkey fault hvalue =>
    obtain ⟨htext, hsign⟩ := eq_of_splitKey? hkey
    rw [entries_of_key hsign htext, hvalue] at h
    cases h
  | case4 line hne key text hkey body rest hvalue ih =>
    obtain ⟨htext, hsign⟩ := eq_of_splitKey? hkey
    rw [entries_of_key hsign htext, hvalue] at h
    simp only at h
    cases hrest : entries rest with
    | error fault =>
      rw [hrest] at h
      cases h
    | ok more =>
      rw [hrest] at h
      cases h
      obtain ⟨pairs, flag, hmore, rfl⟩ := ih hrest
      obtain ⟨spelling, behind, rfl, hspelling, hbehind⟩ := isValue_of_value hvalue
      -- The blank that ends a bare value belongs to what follows in the grammar.
      have hbehind : IsLine pairs flag behind := by
        rcases hbehind with rfl | ⟨c, rfl, hc⟩
        · exact hmore
        · exact hmore.cons_space hc
      -- A key starts where the trimmed line does, so with no white space.
      have hkey : IsKey key := by
        refine ⟨hsign, fun c hc => ?_⟩
        apply head?_stripBoth line c
        rw [← trim, htext]
        exact List.mem_head?_append_of_mem_head? hc
      obtain ⟨before, after, hline, hbefore, hafter⟩ := exists_trim line
      -- The grammar has white space around pairs, which reading took off beforehand.
      have hpair := (IsLine.pair hbefore hkey hspelling hbehind).append_space hafter
      rw [← htext, hline] at hpair
      exact ⟨⟨key, spelling⟩ :: pairs, flag, hpair, rfl⟩

-- A line is read exactly if it belongs to the grammar. It is then put together in one way, and its
-- record is what its pairs and its flag set, from left to right, in a record without fields.
theorem read_iff_isLine (line : List Char) :
    (∀ record, read line = .ok record ↔
      ∃ pairs flag, IsLine pairs flag line ∧
        (denoted pairs flag).foldl (fun record (name, value) => record.insert name value)
          (.ofList []) = record) ∧
    (∀ pairs flag pairs' flag', IsLine pairs flag line → IsLine pairs' flag' line →
      pairs = pairs' ∧ flag = flag') ∧
    (read line = .error .unterminated ↔ ¬∃ pairs flag, IsLine pairs flag line) := by
  -- All three parts rest on this: a line of the grammar is read as what it denotes.
  have hread {pairs : List Pair} {flag : Option (List Char)} (h : IsLine pairs flag line) :
      read line = .ok (.ofList (denoted pairs flag)) := by
    rw [read, entries_of_isLine h]
    rfl
  refine ⟨fun record => ⟨fun h => ?_, ?_⟩, fun _ _ _ _ => IsLine.unique, ?_, fun h => ?_⟩
  · cases hentries : entries line with
    | error fault => simp [read, hentries, Except.map] at h
    | ok found =>
      obtain ⟨pairs, flag, hline, rfl⟩ := exists_isLine_of_entries hentries
      rw [hread hline] at h
      cases h
      exact ⟨pairs, flag, hline, (Record.ofList_eq_foldl _).symm⟩
  · rintro ⟨pairs, flag, hline, rfl⟩
    rw [hread hline, Record.ofList_eq_foldl]
  · rintro h ⟨pairs, flag, hline⟩
    rw [hread hline] at h
    cases h
  · cases hentries : entries line with
    | error fault =>
      cases fault
      rw [read, hentries]
      rfl
    | ok found =>
      obtain ⟨pairs, flag, hline, -⟩ := exists_isLine_of_entries hentries
      exact absurd ⟨pairs, flag, hline⟩ h

end KeyValue

end LogSieve
