import LogSieve.Proofs.Json.Numeral
import LogSieve.Proofs.Json.Quoted

namespace LogSieve.Json

mutual

def Legible : Json → Prop
  | .int i => (Double.ofInt i).isFinite = true
  | .real x => x.isFinite = true
  | .array items => LegibleItems items
  | .object members => LegibleMembers members
  | _ => True

def LegibleItems : List Json → Prop
  | [] => True
  | item :: rest => Legible item ∧ LegibleItems rest

def LegibleMembers : List (String × Json) → Prop
  | [] => True
  | (_, item) :: rest => Legible item ∧ LegibleMembers rest

end

theorem isFinite_ofRatio (negative other : Bool) (num den : Nat) :
    (Double.ofRatio negative num den).isFinite = (Double.ofRatio other num den).isFinite := by
  unfold Double.ofRatio Double.ofUnits
  split <;> rfl

theorem legible_unsignedNumber {negative : Bool} {text rest : List Char} {document : Json}
    (h : unsignedNumber negative text = some (document, rest)) : document.Legible := by
  simp only [unsignedNumber, Option.bind_eq_bind, Option.bind_eq_some_iff, Prod.exists] at h
  obtain ⟨whole, rest₁, -, fraction, rest₂, -, exponent, rest₃, -, h⟩ := h
  split at h
  · simp at h
  · rename_i hfin
    split at h
    · rename_i hplain
      simp only [Bool.and_eq_true, Option.isNone_iff_eq_none] at hplain
      obtain ⟨rfl, rfl⟩ := hplain
      simp only [Option.some.injEq, Prod.mk.injEq] at h
      obtain ⟨rfl, -⟩ := h
      have hwhole : (Decimal.toDouble negative ⟨digitsValue whole, 0⟩).isFinite = true := by
        simpa using hfin
      rw [Decimal.toDouble_eq_ofRatio] at hwhole
      simp only [Legible, Double.ofInt]
      rw [isFinite_ofRatio _ negative]
      cases negative <;> simpa using hwhole
    · simp only [Option.some.injEq, Prod.mk.injEq] at h
      obtain ⟨rfl, -⟩ := h
      simpa [Legible] using hfin

theorem legible_number {text rest : List Char} {document : Json}
    (h : number text = some (document, rest)) : document.Legible := by
  unfold number at h
  split at h
  · exact legible_unsignedNumber h
  · exact legible_unsignedNumber h

theorem legible_itemsWith {item : Reader Json}
    (hitem : ∀ text document rest, item text = some (document, rest) → document.Legible)
    {limit : Nat} {text rest : List Char} {items : List Json}
    (h : itemsWith item limit text = some (items, rest)) : LegibleItems items := by
  induction limit generalizing text items rest with
  | zero => simp [itemsWith] at h
  | succ limit ih =>
    simp only [itemsWith, Option.bind_eq_bind, Option.bind_eq_some_iff, Prod.exists] at h
    obtain ⟨value, rest₁, hvalue, h⟩ := h
    split at h
    · simp only [Option.bind_eq_some_iff, Option.some.injEq, Prod.mk.injEq, Prod.exists] at h
      obtain ⟨values, rest₂, hvalues, rfl, -⟩ := h
      exact ⟨hitem _ _ _ hvalue, ih hvalues⟩
    · simp only [Option.some.injEq, Prod.mk.injEq] at h
      obtain ⟨rfl, -⟩ := h
      exact ⟨hitem _ _ _ hvalue, trivial⟩
    · simp at h

theorem legible_membersWith {item : Reader Json}
    (hitem : ∀ text document rest, item text = some (document, rest) → document.Legible)
    {limit : Nat} {text rest : List Char} {members : List (String × Json)}
    (h : membersWith item limit text = some (members, rest)) : LegibleMembers members := by
  induction limit generalizing text members rest with
  | zero => simp [membersWith] at h
  | succ limit ih =>
    simp only [membersWith, Option.bind_eq_bind, Option.bind_eq_some_iff, Prod.exists] at h
    obtain ⟨name, rest₁, -, value, rest₂, hvalue, h⟩ := h
    split at h
    · simp only [Option.bind_eq_some_iff, Option.some.injEq, Prod.mk.injEq, Prod.exists] at h
      obtain ⟨more, rest₃, hmore, rfl, -⟩ := h
      exact ⟨hitem _ _ _ hvalue, ih hmore⟩
    · simp only [Option.some.injEq, Prod.mk.injEq] at h
      obtain ⟨rfl, -⟩ := h
      exact ⟨hitem _ _ _ hvalue, trivial⟩
    · simp at h

theorem legible_value {depth : Nat} {text rest : List Char} {document : Json}
    (h : value depth text = some (document, rest)) : document.Legible := by
  induction depth using Nat.strongRecOn generalizing text rest document with
  | _ depth ih =>
    unfold value at h
    split at h
    · cases h; trivial
    · cases h; trivial
    · cases h; trivial
    · simp only [Option.map_eq_some_iff, Prod.exists] at h
      obtain ⟨_, _, -, h⟩ := h
      cases h
      trivial
    · split at h
      · simp at h
      · split at h
        · cases h; trivial
        · simp only [Option.map_eq_some_iff, Prod.exists] at h
          obtain ⟨items, _, hitems, h⟩ := h
          cases h
          exact legible_itemsWith (fun _ _ _ => ih _ (Nat.lt_succ_self _)) hitems
    · split at h
      · simp at h
      · split at h
        · cases h; trivial
        · simp only [Option.map_eq_some_iff, Prod.exists] at h
          obtain ⟨members, _, hmembers, h⟩ := h
          cases h
          exact legible_membersWith (fun _ _ _ => ih _ (Nat.lt_succ_self _)) hmembers
    · exact legible_number h

theorem legible_of_read? {text : List Char} {document : Json} (h : read? text = some document) :
    document.Legible := by
  simp only [read?, Option.bind_eq_bind, Option.bind_eq_some_iff, Prod.exists] at h
  obtain ⟨found, rest, hvalue, h⟩ := h
  split at h
  · cases h
    exact legible_value hvalue
  · simp at h

theorem skipSpace_cons {c : Char} (h : isSpace c = false) (text : List Char) :
    skipSpace (c :: text) = c :: text := by
  simp [skipSpace, h]

theorem value_number {lead : Char} {text : List Char} (depth : Nat)
    (h : lead = '-' ∨ lead.isDigit = true) :
    value depth (lead :: text) = number (lead :: text) := by
  have hspace : isSpace lead = false := by
    rcases h with rfl | h
    · rfl
    · simp only [isSpace, Bool.or_eq_false_iff, beq_eq_false_iff_ne]
      exact ⟨⟨⟨digit_ne h rfl, digit_ne h rfl⟩, digit_ne h rfl⟩, digit_ne h rfl⟩
  have hother {c : Char} (hc : c.isDigit = false) (hm : c ≠ '-') : lead ≠ c := by
    rcases h with rfl | h
    · exact hm.symm
    · exact digit_ne h hc
  unfold value
  rw [skipSpace_cons hspace]
  split <;> rename_i heq
  · exact absurd (List.cons.inj heq).1 (hother rfl (by decide))
  · exact absurd (List.cons.inj heq).1 (hother rfl (by decide))
  · exact absurd (List.cons.inj heq).1 (hother rfl (by decide))
  · exact absurd (List.cons.inj heq).1 (hother rfl (by decide))
  · exact absurd (List.cons.inj heq).1 (hother rfl (by decide))
  · exact absurd (List.cons.inj heq).1 (hother rfl (by decide))
  · rfl

theorem writeInt_lead (i : Int) :
    ∃ lead text, writeInt i = lead :: text ∧ (lead = '-' ∨ lead.isDigit = true) := by
  obtain ⟨lead, more, hdig, hlead⟩ := startsWithDigit_toDigits i.natAbs
  unfold writeInt
  split
  · exact ⟨'-', _, rfl, .inl rfl⟩
  · exact ⟨lead, more, hdig, .inr hlead⟩

theorem write_lead (style : NumberStyle) (negative : Bool) {units : Nat}
    (hr : Representable units) :
    ∃ lead text, style.write (.finite negative units hr) = lead :: text ∧
      (lead = '-' ∨ lead.isDigit = true) := by
  obtain ⟨lead, more, hdig, hlead⟩ := startsWithDigit_decimal style (.shortest units)
  cases negative with
  | true => exact ⟨'-', _, rfl, .inl rfl⟩
  | false => exact ⟨lead, more, hdig, .inr hlead⟩

theorem writeReal_lead {x : Double} (hx : x.isFinite = true) :
    ∃ lead text, writeReal x = lead :: text ∧ (lead = '-' ∨ lead.isDigit = true) := by
  cases x with
  | infinite negative => simp [Double.isFinite] at hx
  | nan => simp [Double.isFinite] at hx
  | finite negative units hr =>
    simp only [writeReal, hx, if_true]
    exact write_lead .json negative hr

theorem compact_lead {document : Json} (h : document.Legible) :
    ∃ lead text, document.compact = lead :: text ∧ isSpace lead = false ∧ lead ≠ ']' := by
  have hnumber {lead : Char} (h : lead = '-' ∨ lead.isDigit = true) :
      isSpace lead = false ∧ lead ≠ ']' := by
    rcases h with rfl | h
    · exact ⟨rfl, by decide⟩
    · simp only [isSpace, Bool.or_eq_false_iff, beq_eq_false_iff_ne]
      exact ⟨⟨⟨⟨digit_ne h rfl, digit_ne h rfl⟩, digit_ne h rfl⟩, digit_ne h rfl⟩, digit_ne h rfl⟩
  cases document with
  | null => exact ⟨'n', _, rfl, rfl, by decide⟩
  | bool b => cases b <;> exact ⟨_, _, rfl, rfl, by decide⟩
  | int i =>
    obtain ⟨lead, text, htext, hlead⟩ := writeInt_lead i
    exact ⟨lead, text, htext, hnumber hlead⟩
  | real x =>
    obtain ⟨lead, text, htext, hlead⟩ := writeReal_lead h
    exact ⟨lead, text, htext, hnumber hlead⟩
  | string s => exact ⟨'"', _, rfl, rfl, by decide⟩
  | array items => exact ⟨'[', _, rfl, rfl, by decide⟩
  | object members => exact ⟨'{', _, rfl, rfl, by decide⟩

theorem memberName_quote (name : String) (rest : List Char) :
    memberName (quote name ++ ':' :: rest) = some (name, rest) := by
  obtain ⟨body, htext, hbody⟩ := quote_append name (':' :: rest)
  rw [htext]
  simp [memberName, skipSpace_cons (c := '"') rfl, skipSpace_cons (c := ':') rfl, hbody]

theorem value_array {depth : Nat} {lead : Char} {text rest : List Char} {items : List Json}
    (hspace : isSpace lead = false) (hlead : lead ≠ ']')
    (h : itemsWith (value depth) (lead :: text).length (lead :: text) = some (items, rest)) :
    value (depth + 1) ('[' :: lead :: text) = some (.array items, rest) := by
  unfold value
  rw [skipSpace_cons (c := '[') rfl]
  simp only [skipSpace_cons hspace]
  split
  · rename_i heq
    exact absurd (List.cons.inj heq).1 hlead
  · rw [h]
    rfl

theorem value_object {depth : Nat} {lead : Char} {text rest : List Char}
    {members : List (String × Json)} (hspace : isSpace lead = false) (hlead : lead ≠ '}')
    (h : membersWith (value depth) (lead :: text).length (lead :: text) = some (members, rest)) :
    value (depth + 1) ('{' :: lead :: text) = some (.object members, rest) := by
  unfold value
  rw [skipSpace_cons (c := '{') rfl]
  simp only [skipSpace_cons hspace]
  split
  · rename_i heq
    exact absurd (List.cons.inj heq).1 hlead
  · rw [h]
    rfl

theorem compactItems_cons_cons (item next : Json) (more : List Json) :
    compactItems (item :: next :: more) = item.compact ++ ',' :: compactItems (next :: more) := by
  rw [compactItems]
  simp

theorem compactMembers_cons_cons (name : String) (item : Json) (next : String × Json)
    (more : List (String × Json)) :
    compactMembers ((name, item) :: next :: more) =
      quote name ++ ':' :: item.compact ++ ',' :: compactMembers (next :: more) := by
  rw [compactMembers]
  simp

-- Every item takes a character at least, so the text bounds how many there are.
theorem length_le_compactItems (items : List Json) : items.length ≤ (compactItems items).length := by
  induction items with
  | nil => simp
  | cons item more ih =>
    cases more with
    | nil => simp [compactItems]
    | cons next more =>
      rw [compactItems_cons_cons]
      simp only [List.length_append, List.length_cons] at ih ⊢
      omega

theorem length_le_compactMembers (members : List (String × Json)) :
    members.length ≤ (compactMembers members).length := by
  induction members with
  | nil => simp
  | cons member more ih =>
    obtain ⟨name, item⟩ := member
    cases more with
    | nil =>
      simp only [compactMembers, List.length_append, List.length_cons]
      omega
    | cons next more =>
      rw [compactMembers_cons_cons]
      simp only [List.length_append, List.length_cons] at ih ⊢
      omega

theorem compactItems_lead {item : Json} (more : List Json) (h : item.Legible) :
    ∃ lead text, compactItems (item :: more) = lead :: text ∧ isSpace lead = false ∧ lead ≠ ']' := by
  obtain ⟨lead, text, htext, hlead⟩ := compact_lead h
  cases more with
  | nil =>
    rw [compactItems, htext]
    exact ⟨lead, _, rfl, hlead⟩
  | cons next more =>
    rw [compactItems_cons_cons, htext]
    exact ⟨lead, _, rfl, hlead⟩

theorem compactMembers_lead (member : String × Json) (more : List (String × Json)) :
    ∃ text, compactMembers (member :: more) = '"' :: text := by
  obtain ⟨name, item⟩ := member
  cases more with
  | nil => exact ⟨_, by rw [compactMembers, quote]; rfl⟩
  | cons next more => exact ⟨_, by rw [compactMembers_cons_cons, quote]; rfl⟩

mutual

-- Reading one document takes exactly what was written for it. Each container that is entered
-- takes one from the limit of writing and one from that of reading.
theorem value_compact : ∀ {document : Json} {limit depth : Nat} (rest : List Char),
    document.Legible → document.fault? limit = none → limit ≤ depth → EndsNumber rest →
      value depth (document.compact ++ rest) = some (document, rest)
  | .null, _, _, _, _, _, _, _ => by
    simp [compact, value, skipSpace_cons (c := 'n') rfl]
  | .bool true, _, _, _, _, _, _, _ => by
    simp [compact, value, skipSpace_cons (c := 't') rfl]
  | .bool false, _, _, _, _, _, _, _ => by
    simp [compact, value, skipSpace_cons (c := 'f') rfl]
  | .int i, _, depth, _, hleg, _, _, hrest => by
    obtain ⟨lead, text, htext, hlead⟩ := writeInt_lead i
    rw [compact, htext, List.cons_append, value_number depth hlead, ← List.cons_append, ← htext]
    exact number_writeInt hleg hrest
  | .real x, _, depth, _, hleg, _, _, hrest => by
    obtain ⟨lead, text, htext, hlead⟩ := writeReal_lead hleg
    rw [compact, htext, List.cons_append, value_number depth hlead, ← List.cons_append, ← htext]
    exact number_writeReal hleg hrest
  | .string s, _, _, rest, _, _, _, _ => by
    obtain ⟨body, htext, hbody⟩ := quote_append s rest
    rw [compact, htext]
    simp [value, skipSpace_cons (c := '"') rfl, hbody]
  | .array _, 0, _, _, _, hfault, _, _ => by simp [fault?] at hfault
  | .array _, _ + 1, 0, _, _, _, hle, _ => absurd hle (by omega)
  | .array [], limit + 1, depth + 1, _, _, _, _, _ => by
    simp [compact, compactItems, value, skipSpace_cons (c := '[') rfl, skipSpace_cons (c := ']') rfl]
  | .array (item :: more), limit + 1, depth + 1, rest, hleg, hfault, hle, _ => by
    obtain ⟨lead, text, htext, hspace, hlead⟩ := compactItems_lead more hleg.1
    have hcount := length_le_compactItems (item :: more)
    have hitems := itemsWith_compactItems (compactItems (item :: more) ++ rest).length rest
      (List.cons_ne_nil item more) hleg hfault (Nat.le_of_succ_le_succ hle)
      (by rw [List.length_append]; omega)
    rw [htext] at hitems
    rw [compact, List.cons_append, htext, List.cons_append]
    exact value_array hspace hlead hitems
  | .object _, 0, _, _, _, hfault, _, _ => by simp [fault?] at hfault
  | .object _, _ + 1, 0, _, _, _, hle, _ => absurd hle (by omega)
  | .object [], limit + 1, depth + 1, _, _, _, _, _ => by
    simp [compact, compactMembers, value, skipSpace_cons (c := '{') rfl,
      skipSpace_cons (c := '}') rfl]
  | .object (member :: more), limit + 1, depth + 1, rest, hleg, hfault, hle, _ => by
    obtain ⟨text, htext⟩ := compactMembers_lead member more
    have hcount := length_le_compactMembers (member :: more)
    have hmembers := membersWith_compactMembers (compactMembers (member :: more) ++ rest).length rest
      (List.cons_ne_nil member more) hleg hfault (Nat.le_of_succ_le_succ hle)
      (by rw [List.length_append]; omega)
    rw [htext] at hmembers
    rw [compact, List.cons_append, htext, List.cons_append]
    exact value_object rfl (by decide) hmembers

theorem itemsWith_compactItems : ∀ {items : List Json} {limit depth : Nat} (count : Nat)
    (rest : List Char), items ≠ [] → LegibleItems items → itemsFault? limit items = none → limit ≤ depth →
      items.length ≤ count →
      itemsWith (value depth) count (compactItems items ++ rest) = some (items, rest)
  | [], _, _, _, _, hne, _, _, _, _ => absurd rfl hne
  | _ :: _, _, _, 0, _, _, _, _, _, hcount => absurd hcount (by simp)
  | [item], _, _, count + 1, rest, _, hleg, hfault, hle, _ => by
    simp only [itemsFault?, Option.or_eq_none_iff] at hfault
    have hitem := value_compact (']' :: rest) hleg.1 hfault.1 hle
      (endsNumber_cons (by decide))
    simp [compactItems, itemsWith, hitem, skipSpace_cons (c := ']') rfl]
  | item :: next :: more, _, _, count + 1, rest, _, hleg, hfault, hle, hcount => by
    rw [itemsFault?, Option.or_eq_none_iff] at hfault
    have hitem := value_compact (',' :: (compactItems (next :: more) ++ rest)) hleg.1
      hfault.1 hle (endsNumber_cons (by decide))
    have hmore := itemsWith_compactItems count rest (List.cons_ne_nil next more) hleg.2
      hfault.2 hle (Nat.le_of_succ_le_succ hcount)
    rw [compactItems_cons_cons, List.append_assoc, List.cons_append]
    simp [itemsWith, hitem, skipSpace_cons (c := ',') rfl, hmore]

theorem membersWith_compactMembers : ∀ {members : List (String × Json)} {limit depth : Nat}
    (count : Nat) (rest : List Char), members ≠ [] → LegibleMembers members →
      membersFault? limit members = none → limit ≤ depth → members.length ≤ count →
      membersWith (value depth) count (compactMembers members ++ rest) = some (members, rest)
  | [], _, _, _, _, hne, _, _, _, _ => absurd rfl hne
  | _ :: _, _, _, 0, _, _, _, _, _, hcount => absurd hcount (by simp)
  | [(name, item)], _, _, count + 1, rest, _, hleg, hfault, hle, _ => by
    simp only [membersFault?, Option.or_eq_none_iff] at hfault
    have hitem := value_compact ('}' :: rest) hleg.1 hfault.1 hle
      (endsNumber_cons (by decide))
    have hname := memberName_quote name (item.compact ++ '}' :: rest)
    simp [compactMembers, membersWith, hname, hitem, skipSpace_cons (c := '}') rfl]
  | (name, item) :: next :: more, _, _, count + 1, rest, _, hleg, hfault, hle, hcount => by
    rw [membersFault?, Option.or_eq_none_iff] at hfault
    have hitem := value_compact (',' :: (compactMembers (next :: more) ++ rest)) hleg.1
      hfault.1 hle (endsNumber_cons (by decide))
    have hname := memberName_quote name
      (item.compact ++ ',' :: (compactMembers (next :: more) ++ rest))
    have hmore := membersWith_compactMembers count rest (List.cons_ne_nil next more)
      hleg.2 hfault.2 hle (Nat.le_of_succ_le_succ hcount)
    rw [compactMembers_cons_cons]
    simp [membersWith, hname, hitem, skipSpace_cons (c := ',') rfl, hmore]

end

theorem read?_compact {document : Json} (hleg : document.Legible)
    (hfault : document.fault? writeDepth = none) : read? document.compact = some document := by
  have hvalue : value readDepth (document.compact ++ []) = some (document, []) :=
    value_compact [] hleg hfault (by decide) endsNumber_nil
  rw [List.append_nil] at hvalue
  rw [read?, hvalue]
  rfl

end LogSieve.Json
