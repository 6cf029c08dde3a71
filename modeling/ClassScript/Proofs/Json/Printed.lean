import ClassScript.Proofs.Json.Scalars

namespace ClassScript.Json

variable {number : List Char → Option (Json × List Char)}

def IsGap (text : List Char) : Prop := ∀ c ∈ text, isBlank c = true

theorem skipBlanks_append {gap : List Char} (blank : IsGap gap) (source : List Char) :
    skipBlanks (gap ++ source) = skipBlanks source :=
  List.dropWhile_append_of_pos blank

theorem skipBlanks_cons {c : Char} (printed : isBlank c = false) (source : List Char) :
    skipBlanks (c :: source) = c :: source := by
  rw [skipBlanks, List.dropWhile_cons, if_neg (by simp [printed])]

theorem readValue_append {gap : List Char} (blank : IsGap gap) (depth : Nat) (source : List Char) :
    readValue number depth (gap ++ source) = readValue number depth source := by
  rw [readValue.eq_def, readValue.eq_def number depth source, skipBlanks_append blank]

theorem readItems_append {gap : List Char} (blank : IsGap gap) (depth : Nat) (source : List Char) :
    readItems number depth (gap ++ source) = readItems number depth source := by
  cases depth with
  | zero => rfl
  | succ depth => rw [readItems, readItems, readValue_append blank]

theorem readMembers_append {gap : List Char} (blank : IsGap gap) (depth : Nat) (source : List Char) :
    readMembers number depth (gap ++ source) = readMembers number depth source := by
  rw [readMembers.eq_def, readMembers.eq_def number depth source, skipBlanks_append blank]

theorem readValue_string {source text rest : List Char} (read : readString none source = some (text, rest))
    (depth : Nat) : readValue number (depth + 1) ('"' :: source) = some (.str (String.ofList text), rest) := by
  rw [readValue.eq_def, skipBlanks_cons rfl]
  simp only [read]
  rfl

theorem not_isBlank_of_isDigit {c : Char} (digit : c.isDigit = true) : isBlank c = false := by
  rw [Bool.eq_false_iff]
  intro blank
  simp only [isBlank, Bool.or_eq_true, beq_iff_eq] at blank
  rcases blank with ((rfl | rfl) | rfl) | rfl <;> cases digit

/-- What is neither a word nor a bracket nor a quote is left to the reader of numbers. -/
theorem readValue_number {c : Char} (starts : c = '-' ∨ c.isDigit = true) (depth : Nat) (rest : List Char) :
    readValue number (depth + 1) (c :: rest) = number (c :: rest) := by
  have printed : isBlank c = false := by
    rcases starts with rfl | digit
    · rfl
    · exact not_isBlank_of_isDigit digit
  rw [readValue.eq_def, skipBlanks_cons printed]
  split
  case h_1 => contradiction
  case h_8 => rfl
  all_goals
    cases ‹c :: rest = _›
    exact absurd starts (by decide)

/-- A text that is read as a value, whatever stands behind it; what comes first tells that a value comes. -/
structure Denotes (number : List Char → Option (Json × List Char)) (text : List Char) (json : Json) : Prop where
  starts : ∃ c more, text = c :: more ∧ isBlank c = false ∧ c ≠ ']'
  reads_succ : ∀ depth rest, text.length ≤ depth → NumberEnds rest →
    readValue number (depth + 1) (text ++ rest) = some (json, rest)

namespace Denotes

theorem reads {text rest : List Char} {json : Json} (here : Denotes number text json) {depth : Nat}
    (enough : text.length < depth) (ends : NumberEnds rest) :
    readValue number depth (text ++ rest) = some (json, rest) := by
  cases depth with
  | zero => exact absurd enough (Nat.not_lt_zero _)
  | succ depth => exact here.reads_succ depth rest (Nat.le_of_lt_succ enough) ends

theorem null : Denotes number "null".toList .null where
  starts := ⟨_, _, rfl, rfl, by decide⟩
  reads_succ depth rest _ _ := rfl

theorem bool (value : Bool) : Denotes number (if value then "true" else "false").toList (.bool value) where
  starts := by cases value <;> exact ⟨_, _, rfl, rfl, by decide⟩
  reads_succ depth rest _ _ := by cases value <;> rfl

theorem str (text : String) : Denotes number (quote text).toList (.str text) where
  starts := ⟨'"', _, String.toList_ofList, rfl, by decide⟩
  reads_succ depth rest _ _ := by
    have read := readString_flatMap_escapeChar text.toList rest
    rw [quote, String.toList_ofList, List.cons_append, List.cons_append, List.append_assoc, List.singleton_append,
      readValue_string read, String.ofList_toList]

theorem int {fits : Int → Prop} (readsBack : ReadsBack number fits) {value : Int} (small : fits value) :
    Denotes number (toString value).toList (.int value) := by
  obtain ⟨c, more, text, starts⟩ := toString_starts value
  refine ⟨⟨c, more, text, ?_⟩, ?_⟩
  · rcases starts with rfl | digit
    · exact ⟨rfl, by decide⟩
    · refine ⟨not_isBlank_of_isDigit digit, ?_⟩
      rintro rfl
      cases digit
  · intro depth rest _ ends
    rw [← readsBack value small rest ends, text, List.cons_append, readValue_number starts]

end Denotes

theorem NumberEnds.nil : NumberEnds [] := nofun

theorem NumberEnds.gap {gap : List Char} (blank : IsGap gap) {rest : List Char}
    (ends : NumberEnds rest) : NumberEnds (gap ++ rest) := by
  cases gap with
  | nil => exact ends
  | cons c gap =>
    rintro _ ⟨⟩
    have first := blank c (List.mem_cons_self ..)
    simp only [isBlank, Bool.or_eq_true, beq_iff_eq] at first
    rcases first with ((rfl | rfl) | rfl) | rfl <;> decide

theorem NumberEnds.mark {c : Char} (mark : c = ',' ∨ c = ']' ∨ c = '\x7d') (rest : List Char) :
    NumberEnds (c :: rest) := by
  rintro _ ⟨⟩
  rcases mark with rfl | rfl | rfl <;> decide

theorem Denotes.readItems_succ {text rest : List Char} {item : Json} (here : Denotes number text item) {depth : Nat}
    (enough : text.length < depth) (ends : NumberEnds rest) :
    readItems number (depth + 1) (text ++ rest) =
      match skipBlanks rest with
      | ']' :: rest => some ([item], rest)
      | ',' :: rest => do
        let (items, rest) ← readItems number depth rest
        return (item :: items, rest)
      | _ => none := by
  rw [readItems, here.reads enough ends]
  rfl

/-- The text of a member: its name, a colon, and a value, with or without blanks in front of it. -/
def DenotesMember (number : List Char → Option (Json × List Char)) (text : List Char) (member : String × Json) : Prop :=
  ∃ gap value, IsGap gap ∧ text = '"' :: (member.1.toList.flatMap escapeChar ++ '"' :: ':' :: (gap ++ value)) ∧
    Denotes number value member.2

theorem DenotesMember.starts {text : List Char} {member : String × Json} (here : DenotesMember number text member) :
    ∃ c more, text = c :: more ∧ c = '"' := by
  obtain ⟨gap, value, _, rfl, _⟩ := here
  exact ⟨'"', _, rfl, rfl⟩

theorem DenotesMember.readMembers_succ {text rest : List Char} {member : String × Json}
    (here : DenotesMember number text member) {depth : Nat} (enough : text.length < depth) (ends : NumberEnds rest) :
    readMembers number (depth + 1) (text ++ rest) =
      match skipBlanks rest with
      | '\x7d' :: rest => some ([member], rest)
      | ',' :: rest => do
        let (members, rest) ← readMembers number depth rest
        return (member :: members, rest)
      | _ => none := by
  obtain ⟨gap, value, blank, rfl, denotes⟩ := here
  have fewer : value.length < depth := by
    simp only [List.length_append, List.length_cons] at enough
    omega
  have name := readString_flatMap_escapeChar member.1.toList (':' :: (gap ++ (value ++ rest)))
  have read := denotes.reads fewer ends
  rw [← readValue_append blank] at read
  rw [List.cons_append, List.append_assoc, List.cons_append, List.cons_append, List.append_assoc,
    readMembers.eq_def, skipBlanks_cons rfl]
  simp only [name, Option.bind_eq_bind, Option.bind_some, skipBlanks_cons (c := ':') rfl, read, String.ofList_toList]
  rfl

/-- What the readers of items and of members have in common: an entry is the last one or has a comma behind it. -/
structure ReadsEntries {Entry : Type} (Tells : List Char → Entry → Prop) (closing : Char)
    (read : Nat → List Char → Option (List Entry × List Char)) : Prop where
  gap : ∀ gap : List Char, IsGap gap → ∀ depth source,
    read depth (gap ++ source) = read depth source
  last : ∀ text entry, Tells text entry → ∀ close : List Char, IsGap close →
    ∀ depth rest, text.length < depth → read (depth + 1) (text ++ (close ++ closing :: rest)) = some ([entry], rest)
  more : ∀ text entry, Tells text entry → ∀ depth rest entries behind, text.length < depth →
    read depth rest = some (entries, behind) → read (depth + 1) (text ++ ',' :: rest) = some (entry :: entries, behind)

theorem readItems_readsEntries : ReadsEntries (Denotes number) ']' (readItems number) where
  gap gap blank := readItems_append blank
  last text item here close blank depth rest enough := by
    rw [here.readItems_succ enough (.gap blank (.mark (by decide) rest)), skipBlanks_append blank, skipBlanks_cons rfl]
    rfl
  more text item here depth rest items behind enough later := by
    rw [here.readItems_succ enough (.mark (by decide) rest), skipBlanks_cons rfl]
    simp only [later]
    rfl

theorem readMembers_readsEntries : ReadsEntries (DenotesMember number) '\x7d' (readMembers number) where
  gap gap blank := readMembers_append blank
  last text member here close blank depth rest enough := by
    rw [here.readMembers_succ enough (.gap blank (.mark (by decide) rest)), skipBlanks_append blank, skipBlanks_cons rfl]
    rfl
  more text member here depth rest members behind enough later := by
    rw [here.readMembers_succ enough (.mark (by decide) rest), skipBlanks_cons rfl]
    simp only [later]
    rfl

theorem ReadsEntries.all {Entry : Type} {Tells : List Char → Entry → Prop} {closing : Char}
    {read : Nat → List Char → Option (List Entry × List Char)} (reads : ReadsEntries Tells closing read)
    {gap close : List Char} (gapBlank : IsGap gap) (closeBlank : IsGap close)
    {text : Entry → List Char} {entries : List Entry} (each : ∀ entry ∈ entries, Tells (text entry) entry)
    (nonempty : entries ≠ []) (rest : List Char) {depth : Nat}
    (enough : (List.intercalate (',' :: gap) (entries.map text)).length + 1 < depth) :
    read depth (List.intercalate (',' :: gap) (entries.map text) ++ (close ++ closing :: rest)) =
      some (entries, rest) := by
  -- On the entries; the comma behind an entry pays for the turn, so the depth left is enough for the others.
  induction entries generalizing depth with
  | nil => exact absurd rfl nonempty
  | cons entry entries ih =>
    obtain ⟨here, later⟩ := List.forall_mem_cons.mp each
    obtain ⟨depth, rfl⟩ := Nat.exists_eq_succ_of_ne_zero (Nat.ne_zero_of_lt enough)
    cases entries with
    | nil =>
      rw [List.map_singleton, List.intercalate_singleton] at enough ⊢
      exact reads.last _ entry here close closeBlank depth rest (by omega)
    | cons next entries =>
      rw [List.map_cons, List.map_cons, List.intercalate_cons_cons, ← List.map_cons] at enough ⊢
      simp only [List.length_append, List.length_cons] at enough
      have fewer : (List.intercalate (',' :: gap) ((next :: entries).map text)).length + 1 < depth := by omega
      have behind := ih later (by simp) fewer
      rw [← reads.gap gap gapBlank] at behind
      have whole := reads.more _ entry here depth _ _ _ (by omega) behind
      simpa using whole

theorem Denotes.empty_arr : Denotes number ['[', ']'] (.arr []) where
  starts := ⟨_, _, rfl, rfl, by decide⟩
  reads_succ depth rest _ _ := rfl

theorem Denotes.empty_obj : Denotes number ['\x7b', '\x7d'] (.obj []) where
  starts := ⟨_, _, rfl, rfl, by decide⟩
  reads_succ depth rest _ _ := rfl

theorem readValue_arr {source more rest : List Char} {c : Char} (first : skipBlanks source = c :: more) (other : c ≠ ']')
    {depth : Nat} {items : List Json} (read : readItems number depth (c :: more) = some (items, rest)) :
    readValue number (depth + 1) ('[' :: source) = some (.arr items, rest) := by
  rw [readValue.eq_def, skipBlanks_cons rfl]
  simp only [first]
  split
  · rename_i same
    exact absurd (List.cons.inj same).1 other
  · rw [read]
    rfl

theorem readValue_obj {source more rest : List Char} {c : Char} (first : skipBlanks source = c :: more)
    (other : c ≠ '\x7d') {depth : Nat} {members : List (String × Json)}
    (read : readMembers number depth (c :: more) = some (members, rest)) :
    readValue number (depth + 1) ('\x7b' :: source) = some (.obj (lastOfName members), rest) := by
  rw [readValue.eq_def, skipBlanks_cons rfl]
  simp only [first]
  split
  · rename_i same
    exact absurd (List.cons.inj same).1 other
  · rw [read]
    rfl

theorem intercalate_starts {Entry : Type} {starts : Char → Prop} {text : Entry → List Char} {entries : List Entry}
    (nonempty : entries ≠ []) (each : ∀ entry ∈ entries, ∃ c more, text entry = c :: more ∧ starts c)
    (mark : List Char) : ∃ c more, List.intercalate mark (entries.map text) = c :: more ∧ starts c := by
  cases entries with
  | nil => exact absurd rfl nonempty
  | cons entry entries =>
    obtain ⟨c, more, first, holds⟩ := each entry (List.mem_cons_self ..)
    cases entries with
    | nil => exact ⟨c, more, by simpa using first, holds⟩
    | cons next entries =>
      refine ⟨c, more ++ (mark ++ List.intercalate mark ((next :: entries).map text)), ?_, holds⟩
      rw [List.map_cons, List.map_cons, List.intercalate_cons_cons, first]
      simp

theorem Denotes.arr {gap close : List Char} (gapBlank : IsGap gap) (closeBlank : IsGap close)
    {text : Json → List Char} {items : List Json} (nonempty : items ≠ [])
    (each : ∀ item ∈ items, Denotes number (text item) item) :
    Denotes number ('[' :: (gap ++ (List.intercalate (',' :: gap) (items.map text) ++ (close ++ [']'])))) (.arr items) where
  starts := ⟨_, _, rfl, rfl, by decide⟩
  reads_succ depth rest enough _ := by
    simp only [List.length_cons, List.length_append] at enough
    have fewer : (List.intercalate (',' :: gap) (items.map text)).length + 1 < depth := by omega
    have read := readItems_readsEntries.all gapBlank closeBlank each nonempty rest fewer
    obtain ⟨c, more, first, printed, other⟩ :=
      intercalate_starts nonempty (fun item member => (each item member).starts) (',' :: gap)
    rw [first, List.cons_append] at read ⊢
    simpa using readValue_arr (by rw [skipBlanks_append gapBlank, skipBlanks_cons printed]) other read

theorem lastOfName_of_nodup {members : List (String × Json)} (distinct : (members.map Prod.fst).Nodup) :
    lastOfName members = members := by
  induction members with
  | nil => rfl
  | cons member members ih =>
    obtain ⟨name, value⟩ := member
    rw [List.map_cons, List.nodup_cons] at distinct
    have new : (members.any fun member => member.1 == name) = false := by
      simpa using fun other json member => fun same => distinct.1 (List.mem_map.mpr ⟨_, member, same⟩)
    rw [lastOfName, new, if_neg (by decide), ih distinct.2]

theorem Denotes.obj {gap close : List Char} (gapBlank : IsGap gap) (closeBlank : IsGap close)
    {text : String × Json → List Char} {members : List (String × Json)} (nonempty : members ≠ [])
    (distinct : (members.map Prod.fst).Nodup) (each : ∀ member ∈ members, DenotesMember number (text member) member) :
    Denotes number ('\x7b' :: (gap ++ (List.intercalate (',' :: gap) (members.map text) ++ (close ++ ['\x7d']))))
      (.obj members) where
  starts := ⟨_, _, rfl, rfl, by decide⟩
  reads_succ depth rest enough _ := by
    simp only [List.length_cons, List.length_append] at enough
    have fewer : (List.intercalate (',' :: gap) (members.map text)).length + 1 < depth := by omega
    have read := readMembers_readsEntries.all gapBlank closeBlank each nonempty rest fewer
    obtain ⟨c, more, first, rfl⟩ :=
      intercalate_starts nonempty (fun member inside => (each member inside).starts) (',' :: gap)
    rw [first, List.cons_append] at read ⊢
    have printed : isBlank '"' = false := rfl
    have whole := readValue_obj (by rw [skipBlanks_append gapBlank, skipBlanks_cons printed]) (by decide) read
    rw [lastOfName_of_nodup distinct] at whole
    simpa using whole

theorem compactItems_eq_map (items : List Json) : compactItems items = items.map compact := by
  induction items with
  | nil => rfl
  | cons item items ih => rw [compactItems, ih, List.map_cons]

theorem compactMembers_eq_map (members : List (String × Json)) :
    compactMembers members = members.map fun member => quote member.1 ++ ":" ++ compact member.2 := by
  induction members with
  | nil => rfl
  | cons member members ih => rw [compactMembers, ih, List.map_cons]

theorem prettyItems_eq_map (depth : Nat) (items : List Json) : prettyItems depth items = items.map (prettyAt depth) := by
  induction items with
  | nil => rfl
  | cons item items ih => rw [prettyItems, ih, List.map_cons]

theorem prettyMembers_eq_map (depth : Nat) (members : List (String × Json)) :
    prettyMembers depth members = members.map fun member => quote member.1 ++ ": " ++ prettyAt depth member.2 := by
  induction members with
  | nil => rfl
  | cons member members ih => rw [prettyMembers, ih, List.map_cons]

/-- A value without floats, with integers that fit, and with names that no object has twice. -/
inductive Plain (fits : Int → Prop) : Json → Prop
  | null : Plain fits .null
  | bool (value : Bool) : Plain fits (.bool value)
  | int {value : Int} (small : fits value) : Plain fits (.int value)
  | str (text : String) : Plain fits (.str text)
  | arr {items : List Json} (each : ∀ item ∈ items, Plain fits item) : Plain fits (.arr items)
  | obj {members : List (String × Json)} (distinct : (members.map Prod.fst).Nodup)
      (each : ∀ member ∈ members, Plain fits member.2) : Plain fits (.obj members)

theorem isGap_nil : IsGap [] := nofun

def margin (depth : Nat) : List Char := '\n' :: List.replicate (2 * depth) ' '

theorem isGap_margin (depth : Nat) : IsGap (margin depth) := by
  intro c member
  rcases List.mem_cons.mp member with rfl | blank
  · rfl
  · rw [List.eq_of_mem_replicate blank]
    rfl

theorem toList_layOut_nil (depth : Nat) (opening closing : String) :
    (layOut depth opening closing []).toList = opening.toList ++ closing.toList := by
  simp [layOut]

theorem toList_layOut (depth : Nat) (opening closing : String) {entries : List String} (nonempty : entries ≠ []) :
    (layOut depth opening closing entries).toList = opening.toList ++ (margin (depth + 1) ++
      (List.intercalate (',' :: margin (depth + 1)) (entries.map String.toList) ++ (margin depth ++ closing.toList))) := by
  simp [layOut, nonempty, margin, String.toList_intercalate]

variable {fits : Int → Prop} {json : Json}

theorem Plain.denotes_prettyAt (plain : Plain fits json) (readsBack : ReadsBack number fits) (depth : Nat) :
    Denotes number (prettyAt depth json).toList json := by
  induction plain generalizing depth with
  | null => exact .null
  | bool value => exact .bool value
  | int small => exact .int readsBack small
  | str text => exact .str text
  | @arr items each ih =>
    rw [prettyAt, prettyItems_eq_map]
    -- empty brackets stand on one line, with no gap between them
    by_cases empty : items = []
    · subst empty
      rw [List.map_nil, toList_layOut_nil]
      exact .empty_arr
    · rw [toList_layOut _ _ _ (by simpa using empty), List.map_map]
      exact .arr (isGap_margin _) (isGap_margin _) empty fun item member => ih item member (depth + 1)
  | @obj members distinct each ih =>
    rw [prettyAt, prettyMembers_eq_map]
    by_cases empty : members = []
    · subst empty
      rw [List.map_nil, toList_layOut_nil]
      exact .empty_obj
    · rw [toList_layOut _ _ _ (by simpa using empty), List.map_map]
      refine .obj (isGap_margin _) (isGap_margin _) empty distinct fun member inside => ?_
      refine ⟨[' '], _, by simp [IsGap, isBlank], ?_, ih member inside (depth + 1)⟩
      simp [quote]

theorem Plain.denotes_compact (plain : Plain fits json) (readsBack : ReadsBack number fits) :
    Denotes number (compact json).toList json := by
  induction plain with
  | null => exact .null
  | bool value => exact .bool value
  | int small => exact .int readsBack small
  | str text => exact .str text
  | @arr items each ih =>
    rw [compact, compactItems_eq_map]
    by_cases empty : items = []
    · subst empty
      exact .empty_arr
    · have whole := Denotes.arr isGap_nil isGap_nil empty ih
      simpa [String.toList_intercalate, Function.comp_def] using whole
  | @obj members distinct each ih =>
    rw [compact, compactMembers_eq_map]
    by_cases empty : members = []
    · subst empty
      exact .empty_obj
    · have texts : ∀ member ∈ members, DenotesMember number (quote member.1 ++ ":" ++ compact member.2).toList member :=
        fun member inside => ⟨[], _, isGap_nil, by simp [quote], ih member inside⟩
      have whole := Denotes.obj isGap_nil isGap_nil empty distinct texts
      simpa [String.toList_intercalate, Function.comp_def] using whole

theorem Denotes.readBy {text behind : String} (denotes : Denotes number text.toList json)
    (blank : IsGap behind.toList) : Json.readBy number (text ++ behind) = some json := by
  have ends : NumberEnds behind.toList := by simpa using NumberEnds.gap blank (.nil)
  have enough : text.toList.length < (text ++ behind).toList.length + 1 := by
    rw [String.toList_append, List.length_append]
    omega
  have read := denotes.reads enough ends
  rw [← String.toList_append] at read
  have allBlank : skipBlanks behind.toList = [] := List.dropWhile_eq_nil_iff.mpr blank
  simp only [Json.readBy, read, Option.bind_eq_bind, Option.bind_some, allBlank, List.isEmpty_nil, if_true]
  rfl

/-- A text with integers as they are written, be they larger than machine numbers. -/
def readExact? (text : String) : Option Json := Json.readBy readInteger text

/-- What is printed is read back, with or without blanks behind it. -/
theorem Plain.readBy_pretty (plain : Plain fits json) (readsBack : ReadsBack number fits) {behind : String}
    (blank : IsGap behind.toList) : readBy number (json.pretty ++ behind) = some json :=
  (plain.denotes_prettyAt readsBack 0).readBy blank

theorem Plain.readBy_compact (plain : Plain fits json) (readsBack : ReadsBack number fits) {behind : String}
    (blank : IsGap behind.toList) : readBy number (json.compact ++ behind) = some json :=
  (plain.denotes_compact readsBack).readBy blank

end ClassScript.Json
