import ClassScript.Proofs.Token.Language

namespace ClassScript

open Text

def Kind.opens : Kind → Char → Bool
  | .blank => isBlank
  | .comment => (· == '/')
  | .keyword _ | .identifier => isIdentifierStart
  | .string => (· == '"')
  | .number => Char.isDigit

theorem Kind.Admits.opens {kind : Kind} {c : Char} {rest : List Char} (admits : kind.Admits (c :: rest)) :
    kind.opens c = true := by
  cases kind with
  | blank => exact admits.2 c (List.mem_cons_self ..)
  | comment =>
    obtain ⟨remark, same, _⟩ := admits
    cases same
    rfl
  | keyword word =>
    have form := word.spelling_isIdentifier
    rw [← show c :: rest = word.spelling.toList from admits] at form
    exact form.1
  | string =>
    obtain ⟨body, same, _⟩ := admits
    cases same
    rfl
  | number =>
    obtain ⟨whole, fraction, same, form, _⟩ := admits
    have head := form.head fraction
    rw [← same] at head
    exact head
  | identifier => exact admits.1

theorem isIdentifierStart_isWordChar {c : Char} (start : isIdentifierStart c = true) : isWordChar c = true :=
  isWordChar_of_isIdentifierPart (isIdentifierStart_iff_part.mp start).1

theorem isDigit_isWordChar {c : Char} (digit : c.isDigit = true) : isWordChar c = true :=
  isWordChar_of_isIdentifierPart (isIdentifierPart_of_isDigit digit)

theorem Kind.opens_unique {kind other : Kind} {c : Char} (first : kind.opens c = true) (second : other.opens c = true) :
    kind = other ∨ isIdentifierStart c = true := by
  by_cases start : isIdentifierStart c = true
  · exact Or.inr start
  have blankEnds : isBlank c = true → isWordChar c = false := isWordChar_eq_false_of_isBlank
  have digitGoesOn : c.isDigit = true → isWordChar c = true := isDigit_isWordChar
  have slash : isBlank '/' = false ∧ Char.isDigit '/' = false := by decide
  have quote : isBlank '"' = false ∧ Char.isDigit '"' = false := by decide
  cases kind <;> cases other <;> simp_all [Kind.opens]

theorem Kind.isWord_of_opens {kind : Kind} {c : Char} (opens : kind.opens c = true)
    (start : isIdentifierStart c = true) : kind = .identifier ∨ ∃ word, kind = .keyword word := by
  have word := isIdentifierStart_isWordChar start
  cases kind with
  | blank =>
    rw [isWordChar_eq_false_of_isBlank opens] at word
    cases word
  | comment =>
    have slash : c = '/' := by simpa [Kind.opens] using opens
    rw [slash] at start
    cases start
  | keyword word => exact Or.inr ⟨word, rfl⟩
  | string =>
    have quote : c = '"' := by simpa [Kind.opens] using opens
    rw [quote] at start
    cases start
  | number =>
    have plain := (isIdentifierStart_iff_part.mp start).2
    rw [show c.isDigit = true from opens] at plain
    cases plain
  | identifier => exact Or.inl rfl

theorem Kind.opens_of_lead {kind : Kind} {source : List Char} (found : kind.lead source ≠ []) :
    source.head?.any kind.opens = true := by
  obtain ⟨rest, split, admits, _⟩ := Kind.lead_admits found
  generalize kind.lead source = image at split admits
  subst split
  cases image with
  | nil => exact absurd rfl admits.ne_nil
  | cons c image => exact admits.opens

theorem Kind.isIdentifierPart_of_opens {kind : Kind} {c : Char} (opens : kind.opens c = true)
    (word : isWordChar c = true) : isIdentifierPart c = true := by
  have start : isIdentifierStart c = true → isIdentifierPart c = true := fun start =>
    (isIdentifierStart_iff_part.mp start).1
  cases kind with
  | blank =>
    rw [isWordChar_eq_false_of_isBlank opens] at word
    cases word
  | comment =>
    have slash : c = '/' := by simpa [Kind.opens] using opens
    rw [slash] at word
    cases word
  | keyword keyword => exact start opens
  | string =>
    have quote : c = '"' := by simpa [Kind.opens] using opens
    rw [quote] at word
    cases word
  | number => exact isIdentifierPart_of_isDigit opens
  | identifier => exact start opens

theorem takeWhile_of_leadWord {word : Keyword} {source : List Char} (found : (Kind.keyword word).lead source ≠ []) :
    source.takeWhile isIdentifierPart = word.spelling.toList := by
  obtain ⟨rest, split, admits, stops⟩ := Kind.lead_admits found
  rw [show (Kind.keyword word).lead source = word.spelling.toList from admits] at split stops
  rw [split]
  exact takeWhile_append_of_head word.spelling_isIdentifier.2 (not_isIdentifierPart_of_not_isWordChar stops)

theorem leadWord_unique {word other : Keyword} {source : List Char}
    (first : (Kind.keyword word).lead source ≠ []) (second : (Kind.keyword other).lead source ≠ []) : word = other := by
  apply Keyword.spelling_injective
  apply String.toList_injective
  rw [← takeWhile_of_leadWord first, takeWhile_of_leadWord second]

theorem Kind.lead_unique {kind other : Kind} {source : List Char} (first : kind.lead source ≠ [])
    (second : other.lead source ≠ []) : kind = other ∨ (kind = .identifier ∧ ∃ word, other = .keyword word) ∨
      (other = .identifier ∧ ∃ word, kind = .keyword word) := by
  have firstOpens := Kind.opens_of_lead first
  have secondOpens := Kind.opens_of_lead second
  cases source with
  | nil => cases firstOpens
  | cons c rest =>
    rcases Kind.opens_unique firstOpens secondOpens with same | start
    · exact Or.inl same
    · rcases Kind.isWord_of_opens firstOpens start with rfl | ⟨word, rfl⟩
      · rcases Kind.isWord_of_opens secondOpens start with rfl | ⟨word, rfl⟩
        · exact Or.inl rfl
        · exact Or.inr (Or.inl ⟨rfl, word, rfl⟩)
      · rcases Kind.isWord_of_opens secondOpens start with rfl | ⟨other, rfl⟩
        · exact Or.inr (Or.inr ⟨rfl, word, rfl⟩)
        · rw [leadWord_unique first second]
          exact Or.inl rfl

theorem lead_eq_nil_of_identifier {source image : List Char} (found : lexeme? source = some (.identifier, image))
    {kind : Kind} (other : kind ≠ .identifier) : kind.lead source = [] := by
  obtain ⟨first, search, same⟩ := Option.map_eq_some_iff.mp found
  cases same
  -- identifiers come last in the search
  have order : Kind.all = Kind.all.dropLast ++ [.identifier] := by decide
  have last : Kind.identifier ∉ Kind.all.dropLast := by decide
  by_contra nonempty
  have member : kind ∈ Kind.all.dropLast := by
    have listed := kind.mem_all
    rw [order] at listed
    simpa [other] using listed
  have earlier : (Kind.all.dropLast.find? fun kind => !(kind.lead source).isEmpty).isSome = true := by
    rw [List.find?_isSome]
    exact ⟨kind, member, by simpa using nonempty⟩
  obtain ⟨winner, wins⟩ := Option.isSome_iff_exists.mp earlier
  rw [order, List.find?_append, wins] at search
  cases search
  exact last (List.mem_of_find?_eq_some wins)

theorem lexeme?_eq_none_of_foreign {c : Char} (word : isWordChar c = true) (foreign : isIdentifierPart c = false)
    (rest : List Char) : lexeme? (c :: rest) = none := by
  refine lexeme?_eq_none_iff.mpr fun kind => ?_
  by_contra found
  have opens : kind.opens c = true := Kind.opens_of_lead found
  rw [Kind.isIdentifierPart_of_opens opens word] at foreign
  cases foreign

/-- A lexeme is the one text that any kind finds, except that an identifier gives way to a keyword. -/
theorem lexeme?_eq_some_iff {source image : List Char} {kind : Kind} : lexeme? source = some (kind, image) ↔
    kind.lead source = image ∧ image ≠ [] ∧ (kind = .identifier → ∀ word, (Kind.keyword word).lead source = []) := by
  apply Iff.intro
  · intro found
    obtain ⟨same, nonempty⟩ := lexeme?_eq_some found
    refine ⟨same.symm, nonempty, ?_⟩
    intro identifier word
    subst identifier
    exact lead_eq_nil_of_identifier found (by simp)
  · intro conditions
    obtain ⟨rfl, nonempty, reserved⟩ := conditions
    cases found : lexeme? source with
    | none => exact absurd (lexeme?_eq_none_iff.mp found kind) nonempty
    | some lexeme =>
      obtain ⟨winner, image⟩ := lexeme
      obtain ⟨rfl, winnerNonempty⟩ := lexeme?_eq_some found
      rcases Kind.lead_unique winnerNonempty nonempty with rfl | ⟨rfl, word, rfl⟩ | ⟨rfl, word, rfl⟩
      · rfl
      · exact absurd (lead_eq_nil_of_identifier found (by simp)) nonempty
      · exact absurd (reserved rfl word) winnerNonempty

theorem lexeme?_append_iff {image rest : List Char} {kind : Kind} : lexeme? (image ++ rest) = some (kind, image) ↔
    kind.Admits image ∧ kind.StopsBefore image rest ∧
      (kind = .identifier → ∀ word : Keyword, image = word.spelling.toList → rest.head?.any isWordChar = true) := by
  rw [lexeme?_eq_some_iff]
  apply Iff.intro
  · intro conditions
    obtain ⟨found, nonempty, reserved⟩ := conditions
    obtain ⟨admits, stops⟩ := (Kind.lead_eq_iff nonempty).mp found
    refine ⟨admits, stops, ?_⟩
    intro identifier word same
    by_contra wordEnds
    have taken : (Kind.keyword word).lead (image ++ rest) = word.spelling.toList := by
      rw [same]
      exact leadWord_append (by simpa using wordEnds)
    rw [reserved identifier word] at taken
    exact word.spelling_isIdentifier.ne_nil taken.symm
  · intro conditions
    obtain ⟨admits, stops, reserved⟩ := conditions
    refine ⟨(Kind.lead_eq_iff admits.ne_nil).mpr ⟨admits, stops⟩, admits.ne_nil, ?_⟩
    intro identifier word
    subst identifier
    by_contra found
    have same : image = word.spelling.toList := by
      rw [← takeWhile_of_leadWord found]
      exact (takeWhile_append_of_head admits.2 stops).symm
    obtain ⟨behind, split, keyword, wordEnds⟩ := Kind.lead_admits found
    rw [show (Kind.keyword word).lead (image ++ rest) = word.spelling.toList from keyword, ← same] at split
    have goesOn := reserved rfl word same
    rw [List.append_cancel_left split, show behind.head?.any isWordChar = false from wordEnds] at goesOn
    cases goesOn

end ClassScript
