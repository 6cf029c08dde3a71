import ClassScript.Proofs.Token.Place
import Mathlib.Data.List.Basic
import Mathlib.Data.List.Find

namespace ClassScript

open Text

/-- What a kind asks of the text behind its own: a keyword has to be the end of a word. -/
def Kind.Bounded : Kind → List Char → Prop
  | .keyword _, rest => rest.head?.any isWordChar = false
  | _, _ => True

def Kind.Matches (kind : Kind) (source image : List Char) : Prop :=
  kind.Admits image ∧ ∃ rest, source = image ++ rest ∧ kind.Bounded rest

def Kind.withWords (words : List Keyword) : List Kind :=
  [.blank, .comment] ++ words.map Kind.keyword ++ [.string, .number, .identifier]

def firstMatch (kinds : List Kind) (source : List Char) : Option (Kind × List Char) :=
  (kinds.find? fun kind => !(kind.lead source).isEmpty).map fun kind => (kind, kind.lead source)

/-- Of all texts that stand at the head of the source the longest, and of the kinds that have one so long the first. -/
structure LongestMatch (kinds : List Kind) (source : List Char) (kind : Kind) (image : List Char) : Prop where
  listed : kind ∈ kinds
  stands : kind.Matches source image
  longest : ∀ other ∈ kinds, ∀ text, other.Matches source text → text.length ≤ image.length
  first : ∀ other ∈ kinds, ∀ text, other.Matches source text → text.length = image.length →
    kinds.idxOf kind ≤ kinds.idxOf other

theorem lexeme?_eq_firstMatch (source : List Char) : lexeme? source = firstMatch Kind.all source := rfl

theorem Kind.StopsBefore.bounded {kind : Kind} {image rest : List Char} (stops : kind.StopsBefore image rest) :
    kind.Bounded rest := by
  cases kind with
  | keyword word => exact stops
  | _ => trivial

theorem Kind.lead_matches {kind : Kind} {source : List Char} (found : kind.lead source ≠ []) :
    kind.Matches source (kind.lead source) := by
  obtain ⟨rest, split, admits, stops⟩ := Kind.lead_admits found
  exact ⟨admits, rest, split, stops.bounded⟩

theorem isPrefix_takeWhile_append {p : Char → Bool} {image : List Char} (all : ∀ c ∈ image, p c = true)
    (rest : List Char) : image <+: (image ++ rest).takeWhile p := by
  rw [List.takeWhile_append_of_pos all]
  exact List.prefix_append _ _

theorem isPrefix_leadNumber {image : List Char} (admits : Kind.number.Admits image) (rest : List Char) :
    image <+: leadNumber (image ++ rest) := by
  obtain ⟨whole, fraction, rfl, wholeForm, fractionForm⟩ := admits
  rw [List.append_assoc, leadNumber, if_pos (wholeForm.head _)]
  rcases fractionForm with rfl | ⟨digits, rfl, digitsForm⟩
  · rw [List.append_nil]
    exact (isPrefix_takeWhile_append wholeForm.2 _).trans (List.prefix_append _ _)
  · have stops : ('.' :: digits ++ rest).head?.any Char.isDigit = false := rfl
    rw [takeWhile_append_of_head wholeForm.2 stops, dropWhile_append_of_head wholeForm.2 stops, List.cons_append,
      leadFraction, if_pos (digitsForm.head rest)]
    have further := isPrefix_takeWhile_append digitsForm.2 rest
    exact (List.prefix_append_right_inj whole).mpr (List.cons_prefix_cons.mpr ⟨rfl, further⟩)

theorem Kind.Matches.isPrefix_lead {kind : Kind} {source image : List Char} (stands : kind.Matches source image) :
    image <+: kind.lead source := by
  obtain ⟨admits, rest, rfl, bounded⟩ := stands
  cases kind with
  | blank => exact isPrefix_takeWhile_append admits.2 rest
  | comment =>
    obtain ⟨remark, rfl, plain⟩ := admits
    have further := isPrefix_takeWhile_append (all_ne_of_not_mem plain) rest
    exact List.cons_prefix_cons.mpr ⟨rfl, List.cons_prefix_cons.mpr ⟨rfl, further⟩⟩
  | keyword word =>
    have taken : (Kind.keyword word).lead (word.spelling.toList ++ rest) = word.spelling.toList := leadWord_append bounded
    rw [show image = word.spelling.toList from admits]
    exact ⟨[], by rw [taken, List.append_nil]⟩
  | string =>
    have taken : Kind.string.lead (image ++ rest) = image := leadString_append admits rest
    exact ⟨[], by rw [taken, List.append_nil]⟩
  | number => exact isPrefix_leadNumber admits rest
  | identifier =>
    have taken : Kind.identifier.lead (image ++ rest) = (image ++ rest).takeWhile isIdentifierPart :=
      if_pos (IsIdentifier.head admits rest)
    rw [taken]
    exact isPrefix_takeWhile_append admits.2 rest

theorem Kind.Matches.lead_ne_nil {kind : Kind} {source image : List Char} (stands : kind.Matches source image) :
    kind.lead source ≠ [] := by
  intro empty
  have short := stands.isPrefix_lead
  rw [empty] at short
  exact stands.1.ne_nil (List.prefix_nil.mp short)

theorem leadIdentifier_of_leadWord {word : Keyword} {source : List Char} (found : (Kind.keyword word).lead source ≠ []) :
    leadIdentifier source = (Kind.keyword word).lead source := by
  have taken := takeWhile_of_leadWord found
  obtain ⟨rest, split, admits, _⟩ := Kind.lead_admits found
  rw [show (Kind.keyword word).lead source = word.spelling.toList from admits] at split ⊢
  have start := word.spelling_isIdentifier.head rest
  rw [← split] at start
  rw [leadIdentifier, if_pos start, taken]

theorem Kind.lead_agree {kind other : Kind} {source : List Char} (first : kind.lead source ≠ [])
    (second : other.lead source ≠ []) : kind.lead source = other.lead source := by
  rcases Kind.lead_unique first second with rfl | ⟨rfl, word, rfl⟩ | ⟨rfl, word, rfl⟩
  · rfl
  · exact leadIdentifier_of_leadWord second
  · exact (leadIdentifier_of_leadWord first).symm

theorem find?_eq_some_iff_idxOf {kinds : List Kind} {p : Kind → Bool} {kind : Kind} : kinds.find? p = some kind ↔
    kind ∈ kinds ∧ p kind = true ∧ ∀ other ∈ kinds, p other = true → kinds.idxOf kind ≤ kinds.idxOf other := by
  have least : ∀ winner, kinds.find? p = some winner →
      ∀ other, p other = true → kinds.idxOf winner ≤ kinds.idxOf other := by
    intro winner found other sought
    obtain ⟨_, before, after, rfl, passed⟩ := List.find?_eq_some_iff_append.mp found
    have absent : ∀ kind, p kind = true → kind ∉ before := by
      intro kind sought member
      simpa [sought] using passed kind member
    rw [List.idxOf_append_of_notMem (absent winner (List.find?_some found)),
      List.idxOf_append_of_notMem (absent other sought), List.idxOf_cons_self]
    omega
  apply Iff.intro
  · intro found
    exact ⟨List.mem_of_find?_eq_some found, List.find?_some found, fun other _ => least kind found other⟩
  · intro conditions
    obtain ⟨member, sought, first⟩ := conditions
    obtain ⟨winner, found⟩ := Option.isSome_iff_exists.mp (List.find?_isSome.mpr ⟨kind, member, sought⟩)
    have winnerMember := List.mem_of_find?_eq_some found
    have same : kinds.idxOf kind = kinds.idxOf winner :=
      Nat.le_antisymm (first winner winnerMember (List.find?_some found)) (least winner found kind sought)
    rw [found, (List.idxOf_inj member).mp same]

theorem firstMatch_eq_some_iff {kinds : List Kind} {source image : List Char} {kind : Kind} :
    firstMatch kinds source = some (kind, image) ↔ kind ∈ kinds ∧ kind.lead source = image ∧ image ≠ [] ∧
      ∀ other ∈ kinds, other.lead source ≠ [] → kinds.idxOf kind ≤ kinds.idxOf other := by
  have search : firstMatch kinds source = some (kind, image) ↔
      (kinds.find? fun kind => !(kind.lead source).isEmpty) = some kind ∧ kind.lead source = image := by
    rw [firstMatch, Option.map_eq_some_iff]
    apply Iff.intro
    · intro found
      obtain ⟨winner, wins, same⟩ := found
      cases same
      exact ⟨wins, rfl⟩
    · intro found
      exact ⟨kind, found.1, by rw [found.2]⟩
  rw [search, find?_eq_some_iff_idxOf]
  simp only [Bool.not_eq_true', List.isEmpty_eq_false_iff]
  apply Iff.intro
  · rintro ⟨⟨member, found, first⟩, rfl⟩
    exact ⟨member, rfl, found, first⟩
  · rintro ⟨member, rfl, found, first⟩
    exact ⟨⟨member, found, first⟩, rfl⟩

theorem firstMatch_eq_some_iff_longest {kinds : List Kind} {source image : List Char} {kind : Kind} :
    firstMatch kinds source = some (kind, image) ↔ LongestMatch kinds source kind image := by
  rw [firstMatch_eq_some_iff]
  apply Iff.intro
  · intro conditions
    obtain ⟨member, rfl, found, first⟩ := conditions
    refine ⟨member, Kind.lead_matches found, ?_, ?_⟩
    · intro other _ text stands
      rw [Kind.lead_agree found stands.lead_ne_nil]
      exact stands.isPrefix_lead.length_le
    · intro other listed text stands _
      exact first other listed stands.lead_ne_nil
  · intro longest
    have found := longest.stands.lead_ne_nil
    -- the kind itself finds no more, so the text is all that it finds
    have short := longest.longest kind longest.listed _ (Kind.lead_matches found)
    have whole : image = kind.lead source := longest.stands.isPrefix_lead.eq_of_length_le short
    refine ⟨longest.listed, whole.symm, longest.stands.1.ne_nil, ?_⟩
    intro other listed otherFound
    refine longest.first other listed _ (Kind.lead_matches otherFound) ?_
    rw [Kind.lead_agree otherFound found, whole]

theorem lexeme?_eq_none_iff_matches {source : List Char} :
    lexeme? source = none ↔ ∀ (kind : Kind) (image : List Char), ¬ kind.Matches source image := by
  rw [lexeme?_eq_none_iff]
  apply Iff.intro
  · intro empty kind image stands
    exact stands.lead_ne_nil (empty kind)
  · intro none kind
    by_contra found
    exact none kind _ (Kind.lead_matches found)

theorem firstMatch_withWords {words : List Keyword} (order : words.Perm Keyword.all) (source : List Char) :
    firstMatch (Kind.withWords words) source = lexeme? source := by
  have same : (words.map Kind.keyword).find? (fun kind => !(kind.lead source).isEmpty) =
      (Keyword.all.map Kind.keyword).find? fun kind => !(kind.lead source).isEmpty := by
    -- at most one keyword is found here, so the search among them may go in any order
    apply List.find?_eq_find?_of_perm (order.map Kind.keyword)
    intro left leftFound right rightFound
    obtain ⟨leftMember, leftFound⟩ := leftFound
    obtain ⟨rightMember, rightFound⟩ := rightFound
    obtain ⟨word, _, rfl⟩ := List.mem_map.mp leftMember
    obtain ⟨other, _, rfl⟩ := List.mem_map.mp rightMember
    have same : word = other := leadWord_unique (by simpa using leftFound) (by simpa using rightFound)
    rw [same]
  rw [firstMatch, lexeme?, Kind.withWords, Kind.all]
  simp only [List.find?_append, same]

theorem Kind.StopsBefore.of_word {kind : Kind} {image rest : List Char} (stops : kind.StopsBefore image rest)
    (word : kind = .identifier ∨ kind.isKeyword = true) : rest.head?.any isIdentifierPart = false := by
  cases kind with
  | identifier => exact stops
  | keyword keyword => exact not_isIdentifierPart_of_not_isWordChar stops
  | _ => simp [Kind.isKeyword, Kind.spelling?] at word

theorem keyword_iff_of_lexeme {image after : List Char} {kind : Kind}
    (found : lexeme? (image ++ after) = some (kind, image)) (word : Keyword) : kind = .keyword word ↔
      (image ++ after).takeWhile isIdentifierPart = word.spelling.toList ∧
        ((image ++ after).dropWhile isIdentifierPart).head?.any isWordChar = false := by
  have parts : (image ++ after).takeWhile isIdentifierPart ++ (image ++ after).dropWhile isIdentifierPart =
      image ++ after := List.takeWhile_append_dropWhile
  apply Iff.intro
  · rintro rfl
    obtain ⟨lead, nonempty, _⟩ := lexeme?_eq_some_iff.mp found
    obtain ⟨admits, stops, _⟩ := lexeme?_append_iff.mp found
    have taken : (image ++ after).takeWhile isIdentifierPart = word.spelling.toList :=
      takeWhile_of_leadWord (by rwa [lead])
    have whole : (image ++ after).takeWhile isIdentifierPart = image :=
      taken.trans (show image = word.spelling.toList from admits).symm
    rw [whole] at parts
    have left : (image ++ after).dropWhile isIdentifierPart = after := List.append_cancel_left parts
    exact ⟨taken, by rw [left]; exact stops⟩
  · intro conditions
    obtain ⟨taken, stops⟩ := conditions
    rw [taken] at parts
    have keyword : lexeme? (image ++ after) = some (.keyword word, word.spelling.toList) := by
      rw [← parts]
      exact lexeme?_append_iff.mpr ⟨rfl, stops, nofun⟩
    rw [found] at keyword
    cases keyword
    rfl

/-- The first match at a place is the longest match there, with the earliest kind where two are as long; since at most one
    keyword matches, their order does not count. So a token is a keyword just where the run of identifier characters at
    its start spells it and no word character follows; words end before a letter, a digit or an underscore would go on,
    and numbers before a digit or, without a fraction, before a point and a digit. -/
theorem first_match_is_longest :
    (∀ (source image : List Char) (kind : Kind),
      lexeme? source = some (kind, image) ↔ LongestMatch Kind.all source kind image) ∧
    (∀ source : List Char, lexeme? source = none ↔ ∀ (kind : Kind) (image : List Char), ¬ kind.Matches source image) ∧
    (∀ (source image text : List Char) (word other : Keyword), (Kind.keyword word).Matches source image →
      (Kind.keyword other).Matches source text → word = other) ∧
    (∀ (words : List Keyword) (source : List Char), words.Perm Keyword.all →
      firstMatch (Kind.withWords words) source = lexeme? source) ∧
    ∀ (source : String), ∀ token ∈ (scan source).tokens, ∃ before after,
      source.toList = before ++ token.image.toList ++ after ∧ token.position = Position.start.advance before ∧
      (∀ word, token.kind = .keyword word ↔
        (token.image.toList ++ after).takeWhile isIdentifierPart = word.spelling.toList ∧
        ((token.image.toList ++ after).dropWhile isIdentifierPart).head?.any isWordChar = false) ∧
      (token.kind = .identifier ∨ token.kind.isKeyword = true → after.head?.any isIdentifierPart = false) ∧
      (token.kind = .number → after.head?.any Char.isDigit = false ∧
        ('.' ∉ token.image.toList → ∀ c later, after = '.' :: c :: later → c.isDigit = false)) := by
  refine ⟨?_, fun _ => lexeme?_eq_none_iff_matches, ?_, ?_, ?_⟩
  · intro source image kind
    rw [lexeme?_eq_firstMatch, firstMatch_eq_some_iff_longest]
  · intro source image text word other first second
    exact leadWord_unique first.lead_ne_nil second.lead_ne_nil
  · intro words source order
    exact firstMatch_withWords order source
  · intro source token member
    obtain ⟨before, after, split, place, _, found⟩ := mem_scan_tokens member
    obtain ⟨_, stops, _⟩ := lexeme?_append_iff.mp found
    refine ⟨before, after, split, place, keyword_iff_of_lexeme found, ?_, ?_⟩
    · intro word
      exact stops.of_word word
    · intro number
      rw [number] at stops
      exact stops

theorem first_match_is_longest_glued :
    (Kind.keyword .do).Matches "do it".toList "do".toList ∧
    (∀ (word : Keyword) (text : List Char), (Kind.keyword word).Matches "do it".toList text → .do = word) ∧
    Keyword.all.reverse.Perm Keyword.all ∧
    firstMatch (Kind.withWords Keyword.all.reverse) "isa do".toList = some (.identifier, "isa".toList) ∧
    (⟨.number, "7", ⟨0, 1, 1⟩⟩ : Token) ∈ (scan "7.is new").tokens ∧
    (∃ before after, "7.is new".toList = before ++ "7".toList ++ after ∧
      (⟨0, 1, 1⟩ : Position) = Position.start.advance before ∧
      ∀ c later, after = '.' :: c :: later → c.isDigit = false) ∧
    (⟨.keyword .is, "is", ⟨2, 1, 3⟩⟩ : Token) ∈ (scan "7.is new").tokens ∧
    ∃ before after, "7.is new".toList = before ++ "is".toList ++ after ∧
      (⟨2, 1, 3⟩ : Position) = Position.start.advance before ∧ after.head?.any isIdentifierPart = false := by
  obtain ⟨_, _, unique, order, tokens⟩ := first_match_is_longest
  have spaced : isWordChar ' ' = false := isWordChar_eq_false_of_isBlank (by decide)
  have stands : (Kind.keyword .do).Matches "do it".toList "do".toList := ⟨rfl, " it".toList, rfl, spaced⟩
  have turned : Keyword.all.reverse.Perm Keyword.all := List.reverse_perm _
  have number : (⟨.number, "7", ⟨0, 1, 1⟩⟩ : Token) ∈ (scan "7.is new").tokens := by decide +kernel
  have word : (⟨.keyword .is, "is", ⟨2, 1, 3⟩⟩ : Token) ∈ (scan "7.is new").tokens := by decide +kernel
  obtain ⟨front, back, whole, start, _, _, point⟩ := tokens _ _ number
  obtain ⟨before, after, split, place, _, ends, _⟩ := tokens _ _ word
  exact ⟨stands, fun word text => unique _ _ _ .do word stands, turned, (order _ _ turned).trans (by decide +kernel),
    number, ⟨front, back, whole, start, (point rfl).2 (by decide)⟩, word, before, after, split, place, ends (.inr rfl)⟩

end ClassScript
