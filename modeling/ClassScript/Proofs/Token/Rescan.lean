import ClassScript.Proofs.Token.Place

namespace ClassScript

open Text

def Token.Rescans (token : Token) : Prop :=
  ∃ position, scan token.image = ⟨[⟨token.kind, token.image, position⟩], []⟩

theorem lexeme?_self_iff {image : List Char} {kind : Kind} : lexeme? image = some (kind, image) ↔
    kind.Admits image ∧ (kind = .identifier → ∀ word : Keyword, image ≠ word.spelling.toList) := by
  have whole := @lexeme?_append_iff image [] kind
  rw [List.append_nil] at whole
  rw [whole]
  apply Iff.intro
  · intro conditions
    obtain ⟨admits, _, reserved⟩ := conditions
    refine ⟨admits, ?_⟩
    intro identifier word same
    cases reserved identifier word same
  · intro conditions
    obtain ⟨admits, free⟩ := conditions
    refine ⟨admits, kind.stopsBefore_nil image, ?_⟩
    intro identifier word same
    exact absurd same (free identifier word)

theorem scan_of_lexeme {source : String} {kind : Kind} (found : lexeme? source.toList = some (kind, source.toList))
    (counts : kind.isSkipped = false) : scan source = ⟨[⟨kind, source, .start⟩], []⟩ := by
  have whole : segments source.toList = [.lexeme kind source.toList] := by
    have step := @segments_append_of_lexeme source.toList [] kind (by rwa [List.append_nil])
    rwa [List.append_nil, segments_nil] at step
  simp [scan, whole, Placed.row, Scan.ofPlaced, Placed.token?, Placed.stray?, counts]

theorem Token.rescans_iff {token : Token} (counts : token.kind.isSkipped = false)
    (admits : token.kind.Admits token.image.toList) :
    token.Rescans ↔ ¬ (token.kind = .identifier ∧ ∃ word : Keyword, token.image = word.spelling) := by
  apply Iff.intro
  · intro rescans spelled
    obtain ⟨position, alone⟩ := rescans
    obtain ⟨identifier, word, same⟩ := spelled
    have keyword : lexeme? token.image.toList = some (.keyword word, token.image.toList) := by
      rw [lexeme?_self_iff, same]
      exact ⟨rfl, by simp⟩
    rw [scan_of_lexeme keyword rfl, identifier] at alone
    simp at alone
  · intro free
    refine ⟨.start, scan_of_lexeme (lexeme?_self_iff.mpr ⟨admits, ?_⟩) counts⟩
    intro identifier word same
    exact free ⟨identifier, word, String.toList_injective same⟩

/-- A token is found again in its own image unless it is an identifier spelled like a keyword, and such an identifier
    stands in front of a word character that is no part of identifiers. -/
theorem rescans_iff_not_keyword_before_word {source : String} {token : Token}
    (member : token ∈ (scan source).tokens) :
    ∃ before after, source.toList = before ++ token.image.toList ++ after ∧
      token.position = Position.start.advance before ∧
      (token.Rescans ↔ ¬ (token.kind = .identifier ∧ ∃ word : Keyword, token.image = word.spelling ∧
        ∃ c ∈ after.head?, isWordChar c = true ∧ isIdentifierPart c = false)) := by
  obtain ⟨before, after, split, place, counts, found⟩ := mem_scan_tokens member
  obtain ⟨admits, stops, reserved⟩ := lexeme?_append_iff.mp found
  refine ⟨before, after, split, place, ?_⟩
  rw [Token.rescans_iff counts admits]
  apply not_congr
  apply Iff.intro
  · intro spelled
    obtain ⟨identifier, word, same⟩ := spelled
    refine ⟨identifier, word, same, ?_⟩
    have goesOn := reserved identifier word (congrArg String.toList same)
    rw [identifier] at stops
    cases after with
    | nil => cases goesOn
    | cons c after => exact ⟨c, rfl, goesOn, stops⟩
  · intro spelled
    obtain ⟨identifier, word, same, _⟩ := spelled
    exact ⟨identifier, word, same⟩

theorem rescans_iff_default_before_accent :
    (⟨.identifier, "default", ⟨2, 1, 3⟩⟩ : Token) ∈ (scan "a defaulté").tokens ∧
    ∃ before after, "a defaulté".toList = before ++ "default".toList ++ after ∧
      (⟨2, 1, 3⟩ : Position) = Position.start.advance before ∧
      ((⟨.identifier, "default", ⟨2, 1, 3⟩⟩ : Token).Rescans ↔
        ¬ (Kind.identifier = .identifier ∧ ∃ word : Keyword, "default" = word.spelling ∧
          ∃ c ∈ after.head?, isWordChar c = true ∧ isIdentifierPart c = false)) :=
  have member : (⟨.identifier, "default", ⟨2, 1, 3⟩⟩ : Token) ∈ (scan "a defaulté").tokens := by decide +kernel
  ⟨member, rescans_iff_not_keyword_before_word member⟩

/-- In front of an accented letter `define` is an identifier, but alone it is a keyword. -/
theorem not_all_tokens_rescan : ¬ ∀ (source : String), ∀ token ∈ (scan source).tokens, token.Rescans := by
  intro all
  have member : (⟨.identifier, "define", .start⟩ : Token) ∈ (scan "defineé").tokens := by decide +kernel
  obtain ⟨position, alone⟩ := all "defineé" _ member
  have keyword : scan "define" = ⟨[⟨.keyword .define, "define", .start⟩], []⟩ := by decide +kernel
  rw [keyword] at alone
  simp at alone

end ClassScript
