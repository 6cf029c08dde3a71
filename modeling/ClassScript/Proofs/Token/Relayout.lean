import ClassScript.Proofs.Token.Layout

namespace ClassScript

open Text

def Token.lexeme {source : String} {token : Token} (clean : (scan source).strays = [])
    (member : token ∈ (scan source).tokens) : Lexeme where
  kind := token.kind
  image := token.image
  counts := mem_scan_tokens_counts member
  admits := mem_scan_tokens_admits member
  free := identifier_free_of_clean clean member

def lexemesOfClean {source : String} (clean : (scan source).strays = []) : List Lexeme :=
  (scan source).tokens.attach.map fun token => Token.lexeme clean token.property

theorem lexemesOfClean_plain {source : String} (clean : (scan source).strays = []) :
    (lexemesOfClean clean).map Lexeme.plain = (scan source).tokens.map Token.plain := by
  rw [lexemesOfClean, List.map_map]
  exact List.attach_map_val (f := Token.plain)

/-- A text that spells lexemes with layout between them is scanned into just these lexemes, without a stray character.
    The tokens of a source without stray characters are such lexemes, so whatever text spells these has tokens of the
    same kinds and images. -/
theorem lexemes_survive_layout :
    (∀ (lexemes : List Lexeme) (source : String), Writes lexemes source →
      (scan source).tokens.map Token.plain = lexemes.map Lexeme.plain ∧ (scan source).strays = []) ∧
    ∀ source : String, (scan source).strays = [] →
      (∃ lexemes : List Lexeme, lexemes.map Lexeme.plain = (scan source).tokens.map Token.plain) ∧
      ∀ (lexemes : List Lexeme) (other : String), lexemes.map Lexeme.plain = (scan source).tokens.map Token.plain →
        Writes lexemes other →
          (scan other).tokens.map Token.plain = (scan source).tokens.map Token.plain ∧ (scan other).strays = [] := by
  refine ⟨fun _ _ => scan_writes, ?_⟩
  intro source clean
  refine ⟨⟨lexemesOfClean clean, lexemesOfClean_plain clean⟩, ?_⟩
  intro lexemes other same written
  obtain ⟨tokens, strays⟩ := scan_writes written
  exact ⟨tokens.trans same, strays⟩

def variedLexemes : List Lexeme :=
  [.keyword .a,
    Name.lexeme ⟨"ab", ⟨by decide, List.all_eq_true.mp (by decide)⟩, fun word => by cases word <;> decide⟩,
    ⟨.number, "7.5", rfl, ⟨['7'], ['.', '5'], by decide, ⟨by decide, List.all_eq_true.mp (by decide)⟩,
      Or.inr ⟨['5'], rfl, by decide, List.all_eq_true.mp (by decide)⟩⟩, nofun⟩,
    Quotable.lexeme ⟨"//", by decide⟩]

theorem lexemes_survive_layout_varied :
    (Writes variedLexemes "a\u00a0ab//\"7\n7.5\n\"//\"" ∧
      (scan "a\u00a0ab//\"7\n7.5\n\"//\"").tokens.map Token.plain = variedLexemes.map Lexeme.plain) ∧
    (scan "a ab 7.5\"//\"//").strays = [] ∧
    variedLexemes.map Lexeme.plain = (scan "a ab 7.5\"//\"//").tokens.map Token.plain ∧
    (scan "a\u00a0ab//\"7\n7.5\n\"//\"").tokens.map Token.plain =
      (scan "a ab 7.5\"//\"//").tokens.map Token.plain ∧
    (scan "a\u00a0ab//\"7\n7.5\n\"//\"").strays = [] := by
  have noBreak : Layout ['\u00a0'] := .blank (by decide) .nil
  have remark : Layout ('/' :: '/' :: ['"', '7'] ++ ['\n']) := .comment (by decide) .nil
  have feed : Layout ['\n'] := .blank (by decide) .nil
  have written : Writes variedLexemes "a\u00a0ab//\"7\n7.5\n\"//\"" :=
    ⟨_, _, .nil, .cons noBreak nofun (.cons remark nofun (.cons feed nofun (.cons .nil (fun _ => rfl) .nil))),
      by decide +kernel⟩
  have clean : (scan "a ab 7.5\"//\"//").strays = [] := by decide +kernel
  have same : variedLexemes.map Lexeme.plain = (scan "a ab 7.5\"//\"//").tokens.map Token.plain := by decide +kernel
  obtain ⟨found, kept⟩ := lexemes_survive_layout
  exact ⟨⟨written, (found _ _ written).1⟩, clean, same, (kept _ clean).2 _ _ same written⟩

end ClassScript
