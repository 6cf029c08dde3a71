import ClassScript.Proofs.Syntax.Run
import ClassScript.Proofs.Token.Layout

namespace ClassScript

theorem Placed.row_skipped {position : Position} {found : List Segment}
    (noToken : ∀ placed ∈ Placed.row position found, placed.token? = none)
    (noStray : ∀ placed ∈ Placed.row position found, placed.stray? = none) :
    ∀ segment ∈ found, segment.isSkipped = true := by
  intro segment member
  rw [← Placed.row_segments position found] at member
  obtain ⟨placed, inRow, rfl⟩ := List.mem_map.mp member
  have token := noToken placed inRow
  have stray := noStray placed inRow
  cases same : placed.segment with
  | stray text => simp [Placed.stray?, same] at stray
  | lexeme kind image => simpa [Placed.token?, same, Segment.isSkipped] using token

theorem scan_last_token {source : String} {last : Token} (ends : (scan source).tokens.getLast? = some last) :
    ∃ before after, source.toList = before ++ (last.image.toList ++ after) ∧
      last.position = Position.start.advance before ∧ ((scan source).strays = [] → Layout (after ++ ['\n'])) := by
  obtain ⟨earlier, tokens⟩ := List.getLast?_eq_some_iff.mp ends
  obtain ⟨front, back, row, _, single⟩ := List.filterMap_eq_append_iff.mp tokens
  obtain ⟨gap, placed, behind, rfl, _, isLast, noToken⟩ := List.filterMap_eq_cons_iff.mp single
  rw [← List.append_assoc] at row
  obtain ⟨before, after, split, place, rfl⟩ := Placed.row_eq_append_cons row
  obtain ⟨segment, position, _⟩ := Placed.token?_eq_some isLast
  have text := text_of_segments split
  have cut := segments_cut source.toList
  rw [segment, List.append_assoc] at text
  rw [split, List.append_cons] at cut
  refine ⟨_, _, text, position.symm.trans place, ?_⟩
  intro noStray
  refine cut.drop.layout (Placed.row_skipped (List.filterMap_eq_nil_iff.mp noToken) ?_)
  intro later inRow
  refine List.filterMap_eq_nil_iff.mp noStray later ?_
  rw [row]
  exact List.mem_append_right _ (List.mem_cons_of_mem _ inRow)

/-- The text stands in the source at a place with these coordinates. -/
def StandsAt (source text : String) (position : Position) : Prop :=
  ∃ before after, source.toList = before ++ (text.toList ++ after) ∧ position = .behind before

theorem StandsAt.of_token {source : String} {token : Token} (member : token ∈ (scan source).tokens) :
    StandsAt source token.image token.position := by
  obtain ⟨before, after, split, place, _⟩ := mem_scan_tokens member
  exact ⟨before, after, by rw [split, List.append_assoc], by rw [place, Position.advance_start]⟩

theorem StandsAt.of_stray {source : String} {stray : Stray} (member : stray ∈ (scan source).strays) :
    StandsAt source stray.text stray.position := by
  obtain ⟨before, after, split, place⟩ := mem_scan_strays member
  exact ⟨before, after, by rw [split, List.append_assoc], by rw [place, Position.advance_start]⟩

/-- The place where a source ends for the grammar: right behind its last token. -/
def EndsAt (source : String) (position : Position) : Prop :=
  ∃ last before after, (scan source).tokens.getLast? = some last ∧ last.position = .behind before ∧
    source.toList = before ++ (last.image.toList ++ after) ∧ position = .behind (before ++ last.image.toList) ∧
    ((scan source).strays = [] → Layout (after ++ ['\n']))

theorem EndsAt.endPosition {source : String} (nonempty : (scan source).tokens ≠ []) :
    EndsAt source (endPosition (scan source).tokens) := by
  have ends := List.getLast?_eq_some_getLast nonempty
  obtain ⟨before, after, split, place, layout⟩ := scan_last_token ends
  refine ⟨_, before, after, ends, place.trans (Position.advance_start before), split, ?_, layout⟩
  rw [ClassScript.endPosition, ends, Option.elim_some, Token.stop, place, ← Position.advance_append,
    Position.advance_start]

theorem place_of_mem_parse_errors {limit : Limit} {source : String} {error : SyntaxError}
    (member : error ∈ (parse limit (scan source).tokens).errors) :
    (∀ token ∈ error.found?, token ∈ (scan source).tokens ∧ StandsAt source token.image error.position) ∧
      (error.found? = none → EndsAt source error.position) := by
  obtain ⟨nonempty, ⟨rule, expected, rest⟩, ⟨used, split⟩, rfl⟩ := mem_parse_errors member
  cases rest with
  | nil => exact ⟨nofun, fun _ => .endPosition nonempty⟩
  | cons token rest =>
    have inTokens : token ∈ (scan source).tokens := by
      rw [← split]
      simp
    refine ⟨?_, nofun⟩
    intro other same
    cases same
    exact ⟨inTokens, .of_token inTokens⟩

/-- Every position that a source is reported with is the true place: that of the token or of the stray run, and for an
    error at the end of the input the end of the last token, with nothing that counts behind it. -/
theorem positions_are_coordinates (limit : Limit) (source : String) :
    (∀ token ∈ (scan source).tokens, StandsAt source token.image token.position) ∧
    (∀ stray ∈ (scan source).strays, StandsAt source stray.text stray.position) ∧
    ∀ error ∈ (parse limit (scan source).tokens).errors,
      (∀ token ∈ error.found?, token ∈ (scan source).tokens ∧ StandsAt source token.image error.position) ∧
      (error.found? = none → EndsAt source error.position) :=
  ⟨fun _ => .of_token, fun _ => .of_stray, fun _ => place_of_mem_parse_errors⟩

def clippedSource : String := "// é\ndefine Shelf Shelf has field // x"

def litteredSource : String := "é\"\n\"#"

theorem positions_are_coordinates_multibyte :
    (⟨.identifier, "Shelf", ⟨19, 2, 14⟩⟩ ∈ (scan clippedSource).tokens ∧
      StandsAt clippedSource "Shelf" ⟨19, 2, 14⟩) ∧
    (⟨.fieldDeclaration, .string, none, ⟨34, 2, 29⟩⟩ ∈ (parse none (scan clippedSource).tokens).errors ∧
      EndsAt clippedSource ⟨34, 2, 29⟩) ∧
    (⟨⟨5, 2, 2⟩, "#"⟩ ∈ (scan litteredSource).strays ∧ StandsAt litteredSource "#" ⟨5, 2, 2⟩) ∧
    (⟨.statement, .keyword .define, some ⟨.string, "\"\n\"", ⟨2, 1, 2⟩⟩, ⟨2, 1, 2⟩⟩ ∈
        (parse none (scan litteredSource).tokens).errors ∧
      StandsAt litteredSource "\"\n\"" ⟨2, 1, 2⟩) := by
  obtain ⟨tokens, _, ends⟩ := positions_are_coordinates none clippedSource
  obtain ⟨_, strays, errors⟩ := positions_are_coordinates none litteredSource
  have token : ⟨.identifier, "Shelf", ⟨19, 2, 14⟩⟩ ∈ (scan clippedSource).tokens := by decide +kernel
  have ended : ⟨.fieldDeclaration, .string, none, ⟨34, 2, 29⟩⟩ ∈ (parse none (scan clippedSource).tokens).errors := by
    decide +kernel
  have stray : ⟨⟨5, 2, 2⟩, "#"⟩ ∈ (scan litteredSource).strays := by decide +kernel
  have error : ⟨.statement, .keyword .define, some ⟨.string, "\"\n\"", ⟨2, 1, 2⟩⟩, ⟨2, 1, 2⟩⟩ ∈
      (parse none (scan litteredSource).tokens).errors := by decide +kernel
  have tokenPlace := tokens _ token
  have endPlace := (ends _ ended).2 rfl
  have strayPlace := strays _ stray
  have errorPlace := ((errors _ error).1 _ rfl).2
  exact ⟨⟨token, tokenPlace⟩, ⟨ended, endPlace⟩, ⟨stray, strayPlace⟩, ⟨error, errorPlace⟩⟩

end ClassScript
