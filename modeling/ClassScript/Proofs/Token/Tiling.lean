import ClassScript.Proofs.Token.Place

namespace ClassScript

/-- A text laid out from an offset on in tokens, stray runs, and the blanks and comments that are passed over. The offset
    counts the bytes in front of the text. -/
inductive Tiling : Nat → List Char → List Token → List Stray → Prop
  | nil (offset : Nat) : Tiling offset [] [] []
  | token {kind : Kind} {image rest : List Char} {position : Position} {tokens : List Token} {strays : List Stray}
      (counts : kind.isSkipped = false) (admits : kind.Admits image)
      (later : Tiling (position.offset + String.utf8Len image) rest tokens strays) :
      Tiling position.offset (image ++ rest) (⟨kind, String.ofList image, position⟩ :: tokens) strays
  | stray {text rest : List Char} {position : Position} {tokens : List Token} {strays : List Stray}
      (nonempty : text ≠ []) (later : Tiling (position.offset + String.utf8Len text) rest tokens strays) :
      Tiling position.offset (text ++ rest) tokens (⟨position, String.ofList text⟩ :: strays)
  | skipped {offset : Nat} {kind : Kind} {image rest : List Char} {tokens : List Token} {strays : List Stray}
      (skips : kind.isSkipped = true) (admits : kind.Admits image) (stops : kind.StopsBefore image rest)
      (later : Tiling (offset + String.utf8Len image) rest tokens strays) :
      Tiling offset (image ++ rest) tokens strays

theorem Cut.tiling {source : List Char} {found : List Segment} (cut : Cut source found) (position : Position) :
    Tiling position.offset source ((Placed.row position found).filterMap Placed.token?)
      ((Placed.row position found).filterMap Placed.stray?) := by
  induction cut generalizing position with
  | nil => exact .nil _
  | @lexeme kind image rest later found cut ih =>
    obtain ⟨admits, stops, _⟩ := lexeme?_append_iff.mp found
    have behind := ih (position.advance image)
    rw [Position.advance_offset] at behind
    cases skips : kind.isSkipped with
    | true =>
      simp only [Placed.row, List.filterMap_cons, Placed.token?, Placed.stray?, skips, if_true]
      exact .skipped skips admits stops behind
    | false =>
      simp only [Placed.row, List.filterMap_cons, Placed.token?, Placed.stray?, skips, Bool.false_eq_true, if_false]
      exact .token skips admits behind
  | @stray text rest later nonempty nothing apart cut ih =>
    have behind := ih (position.advance text)
    rw [Position.advance_offset] at behind
    exact .stray nonempty behind

/-- The tokens and stray runs of a source and the blanks and comments between them are the source. -/
theorem scan_tiles (source : String) : Tiling 0 source.toList (scan source).tokens (scan source).strays :=
  (segments_cut source.toList).tiling .start

end ClassScript
