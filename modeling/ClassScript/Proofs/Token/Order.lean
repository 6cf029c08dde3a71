import ClassScript.Proofs.Token.Place

namespace ClassScript

theorem Placed.offset_le_of_mem_row {position : Position} {found : List Segment} {placed : Placed}
    (member : placed ∈ Placed.row position found) : position.offset ≤ placed.position.offset := by
  obtain ⟨before, _, _, place⟩ := Placed.mem_row member
  rw [place, Position.advance_offset]
  omega

theorem Placed.row_apart (position : Position) (found : List Segment) :
    (Placed.row position found).Pairwise fun earlier later =>
      earlier.position.offset + String.utf8Len earlier.segment.text ≤ later.position.offset := by
  induction found generalizing position with
  | nil => exact .nil
  | cons segment later ih =>
    refine List.pairwise_cons.mpr ⟨?_, ih _⟩
    intro placed member
    rw [← Position.advance_offset]
    exact Placed.offset_le_of_mem_row member

theorem utf8Len_pos {text : List Char} (nonempty : text ≠ []) : 0 < String.utf8Len text :=
  Nat.pos_of_ne_zero (mt String.utf8Len_eq_zero.mp nonempty)

theorem scan_tokens_apart (source : String) :
    (scan source).tokens.Pairwise fun earlier later => earlier.stop.offset ≤ later.position.offset := by
  refine List.pairwise_filterMap.mpr ((Placed.row_apart .start _).imp ?_)
  intro earlier later apart token same other otherSame
  obtain ⟨segment, position, _⟩ := Placed.token?_eq_some same
  obtain ⟨_, otherPosition, _⟩ := Placed.token?_eq_some otherSame
  rw [segment, position, otherPosition] at apart
  rw [Token.stop, Position.advance_offset]
  exact apart

theorem scan_tokens_nonempty {source : String} {token : Token} (member : token ∈ (scan source).tokens) :
    token.position.offset < token.stop.offset := by
  obtain ⟨_, _, _, _, _, found⟩ := mem_scan_tokens member
  have width := utf8Len_pos (lexeme?_eq_some found).2
  rw [Token.stop, Position.advance_offset]
  omega

theorem Cut.strays_gap {source : List Char} {found : List Segment} (cut : Cut source found) (position : Position) :
    (Placed.row position found).Pairwise fun earlier later => earlier.segment.isStray = true →
      later.segment.isStray = true →
        earlier.position.offset + String.utf8Len earlier.segment.text < later.position.offset := by
  induction cut generalizing position with
  | nil => exact .nil
  | lexeme lead cut ih =>
    refine List.pairwise_cons.mpr ⟨?_, ih _⟩
    intro later _ isStray
    cases isStray
  | @stray run rest segments nonempty nothing apart cut ih =>
    refine List.pairwise_cons.mpr ⟨?_, ih _⟩
    intro later member _ isStray
    rw [← Position.advance_offset]
    cases cut with
    | nil => cases member
    | stray => cases apart
    | @lexeme kind image _ _ lead cut =>
      rcases List.mem_cons.mp member with rfl | member
      · cases isStray
      · have behind := Placed.offset_le_of_mem_row member
        have width := utf8Len_pos (lexeme?_eq_some lead).2
        rw [Segment.text, Position.advance_offset] at behind
        exact Nat.lt_of_lt_of_le (Nat.lt_add_of_pos_right width) behind

theorem scan_strays_gap (source : String) :
    (scan source).strays.Pairwise fun earlier later =>
      earlier.position.offset + String.utf8Len earlier.text.toList < later.position.offset := by
  refine List.pairwise_filterMap.mpr (((segments_cut source.toList).strays_gap .start).imp ?_)
  intro earlier later gap stray same other otherSame
  obtain ⟨segment, position⟩ := Placed.stray?_eq_some same
  obtain ⟨otherSegment, otherPosition⟩ := Placed.stray?_eq_some otherSame
  rw [segment, position, otherSegment, otherPosition] at gap
  exact gap rfl rfl

theorem scan_strays_ascend (source : String) :
    (scan source).strays.Pairwise fun earlier later => earlier.position.offset < later.position.offset := by
  refine (scan_strays_gap source).imp ?_
  intro earlier later gap
  omega

end ClassScript
