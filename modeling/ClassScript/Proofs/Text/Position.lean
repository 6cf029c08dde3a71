import ClassScript.Text.Position
import Mathlib.Data.List.DropRight
import Mathlib.Data.String.Basic

namespace ClassScript

namespace Position

theorem advance_offset (position : Position) (text : List Char) :
    (position.advance text).offset = position.offset + String.utf8Len text := by
  induction text generalizing position with
  | nil => rfl
  | cons c text ih =>
    have step : (position.step c).offset = position.offset + c.utf8Size := by
      unfold Position.step
      split <;> rfl
    rw [Position.advance_cons, ih, step, String.utf8Len_cons]
    omega

/-- The place behind a text by its bytes, its line feeds, and the characters behind the last of these. -/
def behind (text : List Char) : Position where
  offset := String.utf8Len text
  line := 1 + text.count '\n'
  column := 1 + (text.rtakeWhile (· != '\n')).length

theorem advance_start (text : List Char) : Position.start.advance text = .behind text := by
  induction text using List.reverseRecOn with
  | nil => rfl
  | append_singleton text c ih =>
    have bytes : String.utf8Len (text ++ [c]) = String.utf8Len text + c.utf8Size := by simp
    rw [Position.advance_append, ih, Position.advance_cons, Position.advance_nil, Position.step]
    by_cases feed : c = '\n'
    · have lines : (text ++ [c]).count '\n' = text.count '\n' + 1 := by simp [feed]
      have column : (text ++ [c]).rtakeWhile (· != '\n') = [] := by rw [List.rtakeWhile_concat, if_neg (by simp [feed])]
      rw [if_pos feed, Position.behind, Position.behind, bytes, lines, column]
      rfl
    · have lines : (text ++ [c]).count '\n' = text.count '\n' := by simp [feed]
      have column : (text ++ [c]).rtakeWhile (· != '\n') = text.rtakeWhile (· != '\n') ++ [c] := by
        rw [List.rtakeWhile_concat, if_pos (by simp [feed])]
      rw [if_neg feed, Position.behind, Position.behind, bytes, lines, column, List.length_append]
      rfl

theorem length_le_utf8Len (text : List Char) : text.length ≤ String.utf8Len text := by
  induction text with
  | nil => exact Nat.le_refl 0
  | cons c text ih =>
    have positive := c.utf8Size_pos
    rw [List.length_cons, String.utf8Len_cons]
    omega

theorem behind_le (text : List Char) : (behind text).offset ≤ String.utf8Len text ∧
    (behind text).line ≤ 1 + String.utf8Len text ∧ (behind text).column ≤ 1 + String.utf8Len text := by
  have bytes := length_le_utf8Len text
  have feeds : text.count '\n' ≤ text.length := List.count_le_length
  have last : (text.rtakeWhile (· != '\n')).length ≤ text.length := (List.rtakeWhile_suffix _ text).length_le
  refine ⟨Nat.le_refl _, ?_, ?_⟩
  · exact Nat.add_le_add_left (feeds.trans bytes) 1
  · exact Nat.add_le_add_left (last.trans bytes) 1

/-- The place of the same character once a text with a line feed stands in front of its source. -/
def below (text : String) (position : Position) : Position :=
  ⟨position.offset + (text.utf8ByteSize + 1), position.line + (text.toList.count '\n' + 1), position.column⟩

theorem step_below (text : String) (position : Position) (c : Char) :
    (position.below text).step c = (position.step c).below text := by
  have bytes : position.offset + (text.utf8ByteSize + 1) + c.utf8Size =
      position.offset + c.utf8Size + (text.utf8ByteSize + 1) := by omega
  have lines : position.line + (text.toList.count '\n' + 1) + 1 =
      position.line + 1 + (text.toList.count '\n' + 1) := by omega
  unfold Position.step
  split
  · simp only [below, bytes, lines]
  · simp only [below, bytes]

theorem advance_below (text : String) (position : Position) (more : List Char) :
    (position.below text).advance more = (position.advance more).below text := by
  induction more generalizing position with
  | nil => rfl
  | cons c more ih => rw [advance_cons, step_below, ih, advance_cons]

theorem step_advance_start (text : String) : (Position.start.advance text.toList).step '\n' = start.below text := by
  have bytes : String.utf8Len text.toList + ('\n' : Char).utf8Size = 0 + (text.utf8ByteSize + 1) := by
    rw [show ('\n' : Char).utf8Size = 1 by decide, String.utf8Len_toList, Nat.zero_add]
  have lines : 1 + text.toList.count '\n' + 1 = 1 + (text.toList.count '\n' + 1) := Nat.add_assoc _ _ _
  -- behind a line feed columns start anew
  rw [advance_start, behind, step, if_pos rfl, bytes, lines]
  rfl

end Position

end ClassScript
