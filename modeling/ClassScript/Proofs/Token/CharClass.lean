import ClassScript.Token.Lexeme
import Mathlib.Tactic.SplitIfs

namespace ClassScript

open Text

theorem mem_range_of_contains {ranges : Ranges} {code : Nat} (found : ranges.contains code = true) :
    ∃ range ∈ ranges, range.1 ≤ code ∧ code ≤ range.2 := by
  induction ranges with
  | nil => cases found
  | cons range rest ih =>
    obtain ⟨low, high⟩ := range
    simp only [Ranges.contains] at found
    split at found
    · cases found
    · rename_i notBelow
      split at found
      · rename_i notAbove
        exact ⟨(low, high), List.mem_cons_self .., by omega, notAbove⟩
      · obtain ⟨inner, member, bounds⟩ := ih found
        exact ⟨inner, List.mem_cons_of_mem _ member, bounds⟩

theorem blankRanges_apart_wordRanges :
    ∀ blank ∈ blankRanges, ∀ word ∈ wordRanges, blank.2 < word.1 ∨ word.2 < blank.1 := by decide +kernel

theorem isWordChar_eq_false_of_isBlank {c : Char} (blank : isBlank c = true) : isWordChar c = false := by
  apply Bool.eq_false_iff.mpr
  intro word
  obtain ⟨outer, outerMember, outerBounds⟩ := mem_range_of_contains blank
  obtain ⟨inner, innerMember, innerBounds⟩ := mem_range_of_contains word
  have apart := blankRanges_apart_wordRanges outer outerMember inner innerMember
  omega

theorem isUpper_iff_toNat {c : Char} : c.isUpper = true ↔ 65 ≤ c.toNat ∧ c.toNat ≤ 90 := by
  have bounds : c.isUpper = decide (65 ≤ c.toNat ∧ c.toNat ≤ 90) := rfl
  rw [bounds, decide_eq_true_eq]

theorem isLower_iff_toNat {c : Char} : c.isLower = true ↔ 97 ≤ c.toNat ∧ c.toNat ≤ 122 := by
  have bounds : c.isLower = (decide (97 ≤ c.toNat) && decide (c.toNat ≤ 122)) := rfl
  rw [bounds, Bool.and_eq_true, decide_eq_true_eq, decide_eq_true_eq]

theorem isAlpha_iff_toNat {c : Char} :
    c.isAlpha = true ↔ (65 ≤ c.toNat ∧ c.toNat ≤ 90) ∨ (97 ≤ c.toNat ∧ c.toNat ≤ 122) := by
  have cases : c.isAlpha = (c.isUpper || c.isLower) := rfl
  rw [cases, Bool.or_eq_true, isUpper_iff_toNat, isLower_iff_toNat]

theorem isDigit_iff_toNat {c : Char} : c.isDigit = true ↔ 48 ≤ c.toNat ∧ c.toNat ≤ 57 := Char.isDigit_iff_toNat

theorem isIdentifierPart_iff_toNat {c : Char} : isIdentifierPart c = true ↔
    (48 ≤ c.toNat ∧ c.toNat ≤ 57) ∨ (65 ≤ c.toNat ∧ c.toNat ≤ 90) ∨ c.toNat = 95 ∨
      (97 ≤ c.toNat ∧ c.toNat ≤ 122) := by
  have underscore : c = '_' ↔ c.toNat = 95 := by rw [← Char.toNat_inj]; rfl
  simp only [isIdentifierPart, Char.isAlphanum, Bool.or_eq_true, beq_iff_eq, isAlpha_iff_toNat, isDigit_iff_toNat,
    underscore]
  omega

theorem isIdentifierStart_iff_part {c : Char} :
    isIdentifierStart c = true ↔ isIdentifierPart c = true ∧ c.isDigit = false := by
  rw [isIdentifierPart_iff_toNat, ← Bool.not_eq_true, isDigit_iff_toNat]
  have underscore : c = '_' ↔ c.toNat = 95 := by rw [← Char.toNat_inj]; rfl
  simp only [isIdentifierStart, Bool.or_eq_true, beq_iff_eq, isAlpha_iff_toNat, underscore]
  omega

theorem isIdentifierPart_of_isDigit {c : Char} (digit : c.isDigit = true) : isIdentifierPart c = true := by
  simp [isIdentifierPart, Char.isAlphanum, digit]

theorem isWordChar_of_isIdentifierPart {c : Char} (part : isIdentifierPart c = true) : isWordChar c = true := by
  have ascii : wordRanges = (48, 57) :: (65, 90) :: (95, 95) :: (97, 122) :: wordRanges.drop 4 := rfl
  rw [isIdentifierPart_iff_toNat] at part
  rw [isWordChar, ascii]
  simp only [Ranges.contains]
  split_ifs
  all_goals first | rfl | omega

theorem head_of_wider {p q : Char → Bool} {rest : List Char} (wider : ∀ c, q c = true → p c = true)
    (ends : rest.head?.any p = false) : rest.head?.any q = false := by
  cases rest with
  | nil => rfl
  | cons c rest =>
    apply Bool.eq_false_iff.mpr
    intro goesOn
    have inWider : p c = true := wider c goesOn
    rw [show p c = false from ends] at inWider
    cases inWider

theorem not_isIdentifierPart_of_not_isWordChar {rest : List Char} (ends : rest.head?.any isWordChar = false) :
    rest.head?.any isIdentifierPart = false :=
  head_of_wider (fun _ => isWordChar_of_isIdentifierPart) ends

end ClassScript
