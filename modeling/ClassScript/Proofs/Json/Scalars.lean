import ClassScript.Json.Printer
import ClassScript.Json.Reader
import ClassScript.Proofs.Token.Language

namespace ClassScript.Json

theorem hex4_control : ∀ code < 0x20, hex4 code = ['0', '0', (code / 16).digitChar, (code % 16).digitChar] := by decide

theorem hexValue4?_control :
    ∀ code < 0x20, hexValue4? '0' '0' (code / 16).digitChar (code % 16).digitChar = some code := by decide

theorem readString_control {code : Nat} (control : code < 0x20) (rest : List Char) :
    readString none ('\\' :: 'u' :: (hex4 code ++ rest)) =
      (readString none rest).map fun found => (Char.ofNat code :: found.1, found.2) := by
  have noHigh : ¬ (0xD800 ≤ code ∧ code < 0xDC00) := by omega
  have noLow : ¬ (0xDC00 ≤ code ∧ code < 0xE000) := by omega
  simp only [hex4_control code control, List.cons_append, List.nil_append, readString,
    hexValue4?_control code control, Option.bind_eq_bind, Option.bind_some, noHigh, noLow, if_false]
  cases readString none rest <;> rfl

theorem readString_mark {mark c : Char} (short : shortEscape? mark = some c) (rest : List Char) :
    readString none ('\\' :: mark :: rest) = (readString none rest).map fun found => (c :: found.1, found.2) := by
  have noUnit : mark ≠ 'u' := by
    rintro rfl
    cases short
  rw [readString]
  · simp only [short]
    cases readString none rest <;> rfl
  · intros
    contradiction

theorem readString_plain {c : Char} (noQuote : c ≠ '"') (noSlash : c ≠ '\\') (printed : ¬ c.toNat < 0x20)
    (rest : List Char) :
    readString none (c :: rest) = (readString none rest).map fun found => (c :: found.1, found.2) := by
  rw [readString]
  · simp only [printed]
    cases readString none rest <;> rfl
  all_goals
    intros
    contradiction

theorem readString_escapeChar (c : Char) (rest : List Char) :
    readString none (escapeChar c ++ rest) = (readString none rest).map fun found => (c :: found.1, found.2) := by
  unfold escapeChar
  split
  case h_8 _ noQuote noSlash _ _ _ _ _ =>
    by_cases control : c.toNat < 0x20
    · rw [if_pos control, List.cons_append, List.cons_append, readString_control control, Char.ofNat_toNat]
    · rw [if_neg control, List.singleton_append, readString_plain noQuote noSlash control]
  all_goals exact readString_mark rfl rest

theorem readString_flatMap_escapeChar (text rest : List Char) :
    readString none (text.flatMap escapeChar ++ '"' :: rest) = some (text, rest) := by
  induction text with
  | nil => rfl
  | cons c text ih =>
    rw [List.flatMap_cons, List.append_assoc, readString_escapeChar, ih]
    rfl

def NumberEnds (rest : List Char) : Prop := ∀ c ∈ rest.head?, c.isDigit = false ∧ c ≠ '.' ∧ c ≠ 'e' ∧ c ≠ 'E'

theorem NumberEnds.digits {rest : List Char} (ends : NumberEnds rest) : rest.head?.any Char.isDigit = false := by
  cases rest with
  | nil => rfl
  | cons c rest => exact (ends c rfl).1

theorem NumberEnds.readFraction? {rest : List Char} (ends : NumberEnds rest) : readFraction? rest = some (none, rest) := by
  cases rest with
  | nil => rfl
  | cons c rest =>
    obtain ⟨_, noPoint, _⟩ := ends c rfl
    rw [Json.readFraction?]
    intro _ same
    exact noPoint (List.cons.inj same).1

theorem NumberEnds.readExponent? {rest : List Char} (ends : NumberEnds rest) : readExponent? rest = some (none, rest) := by
  cases rest with
  | nil => rfl
  | cons c rest =>
    obtain ⟨_, _, noLower, noUpper⟩ := ends c rfl
    simp [Json.readExponent?, noLower, noUpper]

theorem toList_toString (value : Int) :
    (toString value).toList = (if value < 0 then ['-'] else []) ++ Nat.toDigits 10 value.natAbs := by
  cases value with
  | ofNat n => exact Nat.toList_repr
  | negSucc n =>
    have sign : toString (Int.negSucc n) = "-" ++ (n + 1).repr := rfl
    rw [sign, String.toList_append, Nat.toList_repr, if_pos (Int.negSucc_lt_zero n)]
    rfl

theorem isDigit_toDigits (n : Nat) : ∀ c ∈ Nat.toDigits 10 n, c.isDigit = true := fun _ member =>
  Nat.isDigit_of_mem_toDigits (by decide) (by decide) member

theorem toDigits_starts (n : Nat) : ∃ c more, Nat.toDigits 10 n = c :: more ∧ c.isDigit = true := by
  obtain ⟨c, more, split⟩ := List.exists_cons_of_ne_nil (Nat.toDigits_ne_nil (b := 10) (n := n))
  have member : c ∈ Nat.toDigits 10 n := by
    rw [split]
    exact List.mem_cons_self ..
  exact ⟨c, more, split, isDigit_toDigits n c member⟩

theorem toString_starts (value : Int) :
    ∃ c more, (toString value).toList = c :: more ∧ (c = '-' ∨ c.isDigit = true) := by
  rw [toList_toString]
  split
  · exact ⟨'-', _, rfl, Or.inl rfl⟩
  · obtain ⟨c, more, split, digit⟩ := toDigits_starts value.natAbs
    exact ⟨c, more, split, Or.inr digit⟩

theorem digitChar_ne_zero : ∀ n < 10, n ≠ 0 → n.digitChar ≠ '0' := by decide

theorem head?_toDigits {n : Nat} (positive : n ≠ 0) : (Nat.toDigits 10 n).head? ≠ some '0' := by
  induction n using Nat.strongRecOn with
  | ind n ih =>
    by_cases small : n < 10
    · rw [Nat.toDigits_of_lt_base small]
      simpa using digitChar_ne_zero n small positive
    · have front := ih (n / 10) (by omega) (by omega)
      rw [Nat.toDigits_of_base_le (by decide) (by omega)]
      cases digits : Nat.toDigits 10 (n / 10) with
      | nil => exact absurd digits Nat.toDigits_ne_nil
      | cons c more =>
        rw [digits] at front
        exact front

theorem length_toDigits_of_zero {n : Nat} (zero : (Nat.toDigits 10 n).head? = some '0') :
    (Nat.toDigits 10 n).length = 1 := by
  by_cases positive : n = 0
  · rw [positive]
    rfl
  · exact absurd zero (head?_toDigits positive)

theorem readWhole?_toString (value : Int) {rest : List Char} (ends : NumberEnds rest) :
    readWhole? ((toString value).toList ++ rest) = some ((decide (value < 0), Nat.toDigits 10 value.natAbs), rest) := by
  have digits := isDigit_toDigits value.natAbs
  have whole := takeWhile_append_of_head digits ends.digits
  have behind := dropWhile_append_of_head digits ends.digits
  have sound : ¬ ((Nat.toDigits 10 value.natAbs).isEmpty ∨
      (Nat.toDigits 10 value.natAbs).head? = some '0' ∧ 1 < (Nat.toDigits 10 value.natAbs).length) := by
    rintro (empty | ⟨zero, several⟩)
    · exact Nat.toDigits_ne_nil (List.isEmpty_iff.mp empty)
    · exact several.ne' (length_toDigits_of_zero zero)
  rw [toList_toString]
  by_cases negative : value < 0
  · rw [if_pos negative, List.append_assoc, List.singleton_append, readWhole?, whole, behind, if_neg sound]
    simp [negative]
  · rw [if_neg negative, List.nil_append, readWhole?, whole, behind, if_neg sound]
    · simp [negative]
    · intro more signed
      obtain ⟨c, front, split, digit⟩ := toDigits_starts value.natAbs
      rw [split, List.cons_append] at signed
      rw [(List.cons.inj signed).1] at digit
      cases digit

theorem le_ofDigitChars (digits : List Char) (before : Nat) : before ≤ Nat.ofDigitChars 10 digits before := by
  induction digits generalizing before with
  | nil => exact Nat.le_refl before
  | cons c digits ih =>
    have later := ih (10 * before + (c.toNat - '0'.toNat))
    rw [Nat.ofDigitChars_cons]
    omega

theorem Gathered.addWhole_eq {digits : List Char} {before : Nat} {exponent : Int}
    (fits : Nat.ofDigitChars 10 digits before < UInt64.size) :
    addWhole ⟨before, exponent, false⟩ digits = ⟨Nat.ofDigitChars 10 digits before, exponent, false⟩ := by
  induction digits generalizing before with
  | nil => rfl
  | cons c digits ih =>
    rw [Nat.ofDigitChars_cons] at fits ⊢
    have here : 10 * before + (c.toNat - '0'.toNat) < UInt64.size := lt_of_le_of_lt (le_ofDigitChars digits _) fits
    have step : addDigit ⟨before, exponent, false⟩ 0 1 c = ⟨10 * before + (c.toNat - '0'.toNat), exponent, false⟩ := by
      simp only [addDigit, Nat.ofDigitChars_cons, Nat.ofDigitChars_nil, Nat.not_le.mpr here, Bool.false_eq_true,
        or_self, if_false, Int.add_zero]
    rw [← ih fits, ← step]
    rfl

theorem signed_natAbs (value : Int) : (if value < 0 then -(value.natAbs : Int) else value.natAbs) = value := by
  split <;> omega

def ReadsBack (number : List Char → Option (Json × List Char)) (fits : Int → Prop) : Prop :=
  ∀ value, fits value → ∀ rest, NumberEnds rest → number ((toString value).toList ++ rest) = some (.int value, rest)

/-- Integers of any size, and no other numbers. -/
def readInteger (source : List Char) : Option (Json × List Char) := do
  let ((negative, whole), rest) ← readWhole? source
  let value := Nat.ofDigitChars 10 whole 0
  return (.int (if negative then -(value : Int) else value), rest)

theorem readInteger_readsBack : ReadsBack readInteger fun _ => True := by
  intro value _ rest ends
  rw [readInteger, readWhole?_toString value ends]
  simp only [Option.bind_eq_bind, Option.bind_some, Nat.ofDigitChars_ten_toDigits, decide_eq_true_eq,
    signed_natAbs value]
  rfl

/-- The integers of 64 bits, with a sign or without one. -/
def IsMachine (value : Int) : Prop := -(1 <<< 63 : Nat) ≤ value ∧ value < (1 <<< 64 : Nat)

theorem readNumber_readsBack : ReadsBack readNumber IsMachine := by
  rintro value ⟨low, high⟩ rest ends
  have size : value.natAbs < UInt64.size := by
    rw [UInt64.size]
    omega
  have gathered : Gathered.addWhole ⟨0, 0, false⟩ (Nat.toDigits 10 value.natAbs) = ⟨value.natAbs, 0, false⟩ := by
    rw [Gathered.addWhole_eq (by rw [Nat.ofDigitChars_ten_toDigits]; exact size), Nat.ofDigitChars_ten_toDigits]
  have negative : value < 0 → 0 < value.natAbs ∧ value.natAbs ≤ 1 <<< 63 := by omega
  rw [readNumber, readWhole?_toString value ends]
  simp only [Option.bind_eq_bind, Option.bind_some, ends.readFraction?, ends.readExponent?, gathered,
    decide_eq_true_eq, signed_natAbs value, Option.isNone_none, Bool.false_eq_true, not_false_eq_true, true_and,
    eq_true negative]
  rfl

end ClassScript.Json
