import ClassScript.Proofs.Token.CharClass
import Mathlib.Data.List.TakeWhile

namespace ClassScript

open Text

theorem takeWhile_eq_nil_of_head {p : Char → Bool} {source : List Char} (stops : source.head?.any p = false) :
    source.takeWhile p = [] := by
  cases source with
  | nil => rfl
  | cons c rest =>
    have same : p c = false := stops
    simp [same]

theorem takeWhile_append_of_head {p : Char → Bool} {image rest : List Char} (all : ∀ c ∈ image, p c = true)
    (stops : rest.head?.any p = false) : (image ++ rest).takeWhile p = image := by
  rw [List.takeWhile_append_of_pos all, takeWhile_eq_nil_of_head stops, List.append_nil]

theorem dropWhile_append_of_head {p : Char → Bool} {image rest : List Char} (all : ∀ c ∈ image, p c = true)
    (stops : rest.head?.any p = false) : (image ++ rest).dropWhile p = rest := by
  have parts : (image ++ rest).takeWhile p ++ (image ++ rest).dropWhile p = image ++ rest :=
    List.takeWhile_append_dropWhile
  rw [takeWhile_append_of_head all stops] at parts
  exact List.append_cancel_left parts

theorem head_of_takeWhile_append {p : Char → Bool} {source rest : List Char}
    (split : source.takeWhile p ++ rest = source) : rest.head?.any p = false := by
  induction source with
  | nil =>
    have empty : rest = [] := by simpa using split
    rw [empty]
    rfl
  | cons c source ih =>
    by_cases taken : p c = true
    · apply ih
      simpa [taken] using split
    · have whole : rest = c :: source := by simpa [taken] using split
      simpa [whole] using taken

theorem not_mem_takeWhile_ne (c : Char) (source : List Char) : c ∉ source.takeWhile (· != c) := by
  intro member
  simpa using List.mem_takeWhile_imp member

theorem all_ne_of_not_mem {c : Char} {source : List Char} (absent : c ∉ source) :
    ∀ other ∈ source, (other != c) = true := by
  intro other member
  simpa using ne_of_mem_of_not_mem member absent

def IsDigits (image : List Char) : Prop := image ≠ [] ∧ ∀ c ∈ image, c.isDigit = true

def IsIdentifier (image : List Char) : Prop :=
  image.head?.any isIdentifierStart = true ∧ ∀ c ∈ image, isIdentifierPart c = true

def Kind.Admits : Kind → List Char → Prop
  | .blank, image => image ≠ [] ∧ ∀ c ∈ image, isBlank c = true
  | .comment, image => ∃ remark, image = '/' :: '/' :: remark ∧ '\n' ∉ remark
  | .keyword word, image => image = word.spelling.toList
  | .string, image => ∃ body, image = '"' :: body ++ ['"'] ∧ '"' ∉ body
  | .number, image => ∃ whole fraction, image = whole ++ fraction ∧ IsDigits whole ∧
      (fraction = [] ∨ ∃ digits, fraction = '.' :: digits ∧ IsDigits digits)
  | .identifier, image => IsIdentifier image

/-- What has to follow the text of a lexeme for it to end there. -/
def Kind.StopsBefore : Kind → List Char → List Char → Prop
  | .blank, _, rest => rest.head?.any isBlank = false
  | .comment, _, rest => rest.head?.any (· != '\n') = false
  | .keyword _, _, rest => rest.head?.any isWordChar = false
  | .string, _, _ => True
  | .number, image, rest => rest.head?.any Char.isDigit = false ∧
      ('.' ∉ image → ∀ c later, rest = '.' :: c :: later → c.isDigit = false)
  | .identifier, _, rest => rest.head?.any isIdentifierPart = false

theorem Keyword.spelling_isIdentifier (word : Keyword) : IsIdentifier word.spelling.toList := by
  cases word <;> exact ⟨by decide, List.all_eq_true.mp (by decide)⟩

theorem leadBlank_admits {image rest : List Char} (found : (image ++ rest).takeWhile isBlank = image)
    (nonempty : image ≠ []) : Kind.blank.Admits image ∧ Kind.blank.StopsBefore image rest := by
  refine ⟨⟨nonempty, ?_⟩, ?_⟩
  · intro c member
    rw [← found] at member
    exact List.mem_takeWhile_imp member
  · exact head_of_takeWhile_append (by rw [found])

theorem leadComment_admits {image rest : List Char} (found : leadComment (image ++ rest) = image)
    (nonempty : image ≠ []) : Kind.comment.Admits image ∧ Kind.comment.StopsBefore image rest := by
  unfold leadComment at found
  split at found
  · rename_i tail split
    subst found
    simp only [List.cons_append, List.cons.injEq, true_and] at split
    exact ⟨⟨_, rfl, not_mem_takeWhile_ne '\n' tail⟩, head_of_takeWhile_append split⟩
  · exact absurd found.symm nonempty

theorem leadBlank_append {image rest : List Char} (admits : Kind.blank.Admits image)
    (stops : Kind.blank.StopsBefore image rest) : (image ++ rest).takeWhile isBlank = image :=
  takeWhile_append_of_head admits.2 stops

theorem leadComment_append {image rest : List Char} (admits : Kind.comment.Admits image)
    (stops : Kind.comment.StopsBefore image rest) : leadComment (image ++ rest) = image := by
  obtain ⟨remark, rfl, plain⟩ := admits
  simp only [List.cons_append, leadComment, takeWhile_append_of_head (all_ne_of_not_mem plain) stops]

theorem leadWord_admits {word image rest : List Char} (found : leadWord word (image ++ rest) = image)
    (nonempty : image ≠ []) : image = word ∧ rest.head?.any isWordChar = false := by
  unfold leadWord at found
  split at found
  · rename_i matching
    subst found
    simpa using matching
  · exact absurd found.symm nonempty

theorem leadWord_append {word rest : List Char} (stops : rest.head?.any isWordChar = false) :
    leadWord word (word ++ rest) = word := by
  simp [leadWord, stops]

theorem leadString_admits {image rest : List Char} (found : leadString (image ++ rest) = image)
    (nonempty : image ≠ []) : Kind.string.Admits image := by
  unfold leadString at found
  split at found
  · rename_i tail split
    split at found
    · exact ⟨tail.takeWhile (· != '"'), found.symm, not_mem_takeWhile_ne '"' tail⟩
    · exact absurd found.symm nonempty
  · exact absurd found.symm nonempty

theorem leadString_append {image : List Char} (admits : Kind.string.Admits image) (rest : List Char) :
    leadString (image ++ rest) = image := by
  obtain ⟨body, rfl, plain⟩ := admits
  have inner : (body ++ '"' :: rest).takeWhile (· != '"') = body :=
    takeWhile_append_of_head (all_ne_of_not_mem plain) rfl
  simp [leadString, inner]

theorem isDigits_takeWhile {source : List Char} (starts : source.head?.any Char.isDigit = true) :
    IsDigits (source.takeWhile Char.isDigit) := by
  refine ⟨?_, fun c member => List.mem_takeWhile_imp member⟩
  cases source with
  | nil => cases starts
  | cons c rest =>
    have digit : c.isDigit = true := starts
    simp [digit]

theorem leadFraction_admits (source : List Char) : leadFraction source = [] ∨
    ∃ digits, leadFraction source = '.' :: digits ∧ IsDigits digits := by
  unfold leadFraction
  split
  · rename_i rest
    split
    · rename_i starts
      exact Or.inr ⟨_, rfl, isDigits_takeWhile starts⟩
    · exact Or.inl rfl
  · exact Or.inl rfl

theorem leadFraction_stops {source rest : List Char} (split : leadFraction source ++ rest = source)
    (head : source.head?.any Char.isDigit = false) : rest.head?.any Char.isDigit = false ∧
      (leadFraction source = [] → ∀ c later, rest = '.' :: c :: later → c.isDigit = false) := by
  unfold leadFraction at split ⊢
  split at split
  · rename_i digits
    by_cases digit : digits.head?.any Char.isDigit = true
    · simp only [digit, if_true, List.cons_append, List.cons.injEq, true_and] at split
      exact ⟨head_of_takeWhile_append split, by simp [digit]⟩
    · simp only [digit, Bool.false_eq_true, if_false, List.nil_append] at split
      subst split
      refine ⟨head, ?_⟩
      intro _ c later same
      have tail : digits = c :: later := (List.cons.inj same).2
      simpa [tail] using digit
  · rename_i other
    have same : rest = source := split
    subst same
    refine ⟨head, ?_⟩
    intro _ c later point
    exact absurd point (other _)

theorem leadNumber_admits {image rest : List Char} (found : leadNumber (image ++ rest) = image)
    (nonempty : image ≠ []) : Kind.number.Admits image ∧ Kind.number.StopsBefore image rest := by
  unfold leadNumber at found
  split at found
  · rename_i starts
    have parts : (image ++ rest).takeWhile Char.isDigit ++ (image ++ rest).dropWhile Char.isDigit = image ++ rest :=
      List.takeWhile_append_dropWhile
    have wholeDigits := isDigits_takeWhile starts
    generalize wholeEq : (image ++ rest).takeWhile Char.isDigit = whole at found parts wholeDigits
    generalize (image ++ rest).dropWhile Char.isDigit = after at found parts
    have afterHead : after.head?.any Char.isDigit = false := by
      have split : (image ++ rest).takeWhile Char.isDigit ++ after = image ++ rest := by rw [wholeEq, parts]
      exact head_of_takeWhile_append split
    have split : leadFraction after ++ rest = after := by
      rw [← found, List.append_assoc] at parts
      exact (List.append_cancel_left parts).symm
    obtain ⟨digitStop, pointStop⟩ := leadFraction_stops split afterHead
    refine ⟨⟨whole, leadFraction after, found.symm, wholeDigits, leadFraction_admits after⟩, digitStop, ?_⟩
    intro noPoint
    apply pointStop
    rcases leadFraction_admits after with empty | ⟨digits, fraction, _⟩
    · exact empty
    · rw [← found, fraction] at noPoint
      simp at noPoint
  · exact absurd found.symm nonempty

theorem IsDigits.not_mem {digits : List Char} (form : IsDigits digits) {c : Char} (other : c.isDigit = false) :
    c ∉ digits := by
  intro member
  rw [form.2 c member] at other
  cases other

theorem IsDigits.head {digits : List Char} (form : IsDigits digits) (rest : List Char) :
    (digits ++ rest).head?.any Char.isDigit = true := by
  obtain ⟨nonempty, all⟩ := form
  cases digits with
  | nil => exact absurd rfl nonempty
  | cons c digits => exact all c (List.mem_cons_self ..)

theorem leadFraction_append {fraction rest : List Char}
    (form : fraction = [] ∨ ∃ digits, fraction = '.' :: digits ∧ IsDigits digits)
    (digitStop : rest.head?.any Char.isDigit = false)
    (pointStop : fraction = [] → ∀ c later, rest = '.' :: c :: later → c.isDigit = false) :
    leadFraction (fraction ++ rest) = fraction := by
  rcases form with rfl | ⟨digits, rfl, digitsForm⟩
  · unfold leadFraction
    split
    · rename_i later same
      cases later with
      | nil => rfl
      | cons c later =>
        have plain : c.isDigit = false := pointStop rfl c later (by simpa using same)
        simp [plain]
    · rfl
  · have inner : (digits ++ rest).takeWhile Char.isDigit = digits := takeWhile_append_of_head digitsForm.2 digitStop
    simp only [List.cons_append, leadFraction, digitsForm.head rest, if_true, inner]

theorem leadNumber_append {image rest : List Char} (admits : Kind.number.Admits image)
    (stops : Kind.number.StopsBefore image rest) : leadNumber (image ++ rest) = image := by
  obtain ⟨whole, fraction, rfl, wholeForm, fractionForm⟩ := admits
  obtain ⟨digitStop, pointStop⟩ := stops
  have fractionHead : (fraction ++ rest).head?.any Char.isDigit = false := by
    rcases fractionForm with rfl | ⟨digits, rfl, _⟩
    · exact digitStop
    · rfl
  have fractionLead : leadFraction (fraction ++ rest) = fraction := by
    refine leadFraction_append fractionForm digitStop ?_
    rintro rfl
    exact pointStop (by simpa using wholeForm.not_mem rfl)
  have wholeLead : (whole ++ (fraction ++ rest)).takeWhile Char.isDigit = whole :=
    takeWhile_append_of_head wholeForm.2 fractionHead
  have left : (whole ++ (fraction ++ rest)).dropWhile Char.isDigit = fraction ++ rest :=
    dropWhile_append_of_head wholeForm.2 fractionHead
  rw [List.append_assoc, leadNumber, if_pos (wholeForm.head _), wholeLead, left, fractionLead]

theorem leadIdentifier_admits {image rest : List Char} (found : leadIdentifier (image ++ rest) = image)
    (nonempty : image ≠ []) : IsIdentifier image ∧ rest.head?.any isIdentifierPart = false := by
  unfold leadIdentifier at found
  split at found
  · rename_i start
    refine ⟨⟨?_, ?_⟩, head_of_takeWhile_append (by rw [found])⟩
    · cases image with
      | nil => exact absurd rfl nonempty
      | cons c image => exact start
    · intro c member
      rw [← found] at member
      exact List.mem_takeWhile_imp member
  · exact absurd found.symm nonempty

theorem IsIdentifier.ne_nil {image : List Char} (form : IsIdentifier image) : image ≠ [] := by
  intro empty
  simp [IsIdentifier, empty] at form

theorem IsIdentifier.head {image : List Char} (form : IsIdentifier image) (rest : List Char) :
    (image ++ rest).head?.any isIdentifierStart = true := by
  cases image with
  | nil => exact absurd rfl form.ne_nil
  | cons c image => exact form.1

theorem leadIdentifier_append {image rest : List Char} (form : IsIdentifier image)
    (stops : rest.head?.any isIdentifierPart = false) : leadIdentifier (image ++ rest) = image := by
  rw [leadIdentifier, if_pos (form.head rest), takeWhile_append_of_head form.2 stops]

theorem Kind.Admits.ne_nil {kind : Kind} {image : List Char} (admits : kind.Admits image) : image ≠ [] := by
  cases kind with
  | blank => exact admits.1
  | comment =>
    obtain ⟨remark, rfl, _⟩ := admits
    simp
  | keyword word =>
    rw [show image = word.spelling.toList from admits]
    exact word.spelling_isIdentifier.ne_nil
  | string =>
    obtain ⟨body, rfl, _⟩ := admits
    simp
  | number =>
    obtain ⟨whole, fraction, rfl, form, _⟩ := admits
    simp [form.1]
  | identifier => exact IsIdentifier.ne_nil admits

theorem Kind.stopsBefore_nil (kind : Kind) (image : List Char) : kind.StopsBefore image [] := by
  cases kind with
  | string => trivial
  | number =>
    refine ⟨rfl, ?_⟩
    intro _ c later same
    cases same
  | _ => rfl

theorem Kind.lead_eq_iff {kind : Kind} {image rest : List Char} (nonempty : image ≠ []) :
    kind.lead (image ++ rest) = image ↔ kind.Admits image ∧ kind.StopsBefore image rest := by
  cases kind with
  | blank => exact ⟨fun found => leadBlank_admits found nonempty, fun form => leadBlank_append form.1 form.2⟩
  | comment => exact ⟨fun found => leadComment_admits found nonempty, fun form => leadComment_append form.1 form.2⟩
  | keyword word =>
    refine ⟨fun found => leadWord_admits found nonempty, fun form => ?_⟩
    obtain ⟨same, stops⟩ := form
    rw [show image = word.spelling.toList from same]
    exact leadWord_append stops
  | string =>
    exact ⟨fun found => ⟨leadString_admits found nonempty, trivial⟩, fun form => leadString_append form.1 rest⟩
  | number => exact ⟨fun found => leadNumber_admits found nonempty, fun form => leadNumber_append form.1 form.2⟩
  | identifier =>
    exact ⟨fun found => leadIdentifier_admits found nonempty, fun form => leadIdentifier_append form.1 form.2⟩

theorem Kind.lead_admits {kind : Kind} {source : List Char} (found : kind.lead source ≠ []) :
    ∃ rest, source = kind.lead source ++ rest ∧ kind.Admits (kind.lead source) ∧
      kind.StopsBefore (kind.lead source) rest := by
  obtain ⟨rest, split⟩ := kind.lead_isPrefix source
  refine ⟨rest, split.symm, (Kind.lead_eq_iff found).mp ?_⟩
  rw [split]

end ClassScript
