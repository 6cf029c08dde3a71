import ClassScript.Proofs.Token.Leading
import ClassScript.Token.Scan

namespace ClassScript

def Segment.isStray : Segment → Bool
  | .lexeme _ _ => false
  | .stray _ => true

/-- A text and its segments, each with what holds of it in front of the text behind it. -/
inductive Cut : List Char → List Segment → Prop
  | nil : Cut [] []
  | lexeme {kind : Kind} {image rest : List Char} {later : List Segment}
      (found : lexeme? (image ++ rest) = some (kind, image)) (cut : Cut rest later) :
      Cut (image ++ rest) (.lexeme kind image :: later)
  | stray {text rest : List Char} {later : List Segment} (nonempty : text ≠ [])
      (nothing : ∀ left right, right ≠ [] → text = left ++ right → lexeme? (right ++ rest) = none)
      (apart : later.head?.any Segment.isStray = false) (cut : Cut rest later) :
      Cut (text ++ rest) (.stray text :: later)

theorem segments_append_of_lexeme {image rest : List Char} {kind : Kind}
    (found : lexeme? (image ++ rest) = some (kind, image)) :
    segments (image ++ rest) = .lexeme kind image :: segments rest := by
  cases image with
  | nil => exact absurd rfl (lexeme?_eq_some found).2
  | cons c image =>
    have step := segments_cons_of_lexeme found
    have dropped : (image ++ rest).drop ((c :: image).length - 1) = rest := by simp
    rw [List.append_eq, dropped] at step
    exact step

/-- Characters at which no lexeme starts make one stray run, unless the text behind them starts with another. -/
theorem segments_append_of_strays {text rest : List Char} (nonempty : text ≠ [])
    (nothing : ∀ left right, right ≠ [] → text = left ++ right → lexeme? (right ++ rest) = none)
    (apart : (segments rest).head?.any Segment.isStray = false) :
    segments (text ++ rest) = .stray text :: segments rest := by
  induction text with
  | nil => exact absurd rfl nonempty
  | cons c text ih =>
    have here : lexeme? (c :: (text ++ rest)) = none := nothing [] (c :: text) (by simp) rfl
    rw [List.cons_append, segments_cons_of_none here]
    by_cases last : text = []
    · subst last
      rw [List.nil_append]
      cases behind : segments rest with
      | nil => rfl
      | cons segment later =>
        rw [behind] at apart
        cases segment with
        | lexeme kind image => rfl
        | stray run => cases apart
    · have later : segments (text ++ rest) = .stray text :: segments rest := by
        apply ih last
        intro left right some split
        exact nothing (c :: left) right some (by rw [split, List.cons_append])
      rw [later]
      rfl

/-- Texts are taken apart from the front: a lexeme at a time where one starts, else one character. -/
theorem lexemeInduction {motive : List Char → Prop} (nil : motive [])
    (lexeme : ∀ kind image rest, lexeme? (image ++ rest) = some (kind, image) → motive rest → motive (image ++ rest))
    (single : ∀ c rest, lexeme? (c :: rest) = none → motive rest → motive (c :: rest)) (source : List Char) :
    motive source := by
  induction length : source.length using Nat.strongRecOn generalizing source with
  | ind n ih =>
    cases source with
    | nil => exact nil
    | cons c rest =>
      cases found : lexeme? (c :: rest) with
      | none =>
        apply single c rest found
        apply ih rest.length ?_ rest rfl
        rw [← length, List.length_cons]
        omega
      | some result =>
        obtain ⟨kind, image⟩ := result
        obtain ⟨behind, split⟩ := lexeme?_isPrefix found
        have nonempty : 0 < image.length := List.length_pos_iff.mpr (lexeme?_eq_some found).2
        rw [← split] at found length ⊢
        apply lexeme kind image behind found
        apply ih behind.length ?_ behind rfl
        rw [← length, List.length_append]
        omega

theorem Cut.absorb {c : Char} {rest : List Char} {later : List Segment} (nothing : lexeme? (c :: rest) = none)
    (cut : Cut rest later) : Cut (c :: rest) (Segment.absorb c later) := by
  have alone : ∀ left right, right ≠ [] → [c] = left ++ right → lexeme? (right ++ rest) = none := by
    intro left right nonempty split
    cases left with
    | nil =>
      rw [← show [c] = right from split]
      exact nothing
    | cons head left =>
      have length := congrArg List.length split
      have positive := List.length_pos_iff.mpr nonempty
      simp only [List.length_append, List.length_cons, List.length_nil] at length
      omega
  -- the character lengthens a stray run behind it, and starts one of its own in front of anything else
  cases cut with
  | nil =>
    show Cut ([c] ++ []) [.stray [c]]
    exact .stray (by simp) alone rfl .nil
  | @lexeme kind image rest later found cut =>
    show Cut ([c] ++ (image ++ rest)) (.stray [c] :: .lexeme kind image :: later)
    exact .stray (by simp) alone rfl (.lexeme found cut)
  | @stray text rest later nonempty runNothing apart cut =>
    show Cut ((c :: text) ++ rest) (.stray (c :: text) :: later)
    refine .stray (by simp) ?_ apart cut
    intro left right some split
    cases left with
    | nil =>
      rw [← show c :: text = right from split]
      exact nothing
    | cons head left => exact runNothing left right some (List.cons.inj split).2

theorem segments_cut (source : List Char) : Cut source (segments source) := by
  induction source using lexemeInduction with
  | nil => exact .nil
  | lexeme kind image rest found ih =>
    rw [segments_append_of_lexeme found]
    exact .lexeme found ih
  | single c rest nothing ih =>
    rw [segments_cons_of_none nothing]
    exact ih.absorb nothing

theorem Cut.eq_segments {source : List Char} {found : List Segment} (cut : Cut source found) :
    found = segments source := by
  induction cut with
  | nil => rfl
  | lexeme found cut ih => rw [segments_append_of_lexeme found, ih]
  | stray nonempty nothing apart cut ih =>
    rw [ih] at apart
    rw [segments_append_of_strays nonempty nothing apart, ih]

theorem Cut.text {source : List Char} {found : List Segment} (cut : Cut source found) :
    found.flatMap Segment.text = source := by
  induction cut with
  | nil => rfl
  | lexeme found cut ih => rw [List.flatMap_cons, ih, Segment.text]
  | stray nonempty nothing apart cut ih => rw [List.flatMap_cons, ih, Segment.text]

theorem Cut.drop {source : List Char} {before later : List Segment} (cut : Cut source (before ++ later)) :
    Cut (later.flatMap Segment.text) later := by
  induction before generalizing source with
  | nil =>
    have whole : Cut source later := cut
    rwa [whole.text]
  | cons segment before ih =>
    cases cut with
    | lexeme found cut => exact ih cut
    | stray nonempty nothing apart cut => exact ih cut

theorem Cut.found {source image : List Char} {kind : Kind} {before later : List Segment}
    (cut : Cut source (before ++ .lexeme kind image :: later)) :
    lexeme? (image ++ later.flatMap Segment.text) = some (kind, image) := by
  have here := cut.drop
  generalize (Segment.lexeme kind image :: later).flatMap Segment.text = rest at here
  cases here with
  | lexeme found behind => rwa [behind.text]

end ClassScript
