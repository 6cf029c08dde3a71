import ClassScript.Proofs.Token.Shown

namespace ClassScript

open Text

variable {kind : Kind} {image more rest source text : List Char}

theorem Kind.stopsBefore_line (inner : kind ≠ .blank) :
    kind.StopsBefore image (more ++ '\n' :: rest) ↔ kind.StopsBefore image more := by
  cases more with
  | nil =>
    have before : kind.StopsBefore image ('\n' :: rest) := by
      cases kind with
      | blank => exact absurd rfl inner
      | string => trivial
      | number =>
        refine ⟨rfl, ?_⟩
        intro _ c later same
        cases same
      | _ => rfl
    exact iff_of_true before (kind.stopsBefore_nil image)
  | cons c more =>
    cases kind with
    | number =>
      refine and_congr_right fun _ => imp_congr_right fun _ => ?_
      -- the point and the character behind it stand in front of the seam, or the line feed is that character
      cases more with
      | nil =>
        refine iff_of_true ?_ nofun
        intro d later same
        cases same
        rfl
      | cons e more =>
        refine ⟨?_, ?_⟩
        · intro stops d later same
          exact stops d (later ++ '\n' :: rest) (by rw [same, List.cons_append, List.cons_append])
        · intro stops d later same
          cases same
          exact stops e more rfl
    | _ => rfl

theorem IsIdentifier.no_line_feed (form : IsIdentifier image) : '\n' ∉ image := by
  intro member
  cases form.2 '\n' member

theorem Kind.Admits.no_line_feed (admits : kind.Admits image) (notBlank : kind ≠ .blank) (notString : kind ≠ .string) :
    '\n' ∉ image := by
  cases kind with
  | blank => exact absurd rfl notBlank
  | comment =>
    obtain ⟨remark, rfl, line⟩ := admits
    simpa using line
  | keyword word =>
    rw [show image = word.spelling.toList from admits]
    exact word.spelling_isIdentifier.no_line_feed
  | string => exact absurd rfl notString
  | number =>
    obtain ⟨whole, fraction, rfl, wholeForm, fractionForm⟩ := admits
    have wholeLine : '\n' ∉ whole := wholeForm.not_mem rfl
    rcases fractionForm with rfl | ⟨digits, rfl, digitsForm⟩
    · simpa using wholeLine
    · have digitsLine : '\n' ∉ digits := digitsForm.not_mem rfl
      simp [wholeLine, digitsLine]
  | identifier => exact IsIdentifier.no_line_feed admits

theorem lexeme?_line (inner : kind ≠ .blank) :
    lexeme? (image ++ (more ++ '\n' :: rest)) = some (kind, image) ↔ lexeme? (image ++ more) = some (kind, image) := by
  have goesOn : (more ++ '\n' :: rest).head?.any isWordChar = more.head?.any isWordChar := by
    cases more with
    | nil =>
      show isWordChar '\n' = false
      exact isWordChar_eq_false_of_isBlank isBlank_line_feed
    | cons c more => rfl
  rw [lexeme?_append_iff, lexeme?_append_iff, Kind.stopsBefore_line inner, goesOn]

theorem lexeme?_ne_none_of_isBlank {c : Char} (blank : isBlank c = true) (rest : List Char) :
    lexeme? (c :: rest) ≠ none := by
  intro nothing
  have empty : (c :: rest).takeWhile isBlank = [] := lexeme?_eq_none_iff.mp nothing .blank
  simp [blank] at empty

theorem prefix_of_prefix_line (line : '\n' ∉ image) (starts : image <+: source ++ '\n' :: rest) : image <+: source := by
  rcases List.prefix_or_prefix_of_prefix starts (List.prefix_append source ('\n' :: rest)) with within | beyond
  · exact within
  · obtain ⟨more, rfl⟩ := beyond
    have next : more <+: '\n' :: rest := (List.prefix_append_right_inj source).mp starts
    cases more with
    | nil => simp
    | cons c more =>
      have feed : c = '\n' := (List.cons_prefix_cons.mp next).1
      rw [feed] at line
      simp at line

/-- Where a text has no lexeme at its head, none arises when a line feed and more are put behind it. Only a quote might
    find its other quote there. -/
theorem lexeme?_line_eq_none {c : Char} (nothing : lexeme? (c :: source) = none) (plain : c ≠ '"') (rest : List Char) :
    lexeme? (c :: source ++ '\n' :: rest) = none := by
  by_contra some
  obtain ⟨⟨kind, image⟩, found⟩ := Option.ne_none_iff_exists'.mp some
  have starts : image <+: c :: source ++ '\n' :: rest := lexeme?_isPrefix found
  have admits : kind.Admits image := by
    obtain ⟨behind, split⟩ := starts
    rw [← split] at found
    exact (lexeme?_append_iff.mp found).1
  have opens : kind.opens c = true := by
    cases image with
    | nil => exact absurd rfl admits.ne_nil
    | cons head image =>
      have same : head = c := (List.cons_prefix_cons.mp starts).1
      rw [← same]
      exact admits.opens
  by_cases blank : kind = .blank
  · rw [blank] at opens
    exact lexeme?_ne_none_of_isBlank opens source nothing
  · have notString : kind ≠ .string := by
      rintro rfl
      exact plain (by simpa [Kind.opens] using opens)
    obtain ⟨more, split⟩ := prefix_of_prefix_line (admits.no_line_feed blank notString) starts
    rw [← split, List.append_assoc] at found
    rw [← split, (lexeme?_line blank).mp found] at nothing
    cases nothing

theorem Cut.lexeme?_line_ne_none {found : List Segment} (cut : Cut source found)
    (apart : found.head?.any Segment.isStray = false) (rest : List Char) : lexeme? (source ++ '\n' :: rest) ≠ none := by
  cases cut with
  | nil => exact lexeme?_ne_none_of_isBlank isBlank_line_feed rest
  | @lexeme kind image behind later found cut =>
    rw [List.append_assoc]
    by_cases blank : kind = .blank
    · subst blank
      have blanks : Kind.blank.Admits image := (lexeme?_append_iff.mp found).1
      cases image with
      | nil => exact absurd rfl blanks.ne_nil
      | cons c image => exact lexeme?_ne_none_of_isBlank blanks.opens _
    · rw [(lexeme?_line blank).mpr found]
      nofun
  | stray nonempty nothing alone cut => cases apart

theorem segments_head_of_lexeme (starts : lexeme? source ≠ none) :
    (segments source).head?.any Segment.isStray = false := by
  cases source with
  | nil => rfl
  | cons c source =>
    obtain ⟨⟨kind, image⟩, found⟩ := Option.ne_none_iff_exists'.mp starts
    rw [segments_cons_of_lexeme found]
    rfl

theorem Cut.shown_line {found : List Segment} (cut : Cut text found)
    (closed : ∀ run, Segment.stray run ∈ found → '"' ∉ run) (position : Position) (rest : List Char) :
    shown position (text ++ '\n' :: rest) =
      shown position text ++ shown ((position.advance text).step '\n') rest := by
  induction cut generalizing position with
  | nil => exact shown_blank isBlank_line_feed rest
  | @lexeme kind image behind later found cut ih =>
    have here := ih (fun run member => closed run (List.mem_cons_of_mem _ member)) (position.advance image)
    rw [List.append_assoc, Position.advance_append]
    by_cases blank : kind = .blank
    · -- the run of blanks goes on behind the text, so this is no longer the lexeme there
      subst blank
      have blanks : Kind.blank.Admits image := (lexeme?_append_iff.mp found).1
      rw [shown_blanks blanks.2, shown_blanks blanks.2, here]
    · have further : lexeme? (image ++ (behind ++ '\n' :: rest)) = some (kind, image) :=
        (lexeme?_line blank).mpr found
      cases skips : kind.isSkipped with
      | true => rw [shown_skipped skips further, shown_skipped skips found, here]
      | false => rw [shown_token skips further, shown_token skips found, here, List.cons_append]
  | @stray run behind later nonempty nothing apart cut ih =>
    have here := ih (fun run member => closed run (List.mem_cons_of_mem _ member)) (position.advance run)
    have plain : '"' ∉ run := closed run (List.mem_cons_self ..)
    have starts := cut.lexeme?_line_ne_none apart rest
    have further : ∀ left right, right ≠ [] → run = left ++ right →
        lexeme? (right ++ (behind ++ '\n' :: rest)) = none := by
      intro left right some split
      have alone := nothing left right some split
      cases right with
      | nil => exact absurd rfl some
      | cons c right =>
        have noQuote : c ≠ '"' := by
          rintro rfl
          exact plain (by simp [split])
        rw [List.cons_append] at alone
        rw [← List.append_assoc]
        exact lexeme?_line_eq_none alone noQuote rest
    rw [cut.eq_segments] at apart
    rw [List.append_assoc, Position.advance_append, shown_stray nonempty further (segments_head_of_lexeme starts),
      shown_stray nonempty nothing apart, here, List.cons_append]

def Token.below (text : String) (token : Token) : Token := { token with position := token.position.below text }

def Stray.below (text : String) (stray : Stray) : Stray := { stray with position := stray.position.below text }

theorem Placed.token?_below (text : String) (placed : Placed) :
    (placed.below text).token? = placed.token?.map (Token.below text) := by
  obtain ⟨position, segment⟩ := placed
  cases segment with
  | lexeme kind image => cases skips : kind.isSkipped <;> simp [Placed.below, Placed.token?, skips, Token.below]
  | stray run => rfl

theorem Placed.stray?_below (text : String) (placed : Placed) :
    (placed.below text).stray? = placed.stray?.map (Stray.below text) := by
  obtain ⟨position, segment⟩ := placed
  cases segment <;> rfl

/-- Two texts with a line feed between them are scanned as if each were alone, if no string literal is open at the end of
    the first. -/
theorem scan_append_line {first : String} (closed : ∀ stray ∈ (scan first).strays, '"' ∉ stray.text.toList)
    (second : String) : scan (first ++ "\n" ++ second) =
      { tokens := (scan first).tokens ++ (scan second).tokens.map (Token.below first)
        strays := (scan first).strays ++ (scan second).strays.map (Stray.below first) } := by
  have plain : ∀ run, Segment.stray run ∈ segments first.toList → '"' ∉ run := by
    intro run member
    obtain ⟨stray, reported, rfl⟩ := mem_strays_of_segment member
    exact closed stray reported
  have seam := (segments_cut first.toList).shown_line plain .start second.toList
  have text : (first ++ "\n" ++ second).toList = first.toList ++ '\n' :: second.toList := by simp
  rw [Position.step_advance_start, shown_below] at seam
  rw [scan_eq_shown, text, seam, scan_eq_shown first, scan_eq_shown second]
  simp only [Scan.ofPlaced, List.filterMap_append, List.filterMap_map, Function.comp_def, Placed.token?_below,
    Placed.stray?_below, List.map_filterMap]

end ClassScript
