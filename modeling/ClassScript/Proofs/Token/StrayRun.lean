import ClassScript.Proofs.Token.Longest
import ClassScript.Proofs.Token.Order

namespace ClassScript

open Text

/-- A place the scanner comes to from the head of a text, given by what it has passed and what is left. -/
inductive Reaches : List Char → List Char → List Char → Prop
  | here (rest : List Char) : Reaches rest [] rest
  | lexeme {kind : Kind} {image later before rest : List Char} (found : lexeme? (image ++ later) = some (kind, image))
      (onward : Reaches later before rest) : Reaches (image ++ later) (image ++ before) rest
  | single {c : Char} {later before rest : List Char} (nothing : lexeme? (c :: later) = none)
      (onward : Reaches later before rest) : Reaches (c :: later) (c :: before) rest

/-- A stretch of a source that the scanner passes one by one, since no kind has a text at any of its characters. On
    either side is a lexeme that it takes, or the end of the source. -/
structure StrayRun (source before text after : List Char) : Prop where
  split : source = before ++ text ++ after
  nonempty : text ≠ []
  reached : ∀ left right, text = left ++ right → Reaches source (before ++ left) (right ++ after)
  nothing : ∀ left right, right ≠ [] → text = left ++ right →
    ∀ (kind : Kind) (image : List Char), ¬ kind.Matches (right ++ after) image
  opens : before = [] ∨ ∃ earlier kind image, before = earlier ++ image ∧
    Reaches source earlier (image ++ (text ++ after)) ∧ lexeme? (image ++ (text ++ after)) = some (kind, image)
  closes : after = [] ∨ ∃ kind image, lexeme? after = some (kind, image)

variable {source before text rest more run : List Char} {found : List Segment}

theorem Reaches.split (reach : Reaches source before more) : source = before ++ more := by
  induction reach with
  | here => rfl
  | lexeme found onward ih => rw [ih, List.append_assoc]
  | single nothing onward ih => rw [ih, List.cons_append]

theorem Reaches.strays (nothing : ∀ left right, right ≠ [] → run = left ++ right → lexeme? (right ++ rest) = none)
    (onward : Reaches rest before more) : Reaches (run ++ rest) (run ++ before) more := by
  induction run with
  | nil => exact onward
  | cons c run ih =>
    refine .single (nothing [] (c :: run) (by simp) rfl) (ih ?_)
    intro left right some split
    exact nothing (c :: left) right some (by rw [split, List.cons_append])

theorem Reaches.of_lexeme {kind : Kind} {image : List Char} (lead : lexeme? (image ++ rest) = some (kind, image))
    (reach : Reaches (image ++ rest) before more) :
    more = image ++ rest ∨ ∃ further, before = image ++ further ∧ Reaches rest further more := by
  generalize whole : image ++ rest = source at reach lead
  cases reach with
  | here => exact Or.inl rfl
  | @lexeme other text later further _ found onward =>
    rw [found] at lead
    cases lead
    rw [List.append_cancel_left whole]
    exact Or.inr ⟨further, rfl, onward⟩
  | single nothing onward =>
    rw [nothing] at lead
    cases lead

theorem Reaches.of_strays (nothing : ∀ left right, right ≠ [] → run = left ++ right → lexeme? (right ++ rest) = none)
    (reach : Reaches (run ++ rest) before more) :
    (∃ left right, run = left ++ right ∧ right ≠ [] ∧ before = left ∧ more = right ++ rest) ∨
      ∃ further, before = run ++ further ∧ Reaches rest further more := by
  induction run generalizing before with
  | nil => exact Or.inr ⟨before, rfl, reach⟩
  | cons c run ih =>
    have none : lexeme? (c :: (run ++ rest)) = none := nothing [] (c :: run) (by simp) rfl
    rw [List.cons_append] at reach
    generalize whole : c :: (run ++ rest) = source at reach none
    cases reach with
    | here => exact Or.inl ⟨[], c :: run, rfl, by simp, rfl, by rw [← whole, List.cons_append]⟩
    | lexeme found onward =>
      rw [found] at none
      cases none
    | single _ onward =>
      cases whole
      have later : ∀ left right, right ≠ [] → run = left ++ right → lexeme? (right ++ rest) = Option.none := by
        intro left right some split
        exact nothing (c :: left) right some (by rw [split, List.cons_append])
      rcases ih later onward with ⟨left, right, split, some, place, here⟩ | ⟨further, place, passed⟩
      · exact Or.inl ⟨c :: left, right, by rw [split, List.cons_append], some, by rw [place], here⟩
      · exact Or.inr ⟨further, by rw [place, List.cons_append], passed⟩

theorem Cut.starts (cut : Cut source found) (apart : found.head?.any Segment.isStray = false) :
    source = [] ∨ ∃ kind image, lexeme? source = some (kind, image) := by
  cases cut with
  | nil => exact Or.inl rfl
  | lexeme lead later => exact Or.inr ⟨_, _, lead⟩
  | stray nonempty nothing behind later => cases apart

theorem StrayRun.nothing_here {after : List Char} (stray : StrayRun source before text after) :
    lexeme? (text ++ after) = none :=
  lexeme?_eq_none_iff_matches.mpr (stray.nothing [] text stray.nonempty rfl)

theorem StrayRun.behind_lexeme {kind : Kind} {image after : List Char}
    (lead : lexeme? (image ++ rest) = some (kind, image)) (stray : StrayRun rest before text after) :
    StrayRun (image ++ rest) (image ++ before) text after where
  split := by rw [stray.split]; simp
  nonempty := stray.nonempty
  reached left right same := by
    rw [List.append_assoc]
    exact .lexeme lead (stray.reached left right same)
  nothing := stray.nothing
  opens := by
    rcases stray.opens with rfl | ⟨earlier, other, otherImage, rfl, reach, found⟩
    · have whole : rest = text ++ after := stray.split
      rw [whole] at lead ⊢
      exact Or.inr ⟨[], kind, image, by simp, .here _, lead⟩
    · exact Or.inr ⟨image ++ earlier, other, otherImage, by simp, .lexeme lead reach, found⟩
  closes := stray.closes

theorem StrayRun.behind_strays {after : List Char}
    (nothing : ∀ left right, right ≠ [] → run = left ++ right → lexeme? (right ++ rest) = none)
    (starts : rest = [] ∨ ∃ kind image, lexeme? rest = some (kind, image))
    (stray : StrayRun rest before text after) : StrayRun (run ++ rest) (run ++ before) text after where
  split := by rw [stray.split]; simp
  nonempty := stray.nonempty
  reached left right same := by
    rw [List.append_assoc]
    exact Reaches.strays nothing (stray.reached left right same)
  nothing := stray.nothing
  opens := by
    rcases stray.opens with rfl | ⟨earlier, kind, image, rfl, reach, found⟩
    · have whole : rest = text ++ after := stray.split
      rcases starts with empty | ⟨kind, image, found⟩
      · rw [empty] at whole
        exact absurd (List.append_eq_nil_iff.mp whole.symm).1 stray.nonempty
      · rw [whole, stray.nothing_here] at found
        cases found
    · exact Or.inr ⟨run ++ earlier, kind, image, by simp, Reaches.strays nothing reach, found⟩
  closes := stray.closes

theorem Cut.strayRun (cut : Cut source found) {earlier later : List Segment}
    (split : found = earlier ++ .stray text :: later) :
    StrayRun source (earlier.flatMap Segment.text) text (later.flatMap Segment.text) := by
  induction cut generalizing earlier with
  | nil => simp at split
  | @lexeme kind image rest segments lead cut ih =>
    cases earlier with
    | nil => cases split
    | cons first earlier =>
      obtain ⟨rfl, same⟩ := List.cons.inj split
      exact (ih same).behind_lexeme lead
  | @stray run rest segments nonempty nothing apart cut ih =>
    cases earlier with
    | nil =>
      cases split
      rw [cut.text]
      refine ⟨rfl, nonempty, ?_, ?_, Or.inl rfl, cut.starts apart⟩
      · rintro left right rfl
        have walked : Reaches (left ++ (right ++ rest)) (left ++ []) (right ++ rest) := by
          refine Reaches.strays ?_ (.here _)
          intro first second some same
          rw [← List.append_assoc]
          exact nothing first (second ++ right) (by simp [some]) (by rw [same, List.append_assoc])
        simpa using walked
      · intro left right some same
        exact lexeme?_eq_none_iff_matches.mp (nothing left right some same)
    | cons first earlier =>
      obtain ⟨rfl, same⟩ := List.cons.inj split
      exact (ih same).behind_strays nothing (cut.starts apart)

theorem Cut.stray_of_reaches (cut : Cut source found) {c : Char} (reach : Reaches source before (c :: rest))
    (none : lexeme? (c :: rest) = none) : ∃ earlier later left right,
      found = earlier ++ .stray (left ++ c :: right) :: later ∧ before = earlier.flatMap Segment.text ++ left ∧
        rest = right ++ later.flatMap Segment.text := by
  induction cut generalizing before with
  | nil => simpa using reach.split
  | @lexeme kind image tail segments lead cut ih =>
    rcases reach.of_lexeme lead with here | ⟨further, rfl, onward⟩
    · rw [here, lead] at none
      cases none
    · obtain ⟨earlier, later, left, right, rfl, rfl, rfl⟩ := ih onward
      exact ⟨.lexeme kind image :: earlier, later, left, right, rfl, by simp [Segment.text], rfl⟩
  | @stray run tail segments nonempty nothing apart cut ih =>
    rcases reach.of_strays nothing with ⟨left, right, rfl, some, rfl, same⟩ | ⟨further, rfl, onward⟩
    · cases right with
      | nil => exact absurd rfl some
      | cons d right =>
        obtain ⟨rfl, behind⟩ := List.cons.inj same
        exact ⟨[], segments, before, right, rfl, rfl, by rw [cut.text, behind, List.append_eq]⟩
    · obtain ⟨earlier, later, left, right, rfl, rfl, rfl⟩ := ih onward
      exact ⟨.stray run :: earlier, later, left, right, rfl, by simp [Segment.text], rfl⟩

theorem quote_not_mem_of_no_lexeme (nothing : lexeme? ('"' :: rest) = none) : '"' ∉ rest := by
  have empty : leadString ('"' :: rest) = [] := lexeme?_eq_none_iff.mp nothing .string
  intro later
  simp [leadString, later] at empty

theorem StrayRun.quote_last {left right after : List Char} (stray : StrayRun source before text after)
    (split : text = left ++ '"' :: right) : '"' ∉ right ++ after :=
  quote_not_mem_of_no_lexeme (lexeme?_eq_none_iff_matches.mpr (stray.nothing left ('"' :: right) (by simp) split))

def Segment.strayText : Segment → List Char
  | .lexeme _ _ => []
  | .stray text => text

theorem flatMap_strays_text (position : Position) (found : List Segment) :
    ((Placed.row position found).filterMap Placed.stray?).flatMap (fun stray => stray.text.toList) =
      found.flatMap Segment.strayText := by
  induction found generalizing position with
  | nil => rfl
  | cons segment later ih =>
    cases segment with
    | lexeme kind image => exact ih _
    | stray text =>
      have reported : Placed.stray? ⟨position, .stray text⟩ = some ⟨position, String.ofList text⟩ := rfl
      rw [Placed.row, List.filterMap_cons_some reported, List.flatMap_cons, List.flatMap_cons, ih, String.toList_ofList,
        Segment.strayText]

theorem quote_not_mem_strayText (plain : '"' ∉ found.flatMap Segment.text) :
    '"' ∉ found.flatMap Segment.strayText := by
  intro member
  obtain ⟨segment, inFound, inText⟩ := List.mem_flatMap.mp member
  apply plain
  cases segment with
  | lexeme kind image => cases inText
  | stray text => exact List.mem_flatMap.mpr ⟨_, inFound, inText⟩

theorem Cut.stray_quotes (cut : Cut source found) : (found.flatMap Segment.strayText).count '"' ≤ 1 := by
  induction cut with
  | nil => exact Nat.zero_le 1
  | lexeme lead cut ih => exact ih
  | @stray run rest segments nonempty nothing apart cut ih =>
    rw [List.flatMap_cons, List.count_append, Segment.strayText]
    by_cases quote : '"' ∈ run
    · -- no quote is left behind the first one
      obtain ⟨left, right, rfl, first⟩ := List.eq_append_cons_of_mem quote
      have last : '"' ∉ right ++ rest := quote_not_mem_of_no_lexeme (nothing left _ (by simp) rfl)
      obtain ⟨inRun, inRest⟩ := not_or.mp (mt List.mem_append.mpr last)
      have behind : (segments.flatMap Segment.strayText).count '"' = 0 :=
        List.count_eq_zero.mpr (quote_not_mem_strayText (by rwa [cut.text]))
      have here : (left ++ '"' :: right).count '"' = 1 := by
        rw [List.count_append, List.count_cons_self, List.count_eq_zero.mpr first, List.count_eq_zero.mpr inRun]
      omega
    · rwa [List.count_eq_zero.mpr quote, Nat.zero_add]

/-- The stray runs are just the longest stretches at which no lexeme is found: each is one, set off by lexemes on both
    sides, and every character the scanner comes to without finding a lexeme is in one of them. So two runs never touch;
    and of all quotes at most the last one is stray. -/
theorem strays_are_maximal_runs (source : String) :
    (∀ stray ∈ (scan source).strays, ∃ before after, stray.position = Position.start.advance before ∧
      StrayRun source.toList before stray.text.toList after ∧
      ∀ left right, stray.text.toList = left ++ '"' :: right → '"' ∉ right ++ after) ∧
    (∀ before c rest, Reaches source.toList before (c :: rest) → lexeme? (c :: rest) = none →
      ∃ earlier left right after, before = earlier ++ left ∧ rest = right ++ after ∧
        ⟨Position.start.advance earlier, String.ofList (left ++ c :: right)⟩ ∈ (scan source).strays) ∧
    ((scan source).strays.Pairwise fun earlier later =>
      earlier.position.offset + String.utf8Len earlier.text.toList < later.position.offset) ∧
    ((scan source).strays.flatMap fun stray => stray.text.toList).count '"' ≤ 1 := by
  have cut := segments_cut source.toList
  refine ⟨?_, ?_, scan_strays_gap source, ?_⟩
  · intro stray member
    obtain ⟨earlier, later, split, place⟩ := segments_of_mem_strays member
    have run := cut.strayRun split
    exact ⟨_, _, place, run, fun left right => run.quote_last⟩
  · intro before c rest reach nothing
    obtain ⟨earlier, later, left, right, split, rfl, rfl⟩ := cut.stray_of_reaches reach nothing
    exact ⟨_, left, right, _, rfl, rfl, stray_mem_of_split split⟩
  · rw [scan, Scan.ofPlaced, flatMap_strays_text]
    exact cut.stray_quotes

theorem strays_are_maximal_runs_quote :
    (⟨⟨8, 2, 1⟩, "\"é"⟩ : Stray) ∈ (scan "#// \"x\"\n\"é a").strays ∧
    (∃ before after, (⟨8, 2, 1⟩ : Position) = Position.start.advance before ∧
      StrayRun "#// \"x\"\n\"é a".toList before "\"é".toList after ∧
      ∀ left right, "\"é".toList = left ++ '"' :: right → '"' ∉ right ++ after) ∧
    Reaches "# a".toList [] ('#' :: " a".toList) ∧ lexeme? ('#' :: " a".toList) = none ∧
    ∃ earlier left right after, [] = earlier ++ left ∧ " a".toList = right ++ after ∧
      ⟨Position.start.advance earlier, String.ofList (left ++ '#' :: right)⟩ ∈ (scan "# a").strays := by
  have member : (⟨⟨8, 2, 1⟩, "\"é"⟩ : Stray) ∈ (scan "#// \"x\"\n\"é a").strays := by decide +kernel
  have nothing : lexeme? ('#' :: " a".toList) = none := by decide +kernel
  have reach : Reaches "# a".toList [] ('#' :: " a".toList) := .here _
  obtain ⟨runs, _⟩ := strays_are_maximal_runs "#// \"x\"\n\"é a"
  obtain ⟨_, covers, _⟩ := strays_are_maximal_runs "# a"
  exact ⟨member, runs _ member, reach, nothing, covers _ _ _ reach nothing⟩

end ClassScript
