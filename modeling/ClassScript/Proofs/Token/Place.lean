import ClassScript.Proofs.Text.Position
import ClassScript.Proofs.Token.Cut
import ClassScript.Token.Scan

namespace ClassScript

theorem Placed.row_segments (position : Position) (found : List Segment) :
    (Placed.row position found).map Placed.segment = found := by
  induction found generalizing position with
  | nil => rfl
  | cons segment later ih => exact congrArg _ (ih _)

theorem Placed.row_eq_append_cons {position : Position} {found : List Segment} {earlier later : List Placed}
    {placed : Placed} (split : Placed.row position found = earlier ++ placed :: later) :
    ∃ before after, found = before ++ placed.segment :: after ∧
      placed.position = position.advance (before.flatMap Segment.text) ∧
      later = Placed.row (placed.position.advance placed.segment.text) after := by
  induction earlier generalizing position found with
  | nil =>
    cases found with
    | nil => cases split
    | cons segment found =>
      obtain ⟨rfl, rfl⟩ := List.cons.inj split
      exact ⟨[], found, rfl, rfl, rfl⟩
  | cons first earlier ih =>
    cases found with
    | nil => cases split
    | cons segment found =>
      obtain ⟨before, after, rfl, place, behind⟩ := ih (List.cons.inj split).2
      refine ⟨segment :: before, after, rfl, ?_, behind⟩
      rw [place, List.flatMap_cons, Position.advance_append]

theorem Placed.mem_row {position : Position} {found : List Segment} {placed : Placed}
    (member : placed ∈ Placed.row position found) : ∃ before after, found = before ++ placed.segment :: after ∧
      placed.position = position.advance (before.flatMap Segment.text) := by
  obtain ⟨earlier, later, split⟩ := List.append_of_mem member
  obtain ⟨before, after, cut, place, _⟩ := Placed.row_eq_append_cons split
  exact ⟨before, after, cut, place⟩

theorem Placed.mem_row_of_split (position : Position) (before : List Segment) (segment : Segment) (after : List Segment) :
    ⟨position.advance (before.flatMap Segment.text), segment⟩ ∈ Placed.row position (before ++ segment :: after) := by
  induction before generalizing position with
  | nil => exact List.mem_cons_self ..
  | cons first before ih =>
    rw [List.flatMap_cons, Position.advance_append]
    exact List.mem_cons_of_mem _ (ih _)

theorem Placed.token?_eq_some {placed : Placed} {token : Token} (same : placed.token? = some token) :
    placed.segment = .lexeme token.kind token.image.toList ∧ placed.position = token.position ∧
      token.kind.isSkipped = false := by
  obtain ⟨position, segment⟩ := placed
  cases segment with
  | stray text => cases same
  | lexeme kind image =>
    simp only [Placed.token?] at same
    split at same
    · cases same
    · rename_i counts
      cases same
      exact ⟨by rw [String.toList_ofList], rfl, by simpa using counts⟩

theorem Placed.stray?_eq_some {placed : Placed} {stray : Stray} (same : placed.stray? = some stray) :
    placed.segment = .stray stray.text.toList ∧ placed.position = stray.position := by
  obtain ⟨position, segment⟩ := placed
  cases segment with
  | lexeme kind image => cases same
  | stray text =>
    cases same
    exact ⟨by rw [String.toList_ofList], rfl⟩

theorem text_of_segments {source : String} {segment : Segment} {before after : List Segment}
    (split : segments source.toList = before ++ segment :: after) :
    source.toList = before.flatMap Segment.text ++ segment.text ++ after.flatMap Segment.text := by
  rw [← segments_text source.toList, split, List.flatMap_append, List.flatMap_cons, List.append_assoc]

theorem stray_mem_of_split {source : String} {earlier later : List Segment} {text : List Char}
    (split : segments source.toList = earlier ++ .stray text :: later) :
    ⟨Position.start.advance (earlier.flatMap Segment.text), String.ofList text⟩ ∈ (scan source).strays := by
  refine List.mem_filterMap.mpr ⟨⟨_, .stray text⟩, ?_, rfl⟩
  rw [split]
  exact Placed.mem_row_of_split _ _ _ _

theorem mem_strays_of_segment {source : String} {run : List Char} (member : Segment.stray run ∈ segments source.toList) :
    ∃ stray ∈ (scan source).strays, stray.text.toList = run := by
  obtain ⟨earlier, later, split⟩ := List.append_of_mem member
  exact ⟨_, stray_mem_of_split split, String.toList_ofList⟩

theorem segments_of_mem_tokens {source : String} {token : Token} (member : token ∈ (scan source).tokens) :
    ∃ before after, segments source.toList = before ++ .lexeme token.kind token.image.toList :: after ∧
      token.position = Position.start.advance (before.flatMap Segment.text) ∧ token.kind.isSkipped = false := by
  obtain ⟨placed, inRow, same⟩ := List.mem_filterMap.mp member
  obtain ⟨segment, position, counts⟩ := Placed.token?_eq_some same
  obtain ⟨before, after, split, place⟩ := Placed.mem_row inRow
  rw [segment] at split
  exact ⟨before, after, split, position.symm.trans place, counts⟩

theorem mem_scan_tokens {source : String} {token : Token} (member : token ∈ (scan source).tokens) :
    ∃ before after, source.toList = before ++ token.image.toList ++ after ∧
      token.position = Position.start.advance before ∧ token.kind.isSkipped = false ∧
      lexeme? (token.image.toList ++ after) = some (token.kind, token.image.toList) := by
  obtain ⟨before, after, split, place, counts⟩ := segments_of_mem_tokens member
  have cut := segments_cut source.toList
  rw [split] at cut
  exact ⟨before.flatMap Segment.text, after.flatMap Segment.text, text_of_segments split, place, counts, cut.found⟩

theorem mem_scan_tokens_counts {source : String} {token : Token} (member : token ∈ (scan source).tokens) :
    token.kind.isSkipped = false := by
  obtain ⟨_, _, _, _, counts, _⟩ := mem_scan_tokens member
  exact counts

theorem mem_scan_tokens_admits {source : String} {token : Token} (member : token ∈ (scan source).tokens) :
    token.kind.Admits token.image.toList := by
  obtain ⟨_, _, _, _, _, found⟩ := mem_scan_tokens member
  exact (lexeme?_append_iff.mp found).1

theorem mem_scan_tokens_of_clean {source : String} {token : Token} (clean : (scan source).strays = [])
    (member : token ∈ (scan source).tokens) :
    ∃ after, lexeme? (token.image.toList ++ after) = some (token.kind, token.image.toList) ∧
      (after ≠ [] → lexeme? after ≠ none) := by
  obtain ⟨before, after, split, _, _⟩ := segments_of_mem_tokens member
  have cut := segments_cut source.toList
  rw [split] at cut
  refine ⟨after.flatMap Segment.text, cut.found, ?_⟩
  rw [List.append_cons] at cut
  have behind := cut.drop
  generalize after.flatMap Segment.text = rest at behind ⊢
  intro unread
  cases behind with
  | nil => exact absurd rfl unread
  | lexeme found later => simp [found]
  | @stray text rest later nonempty nothing apart cut =>
    have reported : Segment.stray text ∈ segments source.toList := by simp [split]
    obtain ⟨stray, inStrays, _⟩ := mem_strays_of_segment reported
    rw [clean] at inStrays
    cases inStrays

theorem identifier_free_of_clean {source : String} {token : Token} (clean : (scan source).strays = [])
    (member : token ∈ (scan source).tokens) (identifier : token.kind = .identifier) (word : Keyword) :
    token.image ≠ word.spelling := by
  obtain ⟨after, found, behind⟩ := mem_scan_tokens_of_clean clean member
  obtain ⟨_, stops, reserved⟩ := lexeme?_append_iff.mp found
  intro same
  have goesOn := reserved identifier word (congrArg String.toList same)
  rw [identifier] at stops
  cases after with
  | nil => cases goesOn
  | cons c after => exact behind (by simp) (lexeme?_eq_none_of_foreign goesOn stops after)

theorem segments_of_mem_strays {source : String} {stray : Stray} (member : stray ∈ (scan source).strays) :
    ∃ before after, segments source.toList = before ++ .stray stray.text.toList :: after ∧
      stray.position = Position.start.advance (before.flatMap Segment.text) := by
  obtain ⟨placed, inRow, same⟩ := List.mem_filterMap.mp member
  obtain ⟨segment, position⟩ := Placed.stray?_eq_some same
  obtain ⟨before, after, split, place⟩ := Placed.mem_row inRow
  rw [segment] at split
  exact ⟨before, after, split, position.symm.trans place⟩

theorem mem_scan_strays {source : String} {stray : Stray} (member : stray ∈ (scan source).strays) :
    ∃ before after, source.toList = before ++ stray.text.toList ++ after ∧
      stray.position = Position.start.advance before := by
  obtain ⟨before, after, split, place⟩ := segments_of_mem_strays member
  exact ⟨before.flatMap Segment.text, after.flatMap Segment.text, text_of_segments split, place⟩

end ClassScript
