import ClassScript.Proofs.Token.Place

namespace ClassScript

open Text

def Segment.isSkipped : Segment → Bool
  | .lexeme kind _ => kind.isSkipped
  | .stray _ => false

def shown (position : Position) (text : List Char) : List Placed :=
  (Placed.row position (segments text)).filter fun placed => !placed.segment.isSkipped

@[simp] theorem shown_nil (position : Position) : shown position [] = [] := rfl

theorem scan_eq_shown (source : String) : scan source = .ofPlaced (shown .start source.toList) := by
  have token : (fun placed : Placed => if !placed.segment.isSkipped then placed.token? else none) = Placed.token? := by
    funext placed
    obtain ⟨position, segment⟩ := placed
    cases segment with
    | lexeme kind image => cases skips : kind.isSkipped <;> simp [Segment.isSkipped, Placed.token?, skips]
    | stray text => rfl
  have stray : (fun placed : Placed => if !placed.segment.isSkipped then placed.stray? else none) = Placed.stray? := by
    funext placed
    obtain ⟨position, segment⟩ := placed
    cases segment with
    | lexeme kind image => simp [Placed.stray?]
    | stray text => rfl
  rw [scan, Scan.ofPlaced, Scan.ofPlaced, shown, List.filterMap_filter, List.filterMap_filter, token, stray]

variable {position : Position} {image text rest : List Char} {kind : Kind}

theorem shown_token (counts : kind.isSkipped = false) (found : lexeme? (image ++ rest) = some (kind, image)) :
    shown position (image ++ rest) = ⟨position, .lexeme kind image⟩ :: shown (position.advance image) rest := by
  rw [shown, segments_append_of_lexeme found, Placed.row, List.filter_cons_of_pos (by simp [Segment.isSkipped, counts])]
  rfl

theorem shown_skipped (skips : kind.isSkipped = true) (found : lexeme? (image ++ rest) = some (kind, image)) :
    shown position (image ++ rest) = shown (position.advance image) rest := by
  rw [shown, segments_append_of_lexeme found, Placed.row, List.filter_cons_of_neg (by simp [Segment.isSkipped, skips])]
  rfl

theorem shown_stray (nonempty : text ≠ [])
    (nothing : ∀ left right, right ≠ [] → text = left ++ right → lexeme? (right ++ rest) = none)
    (apart : (segments rest).head?.any Segment.isStray = false) :
    shown position (text ++ rest) = ⟨position, .stray text⟩ :: shown (position.advance text) rest := by
  rw [shown, segments_append_of_strays nonempty nothing apart, Placed.row, List.filter_cons_of_pos rfl]
  rfl

theorem shown_comment (admits : Kind.comment.Admits image) (stops : Kind.comment.StopsBefore image rest) :
    shown position (image ++ rest) = shown (position.advance image) rest := by
  have found : lexeme? (image ++ rest) = some (.comment, image) := lexeme?_append_iff.mpr ⟨admits, stops, nofun⟩
  exact shown_skipped rfl found

theorem shown_blank_run (blanks : ∀ c ∈ text, isBlank c = true) (stops : rest.head?.any isBlank = false) :
    shown position (text ++ rest) = shown (position.advance text) rest := by
  by_cases empty : text = []
  · rw [empty, List.nil_append, Position.advance_nil]
  · have found : lexeme? (text ++ rest) = some (.blank, text) :=
      lexeme?_append_iff.mpr ⟨⟨empty, blanks⟩, stops, nofun⟩
    exact shown_skipped rfl found

theorem shown_blanks (blanks : ∀ c ∈ text, isBlank c = true) (rest : List Char) :
    shown position (text ++ rest) = shown (position.advance text) rest := by
  have split : rest.takeWhile isBlank ++ rest.dropWhile isBlank = rest := List.takeWhile_append_dropWhile
  have stops := head_of_takeWhile_append split
  have later : ∀ c ∈ rest.takeWhile isBlank, isBlank c = true := fun c member => List.mem_takeWhile_imp member
  have all : ∀ c ∈ text ++ rest.takeWhile isBlank, isBlank c = true := List.forall_mem_append.mpr ⟨blanks, later⟩
  calc shown position (text ++ rest)
      = shown position ((text ++ rest.takeWhile isBlank) ++ rest.dropWhile isBlank) := by rw [List.append_assoc, split]
    _ = shown ((position.advance text).advance (rest.takeWhile isBlank)) (rest.dropWhile isBlank) := by
      rw [shown_blank_run all stops, Position.advance_append]
    _ = shown (position.advance text) rest := by rw [← shown_blank_run later stops, split]

theorem shown_blank {c : Char} (blank : isBlank c = true) (rest : List Char) :
    shown position (c :: rest) = shown (position.step c) rest := by
  have single : ∀ other ∈ [c], isBlank other = true := List.forall_mem_singleton.mpr blank
  exact shown_blanks single rest

theorem isBlank_line_feed : isBlank '\n' = true := by decide

def Placed.below (text : String) (placed : Placed) : Placed := ⟨placed.position.below text, placed.segment⟩

theorem Placed.row_below (text : String) (position : Position) (found : List Segment) :
    Placed.row (position.below text) found = (Placed.row position found).map (Placed.below text) := by
  induction found generalizing position with
  | nil => rfl
  | cons segment later ih =>
    rw [Placed.row, Position.advance_below, ih]
    rfl

theorem shown_below (text : String) (position : Position) (source : List Char) :
    shown (position.below text) source = (shown position source).map (Placed.below text) := by
  rw [shown, Placed.row_below, List.filter_map]
  rfl

end ClassScript
