import ClassScript.Proofs.Token.Shown

namespace ClassScript

open Text

/-- Blanks and comments, each comment with the line feed that ends it. -/
inductive Layout : List Char → Prop
  | nil : Layout []
  | blank {c : Char} {rest : List Char} (blank : isBlank c = true) (later : Layout rest) : Layout (c :: rest)
  | comment {remark rest : List Char} (line : '\n' ∉ remark) (later : Layout rest) :
      Layout ('/' :: '/' :: remark ++ '\n' :: rest)

/-- What a source can spell so that it becomes a token. Keywords are no identifiers. -/
structure Lexeme where
  kind : Kind
  image : String
  counts : kind.isSkipped = false
  admits : kind.Admits image.toList
  free : kind = .identifier → ∀ word : Keyword, image ≠ word.spelling

structure Name where
  text : String
  form : IsIdentifier text.toList
  free : ∀ word : Keyword, text ≠ word.spelling

structure Quotable where
  text : String
  plain : '"' ∉ text.toList

def Lexeme.keyword (word : Keyword) : Lexeme := ⟨.keyword word, word.spelling, rfl, rfl, nofun⟩

def Name.lexeme (name : Name) : Lexeme := ⟨.identifier, name.text, rfl, name.form, fun _ => name.free⟩

def Quotable.lexeme (text : Quotable) : Lexeme :=
  ⟨.string, String.ofList ('"' :: text.text.toList ++ ['"']), rfl, ⟨text.text.toList, String.toList_ofList, text.plain⟩, nofun⟩

/-- Lexemes one after the other, with layout behind each and none missing between two. -/
inductive Spells : List Lexeme → List Char → Prop
  | nil : Spells [] []
  | cons {lexeme : Lexeme} {lexemes : List Lexeme} {gap text : List Char} (layout : Layout gap)
      (apart : gap = [] → lexemes = []) (later : Spells lexemes text) :
      Spells (lexeme :: lexemes) (lexeme.image.toList ++ (gap ++ text))

def Writes (lexemes : List Lexeme) (source : String) : Prop :=
  ∃ margin text, Layout margin ∧ Spells lexemes text ∧ source.toList = margin ++ text

def visible (found : List Segment) : List Segment := found.filter fun segment => !segment.isSkipped

theorem map_segment_shown (position : Position) (text : List Char) :
    (shown position text).map Placed.segment = visible (segments text) := by
  rw [shown, visible, ← Placed.row_segments position (segments text), List.filter_map, Placed.row_segments]
  rfl

theorem shown_layout {gap : List Char} (layout : Layout gap) (position : Position) (rest : List Char) :
    shown position (gap ++ rest) = shown (position.advance gap) rest := by
  induction layout generalizing position with
  | nil => rfl
  | blank blank later ih => rw [List.cons_append, shown_blank blank, ih, Position.advance_cons]
  | @comment remark gap line later ih =>
    have admits : Kind.comment.Admits ('/' :: '/' :: remark) := ⟨remark, rfl, line⟩
    have stops : Kind.comment.StopsBefore ('/' :: '/' :: remark) ('\n' :: (gap ++ rest)) := rfl
    have joined : '/' :: '/' :: remark ++ '\n' :: gap ++ rest = '/' :: '/' :: remark ++ '\n' :: (gap ++ rest) := by simp
    rw [joined, shown_comment admits stops, shown_blank isBlank_line_feed, ih, Position.advance_append]
    rfl

theorem visible_segments_layout {gap : List Char} (layout : Layout gap) (rest : List Char) :
    visible (segments (gap ++ rest)) = visible (segments rest) := by
  rw [← map_segment_shown .start, shown_layout layout, map_segment_shown]

theorem Layout.head {gap : List Char} (layout : Layout gap) : ∀ c ∈ gap.head?, isBlank c = true ∨ c = '/' := by
  intro c head
  cases layout with
  | nil => cases head
  | blank blank later =>
    cases head
    exact Or.inl blank
  | comment line later =>
    cases head
    exact Or.inr rfl

theorem Layout.blanks {run rest : List Char} (blanks : ∀ c ∈ run, isBlank c = true) (later : Layout rest) :
    Layout (run ++ rest) := by
  induction run with
  | nil => exact later
  | cons c run ih =>
    obtain ⟨blank, blanks⟩ := List.forall_mem_cons.mp blanks
    exact .blank blank (ih blanks)

theorem Layout.tail {c : Char} {rest : List Char} (layout : Layout (c :: rest)) (blank : isBlank c = true) :
    Layout rest := by
  cases layout with
  | blank _ later => exact later
  | comment line later => cases blank

theorem Cut.layout {text : List Char} {found : List Segment} (cut : Cut text found)
    (skipped : ∀ segment ∈ found, segment.isSkipped = true) : Layout (text ++ ['\n']) := by
  induction cut with
  | nil => exact .blank (by decide) .nil
  | stray nonempty nothing apart cut ih => cases skipped _ (List.mem_cons_self ..)
  | @lexeme kind image rest later found cut ih =>
    obtain ⟨here, laterSkipped⟩ := List.forall_mem_cons.mp skipped
    obtain ⟨admits, stops, _⟩ := lexeme?_append_iff.mp found
    have behind := ih laterSkipped
    rw [List.append_assoc]
    cases kind with
    | blank => exact .blanks admits.2 behind
    | comment =>
      obtain ⟨remark, rfl, line⟩ := admits
      cases rest with
      | nil => exact .comment line .nil
      | cons c rest =>
        have feed : c = '\n' := by simpa [Kind.StopsBefore] using stops
        rw [feed] at behind ⊢
        exact .comment line (behind.tail (by decide))
    | _ => cases here

theorem Kind.stopsBefore_of_head {kind : Kind} {image rest : List Char} (counts : kind.isSkipped = false)
    (head : ∀ c ∈ rest.head?, isBlank c = true ∨ c = '/') : kind.StopsBefore image rest := by
  cases rest with
  | nil => exact kind.stopsBefore_nil image
  | cons c rest =>
    have wordEnds : (c :: rest).head?.any isWordChar = false := by
      show isWordChar c = false
      rcases head c rfl with blank | slash
      · exact isWordChar_eq_false_of_isBlank blank
      · rw [slash]
        decide
    cases kind with
    | blank => cases counts
    | comment => cases counts
    | keyword word => exact wordEnds
    | string => trivial
    | number =>
      refine ⟨head_of_wider (fun _ => isDigit_isWordChar) wordEnds, ?_⟩
      intro _ digit later same
      have point : c = '.' := (List.cons.inj same).1
      rcases head c rfl with blank | slash
      · rw [point] at blank
        cases blank
      · rw [point] at slash
        cases slash
    | identifier => exact not_isIdentifierPart_of_not_isWordChar wordEnds

def Lexeme.segment (lexeme : Lexeme) : Segment := .lexeme lexeme.kind lexeme.image.toList

theorem Spells.nil_of_nil {text : List Char} (spelled : Spells [] text) : text = [] := by
  cases spelled
  rfl

theorem visible_segments_spells {lexemes : List Lexeme} {text : List Char} (spelled : Spells lexemes text) :
    visible (segments text) = lexemes.map Lexeme.segment := by
  induction spelled with
  | nil => rfl
  | @cons lexeme lexemes gap text layout apart later ih =>
    have head : ∀ c ∈ (gap ++ text).head?, isBlank c = true ∨ c = '/' := by
      by_cases empty : gap = []
      · have last := later
        rw [apart empty] at last
        rw [empty, last.nil_of_nil]
        simp
      · intro c member
        apply layout.head c
        rwa [List.head?_append_of_ne_nil gap empty] at member
    have found : lexeme? (lexeme.image.toList ++ (gap ++ text)) = some (lexeme.kind, lexeme.image.toList) := by
      refine lexeme?_append_iff.mpr ⟨lexeme.admits, Kind.stopsBefore_of_head lexeme.counts head, ?_⟩
      intro identifier word same
      exact absurd (String.toList_injective same) (lexeme.free identifier word)
    have shown : visible (.lexeme lexeme.kind lexeme.image.toList :: segments (gap ++ text)) =
        lexeme.segment :: visible (segments (gap ++ text)) := by
      simp [visible, Segment.isSkipped, lexeme.counts, Lexeme.segment]
    rw [segments_append_of_lexeme found, shown, visible_segments_layout layout, ih, List.map_cons]

def Token.plain (token : Token) : Kind × String := (token.kind, token.image)

def Lexeme.plain (lexeme : Lexeme) : Kind × String := (lexeme.kind, lexeme.image)

def Segment.plain? : Segment → Option (Kind × String)
  | .lexeme kind image => some (kind, String.ofList image)
  | .stray _ => none

theorem Placed.row_tokens_plain (position : Position) (found : List Segment) :
    ((Placed.row position found).filterMap Placed.token?).map Token.plain = (visible found).filterMap Segment.plain? := by
  induction found generalizing position with
  | nil => rfl
  | cons segment later ih =>
    have behind := ih (position.advance segment.text)
    cases segment with
    | stray text =>
      simp only [visible, Placed.row, List.filterMap_cons, Placed.token?, List.filter_cons, Segment.isSkipped,
        Bool.not_false, if_true, Segment.plain?]
      exact behind
    | lexeme kind image =>
      cases skips : kind.isSkipped with
      | true =>
        simp only [visible, Placed.row, List.filterMap_cons, Placed.token?, List.filter_cons, Segment.isSkipped, skips,
          Bool.not_true, Bool.false_eq_true, if_true, if_false]
        exact behind
      | false =>
        simp only [visible, Placed.row, List.filterMap_cons, Placed.token?, List.filter_cons, Segment.isSkipped, skips,
          Bool.not_false, Bool.false_eq_true, if_true, if_false, Segment.plain?, List.map_cons]
        exact congrArg _ behind

theorem Placed.row_strays_eq_nil {position : Position} {found : List Segment}
    (lexemes : ∀ segment ∈ visible found, segment.isStray = false) :
    (Placed.row position found).filterMap Placed.stray? = [] := by
  rw [List.filterMap_eq_nil_iff]
  intro placed member
  obtain ⟨before, after, split, _⟩ := Placed.mem_row member
  cases same : placed.segment with
  | lexeme kind image => simp [Placed.stray?, same]
  | stray text =>
    have reported : Segment.stray text ∈ visible found := by
      rw [split, same]
      simp [visible, Segment.isSkipped]
    cases lexemes _ reported

theorem scan_writes {lexemes : List Lexeme} {source : String} (written : Writes lexemes source) :
    (scan source).tokens.map Token.plain = lexemes.map Lexeme.plain ∧ (scan source).strays = [] := by
  obtain ⟨margin, text, layout, spelled, split⟩ := written
  have shown : visible (segments source.toList) = lexemes.map Lexeme.segment := by
    rw [split, visible_segments_layout layout, visible_segments_spells spelled]
  refine ⟨?_, ?_⟩
  · show ((Placed.row .start (segments source.toList)).filterMap Placed.token?).map Token.plain = _
    rw [Placed.row_tokens_plain, shown, List.filterMap_map]
    simp [Function.comp_def, Lexeme.segment, Segment.plain?, Lexeme.plain]
  · apply Placed.row_strays_eq_nil
    intro segment member
    rw [shown] at member
    obtain ⟨lexeme, _, rfl⟩ := List.mem_map.mp member
    rfl

end ClassScript
