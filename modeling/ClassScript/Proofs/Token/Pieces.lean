import ClassScript.Proofs.Token.Line
import Mathlib.Algebra.GroupWithZero.Nat
import Mathlib.Data.List.Infix

namespace ClassScript

/-- No string literal is open at the end: no quote is stray. -/
def Closed (text : String) : Prop := ∀ stray ∈ (scan text).strays, '"' ∉ stray.text.toList

instance (text : String) : Decidable (Closed text) := inferInstanceAs (Decidable (∀ _ ∈ _, _))

def Position.under (above : List String) (position : Position) : Position where
  offset := position.offset + (above.map fun text => text.utf8ByteSize + 1).sum
  line := position.line + (above.map fun text => text.toList.count '\n' + 1).sum
  column := position.column

def Token.under (above : List String) (token : Token) : Token := { token with position := token.position.under above }

def Stray.under (above : List String) (stray : Stray) : Stray := { stray with position := stray.position.under above }

theorem Position.under_cons (text : String) (above : List String) (position : Position) :
    position.under (text :: above) = (position.under above).below text := by
  simp only [under, below, List.map_cons, List.sum_cons, Position.mk.injEq, and_true]
  omega

theorem Token.under_nil : Token.under [] = id := rfl

theorem Stray.under_nil : Stray.under [] = id := rfl

theorem Token.under_cons (text : String) (above : List String) :
    Token.under (text :: above) = Token.below text ∘ Token.under above := by
  funext token
  simp [Token.under, Token.below, Position.under_cons]

theorem Stray.under_cons (text : String) (above : List String) :
    Stray.under (text :: above) = Stray.below text ∘ Stray.under above := by
  funext stray
  simp [Stray.under, Stray.below, Position.under_cons]

theorem zip_inits_cons (text : String) (texts : List String) :
    (text :: texts).zip (text :: texts).inits =
      (text, []) :: (texts.zip texts.inits).map fun piece => (piece.1, text :: piece.2) := by
  rw [List.inits_cons, List.zip_cons_cons, List.zip_map_right]
  rfl

theorem scan_intercalate {pieces : List String} (closed : ∀ piece ∈ pieces.dropLast, Closed piece) :
    scan ("\n".intercalate pieces) =
      { tokens := (pieces.zip pieces.inits).flatMap fun piece => (scan piece.1).tokens.map (Token.under piece.2)
        strays := (pieces.zip pieces.inits).flatMap fun piece => (scan piece.1).strays.map (Stray.under piece.2) } := by
  induction pieces with
  | nil => rfl
  | cons first more ih =>
    by_cases last : more = []
    · simp [last, Token.under_nil, Stray.under_nil]
    · -- The text is cut at its first line feed; where the others stand does not count, once they are moved down.
      rw [List.dropLast_cons_of_ne_nil last] at closed
      obtain ⟨here, behind⟩ := List.forall_mem_cons.mp closed
      rw [String.intercalate_cons_of_ne_nil last, scan_append_line here, ih behind, zip_inits_cons]
      simp only [List.flatMap_cons, List.flatMap_map, List.map_flatMap, List.map_map, Token.under_nil, Stray.under_nil,
        Token.under_cons, Stray.under_cons, List.map_id]

/-- A line feed where no string literal is open cuts a scan in two, and many of them cut it in many: what is found behind
    keeps its kind, its text and its column. -/
theorem scan_piecewise :
    (∀ first second : String, Closed first → scan (first ++ "\n" ++ second) =
      { tokens := (scan first).tokens ++ (scan second).tokens.map (Token.below first)
        strays := (scan first).strays ++ (scan second).strays.map (Stray.below first) }) ∧
    ∀ pieces : List String, (∀ piece ∈ pieces.dropLast, Closed piece) → scan ("\n".intercalate pieces) =
      { tokens := (pieces.zip pieces.inits).flatMap fun piece => (scan piece.1).tokens.map (Token.under piece.2)
        strays := (pieces.zip pieces.inits).flatMap fun piece => (scan piece.1).strays.map (Stray.under piece.2) } :=
  ⟨fun _ second closed => scan_append_line closed second, fun _ closed => scan_intercalate closed⟩

theorem scan_piecewise_point :
    (Closed "define 7." ∧ scan ("define 7." ++ "\n" ++ "5\"") =
      ⟨[⟨.keyword .define, "define", ⟨0, 1, 1⟩⟩, ⟨.number, "7", ⟨7, 1, 8⟩⟩, ⟨.number, "5", ⟨10, 2, 1⟩⟩],
        [⟨⟨8, 1, 9⟩, "."⟩, ⟨⟨11, 2, 2⟩, "\""⟩]⟩) ∧
    (∀ piece ∈ ["define 7.", "//\"é", "5\""].dropLast, Closed piece) ∧
    scan ("\n".intercalate ["define 7.", "//\"é", "5\""]) =
      ⟨[⟨.keyword .define, "define", ⟨0, 1, 1⟩⟩, ⟨.number, "7", ⟨7, 1, 8⟩⟩, ⟨.number, "5", ⟨16, 3, 1⟩⟩],
        [⟨⟨8, 1, 9⟩, "."⟩, ⟨⟨17, 3, 2⟩, "\""⟩]⟩ := by
  have first : Closed "define 7." := by decide +kernel
  have pieces : ∀ piece ∈ ["define 7.", "//\"é", "5\""].dropLast, Closed piece := by decide +kernel
  obtain ⟨two, many⟩ := scan_piecewise
  exact ⟨⟨first, (two _ _ first).trans (by decide +kernel)⟩, pieces, (many _ pieces).trans (by decide +kernel)⟩

end ClassScript
