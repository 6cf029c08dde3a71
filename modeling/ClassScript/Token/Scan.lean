import ClassScript.Token.Basic
import ClassScript.Token.Lexeme

namespace ClassScript

inductive Segment where
  | lexeme (kind : Kind) (image : List Char)
  | stray (text : List Char)
  deriving DecidableEq

namespace Segment

def text : Segment → List Char
  | .lexeme _ image => image
  | .stray text => text

/-- Puts a stray character before the segments behind it; a stray run that follows takes it in. -/
def absorb (c : Char) : List Segment → List Segment
  | .stray text :: later => .stray (c :: text) :: later
  | later => .stray [c] :: later

end Segment

/-- The segments of a source from which the first `taken` characters, the rest of a lexeme, are left out. -/
def segmentsAfter : Nat → List Char → List Segment
  | _, [] => []
  | taken + 1, _ :: rest => segmentsAfter taken rest
  | 0, c :: rest =>
    match lexeme? (c :: rest) with
    | some (kind, image) => .lexeme kind image :: segmentsAfter (image.length - 1) rest
    | none => Segment.absorb c (segmentsAfter 0 rest)

def segments (source : List Char) : List Segment := segmentsAfter 0 source

theorem segmentsAfter_eq_segments_drop (taken : Nat) (source : List Char) :
    segmentsAfter taken source = segments (source.drop taken) := by
  induction source generalizing taken with
  | nil => cases taken <;> rfl
  | cons c rest ih =>
    cases taken with
    | zero => rfl
    | succ taken => exact ih taken

@[simp] theorem segments_nil : segments [] = [] := rfl

theorem segments_cons_of_lexeme {c : Char} {rest : List Char} {kind : Kind} {image : List Char}
    (found : lexeme? (c :: rest) = some (kind, image)) :
    segments (c :: rest) = .lexeme kind image :: segments (rest.drop (image.length - 1)) := by
  rw [segments, segmentsAfter, found]
  exact congrArg _ (segmentsAfter_eq_segments_drop _ _)

theorem segments_cons_of_none {c : Char} {rest : List Char} (nothing : lexeme? (c :: rest) = none) :
    segments (c :: rest) = Segment.absorb c (segments rest) := by
  rw [segments, segmentsAfter, nothing]
  rfl

theorem Segment.absorb_text (c : Char) (later : List Segment) :
    (Segment.absorb c later).flatMap Segment.text = c :: later.flatMap Segment.text := by
  cases later with
  | nil => rfl
  | cons segment later => cases segment <;> rfl

theorem segments_text (source : List Char) : (segments source).flatMap Segment.text = source := by
  induction length : source.length using Nat.strongRecOn generalizing source with
  | ind n ih =>
    cases source with
    | nil => rfl
    | cons c rest =>
      simp only [List.length_cons] at length
      cases found : lexeme? (c :: rest) with
      | none =>
        rw [segments_cons_of_none found, Segment.absorb_text, ih rest.length (by omega) rest rfl]
      | some lexeme =>
        obtain ⟨kind, image⟩ := lexeme
        obtain ⟨behind, split⟩ := lexeme?_isPrefix found
        cases image with
        | nil => exact absurd rfl (lexeme?_eq_some found).2
        | cons head tail =>
          obtain ⟨rfl, same⟩ := List.cons.inj split
          have dropped : rest.drop ((head :: tail).length - 1) = behind := by simp [← same]
          have shorter : behind.length < n := by
            simp only [← same, List.append_eq, List.length_append] at length
            omega
          rw [segments_cons_of_lexeme found, dropped, List.flatMap_cons, ih behind.length shorter behind rfl]
          exact split

structure Placed where
  position : Position
  segment : Segment

namespace Placed

def row : Position → List Segment → List Placed
  | _, [] => []
  | position, segment :: later => ⟨position, segment⟩ :: row (position.advance segment.text) later

def token? (placed : Placed) : Option Token :=
  match placed.segment with
  | .lexeme kind image => if kind.isSkipped then none else some ⟨kind, String.ofList image, placed.position⟩
  | .stray _ => none

def stray? (placed : Placed) : Option Stray :=
  match placed.segment with
  | .lexeme _ _ => none
  | .stray text => some ⟨placed.position, String.ofList text⟩

end Placed

structure Scan where
  tokens : List Token
  strays : List Stray
  deriving DecidableEq

def Scan.ofPlaced (row : List Placed) : Scan := ⟨row.filterMap Placed.token?, row.filterMap Placed.stray?⟩

def scan (source : String) : Scan := .ofPlaced (Placed.row .start (segments source.toList))

end ClassScript
