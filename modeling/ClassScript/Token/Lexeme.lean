import ClassScript.Text.CharClass
import ClassScript.Token.Basic

namespace ClassScript

/-- Identifiers are made of ASCII letters, digits and underscores alone. -/
def isIdentifierStart (c : Char) : Bool := c.isAlpha || c == '_'

def isIdentifierPart (c : Char) : Bool := c.isAlphanum || c == '_'

def leadComment : List Char → List Char
  | '/' :: '/' :: rest => '/' :: '/' :: rest.takeWhile (· != '\n')
  | _ => []

def leadWord (word source : List Char) : List Char :=
  if word.isPrefixOf source && !(source.drop word.length).head?.any Text.isWordChar then word else []

/-- A string literal runs to the next quote, over line ends too; without a second quote there is none. -/
def leadString : List Char → List Char
  | '"' :: rest => if rest.contains '"' then '"' :: rest.takeWhile (· != '"') ++ ['"'] else []
  | _ => []

def leadFraction : List Char → List Char
  | '.' :: rest => if rest.head?.any Char.isDigit then '.' :: rest.takeWhile Char.isDigit else []
  | _ => []

def leadNumber (source : List Char) : List Char :=
  if source.head?.any Char.isDigit then source.takeWhile Char.isDigit ++ leadFraction (source.dropWhile Char.isDigit) else []

def leadIdentifier (source : List Char) : List Char :=
  if source.head?.any isIdentifierStart then source.takeWhile isIdentifierPart else []

/-- The longest lexeme of one kind that a source starts with; empty if there is none. -/
def Kind.lead : Kind → List Char → List Char
  | .blank => List.takeWhile Text.isBlank
  | .comment => leadComment
  | .keyword word => leadWord word.spelling.toList
  | .string => leadString
  | .number => leadNumber
  | .identifier => leadIdentifier

def lexeme? (source : List Char) : Option (Kind × List Char) :=
  (Kind.all.find? fun kind => !(kind.lead source).isEmpty).map fun kind => (kind, kind.lead source)

theorem leadComment_isPrefix (source : List Char) : leadComment source <+: source := by
  unfold leadComment
  split
  · simp [List.takeWhile_prefix]
  · exact List.nil_prefix

theorem leadWord_isPrefix (word source : List Char) : leadWord word source <+: source := by
  unfold leadWord
  split
  · rename_i found
    exact List.isPrefixOf_iff_prefix.mp (by simp_all)
  · exact List.nil_prefix

theorem takeWhile_ne_append_isPrefix {c : Char} {source : List Char} (member : c ∈ source) :
    source.takeWhile (· != c) ++ [c] <+: source := by
  induction source with
  | nil => cases member
  | cons head tail ih =>
    by_cases same : head = c
    · subst same
      simp
    · have later : c ∈ tail := (List.mem_cons.mp member).resolve_left (Ne.symm same)
      simpa [same] using ih later

theorem leadString_isPrefix (source : List Char) : leadString source <+: source := by
  unfold leadString
  split
  · split
    · rename_i closed
      have inner := takeWhile_ne_append_isPrefix (List.contains_iff_mem.mp closed)
      simpa using inner
    · exact List.nil_prefix
  · exact List.nil_prefix

theorem leadFraction_isPrefix (source : List Char) : leadFraction source <+: source := by
  unfold leadFraction
  split
  · split
    · simp [List.takeWhile_prefix]
    · exact List.nil_prefix
  · exact List.nil_prefix

theorem leadNumber_isPrefix (source : List Char) : leadNumber source <+: source := by
  unfold leadNumber
  split
  · have whole : source.takeWhile Char.isDigit ++ source.dropWhile Char.isDigit = source := List.takeWhile_append_dropWhile
    have fraction := (List.prefix_append_right_inj (source.takeWhile Char.isDigit)).mpr
      (leadFraction_isPrefix (source.dropWhile Char.isDigit))
    rwa [whole] at fraction
  · exact List.nil_prefix

theorem leadIdentifier_isPrefix (source : List Char) : leadIdentifier source <+: source := by
  unfold leadIdentifier
  split
  · exact List.takeWhile_prefix _
  · exact List.nil_prefix

theorem Kind.lead_isPrefix (kind : Kind) (source : List Char) : kind.lead source <+: source := by
  cases kind with
  | blank => exact List.takeWhile_prefix _
  | comment => exact leadComment_isPrefix source
  | keyword word => exact leadWord_isPrefix _ source
  | string => exact leadString_isPrefix source
  | number => exact leadNumber_isPrefix source
  | identifier => exact leadIdentifier_isPrefix source

theorem lexeme?_eq_some {source image : List Char} {kind : Kind} (found : lexeme? source = some (kind, image)) :
    image = kind.lead source ∧ image ≠ [] := by
  obtain ⟨first, search, same⟩ := Option.map_eq_some_iff.mp found
  cases same
  have matching := List.find?_some search
  exact ⟨rfl, by simpa using matching⟩

theorem lexeme?_isPrefix {source image : List Char} {kind : Kind} (found : lexeme? source = some (kind, image)) :
    image <+: source := by
  obtain ⟨rfl, _⟩ := lexeme?_eq_some found
  exact kind.lead_isPrefix source

theorem lexeme?_eq_none_iff {source : List Char} :
    lexeme? source = none ↔ ∀ kind : Kind, kind.lead source = [] := by
  constructor
  · intro nothing kind
    have unmatched := List.find?_eq_none.mp (Option.map_eq_none_iff.mp nothing) kind kind.mem_all
    simpa using unmatched
  · intro empty
    exact Option.map_eq_none_iff.mpr (List.find?_eq_none.mpr (by simp [empty]))

end ClassScript
