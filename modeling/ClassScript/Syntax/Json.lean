import ClassScript.Json.Basic
import ClassScript.Syntax.Failure

namespace ClassScript

namespace Position

def toJson (position : Position) : Json :=
  .obj [("column", .nat position.column), ("line", .nat position.line), ("offset", .nat position.offset)]

/-- Offsets take at most 64 bits, lines and columns at most 32. -/
def ofJson? (json : Json) : Option Position := do
  match ← json.fields? ["offset", "line", "column"] 0 with
  | [offset, line, column] => return ⟨← (← offset).nat? 64, ← (← line).nat? 32, ← (← column).nat? 32⟩
  | _ => none

end Position

namespace Kind

def toJson (kind : Kind) : Json := .str kind.name

def ofJson? (json : Json) : Option Kind := do ofName? (← json.name?)

end Kind

namespace Token

def toJson (token : Token) : Json :=
  .obj [("image", .str token.image), ("kind", token.kind.toJson), ("position", token.position.toJson)]

def ofJson? (json : Json) : Option Token := do
  match ← json.fields? ["kind", "image", "position"] 0 with
  | [kind, image, position] => return ⟨← Kind.ofJson? (← kind), ← (← image).str?, ← Position.ofJson? (← position)⟩
  | _ => none

end Token

namespace Stray

def toJson (stray : Stray) : Json := .obj [("position", stray.position.toJson), ("text", .str stray.text)]

def ofJson? (json : Json) : Option Stray := do
  match ← json.fields? ["position", "text"] 0 with
  | [position, text] => return ⟨← Position.ofJson? (← position), ← (← text).str?⟩
  | _ => none

end Stray

namespace Rule

def toJson (rule : Rule) : Json := .str rule.name

def ofJson? (json : Json) : Option Rule := do ofName? (← json.name?)

end Rule

namespace SyntaxError

def toJson (error : SyntaxError) : Json :=
  .obj [("expected", error.expected.toJson), ("found", .ofOption Token.toJson error.found?),
    ("position", error.position.toJson), ("rule", error.rule.toJson)]

def ofJson? (json : Json) : Option SyntaxError := do
  match ← json.fields? ["rule", "expected", "found", "position"] 0 with
  | [rule, expected, found, position] =>
    return { rule := ← Rule.ofJson? (← rule)
             expected := ← Kind.ofJson? (← expected)
             found? := ← Json.option? Token.ofJson? (found.getD .null)
             position := ← Position.ofJson? (← position) }
  | _ => none

end SyntaxError

end ClassScript
