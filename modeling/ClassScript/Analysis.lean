import ClassScript.Program.Basic
import ClassScript.Syntax.Json
import ClassScript.Syntax.Parse
import ClassScript.Token.Scan

namespace ClassScript

inductive Diagnostic where
  | lexical (stray : Stray)
  | grammatical (error : SyntaxError)
  | internal (text : String)
  deriving DecidableEq

namespace Diagnostic

def stage : Diagnostic → String
  | .lexical _ => "lex"
  | .grammatical _ => "parse"
  | .internal _ => "internal"

def position? : Diagnostic → Option Position
  | .lexical stray => some stray.position
  | .grammatical error => some error.position
  | .internal _ => none

def message : Diagnostic → String
  | .lexical stray => stray.message
  | .grammatical error => error.message
  | .internal text => s!"internal error: {text}"

def toJson (diagnostic : Diagnostic) : Json :=
  let place (coordinate : Position → Nat) : Json := .ofOption .nat (diagnostic.position?.map coordinate)
  .obj [("column", place Position.column), ("line", place Position.line), ("message", .str diagnostic.message),
    ("offset", place Position.offset), ("stage", .str diagnostic.stage)]

end Diagnostic

/-- The program that a source declares, or what it is refused for. The grammar is looked at only where every
    character belongs to a lexeme. -/
def analyze (limit : Limit) (source : String) : Except (List Diagnostic) Program :=
  let scanned := scan source
  if scanned.strays.isEmpty then
    let parsed := parse limit scanned.tokens
    if parsed.errors.isEmpty then .ok (.ofDecls parsed.classes) else .error (parsed.errors.map .grammatical)
  else .error ((limit.cut scanned.strays).map .lexical)

def Program.ofSource (limit : Limit) (source : String) : Program :=
  match analyze limit source with
  | .ok program => program
  | .error diagnostics => .failed (diagnostics.map Diagnostic.message)

end ClassScript
