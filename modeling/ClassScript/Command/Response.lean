import ClassScript.Analysis
import ClassScript.Command.Arguments
import ClassScript.Command.Folder
import ClassScript.Json.Printer
import ClassScript.Program.Json

namespace ClassScript.Command

structure Response where
  status : Nat
  stdout : String
  stderr : String
  deriving DecidableEq

def line (text : String) : String := text ++ "\n"

def lines (texts : List String) : String := String.join (texts.map line)

def statusOf (good : Bool) : Nat := if good then 0 else 1

def classText (definition : ClassDef) : String :=
  lines (s!"class {definition.name}" :: definition.fieldNames.map fun name => s!"  field {name}")

def classCount (program : Program) : String :=
  let count := program.classes.length
  s!"{count} class" ++ if count = 1 then "" else "es"

def tokenText (token : Token) : String := s!"{token.position.display}\t{token.kind.name}\t{token.image}"

def checkReport (limit : Limit) (source : String) : Json :=
  match analyze limit source with
  | .ok _ => .arr []
  | .error diagnostics => .ofList Diagnostic.toJson diagnostics

def tokensReport (scanned : Scan) : Json :=
  .obj [("errors", .ofList Stray.toJson scanned.strays), ("tokens", .ofList Token.toJson scanned.tokens)]

namespace Invocation

def unlessQuiet (invocation : Invocation) (text : String) : String := if invocation.quiet then "" else text

def runResponse (invocation : Invocation) (source : String) : Response :=
  let program := Program.ofSource invocation.limit source
  let status := statusOf program.isOk
  match invocation.format with
  | .json => ⟨status, line program.toJson.pretty, ""⟩
  | .text =>
    if program.isOk then ⟨status, String.join (program.classes.map classText), ""⟩
    else ⟨status, "", invocation.unlessQuiet (lines (program.errors.map fun message => s!"error: {message}"))⟩

def checkResponse (invocation : Invocation) (source : String) : Response :=
  let report := line (checkReport invocation.limit source).pretty
  match analyze invocation.limit source, invocation.format with
  | .ok _, .json => ⟨0, report, ""⟩
  | .ok program, .text => ⟨0, invocation.unlessQuiet (line s!"ok: {invocation.file} ({classCount program})"), ""⟩
  | .error _, .json => ⟨1, report, ""⟩
  | .error diagnostics, .text =>
    let messages := diagnostics.map fun problem => s!"{invocation.file}: {problem.message}"
    ⟨1, "", invocation.unlessQuiet (lines messages)⟩

def tokensResponse (invocation : Invocation) (source : String) : Response :=
  let scanned := scan source
  let status := statusOf scanned.strays.isEmpty
  match invocation.format with
  | .json => ⟨status, line (tokensReport scanned).pretty, ""⟩
  | .text =>
    ⟨status, lines (scanned.tokens.map tokenText),
      invocation.unlessQuiet (lines (scanned.strays.map fun stray => s!"error: {stray.message}"))⟩

def unreadableResponse (invocation : Invocation) (fault : ReadFault) : Response :=
  let message := s!"error reading file '{invocation.file}': {fault.message}"
  let text := match invocation.format with
    | .text => message
    | .json => (Json.obj [("error", .str message)]).compact
  ⟨1, "", invocation.unlessQuiet (line text)⟩

def respond (invocation : Invocation) : Source → Response
  | .error fault => invocation.unreadableResponse fault
  | .ok source =>
    match invocation.verb with
    | .run => invocation.runResponse source
    | .check => invocation.checkResponse source
    | .tokens => invocation.tokensResponse source

end Invocation

/-- Of help and misuse only the statuses and the streams are given by the program; these words are this library's own. -/
def usage : String :=
  lines ["Usage: objax [--output text|json] [--quiet] run|check|tokens [--max-errors N] FILE", "",
    "  run     print the classes that a source declares",
    "  check   report every lexical and syntax error of a source",
    "  tokens  print the tokens of a source", "",
    "A source named - is read from standard input. run and check stop after N errors."]

def Request.respond (load : String → Source) : Request → Response
  | .invoke invocation => invocation.respond (load invocation.file)
  | .version => ⟨0, line "objax 0.1.0", ""⟩
  | .help => ⟨0, usage, ""⟩
  | .misuse => ⟨2, "", usage⟩

end ClassScript.Command
