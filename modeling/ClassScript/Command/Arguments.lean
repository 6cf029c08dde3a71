import ClassScript.Syntax.Parse

namespace ClassScript.Command

inductive OutputFormat where
  | text | json
  deriving DecidableEq

def OutputFormat.ofName? : String → Option OutputFormat
  | "text" => some .text
  | "json" => some .json
  | _ => none

inductive Verb where
  | run | check | tokens
  deriving DecidableEq

def Verb.ofName? : String → Option Verb
  | "run" => some .run
  | "check" => some .check
  | "tokens" => some .tokens
  | _ => none

structure Invocation where
  verb : Verb
  file : String
  limit : Limit
  format : OutputFormat
  quiet : Bool
  deriving DecidableEq

inductive Request where
  | invoke (invocation : Invocation)
  | version
  | help
  | misuse
  deriving DecidableEq

/-- A part of the command line: `--name=value` or `--name value`, `--name`, `-x`, `--`, or a word. An option that lacks
    its value is unfit. -/
inductive Item where
  | setting (name value : String)
  | flag (name : String)
  | letter (c : Char)
  | separator
  | word (text : String)
  | unfit
  deriving DecidableEq

namespace Item

def ofArgument (argument : String) : Item :=
  match argument.toList with
  | ['-', '-'] => .separator
  | '-' :: '-' :: body =>
    let name := String.ofList (body.takeWhile (· != '='))
    match body.dropWhile (· != '=') with
    | _ :: value => .setting name (String.ofList value)
    | [] => .flag name
  | '-' :: c :: _ => .letter c
  | _ => .word argument

def takesValue (name : String) : Bool := name == "output" || name == "max-errors"

def isValue (argument : String) : Bool :=
  match ofArgument argument with
  | .word _ => true
  | _ => false

def ofArguments : List String → List Item
  | [] => []
  | argument :: rest =>
    match ofArgument argument with
    | .separator => .separator :: rest.map .word
    | .flag name =>
      if takesValue name then
        match rest with
        | value :: rest => if isValue value then .setting name value :: ofArguments rest else [.unfit]
        | [] => [.unfit]
      else .flag name :: ofArguments rest
    | item => item :: ofArguments rest

end Item

structure Options where
  format? : Option OutputFormat
  quiet : Bool

namespace Options

def empty : Options := ⟨none, false⟩

def add? (options : Options) : Item → Option Options
  | .setting "output" value =>
    if options.format?.isSome then none
    else (OutputFormat.ofName? value).map fun format => { options with format? := some format }
  | .flag "quiet" => if options.quiet then none else some { options with quiet := true }
  | _ => none

end Options

/-- A number of problems: decimal digits, perhaps behind a plus, within 64 bits. -/
def limitOfText? (text : String) : Option Nat :=
  let digits : List Char := match text.toList with
    | '+' :: digits => digits
    | digits => digits
  let value := Nat.ofDigitChars 10 digits 0
  if digits.isEmpty ∨ ¬digits.all Char.isDigit ∨ UInt64.size ≤ value then none else some value

structure Target where
  options : Options
  limit : Limit
  file? : Option String

namespace Target

def empty : Target := ⟨.empty, none, none⟩

def add? (verb : Verb) (target : Target) : Item → Option Target
  | .word text =>
    if text.isEmpty ∨ target.file?.isSome then none else some { target with file? := some text }
  | .setting "max-errors" value =>
    if verb = .tokens ∨ target.limit.isSome then none
    else (limitOfText? value).map fun most => { target with limit := some most }
  | .separator => some target
  | item => (target.options.add? item).map fun options => { target with options }

end Target

/-- The part of the command line behind the verb. Its output format wins over an earlier one. -/
def readTarget (verb : Verb) (options : Options) (target : Target) : List Item → Request
  | [] =>
    match target.file? with
    | some file =>
      let format := (target.options.format?.or options.format?).getD .text
      .invoke ⟨verb, file, target.limit, format, options.quiet || target.options.quiet⟩
    | none => .misuse
  | .flag "help" :: _ => .help
  | .letter 'h' :: _ => .help
  | item :: items =>
    match target.add? verb item with
    | some target => readTarget verb options target items
    | none => .misuse

def readHelp : List Item → Request
  | [] => .help
  | [.word topic] => if (Verb.ofName? topic).isSome ∨ topic = "help" then .help else .misuse
  | _ => .misuse

def readItems (options : Options) : List Item → Request
  | [] => .misuse
  | .flag "help" :: _ => .help
  | .letter 'h' :: _ => .help
  | .flag "version" :: _ => .version
  | .letter 'V' :: _ => .version
  | .word "help" :: items => readHelp items
  | .word text :: items =>
    match Verb.ofName? text with
    | some verb => readTarget verb options .empty items
    | none => .misuse
  | item :: items =>
    match options.add? item with
    | some options => readItems options items
    | none => .misuse

def Request.ofArguments (arguments : List String) : Request := readItems .empty (Item.ofArguments arguments)

end ClassScript.Command
