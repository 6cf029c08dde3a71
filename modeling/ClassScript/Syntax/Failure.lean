import ClassScript.Token.Basic

namespace ClassScript

inductive Rule where
  | program | statement | classDefinition | classBody | fieldDeclaration | defaultValue | literal
  deriving DecidableEq

namespace Rule

def all : List Rule :=
  [.program, .statement, .classDefinition, .classBody, .fieldDeclaration, .defaultValue, .literal]

def name : Rule → String
  | .program => "program"
  | .statement => "statement"
  | .classDefinition => "classDefinition"
  | .classBody => "classBody"
  | .fieldDeclaration => "fieldDeclaration"
  | .defaultValue => "defaultValue"
  | .literal => "literal"

def ofName? (name : String) : Option Rule := all.find? fun rule => rule.name == name

theorem ofName?_name (rule : Rule) : ofName? rule.name = some rule := by cases rule <;> decide

end Rule

/-- Why reading stopped: the rule at work, the kind of token that it needs next, and the tokens still unread. -/
structure Failure where
  rule : Rule
  expected : Kind
  rest : List Token
  deriving DecidableEq

/-- A failure as it is reported: the token that stands in the way, if any, and its place, else the end of the input. -/
structure SyntaxError where
  rule : Rule
  expected : Kind
  found? : Option Token
  position : Position
  deriving DecidableEq

def endPosition (tokens : List Token) : Position := tokens.getLast?.elim .start Token.stop

def Failure.report (stop : Position) (failure : Failure) : SyntaxError where
  rule := failure.rule
  expected := failure.expected
  found? := failure.rest.head?
  position := failure.rest.head?.elim stop Token.position

namespace SyntaxError

def describeFound : Option Token → String
  | none => "end of input"
  | some token => if token.kind.isKeyword then token.kind.display else s!"{token.kind.display} '{token.image}'"

def message (error : SyntaxError) : String :=
  s!"syntax error in {error.rule.name} at {error.position.display}: expected {error.expected.display}, " ++
    s!"found {describeFound error.found?}"

end SyntaxError

def Stray.message (stray : Stray) : String :=
  s!"unrecognized input '{stray.text}' at {stray.position.display}"

end ClassScript
