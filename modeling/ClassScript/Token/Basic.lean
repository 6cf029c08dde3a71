import ClassScript.Text.Position

namespace ClassScript

inductive Keyword where
  | define | has | field | method | default | with | do | is | a | new | set | of | to | myself | true | false
  deriving DecidableEq

namespace Keyword

def all : List Keyword :=
  [.define, .has, .field, .method, .default, .with, .do, .is, .a, .new, .set, .of, .to, .myself, .true, .false]

def spelling : Keyword → String
  | .define => "define"
  | .has => "has"
  | .field => "field"
  | .method => "method"
  | .default => "default"
  | .with => "with"
  | .do => "do"
  | .is => "is"
  | .a => "a"
  | .new => "new"
  | .set => "set"
  | .of => "of"
  | .to => "to"
  | .myself => "myself"
  | .true => "true"
  | .false => "false"

def ofSpelling? (word : String) : Option Keyword := all.find? fun keyword => keyword.spelling == word

def name : Keyword → String
  | .define => "Define"
  | .has => "Has"
  | .field => "Field"
  | .method => "Method"
  | .default => "Default"
  | .with => "With"
  | .do => "Do"
  | .is => "Is"
  | .a => "A"
  | .new => "New"
  | .set => "Set"
  | .of => "Of"
  | .to => "To"
  | .myself => "Myself"
  | .true => "True"
  | .false => "False"

theorem mem_all (keyword : Keyword) : keyword ∈ all := by cases keyword <;> decide

theorem ofSpelling?_spelling (keyword : Keyword) : ofSpelling? keyword.spelling = some keyword := by
  cases keyword <;> decide

theorem spelling_injective {left right : Keyword} (same : left.spelling = right.spelling) : left = right :=
  Option.some.inj (by rw [← ofSpelling?_spelling left, same, ofSpelling?_spelling])

end Keyword

inductive Kind where
  | blank
  | comment
  | keyword (word : Keyword)
  | string
  | number
  | identifier
  deriving DecidableEq

namespace Kind

/-- In the order in which the scanner tries them: the first kind with a lexeme at a place wins there. -/
def all : List Kind :=
  [.blank, .comment] ++ Keyword.all.map Kind.keyword ++ [.string, .number, .identifier]

def name : Kind → String
  | .blank => "WhiteSpace"
  | .comment => "Comment"
  | .keyword word => word.name
  | .string => "StringLiteral"
  | .number => "NumberLiteral"
  | .identifier => "Identifier"

def ofName? (name : String) : Option Kind := all.find? fun kind => kind.name == name

def spelling? : Kind → Option String
  | .keyword word => some word.spelling
  | _ => none

def isKeyword (kind : Kind) : Bool := kind.spelling?.isSome

def isSkipped : Kind → Bool
  | .blank | .comment => true
  | _ => false

def display (kind : Kind) : String :=
  match kind.spelling? with
  | some word => s!"'{word}'"
  | none => kind.name

theorem mem_all (kind : Kind) : kind ∈ all := by
  cases kind with
  | keyword word => cases word <;> decide
  | _ => decide

theorem ofName?_name (kind : Kind) : ofName? kind.name = some kind := by
  cases kind with
  | keyword word => cases word <;> decide
  | _ => decide

end Kind

structure Token where
  kind : Kind
  image : String
  position : Position
  deriving DecidableEq

def Token.stop (token : Token) : Position := token.position.advance token.image.toList

/-- A run of characters at which no lexeme starts. -/
structure Stray where
  position : Position
  text : String
  deriving DecidableEq

end ClassScript
