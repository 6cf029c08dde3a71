import ClassScript.Json.Basic
import ClassScript.Json.Shortest

namespace ClassScript.Json

def hex4 (code : Nat) : List Char :=
  let digits := Nat.toDigits 16 code
  List.replicate (4 - digits.length) '0' ++ digits

def escapeChar (c : Char) : List Char :=
  match c with
  | '"' => ['\\', '"']
  | '\\' => ['\\', '\\']
  | '\x08' => ['\\', 'b']
  | '\t' => ['\\', 't']
  | '\n' => ['\\', 'n']
  | '\x0c' => ['\\', 'f']
  | '\r' => ['\\', 'r']
  | c => if c.toNat < 0x20 then '\\' :: 'u' :: hex4 c.toNat else [c]

def quote (text : String) : String := String.ofList ('"' :: text.toList.flatMap escapeChar ++ ['"'])

/-- JSON has no text for what is no finite number; `null` stands for it. -/
def floatText (x : Float) : String := if x.isFinite then Shortest.text x else "null"

mutual

def compact : Json → String
  | .null => "null"
  | .bool value => if value then "true" else "false"
  | .int value => toString value
  | .float value => floatText value
  | .str text => quote text
  | .arr items => "[" ++ ",".intercalate (compactItems items) ++ "]"
  | .obj members => "\x7b" ++ ",".intercalate (compactMembers members) ++ "\x7d"

def compactItems : List Json → List String
  | [] => []
  | item :: items => compact item :: compactItems items

def compactMembers : List (String × Json) → List String
  | [] => []
  | (name, value) :: members => (quote name ++ ":" ++ compact value) :: compactMembers members

end

/-- The entries of an array or object on lines of their own, two blanks deeper than its brackets; nothing stands
    between the brackets of an empty one. -/
def layOut (depth : Nat) (opening closing : String) (entries : List String) : String :=
  let margin (depth : Nat) := "\n" ++ String.ofList (List.replicate (2 * depth) ' ')
  if entries.isEmpty then opening ++ closing
  else opening ++ margin (depth + 1) ++ ("," ++ margin (depth + 1)).intercalate entries ++ margin depth ++ closing

mutual

def prettyAt (depth : Nat) : Json → String
  | .arr items => layOut depth "[" "]" (prettyItems (depth + 1) items)
  | .obj members => layOut depth "\x7b" "\x7d" (prettyMembers (depth + 1) members)
  | json => compact json

def prettyItems (depth : Nat) : List Json → List String
  | [] => []
  | item :: items => prettyAt depth item :: prettyItems depth items

def prettyMembers (depth : Nat) : List (String × Json) → List String
  | [] => []
  | (name, value) :: members => (quote name ++ ": " ++ prettyAt depth value) :: prettyMembers depth members

end

def pretty (json : Json) : String := prettyAt 0 json

end ClassScript.Json
