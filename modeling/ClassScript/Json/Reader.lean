import ClassScript.Json.Basic

namespace ClassScript.Json

def isBlank (c : Char) : Bool := c == ' ' || c == '\t' || c == '\n' || c == '\r'

def skipBlanks (source : List Char) : List Char := source.dropWhile isBlank

def hexValue? (c : Char) : Option Nat :=
  if c.isDigit then some (c.toNat - '0'.toNat)
  else if 'a' ≤ c ∧ c ≤ 'f' then some (c.toNat - 'a'.toNat + 10)
  else if 'A' ≤ c ∧ c ≤ 'F' then some (c.toNat - 'A'.toNat + 10)
  else none

def hexValue4? (a b c d : Char) : Option Nat := do
  return 4096 * (← hexValue? a) + 256 * (← hexValue? b) + 16 * (← hexValue? c) + (← hexValue? d)

def shortEscape? : Char → Option Char
  | '"' => some '"'
  | '\\' => some '\\'
  | '/' => some '/'
  | 'b' => some '\x08'
  | 'f' => some '\x0c'
  | 'n' => some '\n'
  | 'r' => some '\r'
  | 't' => some '\t'
  | _ => none

/-- The rest of a string behind its opening quote. `high` is the first half of a surrogate pair whose second half
    must come next; a half alone is no character. -/
def readString (high : Option Nat) : List Char → Option (List Char × List Char)
  | [] => none
  | '\\' :: 'u' :: a :: b :: c :: d :: rest => do
    let unit ← hexValue4? a b c d
    let isHigh := 0xD800 ≤ unit ∧ unit < 0xDC00
    let isLow := 0xDC00 ≤ unit ∧ unit < 0xE000
    match high with
    | some first =>
      if isLow then
        let (text, rest) ← readString none rest
        return (Char.ofNat (0x10000 + (first - 0xD800) * 0x400 + (unit - 0xDC00)) :: text, rest)
      else none
    | none =>
      if isHigh then readString (some unit) rest
      else if isLow then none
      else
        let (text, rest) ← readString none rest
        return (Char.ofNat unit :: text, rest)
  | '\\' :: mark :: rest => do
    if high.isSome then none
    let c ← shortEscape? mark
    let (text, rest) ← readString none rest
    return (c :: text, rest)
  | '"' :: rest => if high.isSome then none else some ([], rest)
  | c :: rest => do
    if high.isSome ∨ c.toNat < 0x20 then none
    let (text, rest) ← readString none rest
    return (c :: text, rest)

/-- A decimal as it is gathered from its digits: `significand · 10 ^ exponent`. The significand keeps within 64 bits;
    once a digit does not fit, `full` is set and the digits behind it count by their place alone. -/
structure Gathered where
  significand : Nat
  exponent : Int
  full : Bool

namespace Gathered

def addDigit (gathered : Gathered) (shift lost : Int) (c : Char) : Gathered :=
  let significand := Nat.ofDigitChars 10 [c] gathered.significand
  if gathered.full ∨ UInt64.size ≤ significand then { gathered with exponent := gathered.exponent + lost, full := true }
  else { gathered with significand, exponent := gathered.exponent + shift }

def addWhole (gathered : Gathered) (digits : List Char) : Gathered := digits.foldl (addDigit · 0 1) gathered

def addFraction (gathered : Gathered) (digits : List Char) : Gathered :=
  digits.foldl (addDigit · (-1) 0) { gathered with full := false }

end Gathered

def power10 (exponent : Nat) : Float := .ofScientific 1 false exponent

def scaleDown (x : Float) (exponent : Nat) : Float :=
  if exponent ≤ 308 then x / power10 exponent
  else if x == 0 then x
  else scaleDown (x / power10 308) (exponent - 308)
termination_by exponent

/-- The significand is rounded, and so is its product with the power of ten; a number too large is refused. -/
def Gathered.float? (gathered : Gathered) : Option Float :=
  let x := gathered.significand.toUInt64.toFloat
  if gathered.exponent < 0 then some (scaleDown x gathered.exponent.natAbs)
  else if 308 < gathered.exponent then if x == 0 then some x else none
  else
    let product := x * power10 gathered.exponent.natAbs
    if product.isFinite then some product else none

def readExponent? : List Char → Option (Option Int × List Char)
  | [] => some (none, [])
  | mark :: rest =>
    if mark == 'e' || mark == 'E' then
      let (negative, rest) := match rest with
        | '-' :: rest => (true, rest)
        | '+' :: rest => (false, rest)
        | rest => (false, rest)
      let digits := rest.takeWhile Char.isDigit
      let value := Nat.ofDigitChars 10 digits 0
      if digits.isEmpty then none
      else some (some (if negative then -(value : Int) else value), rest.dropWhile Char.isDigit)
    else some (none, mark :: rest)

def readFraction? : List Char → Option (Option (List Char) × List Char)
  | '.' :: rest =>
    let digits := rest.takeWhile Char.isDigit
    if digits.isEmpty then none else some (some digits, rest.dropWhile Char.isDigit)
  | rest => some (none, rest)

def readWhole? (source : List Char) : Option ((Bool × List Char) × List Char) :=
  let (negative, source) := match source with
    | '-' :: rest => (true, rest)
    | rest => (false, rest)
  let whole := source.takeWhile Char.isDigit
  if whole.isEmpty ∨ whole.head? = some '0' ∧ 1 < whole.length then none
  else some ((negative, whole), source.dropWhile Char.isDigit)

/-- Without fraction and exponent a number is an integer if it fits 64 bits; minus zero does not. -/
def readNumber (source : List Char) : Option (Json × List Char) := do
  let ((negative, whole), rest) ← readWhole? source
  let (fraction?, rest) ← readFraction? rest
  let (exponent?, rest) ← readExponent? rest
  let gathered := Gathered.addWhole ⟨0, 0, false⟩ whole
  let isInteger : Bool := fraction?.isNone ∧ exponent?.isNone ∧ ¬gathered.full ∧
    (negative → 0 < gathered.significand ∧ gathered.significand ≤ 1 <<< 63)
  if isInteger then
    return (.int (if negative then -(gathered.significand : Int) else gathered.significand), rest)
  let gathered := fraction?.elim gathered gathered.addFraction
  let x ← Gathered.float? { gathered with exponent := gathered.exponent + exponent?.getD 0 }
  return (.float (if negative then -x else x), rest)

/-- Of members with one name the last one counts. -/
def lastOfName : List (String × Json) → List (String × Json)
  | [] => []
  | (name, value) :: later =>
    if later.any fun member => member.1 == name then lastOfName later else (name, value) :: lastOfName later

section

variable (number : List Char → Option (Json × List Char))

mutual

/-- The next value of a text whose numbers `number` reads. -/
def readValue (depth : Nat) (source : List Char) : Option (Json × List Char) :=
  match depth, skipBlanks source with
  | 0, _ => none
  | _, 'n' :: 'u' :: 'l' :: 'l' :: rest => some (.null, rest)
  | _, 't' :: 'r' :: 'u' :: 'e' :: rest => some (.bool true, rest)
  | _, 'f' :: 'a' :: 'l' :: 's' :: 'e' :: rest => some (.bool false, rest)
  | _, '"' :: rest => do
    let (text, rest) ← readString none rest
    return (.str (String.ofList text), rest)
  | depth + 1, '[' :: rest =>
    match skipBlanks rest with
    | ']' :: rest => some (.arr [], rest)
    | rest => do
      let (items, rest) ← readItems depth rest
      return (.arr items, rest)
  | depth + 1, '\x7b' :: rest =>
    match skipBlanks rest with
    | '\x7d' :: rest => some (.obj [], rest)
    | rest => do
      let (members, rest) ← readMembers depth rest
      return (.obj (lastOfName members), rest)
  | _, rest => number rest

def readItems (depth : Nat) (source : List Char) : Option (List Json × List Char) := do
  match depth with
  | 0 => none
  | depth + 1 =>
    let (item, rest) ← readValue depth source
    match skipBlanks rest with
    | ']' :: rest => return ([item], rest)
    | ',' :: rest =>
      let (items, rest) ← readItems depth rest
      return (item :: items, rest)
    | _ => none

def readMembers (depth : Nat) (source : List Char) : Option (List (String × Json) × List Char) := do
  match depth, skipBlanks source with
  | depth + 1, '"' :: rest =>
    let (name, rest) ← readString none rest
    match skipBlanks rest with
    | ':' :: rest =>
      let (value, rest) ← readValue depth rest
      match skipBlanks rest with
      | '\x7d' :: rest => return ([(String.ofList name, value)], rest)
      | ',' :: rest =>
        let (members, rest) ← readMembers depth rest
        return ((String.ofList name, value) :: members, rest)
      | _ => none
    | _ => none
  | _, _ => none

end

end

/-- The value of a whole text. Every bracket and comma takes a character, so the length bounds depth and number. -/
def readBy (number : List Char → Option (Json × List Char)) (text : String) : Option Json := do
  let source := text.toList
  let (json, rest) ← readValue number (source.length + 1) source
  if (skipBlanks rest).isEmpty then return json else none

def read? (text : String) : Option Json := readBy readNumber text

end ClassScript.Json
