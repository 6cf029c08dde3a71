namespace ClassScript

/-- A JSON value. A number without fraction and exponent is an integer, any other one a float; objects list their
    members in the order of their text. -/
inductive Json where
  | null
  | bool (value : Bool)
  | int (value : Int)
  | float (value : Float)
  | str (text : String)
  | arr (items : List Json)
  | obj (members : List (String × Json))

namespace Json

def nat (value : Nat) : Json := .int value

def ofOption {α : Type} (encode : α → Json) (value? : Option α) : Json := value?.elim .null encode

def ofList {α : Type} (encode : α → Json) (values : List α) : Json := .arr (values.map encode)

def str? : Json → Option String
  | .str text => some text
  | _ => none

def nat? (bits : Nat) : Json → Option Nat
  | .int value => if 0 ≤ value ∧ value.toNat < 1 <<< bits then some value.toNat else none
  | _ => none

def list? {α : Type} (decode : Json → Option α) : Json → Option (List α)
  | .arr items => items.mapM decode
  | _ => none

def option? {α : Type} (decode : Json → Option α) : Json → Option (Option α)
  | .null => some none
  | json => (decode json).map some

/-- A name of an enumeration: alone, or as the only member of an object, with `null` as its value. -/
def name? : Json → Option String
  | .str text => some text
  | .obj [(name, .null)] => some name
  | _ => none

/-- The fields of a record by their names: an object, which may hold more than them and lack some, or an array with
    the fields in order, of which at most the last `spare` may be left out. What is left out reads as `null`. -/
def fields? (names : List String) (spare : Nat) : Json → Option (List (Option Json))
  | .obj members => some (names.map fun name => members.lookup name)
  | .arr items =>
    if items.length ≤ names.length ∧ names.length ≤ items.length + spare then
      some (items.map some ++ List.replicate (names.length - items.length) none)
    else none
  | _ => none

end Json

end ClassScript
