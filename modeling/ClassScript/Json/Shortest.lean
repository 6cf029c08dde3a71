namespace ClassScript.Shortest

structure Binary where
  significand : Nat
  exponent : Int
  /-- Whether the number below is only half as far away as the number above. -/
  closeBelow : Bool

structure Decimal where
  digits : Nat
  exponent : Int
  deriving DecidableEq

def Binary.ofBits (bits : Nat) : Binary :=
  let fraction : Nat := bits % 1 <<< 52
  let biased : Nat := bits >>> 52 % 1 <<< 11
  if biased = 0 then ⟨fraction, -1074, false⟩
  else ⟨1 <<< 52 + fraction, (biased : Int) - 1075, fraction = 0 ∧ biased ≠ 1⟩

/-- The number and the ends of the interval that rounds to it, as multiples of `1 / unit`. -/
structure Interval where
  low : Nat
  value : Nat
  high : Nat
  unit : Nat
  closed : Bool

/-- The ends are half way to the neighbours; they round to the number itself if its significand is even. -/
def Binary.interval (binary : Binary) : Interval :=
  let grow := 1 <<< (binary.exponent - 2).toNat
  { low := (4 * binary.significand - if binary.closeBelow then 1 else 2) * grow
    value := 4 * binary.significand * grow
    high := (4 * binary.significand + 2) * grow
    unit := 1 <<< (2 - binary.exponent).toNat
    closed := binary.significand % 2 = 0 }

def digitCount (n : Nat) : Nat := (Nat.toDigits 10 n).length

/-- The number of digits before the point; for a number below one, what is missing to the first digit counts
    negatively. -/
def Interval.magnitude (interval : Interval) : Int :=
  if interval.unit ≤ interval.value then digitCount (interval.value / interval.unit)
  else 1 - (digitCount ((interval.unit - 1) / interval.value) : Int)

/-- The decimal with `count` digits that lies in the interval, the nearer one if there are two, and of two equally
    near ones the even one. -/
def Interval.withDigits? (interval : Interval) (count : Nat) : Option Decimal :=
  let exponent := interval.magnitude - count
  let grow := Nat.pow 10 (-exponent).toNat
  let step := interval.unit * Nat.pow 10 exponent.toNat
  let inside (digits : Nat) : Bool :=
    if interval.closed then interval.low * grow ≤ digits * step ∧ digits * step ≤ interval.high * grow
    else interval.low * grow < digits * step ∧ digits * step < interval.high * grow
  let below := interval.value * grow / step
  let excess := 2 * (interval.value * grow - below * step)
  match inside below, inside (below + 1) with
  | true, true =>
    if excess < step ∨ excess = step ∧ below % 2 = 0 then some ⟨below, exponent⟩ else some ⟨below + 1, exponent⟩
  | true, false => some ⟨below, exponent⟩
  | false, true => some ⟨below + 1, exponent⟩
  | false, false => none

def Decimal.trim (decimal : Decimal) : Decimal :=
  let zeros := ((Nat.toDigits 10 decimal.digits).reverse.takeWhile (· == '0')).length
  ⟨decimal.digits / Nat.pow 10 zeros, decimal.exponent + zeros⟩

/-- Seventeen digits are always enough. -/
def Binary.shortest (binary : Binary) : Decimal :=
  (((List.range 17).findSome? fun count => binary.interval.withDigits? (count + 1)).getD ⟨0, 0⟩).trim

/-- Digits around a point, from `1e-5` up to `1e16`; beyond that with an exponent, whose sign is always written. -/
def Decimal.text (decimal : Decimal) : String :=
  let digits := Nat.toDigits 10 decimal.digits
  let point := digits.length + decimal.exponent
  let zeros (count : Int) := List.replicate count.toNat '0'
  if 16 < point ∨ point < -4 then
    let sign := if 0 < point then "+" else "-"
    let fraction := if digits.length = 1 then [] else '.' :: digits.drop 1
    String.ofList (digits.take 1 ++ fraction) ++ "e" ++ sign ++ toString (point - 1).natAbs
  else if point ≤ 0 then String.ofList (['0', '.'] ++ zeros (-point) ++ digits)
  else if digits.length ≤ point then String.ofList (digits ++ zeros decimal.exponent ++ ['.', '0'])
  else String.ofList (digits.take point.toNat ++ '.' :: digits.drop point.toNat)

def text (x : Float) : String :=
  let bits := x.toBits.toNat
  let sign := if bits < 1 <<< 63 then "" else "-"
  let binary := Binary.ofBits bits
  sign ++ if binary.significand = 0 then "0.0" else binary.shortest.text

end ClassScript.Shortest
