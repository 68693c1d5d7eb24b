import NavScript.Decimal.Numeral

namespace NavScript.Json

/-!
# Numbers of a JSON text

A number without a point or an exponent is an integer as long as it fits 64 bits; every other one is
real.  A real number is computed from a significand of 64 bits and a power of ten, each rounded on
its own, so it may differ in its last place from the number nearest to its text.

* `Number` — integers and reals
* `number?` — a number at the front of a text
-/

open Decimal (digitValue)

/-- A number: a natural number below `2 ^ 64`, a negative integer of at least `-2 ^ 63` given by its
    absolute value, or a real number. -/
inductive Number where
  | natural (n : Nat)
  | negative (n : Nat)
  | real (x : Float)

/-- A number as a binary64 number. -/
def Number.toFloat : Number → Float
  | natural n => Float.ofNat n
  | negative n => -Float.ofNat n
  | real x => x

/-! ### Significands -/

/-- A significand, how many digits it took, and the digits that no longer fit 64 bits. -/
structure Significand where
  value : Nat
  taken : Nat
  left : List Char

/-- A significand continued by digits, as long as it fits 64 bits. -/
def Significand.extend (value taken : Nat) : List Char → Significand
  | [] => ⟨value, taken, []⟩
  | d :: ds =>
    let next := 10 * value + digitValue d
    if next < 0x10000000000000000 then extend next (taken + 1) ds else ⟨value, taken, d :: ds⟩

/-! ### Powers of ten -/

/-- The greatest power of ten below all infinities. -/
def greatestPower : Nat := 308

/-- The binary64 number nearest to a power of ten. -/
def powerOfTen (e : Nat) : Float :=
  Float.ofScientific 1 false e

/-- A number divided by `10 ^ e`, by the greatest power at a time. -/
def dividedBy (x : Float) (e : Nat) : Float :=
  if e ≤ greatestPower then x / powerOfTen e
  else if x == 0.0 then x
  else dividedBy (x / powerOfTen greatestPower) (e - greatestPower)
termination_by e
decreasing_by simp [greatestPower] at *; omega

/-- `significand · 10 ^ e`, unless it is infinite. -/
def scaled? (significand : Nat) (e : Int) : Option Float :=
  let x := Float.ofNat significand
  match e with
  | .negSucc k => some (dividedBy x (k + 1))
  | .ofNat k =>
    if k ≤ greatestPower then
      let y := x * powerOfTen k
      if y.isInf then none else some y
    else if x == 0.0 then some x
    else none

/-! ### Texts -/

/-- The greatest exponent that is computed with. -/
def exponentLimit : Nat := 0x7fffffff

/-- An exponent's digits, `none` beyond the limit. -/
def exponentOf? (ds : List Char) : Option Nat :=
  ds.foldl (fun e d => e.bind fun e =>
    let next := 10 * e + digitValue d
    if next ≤ exponentLimit then some next else none) (some 0)

/-- A real number, given its significand, the power of ten so far, and the digits and sign of its
    exponent. -/
def withExponent? (significand : Nat) (power : Int) (negative : Bool) (ds : List Char) :
    Option Float :=
  match exponentOf? ds with
  | some e => scaled? significand (if negative then power - e else power + e)
  | none => if significand ≠ 0 && !negative then none else some 0.0

/-- The exponent part at the front of a text: its sign and digits, if it is there. -/
def exponentPart? (cs : List Char) : Option (Option (Bool × List Char) × List Char) :=
  match cs with
  | c :: rest =>
    if c == 'e' || c == 'E' then
      let (negative, rest) := Decimal.splitSign rest
      let ds := rest.takeWhile Char.isDigit
      if ds.isEmpty then none else some (some (negative, ds), rest.dropWhile Char.isDigit)
    else some (none, cs)
  | [] => some (none, cs)

/-- The integer part at the front of a text: a zero, or digits that do not begin with one. -/
def integerPart? (cs : List Char) : Option (List Char × List Char) :=
  let ds := cs.takeWhile Char.isDigit
  match ds with
  | [] => none
  | '0' :: _ :: _ => none
  | ds => some (ds, cs.dropWhile Char.isDigit)

/-- The fraction at the front of a text: a point and at least one digit, if the point is there. -/
def fractionPart? (cs : List Char) : Option (Option (List Char) × List Char) :=
  match cs with
  | '.' :: rest =>
    let ds := rest.takeWhile Char.isDigit
    if ds.isEmpty then none else some (some ds, rest.dropWhile Char.isDigit)
  | cs => some (none, cs)

/-- A number without fraction and exponent. -/
def integer (negative : Bool) (n : Nat) : Number :=
  if !negative then .natural n
  else if 1 ≤ n && n ≤ 0x8000000000000000 then .negative n
  else .real (-Float.ofNat n)

/-- A number at the front of a text, and the rest after it. -/
def number? (cs : List Char) : Option (Number × List Char) := do
  let (negative, cs) := match cs with
    | '-' :: rest => (true, rest)
    | cs => (false, cs)
  let (whole, cs) ← integerPart? cs
  let s := Significand.extend 0 0 whole
  let (fraction, cs) ← fractionPart? cs
  let (exponent, rest) ← exponentPart? cs
  if fraction.isNone && exponent.isNone && s.left.isEmpty then
    return (integer negative s.value, rest)
  -- digits of the fraction that no longer fit count for nothing, those of the integer as zeros
  let f := Significand.extend s.value 0 (fraction.getD [])
  let power : Int := s.left.length - f.taken
  let x ← match exponent with
    | some (below, ds) => withExponent? f.value power below ds
    | none => scaled? f.value power
  return (.real (if negative then -x else x), rest)

end NavScript.Json
