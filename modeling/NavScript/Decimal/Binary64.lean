namespace NavScript.Decimal

/-!
# Binary64 numbers as exact values

A binary64 number is not a number, an infinity, or `± m · 2 ^ q` with natural `m` and integer `q`.
All decimal text is computed from this exact value in natural-number arithmetic.

* `Exact` — the three kinds of value
* `exact` — the value of a `Float`
* `digits` — the decimal digits of a natural number
-/

/-- What a binary64 number stands for: nothing, an infinity, or `± mantissa · 2 ^ exponent`. -/
inductive Exact where
  | nan
  | infinite (negative : Bool)
  | finite (negative : Bool) (mantissa : Nat) (exponent : Int)
  deriving DecidableEq, Repr

/-- The leading one of a normal number, and the weight of the exponent bits: `2 ^ 52`. -/
def leadingOne : Nat := 0x10000000000000

/-- The weight of the sign bit: `2 ^ 63`. -/
def signBit : Nat := 0x8000000000000000

/-- The value of a number given by its 64 bits: sign, eleven exponent bits, 52 fraction bits.  A
    normal number has a leading one in front of its fraction, a subnormal one has not. -/
def exactOfBits (bits : Nat) : Exact :=
  let negative := bits / signBit == 1
  let exponent : Nat := bits / leadingOne % 2048
  let fraction : Nat := bits % leadingOne
  if exponent = 2047 then
    if fraction = 0 then .infinite negative else .nan
  else if exponent = 0 then .finite negative fraction (-1074)
  else .finite negative (leadingOne + fraction) ((exponent : Int) - 1075)

/-- The value of a number. -/
def exact (x : Float) : Exact :=
  exactOfBits x.toBits.toNat

/-- The decimal digits of a natural number, most significant first; `0` for zero. -/
def digits (n : Nat) : List Char :=
  Nat.toDigits 10 n

/-- A minus sign for a negative number. -/
def sign (negative : Bool) : List Char :=
  if negative then ['-'] else []

end NavScript.Decimal
