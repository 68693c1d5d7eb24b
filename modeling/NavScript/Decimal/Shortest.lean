import NavScript.Decimal.Binary64

namespace NavScript.Decimal

/-!
# The shortest decimal text of a number

The text of a number has the fewest significant digits that read back as the same number, and of
those the nearest.  It is always positional: no exponent, and no point when the number is whole.

* `Interval` — a positive number together with the values that round to it
* `grid?` — the nearest multiple of a power of ten inside the interval
* `shortest` — the text of a number
-/

/-- A positive number in quarters of the unit of its last place: the number, the least and the
    greatest value that round to it, all times `2 ^ exponent`, and whether those two round to it
    themselves. -/
structure Interval where
  low : Nat
  value : Nat
  high : Nat
  exponent : Int
  closed : Bool

/-- The values that round to `m · 2 ^ q`: half a unit to each side, except that the unit below a
    power of two is half as large.  The ends belong to it when `m` is even. -/
def Interval.around (m : Nat) (q : Int) : Interval :=
  let below := if m = leadingOne ∧ q ≠ -1074 then 1 else 2
  ⟨4 * m - below, 4 * m, 4 * m + 2, q - 2, m % 2 = 0⟩

/-- `n` times `base ^ e`, for a negative `e` left to the other side of a comparison. -/
def shifted (n base : Nat) (e : Int) : Nat :=
  n * base.pow e.toNat

/-- The multiple of `10 ^ k` nearest to the number, among its two neighbours, that lies in the
    interval, and the greater one where both are as near; the result is the factor. -/
def Interval.grid? (i : Interval) (k : Int) : Option Nat :=
  -- both sides times the same powers of two and ten, so that all of them are natural
  let unit := shifted (shifted 1 10 k) 2 (-i.exponent)
  let scale (n : Nat) := shifted (shifted n 2 i.exponent) 10 (-k)
  let value := scale i.value
  let inside (c : Nat) : Bool :=
    let p := c * unit
    if i.closed then scale i.low ≤ p && p ≤ scale i.high else scale i.low < p && p < scale i.high
  let c := value / unit
  match inside c, inside (c + 1) with
  | true, true => if 2 * (value % unit) < unit then some c else some (c + 1)
  | true, false => some c
  | false, true => some (c + 1)
  | false, false => none

/-- The first hit on the grids of `10 ^ k`, `10 ^ (k - 1)`, …: the coarsest grid with a point in the
    interval. -/
def Interval.coarsest (i : Interval) : (steps : Nat) → (k : Int) → Nat × Int
  | 0, k => (0, k)
  | steps + 1, k =>
    match i.grid? k with
    | some c => (c, k)
    | none => i.coarsest steps (k - 1)

/-- A power of ten above every number below `2 ^ n`, and at most two above the least one. -/
def decimalBound (n : Int) : Int :=
  n * 30103 / 100000 + 2

/-- The factor and the power of ten of the shortest decimal for `m · 2 ^ q`.  Seventeen significant
    digits always suffice, and the bound is at most three places too high. -/
def shortestParts (m : Nat) (q : Int) : Nat × Int :=
  (Interval.around m q).coarsest 21 (decimalBound (m.log2 + 1 + q))

/-- The positional digits of `c · 10 ^ k`. -/
def positional (c : Nat) (k : Int) : List Char :=
  let ds := digits c
  if 0 ≤ k then ds ++ List.replicate k.toNat '0'
  else
    -- at least one digit stands before the point
    let places := (-k).toNat
    let ds := List.replicate (places + 1 - ds.length) '0' ++ ds
    ds.take (ds.length - places) ++ '.' :: ds.drop (ds.length - places)

/-- The shortest positional text that reads back as the number. -/
def shortestChars (x : Float) : List Char :=
  match exact x with
  | .nan => ['N', 'a', 'N']
  | .infinite negative => sign negative ++ ['i', 'n', 'f']
  | .finite negative m q =>
    sign negative ++
      if m = 0 then ['0'] else
        let (c, k) := shortestParts m q
        positional c k

/-- The shortest positional text that reads back as the number, as a string. -/
def shortest (x : Float) : String :=
  String.ofList (shortestChars x)

end NavScript.Decimal
