import NavScript.Decimal.Binary64

namespace NavScript.Decimal

/-!
# Numbers with a fixed count of decimal places

Every number in a compiled script is written with the same count of places.  The exact value is
rounded to that grid, a tie to the even neighbour, and keeps its sign even when it rounds to zero.

* `roundDiv` — a quotient rounded to the nearest natural number
* `fixed` — a number with `places` digits after the point
-/

/-- The quotient `n / d` rounded to nearest, a tie to the even neighbour. -/
def roundDiv (n d : Nat) : Nat :=
  let q := n / d
  let r := n % d
  if d < 2 * r || (2 * r == d && q % 2 == 1) then q + 1 else q

/-- The count of places after which every binary64 number has only zeros: all are multiples of
    `2 ^ -1074`. -/
def exactPlaces : Nat := 1074

/-- The greatest count of places that a number can be asked to be written with. -/
def placesLimit : Nat := 65535

/-- The digits of `n / 10 ^ places`: at least one before the point, and no point without a place. -/
def pointed (places n : Nat) : List Char :=
  let ds := digits n
  -- at least one digit stands before the point
  let ds := List.replicate (places + 1 - ds.length) '0' ++ ds
  let whole := ds.take (ds.length - places)
  if places = 0 then whole else whole ++ '.' :: ds.drop (ds.length - places)

/-- The multiple of `10 ^ -places` nearest to `m · 2 ^ q`. -/
def scaled (places m : Nat) (q : Int) : Nat :=
  match q with
  | .ofNat k => m * Nat.pow 2 k * Nat.pow 10 places
  | .negSucc k => roundDiv (m * Nat.pow 10 places) (Nat.pow 2 (k + 1))

/-- A number with `places` digits after the point.  The digits past the last one that can differ
    from zero are appended, not computed. -/
def fixedChars (places : Nat) (x : Float) : List Char :=
  match exact x with
  | .nan => ['N', 'a', 'N']
  | .infinite negative => sign negative ++ ['i', 'n', 'f']
  | .finite negative m q =>
    let shown := min places exactPlaces
    sign negative ++ pointed shown (scaled shown m q) ++ List.replicate (places - shown) '0'

/-- A number with `places` digits after the point, as a string. -/
def fixed (places : Nat) (x : Float) : String :=
  String.ofList (fixedChars places x)

end NavScript.Decimal
