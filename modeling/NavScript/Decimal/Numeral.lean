import NavScript.Decimal.Binary64

namespace NavScript.Decimal

/-!
# Reading numerals

A numeral is an optional sign followed by decimal digits with an optional point and an optional
exponent, or by the name of an infinity or of no number.  Its value is the nearest binary64 number,
a tie going to the even neighbour.

* `Numeral` — the parts of a numeral with digits
* `Numeral.value` — the number nearest to it
* `read?` — a whole text read as a numeral
-/

/-- The value of a decimal digit. -/
def digitValue (c : Char) : Nat :=
  c.toNat - '0'.toNat

/-- Digits read as a natural number. -/
def natOfDigits (ds : List Char) : Nat :=
  ds.foldl (fun n c => 10 * n + digitValue c) 0

/-- A numeral without its sign: `digits · 10 ^ exponent`, the digits most significant first. -/
structure Numeral where
  digits : List Char
  exponent : Int

/-- The count of significant digits that decide a value.  Two neighbouring binary64 numbers and the
    point half way between them have fewer, so a longer numeral lies on the same side of that point
    as its first digits followed by any digit other than zero. -/
def significantDigits : Nat := 800

/-- A numeral without leading zeros and cut after the digits that decide its value: when something
    other than zero is cut off, a one stands for it. -/
def Numeral.significant (n : Numeral) : Numeral :=
  let ds := n.digits.dropWhile (· == '0')
  let kept := ds.take significantDigits
  let cut := ds.drop significantDigits
  if cut.any (· != '0') then ⟨kept ++ ['1'], n.exponent + cut.length - 1⟩
  else ⟨kept, n.exponent + cut.length⟩

/-- The number nearest to a numeral: an infinity from half a unit above the greatest finite number
    on, zero up to half of the least positive one. -/
def Numeral.value (n : Numeral) : Float :=
  let n := n.significant
  -- the value is below `10 ^ top`, and at least a tenth of that
  let top : Int := n.digits.length + n.exponent
  if n.digits.isEmpty then 0.0
  else if top < -330 then 0.0
  else if 330 < top then 1.0 / 0.0
  else Float.ofScientific (natOfDigits n.digits) (n.exponent < 0) n.exponent.natAbs

/-- An exponent's digits.  They are no longer read once the exponent has passed 65535. -/
def exponentOfDigits (ds : List Char) : Nat :=
  ds.foldl (fun e c => if e < 65536 then 10 * e + digitValue c else e) 0

/-- A sign in front of a text: whether it is a minus, and what follows it. -/
def splitSign : List Char → Bool × List Char
  | '-' :: rest => (true, rest)
  | '+' :: rest => (false, rest)
  | rest => (false, rest)

/-- The exponent part of a numeral, which is empty or `e`, an optional sign and digits. -/
def exponent? : List Char → Option Int
  | [] => some 0
  | c :: rest =>
    if c == 'e' || c == 'E' then
      let (negative, ds) := splitSign rest
      if ds.isEmpty || !ds.all Char.isDigit then none
      else
        let e : Int := exponentOfDigits ds
        some (if negative then -e else e)
    else none

/-- A numeral with digits: some digit stands before or after the point. -/
def Numeral.ofChars? (cs : List Char) : Option Numeral :=
  let whole := cs.takeWhile Char.isDigit
  let rest := cs.dropWhile Char.isDigit
  let (part, rest) := match rest with
    | '.' :: rest => (rest.takeWhile Char.isDigit, rest.dropWhile Char.isDigit)
    | rest => ([], rest)
  if whole.isEmpty && part.isEmpty then none
  else (exponent? rest).map fun e => ⟨whole ++ part, e - part.length⟩

/-- The names of the values that have no digits, in any case. -/
def named? (cs : List Char) : Option Float :=
  let name := String.ofList (cs.map Char.toLower)
  if name == "inf" || name == "infinity" then some (1.0 / 0.0)
  else if name == "nan" then some (0.0 / 0.0)
  else none

/-- A text read as a numeral, with nothing before or after it. -/
def readChars? (cs : List Char) : Option Float :=
  let (negative, cs) := splitSign cs
  let magnitude := (named? cs).or ((Numeral.ofChars? cs).map Numeral.value)
  magnitude.map fun x => if negative then -x else x

/-- A string read as a numeral. -/
def read? (s : String) : Option Float :=
  readChars? s.toList

end NavScript.Decimal
