import NavScript.Tool.Basic
import NavScript.Decimal.Fixed
import NavScript.Decimal.Numeral
import NavScript.Text.Hexadecimal

namespace NavScript.Tool

/-!
# Printing

Printing of arguments as they are, with escapes, and by a format.

* `unescape` — a text with its escapes replaced
* `Directive` — how one value is printed
* `Printing` — a format at work
* `printf`, `echo` — the tools
-/

/-! ### Escapes -/

/-- The characters that a kind of printing knows escapes for. -/
inductive Dialect where
  /-- The shell's own tools. -/
  | shell
  /-- The tools beside it, which know hexadecimal escapes too. -/
  | separate
  deriving DecidableEq

/-- The value of leading digits of a base, at most so many, and their number. -/
def leadingDigits (value? : Char → Option Nat) (base limit : Nat) (cs : List Char) : Nat × Nat :=
  let ds := ((cs.take limit).takeWhile fun c => (value? c).isSome).filterMap value?
  (ds.foldl (fun n d => base * n + d) 0, ds.length)

/-- The value of an octal digit. -/
def octalDigit? (c : Char) : Option Nat :=
  (Text.hexDigit? c).filter (· < 8)

/-- The character of a byte. -/
def byteChar (n : Nat) : Char := Char.ofNat (n % 256)

/-- The character of a single-letter escape. -/
def letterEscape? (c : Char) : Option Char :=
  ([('a', 7), ('b', 8), ('e', 27), ('f', 12), ('n', 10), ('r', 13), ('t', 9), ('v', 11),
    ('\\', 92)].lookup c).map Char.ofNat

/-- What an escape stands for. -/
inductive Escape where
  /-- Characters, and how many behind the backslash they take. -/
  | chars (text : String) (taken : Nat)
  /-- The end of all output. -/
  | stop
  /-- No escape: the backslash stands for itself. -/
  | nothing

/-- The escape behind a backslash.  In an argument octal digits may follow a zero of their own, and
    a `c` ends all output. -/
def escape (dialect : Dialect) (inArgument : Bool) (cs : List Char) : Escape :=
  match cs with
  | 'c' :: _ => if inArgument || dialect == .separate then .stop else .nothing
  | '0' :: rest =>
    let (n, taken) := if inArgument then leadingDigits octalDigit? 8 3 rest
      else leadingDigits octalDigit? 8 2 rest
    .chars (byteChar n).toString (taken + 1)
  | 'x' :: rest =>
    let (n, taken) := leadingDigits Text.hexDigit? 16 2 rest
    if dialect == .separate && taken != 0 then .chars (byteChar n).toString (taken + 1)
    else .nothing
  | 'u' :: rest =>
    let (n, taken) := leadingDigits Text.hexDigit? 16 4 rest
    if dialect == .separate && taken == 4 then
      .chars (Text.Narrow.ofText (Char.ofNat n).toString) (taken + 1)
    else .nothing
  | '"' :: _ => if dialect == .separate then .chars "\"" 1 else .nothing
  | c :: _ =>
    match leadingDigits octalDigit? 8 3 cs with
    | (_, 0) =>
      match letterEscape? c with
      | some b => .chars b.toString 1
      | none => .nothing
    | (n, taken) => .chars (byteChar n).toString taken
  | [] => .nothing

/-- A text with its escapes replaced, added in reverse to `done`, and whether one ended all output.
    `skip` characters have been taken by an escape. -/
def unescapeFrom (dialect : Dialect) (done : List Char) :
    (skip : Nat) → List Char → List Char × Bool
  | _, [] => (done, false)
  | skip + 1, _ :: cs => unescapeFrom dialect done skip cs
  | 0, '\\' :: cs =>
    match escape dialect true cs with
    | .chars text taken => unescapeFrom dialect (text.toList.reverse ++ done) taken cs
    | .stop => (done, true)
    | .nothing => unescapeFrom dialect ('\\' :: done) 0 cs
  | 0, c :: cs => unescapeFrom dialect (c :: done) 0 cs

/-- A text with its escapes replaced, and whether one ended all output. -/
def unescape (dialect : Dialect) (text : String) : String × Bool :=
  let (done, stopped) := unescapeFrom dialect [] 0 text.toList
  (String.ofList done.reverse, stopped)

/-! ### Directives -/

/-- How one value is printed: where it is filled up and with what, which sign it has, and how much
    of it there is. -/
structure Directive where
  left : Bool := false
  plus : Bool := false
  space : Bool := false
  alternate : Bool := false
  zero : Bool := false
  width : Nat := 0
  precision : Option Nat := none

namespace Directive

/-- A text filled up with spaces to the width. -/
def fill (d : Directive) (text : String) : String :=
  let spaces := "".pushn ' ' (d.width - text.length)
  if d.left then text ++ spaces else spaces ++ text

/-- A number's text filled up to the width, with zeros behind its sign where they are wanted. -/
def fillNumber (d : Directive) (zeros : Bool) (sign body : String) : String :=
  if zeros && d.zero && !d.left then
    sign ++ "".pushn '0' (d.width - sign.length - body.length) ++ body
  else d.fill (sign ++ body)

/-- The sign in front of a number. -/
def sign (d : Directive) (negative : Bool) : String :=
  if negative then "-" else if d.plus then "+" else if d.space then " " else ""

/-- The digits of a natural number, at least as many as the precision says. -/
def digits (d : Directive) (base : Nat) (n : Nat) : String :=
  let digits := if n = 0 && d.precision == some 0 then "" else String.ofList (Nat.toDigits base n)
  "".pushn '0' (d.precision.getD 1 - digits.length) ++ digits

/-- A whole number with its sign. -/
def integer (d : Directive) (n : Int) : String :=
  d.fillNumber d.precision.isNone (d.sign (n < 0)) (d.digits 10 n.natAbs)

/-- A natural number in a base, in front of which the alternate form says the base. -/
def natural (d : Directive) (kind : Char) (n : Nat) : String :=
  match kind with
  | 'o' =>
    let body := d.digits 8 n
    let body := if d.alternate && !body.startsWith "0" then "0" ++ body else body
    d.fillNumber d.precision.isNone "" body
  | 'x' =>
    d.fillNumber d.precision.isNone (if d.alternate && n != 0 then "0x" else "") (d.digits 16 n)
  | 'X' =>
    d.fillNumber d.precision.isNone (if d.alternate && n != 0 then "0X" else "")
      (String.ofList ((d.digits 16 n).toList.map Char.toUpper))
  | _ => d.fillNumber d.precision.isNone "" (d.digits 10 n)

end Directive

/-! ### Floating point -/

/-- The digits of a positive number rounded to so many of them, and the exponent of the first. -/
def significant (count : Nat) (x : Float) : Nat × Int :=
  let all := (Decimal.fixedChars Decimal.exactPlaces x.abs).filter Char.isDigit
  let n := Decimal.natOfDigits all
  if n = 0 then (0, 0)
  else
    let length := (Nat.toDigits 10 n).length
    let exponent : Int := length - 1 - Decimal.exactPlaces
    if length ≤ count then (n * Nat.pow 10 (count - length), exponent)
    else
      let m := Decimal.roundDiv n (Nat.pow 10 (length - count))
      if m = Nat.pow 10 count then (m / 10, exponent + 1) else (m, exponent)

/-- An exponent as it is printed: a sign and at least two digits. -/
def exponentText (e : Int) : String :=
  let digits := String.ofList (Nat.toDigits 10 e.natAbs)
  (if e < 0 then "e-" else "e+") ++ (if digits.length < 2 then "0" else "") ++ digits

/-- A number in the form with an exponent, with so many digits behind the point. -/
def scientific (places : Nat) (x : Float) : String :=
  let (m, e) := significant (places + 1) x
  let digits := Nat.toDigits 10 m
  let digits := digits ++ List.replicate (places + 1 - digits.length) '0'
  let body := match digits with
    | first :: rest => if places = 0 then [first] else first :: '.' :: rest
    | [] => []
  String.ofList body ++ exponentText e

/-- A number without the zeros that end its digits behind a point. -/
def withoutZeros (text : String) : String :=
  let mantissa := text.toList.takeWhile (· != 'e')
  let exponent := text.toList.dropWhile (· != 'e')
  let mantissa := if mantissa.contains '.' then
    (((mantissa.reverse).dropWhile (· == '0')).dropWhile (· == '.')).reverse else mantissa
  String.ofList (mantissa ++ exponent)

/-- A number in the shorter of the two forms for so many digits. -/
def general (alternate : Bool) (count : Nat) (x : Float) : String :=
  let count := max count 1
  let (_, e) := significant count x
  let text := if e < -4 || (count : Int) ≤ e then scientific (count - 1) x
    else Decimal.fixed ((count : Int) - 1 - e).toNat x.abs
  if alternate then text else withoutZeros text

/-- A floating-point number by its directive. -/
def Directive.float (d : Directive) (kind : Char) (x : Float) : String :=
  let negative := x.toBits ≥ 0x8000000000000000
  let text :=
    if x.isNaN then "nan"
    else if x.isInf then "inf"
    else
      match kind.toLower with
      | 'f' => Decimal.fixed (d.precision.getD 6) x.abs
      | 'e' => scientific (d.precision.getD 6) x
      | _ => general d.alternate (d.precision.getD 6) x
  let text := if kind.isUpper then String.ofList (text.toList.map Char.toUpper) else text
  d.fillNumber x.isFinite (d.sign negative) text

/-! ### Values of arguments -/

/-- A number read from an argument, and the complaint about what is wrong with it. -/
structure Reading (α : Type) where
  value : α
  complaint : Option String

/-- The complaint about an argument of which so much has been left over. -/
def leftOver? (whole rest : List Char) : Option String :=
  if rest.isEmpty then none
  else if rest == whole then some "expected numeric value"
  else some "not completely converted"

/-- The digits of a base at the front of a text, and the rest. -/
def naturalAtFront (cs : List Char) : Option (Nat × List Char) :=
  let read (base : Nat) (cs : List Char) : Option (Nat × List Char) :=
    let inside := fun c => ((Text.hexDigit? c).filter (· < base)).isSome
    if (cs.head?.map inside).getD false then
      some ((cs.takeWhile inside).foldl (fun n c => base * n + (Text.hexDigit? c).getD 0) 0,
        cs.dropWhile inside)
    else none
  match cs with
  | '0' :: 'x' :: rest | '0' :: 'X' :: rest => (read 16 rest).or (read 8 cs)
  | '0' :: _ => read 8 cs
  | _ => read 10 cs

/-- Blanks in front of numbers. -/
def isNumberBlank (c : Char) : Bool :=
  c == ' ' || (9 ≤ c.toNat && c.toNat ≤ 13)

/-- A whole number read from an argument.  Behind a quote stands a character for its number. -/
def readInteger (text : String) (low high : Int) : Reading Int :=
  match text.toList with
  | '\'' :: rest | '"' :: rest => ⟨(rest.head?.map fun c => (c.toNat : Int)).getD 0, none⟩
  | cs =>
    let body := cs.dropWhile isNumberBlank
    let (negative, body) := match body with
      | '-' :: rest => (true, rest)
      | '+' :: rest => (false, rest)
      | body => (false, body)
    match naturalAtFront body with
    | none => ⟨0, leftOver? cs cs⟩
    | some (n, rest) =>
      let value : Int := if negative then -n else n
      let held := max low (min high value)
      ⟨held, (leftOver? cs rest).or
        (if held == value then none else some "Numerical result out of range")⟩

/-- A floating-point number read from an argument: the longest front that is one. -/
def readFloat (text : String) : Reading Float :=
  match text.toList with
  | '\'' :: rest | '"' :: rest => ⟨(rest.head?.map fun c => Float.ofNat c.toNat).getD 0.0, none⟩
  | cs =>
    let body := cs.dropWhile isNumberBlank
    let lengths := (List.range (body.length + 1)).reverse
    match lengths.findSome? fun n => (Decimal.readChars? (body.take n)).map (·, n) with
    | some (x, n) => ⟨x, leftOver? cs (body.drop n)⟩
    | none => ⟨0.0, leftOver? cs cs⟩

/-! ### Formats -/

/-- A format being printed: the arguments left, whether one has been taken, the output and the
    complaints so far, and whether the output is at its end. -/
structure Printing where
  dialect : Dialect
  args : List String
  took : Bool
  out : String
  complaints : List String
  stopped : Bool
  /-- The format itself is at fault. -/
  broken : Bool

namespace Printing

/-- The next argument, which is taken. -/
def take (p : Printing) : Option String × Printing :=
  match p.args with
  | [] => (none, p)
  | text :: rest => (some text, { p with args := rest, took := true })

/-- More output. -/
def add (p : Printing) (text : String) : Printing :=
  { p with out := p.out ++ text }

/-- A complaint about an argument. -/
def note (p : Printing) (text : String) : Option String → Printing
  | none => p
  | some complaint =>
    let shown := if p.dialect == .separate then quote text else text
    let words := if p.dialect == .separate && complaint == "expected numeric value" then
      "expected a numeric value" else if p.dialect == .separate &&
        complaint == "not completely converted" then "value not completely converted" else complaint
    { p with complaints := (shown ++ ": " ++ words) :: p.complaints }

/-- A format at fault, which ends the output. -/
def spoil (p : Printing) (complaint : String) : Printing :=
  { p with complaints := complaint :: p.complaints, broken := true, stopped := true }

/-- The whole number that the next argument gives. -/
def takeInteger (p : Printing) (low high : Int) : Int × Printing :=
  let (text, p) := p.take
  let text := text.getD ""
  let r := readInteger text low high
  (r.value, if text.isEmpty then p else p.note text r.complaint)

/-- The least and the greatest number of 64 bits. -/
def leastInteger : Int := -9223372036854775808

/-- The greatest number of 64 bits with a sign. -/
def greatestInteger : Int := 9223372036854775807

/-- The greatest number of 64 bits without a sign. -/
def greatestNatural : Int := 18446744073709551615

/-- A width or precision, which a star leaves to the next argument. -/
def size (p : Printing) (cs : List Char) : Option Int × List Char × Printing :=
  match cs with
  | '*' :: rest =>
    let (n, p) := p.takeInteger leastInteger greatestInteger
    (some n, rest, p)
  | cs =>
    let ds := cs.takeWhile Char.isDigit
    (if ds.isEmpty then none else some (Decimal.natOfDigits ds), cs.dropWhile Char.isDigit, p)

/-- A value printed by its directive. -/
def value (p : Printing) (d : Directive) (kind : Char) (whole : String) : Printing :=
  match kind with
  | 's' =>
    let (text, p) := p.take
    let text := text.getD ""
    p.add (d.fill (match d.precision with
      | some n => String.ofList (text.toList.take n)
      | none => text))
  | 'b' =>
    let (text, p) := p.take
    let (text, stopped) := unescape p.dialect (text.getD "")
    let p := p.add (d.fill (match d.precision with
      | some n => String.ofList (text.toList.take n)
      | none => text))
    { p with stopped }
  | 'c' =>
    let (text, p) := p.take
    match (text.getD "").toList with
    | c :: _ => p.add (d.fill c.toString)
    | [] =>
      if p.dialect == .separate then p.add (d.fill "") else p.add (d.fill (Char.ofNat 0).toString)
  | 'd' | 'i' =>
    let (n, p) := p.takeInteger leastInteger greatestInteger
    p.add (d.integer n)
  | 'o' | 'u' | 'x' | 'X' =>
    let (n, p) := p.takeInteger (-greatestNatural) greatestNatural
    p.add (d.natural kind (n % (greatestNatural + 1)).toNat)
  | 'e' | 'E' | 'f' | 'F' | 'g' | 'G' =>
    let (text, p) := p.take
    let text := text.getD ""
    let r := readFloat text
    (if text.isEmpty then p else p.note text r.complaint).add (d.float kind r.value)
  | _ => p.spoil (whole ++ ": invalid directive")

/-- The flags of a directive at the front of characters. -/
def flags (d : Directive) : List Char → Directive × List Char
  | '-' :: rest => flags { d with left := true } rest
  | '+' :: rest => flags { d with plus := true } rest
  | ' ' :: rest => flags { d with space := true } rest
  | '#' :: rest => flags { d with alternate := true } rest
  | '0' :: rest => flags { d with zero := true } rest
  | rest => (d, rest)

/-- A directive after its percent sign, and the format behind it. -/
def directive (p : Printing) (cs : List Char) : Printing × List Char :=
  let (d, rest) := flags {} cs
  let (width, rest, p) := p.size rest
  let d := match width with
    | some n => { d with width := n.natAbs, left := d.left || n < 0 }
    | none => d
  let (d, rest, p) := match rest with
    | '.' :: rest =>
      let (n, rest, p) := p.size rest
      let n := n.getD 0
      ({ d with precision := if n < 0 then none else some n.toNat }, rest, p)
    | rest => (d, rest, p)
  match rest with
  | [] => (p.spoil "missing format character", [])
  | kind :: rest =>
    let whole := String.ofList ('%' :: cs.take (cs.length - rest.length))
    (p.value d kind whole, rest)

/-- A format printed once; `fuel` bounds its characters. -/
def once : (fuel : Nat) → Printing → List Char → Printing
  | 0, p, _ | _, p, [] => p
  | fuel + 1, p, '%' :: '%' :: cs => once fuel (p.add "%") cs
  | fuel + 1, p, '%' :: cs =>
    let (p, rest) := p.directive cs
    if p.stopped then p else once fuel p rest
  | fuel + 1, p, '\\' :: cs =>
    match escape p.dialect false cs with
    | .chars text taken => once fuel (p.add text) (cs.drop taken)
    | .stop => { p with stopped := true }
    | .nothing => once fuel (p.add "\\") cs
  | fuel + 1, p, c :: cs => once fuel (p.add c.toString) cs

/-- A format printed as often as it takes to use up its arguments, of which each time takes some;
    `fuel` is their number. -/
def all (p : Printing) (format : List Char) : (fuel : Nat) → Printing
  | 0 => once (format.length + 1) p format
  | fuel + 1 =>
    let q := once (format.length + 1) p format
    if q.stopped || q.args.isEmpty || !q.took then q else q.all format fuel

/-- What a format and its arguments come to. -/
def ofFormat (dialect : Dialect) (format : String) (args : List String) : Printing :=
  (Printing.mk dialect args false "" [] false false).all format.toList args.length

end Printing

/-! ### The tools -/

/-- The arguments with spaces between them and a line feed behind, escapes replaced.  The option
    `-n` leaves the line feed out. -/
def echoText (args : List String) : String :=
  let (newline, args) := match args with
    | "-n" :: rest => (false, rest)
    | args => (true, args)
  match unescape .shell (" ".intercalate args) with
  | (text, true) => text
  | (text, false) => if newline then text ++ "\n" else text

/-- The options at the front of the arguments, each letter of which is one of `n`, `e` and `E`. -/
def echoOptions (newline escapes : Bool) : List String → Bool × Bool × List String
  | [] => (newline, escapes, [])
  | arg :: rest =>
    match arg.toList with
    | '-' :: c :: cs =>
      if (c :: cs).all fun c => c == 'n' || c == 'e' || c == 'E' then
        let escapes := (c :: cs).foldl (fun escapes c =>
          if c == 'e' then true else if c == 'E' then false else escapes) escapes
        echoOptions (newline && !(c :: cs).contains 'n') escapes rest
      else (newline, escapes, arg :: rest)
    | _ => (newline, escapes, arg :: rest)

/-- The arguments with spaces between them and a line feed behind, as the separate tool does it. -/
def echo : Tool :=
  of fun args => do
    let (newline, escapes, args) := echoOptions true false args
    let text := " ".intercalate args
    let ending := if newline then "\n" else ""
    if escapes then
      match unescape .separate text with
      | (text, true) => Work.say text
      | (text, false) => Work.say (text ++ ending)
    else Work.say (text ++ ending)

/-- A format and its arguments, as the separate tool prints them. -/
def printf : Tool :=
  of fun args => do
    let args := match args with
      | "--" :: rest => rest
      | args => args
    match args with
    | [] => Work.fail 1 (usageComplaint "missing operand")
    | format :: args =>
      let p := Printing.ofFormat .separate format args
      Work.say p.out
      for complaint in p.complaints.reverse do
        Work.complain s!"printf: {complaint}\n"
      if !p.complaints.isEmpty then Work.setStatus 1
      match p.args with
      | excess :: _ =>
        if !p.stopped then
          Work.complain
            s!"printf: warning: ignoring excess arguments, starting with {quote excess}\n"
      | [] => return
where
  usageComplaint (complaint : String) : String :=
    s!"printf: {complaint}\nTry 'printf --help' for more information.\n"

end NavScript.Tool
