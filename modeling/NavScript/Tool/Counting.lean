import NavScript.Tool.Copy

namespace NavScript.Tool

/-!
# Counting and numbers

* `wc` — lines, words and bytes counted
* `seq` — numbers one after the other
* `nl` — lines with their numbers
-/

/-! ### Counts -/

/-- What is counted in a text. -/
structure Counts where
  lines : Nat
  words : Nat
  bytes : Nat
  widest : Nat

namespace Counts

/-- The counts of a text. -/
def ofText (text : String) : Counts :=
  let lines := text.splitOn "\n"
  let words := lines.map fun line =>
    ((line.toList.splitOnP isSpace).filter (!·.isEmpty)).length
  let widest := (lines.map fun line => line.toList.foldl column 0).foldl max 0
  ⟨lines.length - 1, words.foldl (· + ·) 0, text.length, widest⟩
where
  isSpace (c : Char) : Bool := c == ' ' || (9 ≤ c.toNat && c.toNat ≤ 13)
  column (n : Nat) (c : Char) : Nat :=
    if c == '\t' then n + 8 - n % 8 else if 32 ≤ c.toNat && c.toNat < 127 then n + 1 else n

/-- Counts of two texts together. -/
def add (a b : Counts) : Counts :=
  ⟨a.lines + b.lines, a.words + b.words, a.bytes + b.bytes, max a.widest b.widest⟩

/-- The counts that are asked for, in their fixed order. -/
def chosen (items : List Item) (c : Counts) : List Nat :=
  let all := [('l', c.lines), ('w', c.words), ('m', c.bytes), ('c', c.bytes), ('L', c.widest)]
  if all.any fun entry => has items entry.1 then
    (all.filter fun entry => has items entry.1).map (·.2)
  else [c.lines, c.words, c.bytes]

/-- A line of counts, each filled up to a width, with a name behind them. -/
def line (width : Nat) (numbers : List Nat) (name : String) : String :=
  let texts := numbers.map fun n =>
    let digits := toString n
    "".pushn ' ' (width - digits.length) ++ digits
  " ".intercalate texts ++ (if name.isEmpty then "" else " " ++ name) ++ "\n"

end Counts

/-- The options of the tool. -/
def wcOptions : Options :=
  Options.make "clmwL"
    [("bytes", 'c', .none), ("chars", 'm', .none), ("lines", 'l', .none), ("words", 'w', .none),
      ("max-line-length", 'L', .none)]

/-- Lines, words and bytes counted. -/
def wc : Tool :=
  withOptions "wc" 1 wcOptions fun items => do
    let names := operands items
    let mut found : List (String × Except Obstacle Counts) := []
    let mut regular := true
    let mut size := 0
    for name in sources names do
      let isRegular := name != "-" && name != "/dev/null" && name != "/dev/stdin"
      let title := if names.isEmpty then "" else name
      match ← Work.contents name with
      | .ok text =>
        regular := regular && isRegular
        if isRegular then size := size + text.length
        found := found ++ [(title, .ok (Counts.ofText text))]
      | .error o =>
        if o == .isADirectory then regular := false
        found := found ++ [(title, .error o)]
    let single := names.length ≤ 1 && ((Counts.chosen items) ⟨0, 0, 0, 0⟩).length == 1
    let digits := (toString size).length
    let width := if single then 1 else if regular then digits else max 7 digits
    for (name, counts) in found do
      match counts with
      | .ok counts => Work.say (Counts.line width (counts.chosen items) name)
      | .error o =>
        Work.fail 1 (unreadable "wc" (if name.isEmpty then "standard input" else name) o)
        if o == .isADirectory then
          Work.say (Counts.line width ((Counts.mk 0 0 0 0).chosen items) name)
    if 1 < names.length then
      let total := (found.filterMap (·.2.toOption)).foldl Counts.add ⟨0, 0, 0, 0⟩
      Work.say (Counts.line width (total.chosen items) "total")

/-! ### Numbers -/

/-- A decimal number: its digits without a point, and how many of them stand behind it. -/
structure Fixed where
  units : Int
  places : Nat

/-- The decimal number that a text writes. -/
def Fixed.read? (text : String) : Option Fixed :=
  let (negative, body) := match text.toList with
    | '-' :: rest => (true, rest)
    | '+' :: rest => (false, rest)
    | body => (false, body)
  let whole := body.takeWhile Char.isDigit
  let behind := match body.dropWhile Char.isDigit with
    | '.' :: rest => some rest
    | [] => some []
    | _ => none
  behind.bind fun behind =>
    if behind.all Char.isDigit && !(whole.isEmpty && behind.isEmpty) then
      ((String.ofList (whole ++ behind)).toNat?).map fun n =>
        ⟨if negative then -n else n, behind.length⟩
    else none

/-- The number in so many places. -/
def Fixed.scaled (x : Fixed) (places : Nat) : Int :=
  x.units * (Nat.pow 10 (places - x.places) : Nat)

/-- So many units of the last of so many places, as text. -/
def fixedText (units : Int) (places : Nat) : String :=
  let digits := toString units.natAbs
  let digits := "".pushn '0' (places + 1 - digits.length) ++ digits
  let whole := String.ofList (digits.toList.take (digits.length - places))
  let behind := String.ofList (digits.toList.drop (digits.length - places))
  (if units < 0 then "-" else "") ++ whole ++ (if places = 0 then "" else "." ++ behind)

/-- The options of the tool; a number with a sign is no option. -/
def seqOptions : Options :=
  { Options.make "f:s:w"
      [("format", 'f', .required), ("separator", 's', .required), ("equal-width", 'w', .none)] with
    inOrder := true }

/-- The arguments up to the first that is a number, and the others. -/
def seqArguments (args : List String) : List String × List String :=
  let isNumber (arg : String) : Bool := (Fixed.read? arg).isSome
  match args.findIdx? isNumber with
  | some n => (args.take n, args.drop n)
  | none => (args, [])

/-- A text filled up with zeros behind its sign. -/
def zeroFilled (width : Nat) (text : String) : String :=
  match text.toList with
  | '-' :: rest => "-" ++ "".pushn '0' (width - text.length) ++ String.ofList rest
  | _ => "".pushn '0' (width - text.length) ++ text

/-- Numbers one after the other. -/
def seq : Tool := fun call =>
  let (front, numbers) := seqArguments call.args
  let args := if numbers.isEmpty then front else front ++ "--" :: numbers
  run { call with args }
where
  run : Tool := withOptions "seq" 1 seqOptions fun items => do
    let texts := operands items
    let texts := if texts.head? == some "--" then texts.drop 1 else texts
    match texts[3]? with
    | some extra => Work.fail 1 (usageComplaint "seq" s!"extra operand {quote extra}")
    | none =>
      match texts.find? fun text => (Fixed.read? text).isNone with
      | some text =>
        Work.fail 1 (usageComplaint "seq" s!"invalid floating point argument: {quote text}")
      | none => print items (texts.filterMap Fixed.read?) texts
  print (items : List Item) (numbers : List Fixed) (texts : List String) : Work Unit := do
    let one : Fixed := ⟨1, 0⟩
    match match numbers with
        | [] => none
        | [last] => some (one, one, last)
        | [first, last] => some (first, one, last)
        | first :: step :: last :: _ => some (first, step, last) with
    | none => Work.fail 1 (usageComplaint "seq" "missing operand")
    | some (first, step, last) =>
      if step.units = 0 then
        let text := texts.getD 1 ""
        Work.fail 1 (usageComplaint "seq" s!"invalid Zero increment value: {quote text}")
      else
        let places := max first.places step.places
        let all := max places last.places
        let start := first.scaled all
        let stride := step.scaled all
        let stop := last.scaled all
        let count :=
          if 0 < stride then (stop - start) / stride + 1 else (start - stop) / -stride + 1
        let values := (List.range count.toNat).map fun (n : Nat) => start + stride * (n : Int)
        let shorter (n : Int) : Int := n / (Nat.pow 10 (all - places) : Nat)
        let plain := values.map fun n => fixedText (shorter n) places
        let width := max (fixedText (shorter start) places).length
          (fixedText (shorter stop) places).length
        let filled := if has items 'w' then plain.map (zeroFilled width) else plain
        let separator := (value? items 's').getD "\n"
        if !filled.isEmpty then Work.say (separator.intercalate filled ++ "\n")

/-! ### Numbered lines -/

/-- The lines of files with their numbers; empty lines have none. -/
def nl : Tool :=
  withOptions "nl" 1 (Options.make "b:w:s:v:i:n:ph:f:d:l:" []) fun items => do
    let width := ((value? items 'w').bind String.toNat?).getD 6
    let separator := (value? items 's').getD "\t"
    let everyLine := value? items 'b' == some "a"
    let mut number := ((value? items 'v').bind String.toNat?).getD 1
    for name in sources (operands items) do
      match ← Work.contents name with
      | .error o => Work.fail 1 (unreadable "nl" name o)
      | .ok text =>
        for line in linesOf text do
          let body := lineBody line
          if body.isEmpty && !everyLine then
            Work.say ("".pushn ' ' (width + separator.length) ++ "\n")
          else
            let digits := toString number
            Work.say ("".pushn ' ' (width - digits.length) ++ digits ++ separator ++ body ++ "\n")
            number := number + 1

end NavScript.Tool
