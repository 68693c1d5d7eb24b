import NavScript.Tool.Copy

namespace NavScript.Tool

/-!
# Sorting lines

* `Key` — what lines are compared by
* `sort` — lines in order
* `uniq` — lines that are repeated
-/

/-! ### Keys -/

/-- How parts of lines are compared. -/
structure Comparison where
  numeric : Bool
  reversed : Bool
  folded : Bool
  blanks : Bool

/-- A part of lines that they are compared by: from a field and a character of it to another.  The
    character zero of the last field is its end. -/
structure Key where
  field : Nat
  char : Nat
  lastField : Option Nat
  lastChar : Nat
  order : Comparison
  /-- Letters of its own say how the key is compared. -/
  own : Bool

/-- A blank. -/
def isBlankChar (c : Char) : Bool :=
  c == ' ' || c == '\t' || c == '\n'

/-- The places at which the fields of a line begin and end: at a separator, or where blanks
    begin. -/
def fieldBounds (separator : Option Char) (cs : Array Char) : List (Nat × Nat) :=
  match separator with
  | some s =>
    let cuts := (List.range cs.size).filter fun i => cs[i]? == some s
    (0 :: cuts.map (· + 1)).zip (cuts ++ [cs.size])
  | none =>
    let isBlank (i : Nat) : Bool := (cs[i]?.map isBlankChar).getD false
    let cuts := (List.range cs.size).filter fun i => i != 0 && isBlank i && !isBlank (i - 1)
    (0 :: cuts).zip (cuts ++ [cs.size])

/-- The characters of a line that a key asks for. -/
def Key.part (k : Key) (separator : Option Char) (line : String) : List Char :=
  let cs := line.toList.toArray
  let bounds := fieldBounds separator cs
  let blanksFrom (i : Nat) : Nat :=
    i + ((cs.toList.drop i).takeWhile isBlankChar).length
  let first := match bounds[k.field - 1]? with
    | some (first, _) =>
      let first := if k.order.blanks then blanksFrom first else first
      min (first + (k.char - 1)) cs.size
    | none => cs.size
  let last := match k.lastField with
    | none => cs.size
    | some n =>
      match bounds[n - 1]? with
      | some (first, last) =>
        if k.lastChar = 0 then last
        else
          let first := if k.order.blanks then blanksFrom first else first
          min (first + k.lastChar) cs.size
      | none => cs.size
  (cs.extract first last).toList

/-- The number at the front of a text, in billionths. -/
def numberOf (cs : List Char) : Int :=
  let cs := cs.dropWhile isBlankChar
  let (negative, cs) := match cs with
    | '-' :: rest => (true, rest)
    | cs => (false, cs)
  let whole := cs.takeWhile Char.isDigit
  let behind := match cs.dropWhile Char.isDigit with
    | '.' :: rest => (rest.takeWhile Char.isDigit).take 9
    | _ => []
  let digits := whole ++ behind ++ List.replicate (9 - behind.length) '0'
  let n : Int := (String.ofList digits).toNat?.getD 0
  if negative then -n else n

/-- Two parts compared: the first comes before, or neither comes before the other. -/
def Comparison.compare (o : Comparison) (a b : List Char) : Ordering :=
  let found :=
    if o.numeric then Ord.compare (numberOf a) (numberOf b)
    else
      let seen (cs : List Char) : List Nat :=
        let cs := if o.blanks then cs.dropWhile isBlankChar else cs
        cs.map fun c => (if o.folded then c.toUpper else c).toNat
      Ord.compare (seen a) (seen b)
  if o.reversed then found.swap else found

/-! ### Reading keys -/

/-- The letters of a key added to an order. -/
def Comparison.withLetters (o : Comparison) : List Char → Option Comparison
  | [] => some o
  | c :: cs =>
    match c with
    | 'n' | 'g' => { o with numeric := true }.withLetters cs
    | 'r' => { o with reversed := true }.withLetters cs
    | 'f' => { o with folded := true }.withLetters cs
    | 'b' => { o with blanks := true }.withLetters cs
    | 'd' | 'i' | 'M' | 'h' | 'V' => o.withLetters cs
    | _ => none

/-- A field and a character at the front of characters, and the rest. -/
def keyPlace (cs : List Char) : Option Nat × Option Nat × List Char :=
  let number (cs : List Char) : Option Nat := (String.ofList (cs.takeWhile Char.isDigit)).toNat?
  let behind := cs.dropWhile Char.isDigit
  match behind with
  | '.' :: rest => (number cs, some ((number rest).getD 0), rest.dropWhile Char.isDigit)
  | rest => (number cs, none, rest)

/-- The key that a text writes, or the complaint about it. -/
def readKey (o : Comparison) (text : String) : Except String Key :=
  let cs := text.toList
  let letters (cs : List Char) : List Char := cs.takeWhile fun c => c.isAlpha
  let (field, char, rest) := keyPlace cs
  let front := letters rest
  let rest := rest.drop front.length
  match field with
  | none => .error s!"invalid number at field start: invalid count at start of {quote text}"
  | some 0 => .error s!"field number is zero: invalid field specification {quote text}"
  | some field =>
    let finish (lastField : Option Nat) (lastChar : Nat) (back : List Char) : Except String Key :=
      let own := !(front ++ back).isEmpty
      match (if own then ⟨false, false, false, false⟩ else o : Comparison).withLetters
          (front ++ back) with
      | some order => .ok ⟨field, max 1 (char.getD 1), lastField, lastChar, order, own⟩
      | none => .error s!"stray character in field spec: invalid field specification {quote text}"
    match rest with
    | [] => finish none 0 []
    | ',' :: behind =>
      match keyPlace behind with
      | (none, _, _) =>
        .error
          s!"invalid number after ',': invalid count at start of {quote (String.ofList behind)}"
      | (some 0, _, _) => .error s!"field number is zero: invalid field specification {quote text}"
      | (some last, lastChar, rest) =>
        let back := letters rest
        if rest.drop back.length != [] then
          .error s!"stray character in field spec: invalid field specification {quote text}"
        else finish (some last) (lastChar.getD 0) back
    | _ => .error s!"stray character in field spec: invalid field specification {quote text}"

/-! ### Sorting -/

/-- The options of the tool. -/
def sortOptions : Options :=
  Options.make "bcCdfghik:mMno:rsS:t:T:uVz"
    [("ignore-leading-blanks", 'b', .none), ("check", 'c', .optional),
      ("dictionary-order", 'd', .none),
      ("ignore-case", 'f', .none), ("key", 'k', .required), ("numeric-sort", 'n', .none),
      ("output", 'o', .required), ("reverse", 'r', .none), ("stable", 's', .none),
      ("field-separator", 't', .required), ("unique", 'u', .none), ("zero-terminated", 'z', .none),
      ("merge", 'm', .none)]

/-- What lines are sorted by: keys one after the other, and in the end the lines as they are. -/
structure Sorting where
  keys : List Key
  separator : Option Char
  order : Comparison
  /-- Lines that no key tells apart are the same. -/
  stable : Bool

namespace Sorting

/-- Two lines compared by the keys alone. -/
def compareKeys (s : Sorting) (a b : String) : Ordering :=
  if s.keys.isEmpty then s.order.compare a.toList b.toList
  else
    s.keys.foldl (fun found k =>
      found.then (k.order.compare (k.part s.separator a) (k.part s.separator b))) .eq

/-- Two lines compared. -/
def compare (s : Sorting) (a b : String) : Ordering :=
  let found := s.compareKeys a b
  if s.stable then found
  else
    let last := Ord.compare (a.toList.map Char.toNat) (b.toList.map Char.toNat)
    found.then (if s.order.reversed then last.swap else last)

/-- Lines in order. -/
def run (s : Sorting) (lines : List String) : List String :=
  lines.mergeSort fun a b => s.compare a b != .gt

/-- Lines in order of which no two are the same. -/
def single (s : Sorting) : List String → List String
  | a :: b :: rest =>
    if s.compareKeys a b == .eq then s.single (a :: rest) else a :: s.single (b :: rest)
  | lines => lines
termination_by lines => lines.length

/-- The first line that comes too early, and its number. -/
def disorder? (s : Sorting) (unique : Bool) : (number : Nat) → List String → Option (Nat × String)
  | number, a :: b :: rest =>
    let found := s.compare a b
    if found == .gt || (unique && s.compareKeys a b == .eq) then some (number + 1, b)
    else s.disorder? unique (number + 1) (b :: rest)
  | _, _ => none

end Sorting

/-- The sorting that options ask for, or the complaint about them. -/
def sortingOf (items : List Item) : Except String Sorting := do
  let order : Comparison :=
    ⟨has items 'n' || has items 'g', has items 'r', has items 'f', has items 'b'⟩
  let separator ← match value? items 't' with
    | none => .ok none
    | some "" => .error "empty tab"
    | some "\\0" => .ok (some (Char.ofNat 0))
    | some text =>
      match text.toList with
      | [c] => .ok (some c)
      | _ => .error s!"multi-character tab {quote text}"
  let keys ← (values items 'k').mapM (readKey order)
  return ⟨keys, separator, order, has items 's' || has items 'u'⟩

/-- The lines of files in order. -/
def sort : Tool :=
  withOptions "sort" 2 sortOptions fun items => do
    match sortingOf items with
    | .error complaint => Work.fail 2 s!"sort: {complaint}\n"
    | .ok sorting =>
      let mut lines : List String := []
      for name in sources (operands items) do
        match ← Work.contents name with
        | .ok text => lines := lines ++ (linesOf text).map lineBody
        | .error .isADirectory =>
          return ← Work.fail 2 s!"sort: read failed: {shown name}: Is a directory\n"
        | .error o => return ← Work.fail 2 s!"sort: cannot read: {shown name}: {o.words}\n"
      if has items 'c' || has items 'C' then
        match sorting.disorder? (has items 'u') 1 lines with
        | none => return
        | some (number, line) =>
          let name := (sources (operands items)).headD "-"
          if has items 'c' then Work.complain s!"sort: {name}:{number}: disorder: {line}\n"
          Work.setStatus 1
      else
        let sorted := sorting.run lines
        let sorted := if has items 'u' then sorting.single sorted else sorted
        let text := String.join (sorted.map (· ++ "\n"))
        match value? items 'o' with
        | none => Work.say text
        | some name =>
          if let .error o ← Work.write name text then
            Work.fail 2 s!"sort: open failed: {shown name}: {o.words}\n"

/-! ### Repeated lines -/

/-- Lines that are the same put together. -/
def groupLines (same : String → String → Bool) : List String → List (List String)
  | [] => []
  | line :: rest =>
    match groupLines same rest with
    | (first :: more) :: groups =>
      if same line first then (line :: first :: more) :: groups
      else [line] :: (first :: more) :: groups
    | groups => [line] :: groups

/-- The part of a line that is compared. -/
def comparedPart (fields chars : Nat) (width : Option Nat) (folded : Bool) (line : String) :
    List Char :=
  let skipField (cs : List Char) : List Char :=
    (cs.dropWhile isBlankChar).dropWhile fun c => !isBlankChar c
  let cs := (List.range fields).foldl (fun cs _ => skipField cs) line.toList
  let cs := cs.drop chars
  let cs := match width with
    | some n => cs.take n
    | none => cs
  if folded then cs.map Char.toLower else cs

/-- Lines that are repeated reduced to one, chosen or counted. -/
def uniq : Tool :=
  withOptions "uniq" 1
    (Options.make "cdDuif:s:w:z"
      [("count", 'c', .none), ("repeated", 'd', .none), ("unique", 'u', .none),
        ("ignore-case", 'i', .none), ("skip-fields", 'f', .required),
          ("skip-chars", 's', .required),
        ("check-chars", 'w', .required)]) fun items => do
    match operands items with
    | _ :: _ :: extra :: _ => Work.fail 1 (usageComplaint "uniq" s!"extra operand {quote extra}")
    | names =>
      let number (letter : Char) : Option Nat := (value? items letter).bind String.toNat?
      let part := comparedPart ((number 'f').getD 0) ((number 's').getD 0) (number 'w')
        (has items 'i')
      match ← Work.contents (names.headD "-") with
      | .error o => Work.fail 1 (unreadable "uniq" (names.headD "-") o)
      | .ok text =>
        let groups := groupLines (fun a b => part a == part b) ((linesOf text).map lineBody)
        let chosen := groups.filter fun group =>
          (!has items 'd' || 1 < group.length) && (!has items 'u' || group.length == 1)
        let lines := chosen.flatMap fun group =>
          if has items 'D' then if 1 < group.length then group else []
          else
            let count := toString group.length
            let front :=
              if has items 'c' then "".pushn ' ' (7 - count.length) ++ count ++ " " else ""
            [front ++ group.headD ""]
        let out := String.join (lines.map (· ++ "\n"))
        match names[1]? with
        | some name =>
          if let .error o ← Work.write name out then Work.fail 1 (unreadable "uniq" name o)
        | none => Work.say out

end NavScript.Tool
