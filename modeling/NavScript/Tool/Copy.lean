import NavScript.Tool.Arguments

namespace NavScript.Tool

/-!
# Copying files

Tools that write what they read, all of it or a part.

* `cat` — files one after the other
* `tee` — the input, to files too
* `head`, `tail` — the beginnings and the ends of files
* `tac`, `rev` — lines in reverse, or reversed
-/

/-- The complaint about a file that cannot be read. -/
def unreadable (tool name : String) (o : Obstacle) : String :=
  s!"{tool}: {shown name}: {o.words}\n"

/-- Files by name, or the input when there are none. -/
def sources (names : List String) : List String :=
  if names.isEmpty then ["-"] else names

/-- The contents of files, each handled on its own; one that cannot be read is complained about and
    makes the tool end with the given number. -/
def eachSource (status : Nat) (complaint : String → Obstacle → String) (names : List String)
    (handle : String → String → Work Unit) : Work Unit := do
  for name in names do
    match ← Work.contents name with
    | .ok text => handle name text
    | .error o => Work.fail status (complaint name o)

/-! ### Files one after the other -/

/-- How lines are shown. -/
structure Showing where
  numbered : Bool
  numberedBlank : Bool
  squeezed : Bool
  ends : Bool
  tabs : Bool
  controls : Bool

/-- A character shown by marks that can be read. -/
def visible (c : Char) : String :=
  let low (n : Nat) : String :=
    if n < 32 then "^" ++ (Char.ofNat (n + 64)).toString
    else if n = 127 then "^?"
    else (Char.ofNat n).toString
  if c.toNat < 128 then low c.toNat else "M-" ++ low (c.toNat - 128)

/-- A character of a line shown. -/
def Showing.char (s : Showing) (c : Char) : String :=
  if c == '\t' then if s.tabs then "^I" else "\t"
  else if s.controls then visible c
  else c.toString

/-- A number in front of a line. -/
def lineNumber (n : Nat) : String :=
  let digits := toString n
  "".pushn ' ' (6 - digits.length) ++ digits ++ "\t"

/-- Lines shown, from the given number on; `blank` says that the line before was empty. -/
def Showing.lines (s : Showing) (done : List String) (number : Nat) (blank : Bool) :
    List String → List String
  | [] => done.reverse
  | line :: rest =>
    let body := lineBody line
    let isBlank := body.isEmpty
    if s.squeezed && blank && isBlank then s.lines done number blank rest
    else
      let counts := s.numbered && (s.numberedBlank || !isBlank)
      let number := if counts then number + 1 else number
      let front := if counts then lineNumber number else ""
      let ending := if line.endsWith "\n" then if s.ends then "$\n" else "\n" else ""
      s.lines ((front ++ String.join (body.toList.map s.char) ++ ending) :: done) number
        isBlank rest

/-- The options of `cat`. -/
def catOptions : Options :=
  Options.make "bestnuvAET"
    [("number-nonblank", 'b', .none), ("number", 'n', .none), ("squeeze-blank", 's', .none),
      ("show-nonprinting", 'v', .none), ("show-ends", 'E', .none), ("show-tabs", 'T', .none),
      ("show-all", 'A', .none)]

/-- Files copied to the output one after the other. -/
def cat : Tool :=
  withOptions "cat" 1 catOptions fun items => do
    let any (letters : String) : Bool := letters.toList.any (has items)
    let showing : Showing :=
      ⟨any "nb", !any "b", any "s", any "eAE", any "tAT", any "veAt"⟩
    let mut all := ""
    for name in sources (operands items) do
      match ← Work.contents name with
      | .ok text => all := all ++ text
      | .error o =>
        Work.fail 1 (unreadable "cat" name o)
    if any "bestnvAET" then Work.say (String.join (showing.lines [] 0 false (linesOf all)))
    else Work.say all

/-- The input copied to the output and to files. -/
def tee : Tool :=
  withOptions "tee" 1
    (Options.make "aip" [("append", 'a', .none), ("ignore-interrupts", 'i', .none)])
    fun items => do
      let text ← Work.takeInput
      Work.say text
      for name in operands items do
        if name == "/dev/stdout" then Work.say text
        else if name == "/dev/stderr" then Work.complain text
        else
          let before ← if has items 'a' then do
              Pure.pure ((← Work.contents name).toOption.getD "")
            else Pure.pure ""
          if let .error o ← Work.write name (before ++ text) then
            Work.fail 1 (unreadable "tee" name o)

/-! ### Beginnings and ends -/

/-- What a letter or two behind a number multiply it by. -/
def multiplier? (suffix : String) : Option Nat :=
  match suffix with
  | "" => some 1
  | "b" => some 512
  | "kB" => some 1000
  | "k" | "K" | "KiB" => some 1024
  | "MB" => some 1000000
  | "m" | "M" | "MiB" => some 1048576
  | "GB" => some 1000000000
  | "G" | "GiB" => some 1073741824
  | _ => none

/-- A count with what multiplies it. -/
def count? (text : String) : Option Nat :=
  let digits := text.toList.takeWhile Char.isDigit
  if digits.isEmpty then none
  else
    (multiplier? (String.ofList (text.toList.dropWhile Char.isDigit))).map fun m =>
      m * (String.ofList digits).toNat?.getD 0

/-- A part at one end of a file: so many units of it, or all but so many. -/
structure Part where
  bytes : Bool
  count : Nat
  /-- The count is of what is left out. -/
  inverted : Bool

/-- The units of a text. -/
def Part.units (p : Part) (text : String) : List String :=
  if p.bytes then text.toList.map Char.toString else linesOf text

/-- The beginning of a text. -/
def Part.beginning (p : Part) (text : String) : String :=
  let units := p.units text
  String.join (units.take (if p.inverted then units.length - p.count else p.count))

/-- The end of a text; counted from the front, it begins with the unit of that number. -/
def Part.ending (p : Part) (text : String) : String :=
  let units := p.units text
  String.join (units.drop (if p.inverted then p.count - 1 else units.length - p.count))

/-- An argument of the older form, a sign and a count, as the arguments that it stands for; then the
    complaint about letters behind it that have no meaning. -/
def olderForm (sign : Char) (arg : String) : Option (Except Char (List String)) :=
  match arg.toList with
  | c :: rest =>
    let digits := String.ofList (rest.takeWhile Char.isDigit)
    if c != sign || digits.isEmpty then none
    else
      let letters := rest.dropWhile Char.isDigit
      let counted := if sign == '+' then "+" ++ digits else digits
      let unit := if letters.contains 'c' then "-c" else "-n"
      match letters.find? fun c => !"clqv".toList.contains c with
      | some c => some (.error c)
      | none =>
        some (.ok (unit :: counted
          :: (letters.filter fun c => c == 'q' || c == 'v').map fun c => "-" ++ c.toString))
  | [] => none

/-- The options of both tools. -/
def partOptions : Options :=
  Options.make "c:n:qvzfFs:"
    [("bytes", 'c', .required), ("lines", 'n', .required), ("quiet", 'q', .none),
      ("silent", 'q', .none), ("verbose", 'v', .none), ("zero-terminated", 'z', .none),
      ("follow", 'f', .optional)]

/-- Parts of files, each under its name when there are several. -/
def writeParts (tool : String) (items : List Item) (cut : String → String) : Work Unit := do
  let names := sources (operands items)
  let titled := has items 'v' || (1 < names.length && !has items 'q')
  let mut first := true
  for name in names do
    let title := if name == "-" then "standard input" else name
    let header := (if first then "" else "\n") ++ s!"==> {title} <==\n"
    match ← Work.contents name with
    | .ok text =>
      if titled then Work.say header
      first := false
      Work.say (cut text)
    | .error .isADirectory =>
      if titled then Work.say header
      first := false
      Work.fail 1 s!"{tool}: error reading {quote name}: Is a directory\n"
    | .error o => Work.fail 1 s!"{tool}: cannot open {quote name} for reading: {o.words}\n"

/-- The part that options ask for, the last of which counts; the text of a count that is none. -/
def partOf (invert : Char) (items : List Item) : Except String Part := do
  let asked := items.filterMap fun
    | .option 'n' (some text) => some (false, text)
    | .option 'c' (some text) => some (true, text)
    | _ => none
  let parts ← asked.mapM fun (bytes, text) =>
    let unit := if bytes then "bytes" else "lines"
    let (inverted, digits) := match text.toList with
      | c :: rest =>
        if c == invert then (true, String.ofList rest)
        else if c == '-' || c == '+' then (false, String.ofList rest)
        else (false, text)
      | [] => (false, text)
    match count? digits with
    | some n => .ok (Part.mk bytes n inverted)
    | none => .error s!"invalid number of {unit}: {quote digits}"
  return parts.getLast?.getD ⟨false, 10, false⟩

/-- The first lines or bytes of files. -/
def head : Tool := fun call =>
  let fail (text : String) : Result := of (fun _ => Work.fail 1 text) call
  match call.args with
  | first :: rest =>
    match olderForm '-' first with
    | some (.error c) => fail (usageComplaint "head" s!"invalid trailing option -- {c}")
    | some (.ok args) => run { call with args := args ++ rest }
    | none => run call
  | [] => run call
where
  run : Tool := withOptions "head" 1 partOptions fun items =>
    match partOf '-' items with
    | .ok part => writeParts "head" items part.beginning
    | .error complaint => Work.fail 1 s!"head: {complaint}\n"

/-- The last lines or bytes of files. -/
def tail : Tool := fun call =>
  let fail (text : String) : Result := of (fun _ => Work.fail 1 text) call
  match call.args with
  | first :: rest =>
    match (olderForm '-' first).or (if rest.length ≤ 1 then olderForm '+' first else none) with
    | some (.error _) =>
      fail
        s!"tail: option used in invalid context -- {String.ofList ((first.toList.drop 1).take 1)}\n"
    | some (.ok args) => run { call with args := args ++ rest }
    | none => run call
  | [] => run call
where
  run : Tool := withOptions "tail" 1 partOptions fun items =>
    match partOf '+' items with
    | .ok part => writeParts "tail" items part.ending
    | .error complaint => Work.fail 1 s!"tail: {complaint}\n"

/-! ### In reverse -/

/-- The lines of files, last line first. -/
def tac : Tool :=
  withOptions "tac" 1 (Options.make "brs:" []) fun items => do
    let complaint (name : String) (o : Obstacle) : String :=
      match o with
      | .isADirectory => s!"tac: {shown name}: read error: Invalid argument\n"
      | o => s!"tac: failed to open {quote name} for reading: {o.words}\n"
    eachSource 1 complaint (sources (operands items)) fun _ text =>
      Work.say (String.join (linesOf text).reverse)

/-- The lines of files, each from its end to its beginning. -/
def rev : Tool :=
  withOptions "rev" 1 (Options.make "" []) fun items =>
    let reversed (line : String) : String :=
      String.ofList (lineBody line).toList.reverse ++ if line.endsWith "\n" then "\n" else ""
    eachSource 1 (fun name o => s!"rev: cannot open {name}: {o.words}\n")
      (sources (operands items)) fun _ text =>
        Work.say (String.join ((linesOf text).map reversed))

end NavScript.Tool
