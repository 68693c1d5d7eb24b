import NavScript.Tool.Copy
import NavScript.Regex.Syntax

namespace NavScript.Tool

open NavScript.Text

/-!
# Searching

Lines of files in which patterns are found.

* `Search` — what is looked for
* `Report` — how what is found is shown
* `grep` — the tool
-/

/-- What is looked for: expressions of which one has to match, alone in its line or as a word of its
    own where that is asked for. -/
structure Search where
  patterns : List Regex
  foldCase : Bool
  wholeLines : Bool
  wholeWords : Bool
  /-- The lines without a match are looked for. -/
  inverted : Bool

namespace Search

/-- A match from one place to another is of the kind that is looked for. -/
def accepts (w : Search) (s : Regex.Subject) (first last : Nat) : Bool :=
  (!w.wholeLines || (first == 0 && last == s.text.size))
    && (!w.wholeWords || !(s.wordBefore first || s.wordAt last))

/-- The end of the longest match that begins at a place. -/
def endAt? (w : Search) (s : Regex.Subject) (i : Nat) : Option Nat :=
  let ends := w.patterns.flatMap fun r => (r.ends s i []).map (·.1)
  (ends.filter (w.accepts s i)).max?

/-- The first match at one of so many places from the given one on. -/
def find? (w : Search) (s : Regex.Subject) : (places : Nat) → (i : Nat) → Option (Nat × Nat)
  | 0, _ => none
  | places + 1, i =>
    match w.endAt? s i with
    | some j => some (i, j)
    | none => if w.wholeLines then none else w.find? s places (i + 1)

/-- A line as a text to look for matches in. -/
def subject (w : Search) (line : String) : Regex.Subject :=
  ⟨line.toList.toArray, w.foldCase, false⟩

/-- A line is among those looked for. -/
def chooses (w : Search) (line : String) : Bool :=
  let s := w.subject line
  (w.find? s (s.text.size + 1) 0).isSome != w.inverted

/-- The matches in a text from a place on that are not empty, one behind the other; `fuel` bounds
    their number. -/
def matchesFrom (w : Search) (s : Regex.Subject) : (fuel : Nat) → (i : Nat) → List (Nat × Nat)
  | 0, _ => []
  | fuel + 1, i =>
    match w.find? s (s.text.size + 1 - i) i with
    | none => []
    | some (first, last) =>
      if first < last then (first, last) :: w.matchesFrom s fuel last
      else w.matchesFrom s fuel (first + 1)

end Search

/-! ### Showing what is found -/

/-- How what is found is shown. -/
structure Report where
  named : Bool
  numbered : Bool
  placed : Bool
  matchesOnly : Bool
  before : Nat
  after : Nat
  /-- What stands between lines that do not follow each other. -/
  divider : Option String
  nameEnd : Option Char
  lineEnd : Char
  most : Option Nat

/-- A line of a file, its number, and the number of bytes in front of it. -/
structure Numbered where
  text : String
  number : Nat
  place : Nat

/-- Lines with their numbers and places. -/
def numberedLines (lines : List String) : List Numbered :=
  let step (done : List Numbered × Nat × Nat) (line : String) : List Numbered × Nat × Nat :=
    (⟨line, done.2.1, done.2.2⟩ :: done.1, done.2.1 + 1, done.2.2 + line.length + 1)
  (lines.foldl step ([], 1, 0)).1.reverse

namespace Report

/-- A line that has been found, or stands beside one, with what is put in front of it. -/
def line (r : Report) (name : String) (mark : Char) (l : Numbered) (skipped : Nat) (text : String) :
    String :=
  let front := if r.named then name.push (r.nameEnd.getD mark) else ""
  let number := if r.numbered then (toString l.number).push mark else ""
  let place := if r.placed then (toString (l.place + skipped)).push mark else ""
  (front ++ number ++ place ++ text).push r.lineEnd

/-- A line that has been found, or only its matches. -/
def found (r : Report) (w : Search) (name : String) (l : Numbered) : List String :=
  if r.matchesOnly then
    if w.inverted then []
    else
      let s := w.subject l.text
      (w.matchesFrom s (s.text.size + 1) 0).map fun (first, last) =>
        r.line name ':' l first (String.ofList (s.part first last))
  else [r.line name ':' l 0 l.text]

/-- Lines being gone through: what has been shown, last first, the number of the last line shown,
    the lines before the next one that may have to be shown, last first, how many behind a found one
    are still to be shown, and how many have been found. -/
structure Progress where
  shown : List String
  last : Option Nat
  waiting : List Numbered
  behind : Nat
  count : Nat

/-- Something has been shown with lines left out behind it, or in another file. -/
def isApart (r : Report) (p : Progress) (next : Nat) : Bool :=
  match p.last with
  | some last => (r.before != 0 || r.after != 0) && !r.matchesOnly && last + 1 != next
  | none => false

/-- The next line. -/
def step (r : Report) (w : Search) (name : String) (p : Progress) (l : Numbered) : Progress :=
  let done := (r.most.map fun n => decide (n ≤ p.count)).getD false
  if !done && w.chooses l.text then
    let beside := if r.matchesOnly then [] else p.waiting.reverse
    let next := (beside.head?.map (·.number)).getD l.number
    let divider := if r.isApart p next then (r.divider.map (·.push '\n')).toList else []
    let lines := divider ++ beside.map (fun b => r.line name '-' b 0 b.text) ++ r.found w name l
    ⟨lines.reverse ++ p.shown, some l.number, [], r.after, p.count + 1⟩
  else if 0 < p.behind && !r.matchesOnly then
    { p with
      shown := r.line name '-' l 0 l.text :: p.shown
      last := some l.number
      behind := p.behind - 1 }
  else { p with waiting := (l :: p.waiting).take r.before }

end Report

/-! ### The tool -/

/-- The options of the tool. -/
def grepOptions : Options :=
  Options.make "EFGPe:f:iywxzsvm:bnHhoqad:rRLlcTZA:B:C:UuI0123456789"
    [("extended-regexp", 'E', .none), ("fixed-strings", 'F', .none), ("basic-regexp", 'G', .none),
      ("perl-regexp", 'P', .none), ("regexp", 'e', .required), ("file", 'f', .required),
      ("ignore-case", 'i', .none), ("no-ignore-case", 'K', .none), ("word-regexp", 'w', .none),
      ("line-regexp", 'x', .none), ("null-data", 'z', .none), ("no-messages", 's', .none),
      ("invert-match", 'v', .none), ("max-count", 'm', .required), ("byte-offset", 'b', .none),
      ("line-number", 'n', .none), ("line-buffered", 'U', .none), ("with-filename", 'H', .none),
      ("no-filename", 'h', .none), ("label", 'J', .required), ("only-matching", 'o', .none),
      ("quiet", 'q', .none), ("silent", 'q', .none), ("text", 'a', .none),
      ("directories", 'd', .required), ("recursive", 'r', .none),
      ("dereference-recursive", 'R', .none), ("files-without-match", 'L', .none),
      ("files-with-matches", 'l', .none), ("initial-tab", 'T', .none), ("null", 'Z', .none),
      ("after-context", 'A', .required), ("before-context", 'B', .required),
      ("context", 'C', .required), ("color", 'M', .optional), ("colour", 'M', .optional),
      ("count", 'c', .none), ("group-separator", 'S', .required),
      ("no-group-separator", 'N', .none), ("binary", 'U', .none)]

/-- The complaint that shows how the tool is used. -/
def grepUsage : String :=
  "Usage: grep [OPTION]... PATTERNS [FILE]...\nTry 'grep --help' for more information.\n"

/-- The expression that matches a text itself. -/
def literally (text : String) : Regex :=
  text.toList.foldl (fun r c => .both r (.char c)) .empty

/-- What is looked for by the options and the texts of the patterns. -/
def searchOf (items : List Item) (letter : Char) (texts : List String) :
    Except Regex.SyntaxFault Search := do
  let patterns ← texts.mapM fun text =>
    if letter == 'F' then .ok (literally text)
    else Regex.read ⟨letter == 'E' || letter == 'P', false, true⟩ text
  return ⟨patterns, has items 'i' || has items 'y', has items 'x', has items 'w', has items 'v'⟩

/-- The number of lines beside those found that an option asks for. -/
def contextOf (items : List Item) (letter : Char) : Except String Nat := do
  let digits := items.filterMap fun
    | .option c none => if c.isDigit then some c else none
    | _ => none
  match (value? items letter).or (value? items 'C') with
  | some text =>
    match text.toNat? with
    | some n => return n
    | none => throw s!"{text}: invalid context length argument"
  | none => return (String.ofList digits).toNat?.getD 0

/-- How the options ask for what is found to be shown, given whether names are shown otherwise. -/
def reportOf (items : List Item) (several : Bool) : Except String Report := do
  let most ← match value? items 'm' with
    | some text =>
      match text.toNat? with
      | some n => .ok (some n)
      | none => .error "invalid max count"
    | none => .ok none
  return {
    named := has items 'H' || (several && !has items 'h')
    numbered := has items 'n'
    placed := has items 'b'
    matchesOnly := has items 'o'
    before := ← contextOf items 'B'
    after := ← contextOf items 'A'
    divider := if has items 'N' then none else some ((value? items 'S').getD "--")
    nameEnd := if has items 'Z' then some (Char.ofNat 0) else none
    lineEnd := if has items 'z' then Char.ofNat 0 else '\n'
    most }

/-- The texts of the patterns that options give, each line one of them, or the obstacle in the way
    of a file of them. -/
def patternTexts (items : List Item) : Work (Except (String × Obstacle) (List String)) := do
  let mut texts : List String := []
  for item in items do
    match item with
    | .option 'e' (some text) => texts := texts ++ text.splitOn "\n"
    | .option 'f' (some name) =>
      match ← Work.contents name with
      | .ok text => texts := texts ++ (linesOf text).map lineBody
      | .error o => return .error (name, o)
    | _ => Pure.pure ()
  return .ok texts

/-- The files below a directory, by the names that lead to them from there; `fuel` bounds how deep
    they are. -/
def filesBelow (files : Files) (place : Place) : (fuel : Nat) → (name : String) → List String
  | 0, _ => []
  | fuel + 1, name =>
    (files.names place).flatMap fun part =>
      let under := if name.isEmpty then part else if name.endsWith "/" then name ++ part
        else name ++ "/" ++ part
      match files.at? (place ++ [part]) with
      | some .directory => filesBelow files (place ++ [part]) fuel under
      | some _ => [under]
      | none => []

/-- The files to look into, in which directories are replaced by what is in them if that is asked
    for. -/
def searched (items : List Item) (names : List String) : Work (List String) := do
  let recursive := has items 'r' || has items 'R' || value? items 'd' == some "recurse"
  if !recursive then return sources names
  let files ← Work.files
  let mut all : List String := []
  for name in if names.isEmpty then [""] else names do
    match files.find (← Work.fullName (if name.isEmpty then "." else name)) with
    | .ok (place, some .directory) =>
      all := all ++ (filesBelow files place (files.entries.length + 1) name).map Narrow.ofText
    | _ => all := all ++ [name]
  return all

/-- What has been found in a text shown as it is asked for; whether that were lines of it. -/
def showFound (items : List Item) (r : Report) (name : String) (hidden : Bool)
    (p : Report.Progress) :
    Work Bool := do
  if has items 'q' then return false
  else if has items 'l' || has items 'L' then
    if (p.count != 0) == has items 'l' then Work.say (name.push (r.nameEnd.getD '\n'))
    return false
  else if has items 'c' then
    let front := if r.named then name.push (r.nameEnd.getD ':') else ""
    Work.say (front ++ toString p.count ++ "\n")
    return false
  else if hidden then
    if p.count != 0 then Work.complain s!"grep: {name}: binary file matches\n"
    return false
  else
    Work.say (String.join p.shown.reverse)
    return !p.shown.isEmpty

/-- The lines of a text that is searched. -/
def searchedLines (items : List Item) (text : String) : List String :=
  if has items 'z' then
    let parts := text.splitOn (Char.ofNat 0).toString
    if parts.getLast? == some "" then parts.dropLast else parts
  else (linesOf text).map lineBody

/-- Files searched, of which `total` lines have been found so far; `anyShown` says that lines have
    been shown, and `failed` that a file could not be read.  The search ends with the first line
    found when nothing is to be shown. -/
def searchFiles (items : List Item) (w : Search) (r : Report) (total : Nat)
    (anyShown failed : Bool) :
    List String → Work Unit
  | [] => Work.setStatus (if failed then 2 else if total = 0 then 1 else 0)
  | name :: rest => do
    match ← Work.contents name with
    | .ok text =>
      let title := if name == "-" then (value? items 'J').getD "(standard input)" else name
      let lines := searchedLines items text
      let last := if anyShown then some (lines.length + 1) else none
      let p := (numberedLines lines).foldl (r.step w title) ⟨[], last, [], 0, 0⟩
      let hidden := text.toList.contains (Char.ofNat 0) && !has items 'a' && !has items 'z'
      let shown ← showFound items r title hidden p
      if has items 'q' && p.count != 0 then Work.setStatus 0
      else searchFiles items w r (total + p.count) (anyShown || shown) failed rest
    | .error o =>
      let skipped := o == .isADirectory && value? items 'd' == some "skip"
      if !skipped && !has items 's' then Work.complain s!"grep: {name}: {o.words}\n"
      searchFiles items w r total anyShown (failed || !skipped) rest

/-- The kinds of patterns that options name. -/
def patternKinds (items : List Item) : List Char :=
  ['E', 'F', 'G', 'P'].filter (has items)

/-- The patterns searched for in the files that arguments name, given the kind of the patterns where
    none is named. -/
def grepWith (kind : Char) : Tool := fun call =>
  match grepOptions.read call.args with
  | .error complaint => of (fun _ => Work.fail 2 (s!"grep: {complaint}\n" ++ grepUsage)) call
  | .ok items =>
    of (fun _ => do
      let kinds := patternKinds items
      if 1 < kinds.length then Work.fail 2 "grep: conflicting matchers specified\n"
      else
        let texts ← patternTexts items
        let given := !(values items 'e' ++ values items 'f').isEmpty
        match texts, given, operands items with
        | .error (name, o), _, _ => Work.fail 2 s!"grep: {name}: {o.words}\n"
        | .ok _, false, [] => Work.fail 2 grepUsage
        | .ok _, false, text :: names => go items (kinds.headD kind) (text.splitOn "\n") names
        | .ok texts, true, names => go items (kinds.headD kind) texts names) call
where
  go (items : List Item) (kind : Char) (texts : List String) (names : List String) : Work Unit := do
    let deep := has items 'r' || has items 'R'
    match searchOf items kind texts, reportOf items (1 < names.length || deep) with
    | _, .error complaint => Work.fail 2 s!"grep: {complaint}\n"
    | .error fault, _ => Work.fail 2 s!"grep: {fault.message}\n"
    | .ok search, .ok report =>
      searchFiles items search report 0 false false (← searched items names)

/-- The lines of files in which patterns are found. -/
def grep : Tool := grepWith 'G'

end NavScript.Tool
