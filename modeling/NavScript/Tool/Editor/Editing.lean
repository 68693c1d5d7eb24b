import NavScript.Tool.Copy
import NavScript.Tool.Editor.Script

namespace NavScript.Tool.Editor

/-!
# The stream editor at work

Every line is taken through the whole script and then written.  A second text is kept from line to
line.

* `Line` — a line of the input
* `Editing` — how far the editor has come
* `Script.run` — all lines edited
-/

/-! ### Input and progress -/

/-- A line of the input: its text and number, whether it has an end, its file, and whether it is the
    last one as far as scripts can tell. -/
structure Line where
  text : String
  number : Nat
  ended : Bool
  file : String
  last : Bool

/-- How far a range has come. -/
inductive RangeState where
  | active (until? : Option Nat)
  | closed
  deriving DecidableEq

/-- How far the editor has come.  `unended` says that the last line written has no end so far. -/
structure Editing where
  rest : List Line
  current : Line
  pattern : String
  held : String
  queued : List String
  replaced : Bool
  ranges : List (Nat × RangeState)
  lastRegex : Option Regex
  out : List String
  unended : Bool
  complaints : List String
  files : List (String × String)
  /-- The files that can be read on the way. -/
  read : String → Option String
  separator : String
  width : Nat
  /-- An expression was to be the one used last, and there was none. -/
  spoiled : Bool

namespace Editing

/-- The number of the line. -/
def number (e : Editing) : Nat := e.current.number

/-- A text with an end written. -/
def put (e : Editing) (text : String) : Editing :=
  { e with
    out := text :: (if e.unended then e.separator :: e.out else e.out)
    unended := false }

/-- A line written, which has no end where the line of the input has none. -/
def putLine (e : Editing) (text : String) : Editing :=
  let e := e.put text
  if e.current.ended then { e with out := e.separator :: e.out } else { e with unended := true }

/-- A line written to a file. -/
def putFile (e : Editing) (name text : String) : Editing :=
  if name == "/dev/stdout" then e.putLine text
  else if name == "/dev/stderr" then { e with complaints := (text ++ "\n") :: e.complaints }
  else
    let before := (e.files.lookup name).getD ""
    { e with files := (name, before ++ text ++ "\n") :: e.files.filter (·.1 != name) }

/-- What has been queued written behind the line. -/
def flush (e : Editing) : Editing :=
  { e.queued.reverse.foldl put e with queued := [] }

/-! ### Matching -/

/-- The expression to match with. -/
def regexOf (e : Editing) (x : Expression) : Option Regex :=
  x.regex.or e.lastRegex

/-- A text as an expression sees it. -/
def subject (x : Expression) (text : String) : Regex.Subject :=
  ⟨text.toList.toArray, x.foldCase, x.lines⟩

/-- An expression matches the line. -/
def matches? (e : Editing) (x : Expression) : Bool × Editing :=
  match e.regexOf x with
  | none => (false, { e with spoiled := true })
  | some r => ((r.find? (subject x e.pattern) 0).isSome, { e with lastRegex := some r })

/-- The line is the one that an address asks for. -/
def isAt (e : Editing) : Address → Bool × Editing
  | .line n => (e.number == n, e)
  | .every first step => (first ≤ e.number && (e.number - first) % step == 0, e)
  | .last => (e.current.last, e)
  | .matching x => e.matches? x

/-- A range's state changed. -/
def setRange (e : Editing) (index : Nat) (state : Option RangeState) : Editing :=
  let others := e.ranges.filter (·.1 != index)
  { e with ranges := match state with
    | some state => (index, state) :: others
    | none => others }

/-- A range begins with the line. -/
def beginRange (e : Editing) (index : Nat) (last : RangeEnd) : Editing :=
  let upTo (n : Nat) : Editing :=
    if n ≤ e.number then e else e.setRange index (some (.active (some n)))
  match last with
  | .address (.line n) => upTo n
  | .more n => upTo (e.number + n)
  | .multiple n => upTo (if n = 0 then 0 else (e.number / n + 1) * n)
  | .address _ => e.setRange index (some (.active none))

/-- The line is in a range. -/
def inRange (e : Editing) (index : Nat) (first : Address) (last : RangeEnd) : Bool × Editing :=
  let state := match e.ranges.lookup index, first with
    | none, .line 0 => some (RangeState.active none)
    | state, _ => state
  match state with
  | some (.active (some n)) =>
    if n ≤ e.number then
      (e.number ≤ n, e.setRange index (some .closed))
    else (true, e)
  | some (.active none) =>
    match last with
    | .address a =>
      let (ends, e) := e.isAt a
      (true, e.setRange index (some (if ends then .closed else .active none)))
    | _ => (true, e)
  | _ =>
    let (begins, e) := e.isAt first
    if begins then (true, e.beginRange index last) else (false, e)

/-- A command is meant for the line. -/
def isMeant (e : Editing) (index : Nat) (s : Selection) : Bool × Editing :=
  let (found, e) := match s.first, s.last with
    | none, _ => (true, e)
    | some first, none => e.isAt first
    | some first, some last => e.inRange index first last
  (found != s.negated, e)

/-! ### Substitution -/

/-- A text with the letters of it changed, and what becomes of the letters behind it. -/
def cased (once lasting : Casing) (text : String) : String × Casing :=
  let change (c : Casing) (d : Char) : Char :=
    match c with
    | .upper | .upperNext => d.toUpper
    | .lower | .lowerNext => d.toLower
    | .keep => d
  match text.toList with
  | [] => ("", once)
  | first :: rest =>
    let front := change (if once == .keep then lasting else once) first
    (String.ofList (front :: rest.map (change lasting)), .keep)

/-- What replaces a match. -/
def replacementText (s : Regex.Subject) (m : Regex.Match) (pieces : List Replacement) : String :=
  let step (done : List String × Casing × Casing) (piece : Replacement) :=
    let (texts, once, lasting) := done
    let add (text : String) :=
      let (text, once) := cased once lasting text
      (text :: texts, once, lasting)
    match piece with
    | .text chars => add chars
    | .group 0 => add (String.ofList (s.part m.first m.last))
    | .group n =>
      match m.captures.lookup n with
      | some (first, last) => add (String.ofList (s.part first last))
      | none => done
    | .casing .upperNext => (texts, .upperNext, lasting)
    | .casing .lowerNext => (texts, .lowerNext, lasting)
    | .casing c => (texts, .keep, c)
  String.join (pieces.foldl step ([], .keep, .keep)).1.reverse

/-- A text with matches replaced from a place on, added in reverse to `done`, and whether one has
    been replaced; `count` matches have been found, the last of which ended at `behind`.  `fuel`
    bounds the matches. -/
def substituted (s : Regex.Subject) (r : Regex) (sub : Substitution) :
    (fuel : Nat) → (i : Nat) → (behind : Option Nat) → (count : Nat) → (done : List String) →
    (hit : Bool) → List String × Bool
  | 0, i, _, _, done, hit => (String.ofList (s.part i s.text.size) :: done, hit)
  | fuel + 1, i, behind, count, done, hit =>
    match r.find? s i with
    | none => (String.ofList (s.part i s.text.size) :: done, hit)
    | some m =>
      let front := String.ofList (s.part i m.first)
      let emptyBehind := m.first == m.last && behind == some m.first
      -- behind a match that is empty one character is passed over
      let onward (done : List String) : Nat × List String :=
        if m.first == m.last then
          (m.last + 1, String.ofList (s.part m.last (m.last + 1)) :: done)
        else (m.last, done)
      if emptyBehind then
        let (i, done) := onward (front :: done)
        if s.text.size < i then (done, hit)
        else substituted s r sub fuel i none count done hit
      else
        let count := count + 1
        let wanted := max 1 sub.number
        let counts := count == wanted || (sub.all && wanted < count)
        let text := if counts then replacementText s m sub.replacement
          else String.ofList (s.part m.first m.last)
        let done := text :: front :: done
        let hit := hit || counts
        if counts && !sub.all then
          (String.ofList (s.part m.last s.text.size) :: done, hit)
        else
          let (next, done) := onward done
          if s.text.size < next then (done, hit)
          else substituted s r sub fuel next (some m.last) count done hit

/-- A substitution done. -/
def substitute (e : Editing) (sub : Substitution) : Editing :=
  match e.regexOf sub.expression with
  | none => { e with spoiled := true }
  | some r =>
    let e := { e with lastRegex := some r }
    let s := subject sub.expression e.pattern
    let (done, hit) := substituted s r sub (2 * s.text.size + 2) 0 none 0 [] false
    if !hit then e
    else
      let e := { e with pattern := String.join done.reverse, replaced := true }
      let e := if sub.printed then e.putLine e.pattern else e
      match sub.file with
      | some name => e.putFile name e.pattern
      | none => e

/-! ### Commands -/

/-- The text up to the first line feed, and what is behind it, if there is one. -/
def firstLine (text : String) : String × Option String :=
  let cs := text.toList
  match cs.dropWhile (· != '\n') with
  | [] => (text, none)
  | _ :: rest => (String.ofList (cs.takeWhile (· != '\n')), some (String.ofList rest))

/-- A character shown so that it can be told what it is. -/
def shownChar (c : Char) : String :=
  match [(7, "\\a"), (8, "\\b"), (9, "\\t"), (10, "\\n"), (11, "\\v"), (12, "\\f"), (13, "\\r"),
      (92, "\\\\")].lookup c.toNat with
  | some text => text
  | none =>
    if 32 ≤ c.toNat && c.toNat ≤ 126 then c.toString
    else
      let digits := String.ofList (Nat.toDigits 8 c.toNat)
      "\\" ++ "".pushn '0' (3 - digits.length) ++ digits

/-- The width of lines in which a text is shown where nothing else is said. -/
def shownWidth : Nat := 70

/-- A text shown in lines that are not wider than given, added to the line begun.  Of a width of one
    or less there is a single line. -/
def shownLines (width : Nat) (done line : String) : List String → String
  | [] => done ++ line ++ "$\n"
  | piece :: rest =>
    if 1 < width && width < line.length + piece.length + 1 then
      shownLines width (done ++ line ++ "\\\n") piece rest
    else shownLines width done (line ++ piece) rest

/-- What becomes of a line behind a command. -/
inductive Flow where
  | go (index : Nat)
  /-- The line is done with, and is written or not. -/
  | finish (print : Bool)
  /-- The script begins anew with the text that is left. -/
  | again
  | quit (print : Bool) (status : Nat)

/-- The next line of the input, which takes the place of the current one. -/
def advance (e : Editing) : Option Editing :=
  match e.rest with
  | [] => none
  | line :: rest =>
    let e := e.flush
    some { e with rest, current := line }

/-- A jump to a label, or to the end of the script. -/
def jumpTo (script : Script) (label : String) : Flow :=
  if label.isEmpty then .finish true
  else .go ((script.labels.lookup label).getD script.instructions.size)

/-- A command done whose place is given; `quiet` says that lines are written only on demand. -/
def act (script : Script) (quiet : Bool) (index : Nat) (range : Bool) (a : Action) (e : Editing) :
    Flow × Editing :=
  let go (e : Editing) : Flow × Editing := (.go (index + 1), e)
  let printed (e : Editing) : Editing := if quiet then e else e.putLine e.pattern
  match a with
  | .opening _ | .nothing => go e
  | .append text => go { e with queued := text :: e.queued }
  | .insert text => go (e.put text)
  | .replace text =>
    let isActive := range && match e.ranges.lookup index with
      | some (.active _) => true
      | _ => false
    (.finish false, if isActive then e else e.put text)
  | .jump label => (jumpTo script label, e)
  | .jumpIfReplaced label =>
    if e.replaced then (jumpTo script label, { e with replaced := false }) else go e
  | .jumpUnlessReplaced label =>
    if e.replaced then go { e with replaced := false } else (jumpTo script label, e)
  | .delete => (.finish false, e)
  | .deleteFirst =>
    match firstLine e.pattern with
    | (_, some rest) => (.again, { e with pattern := rest })
    | (_, none) => (.finish false, e)
  | .show width =>
    go (e.put (shownLines (width.getD e.width) "" "" (e.pattern.toList.map shownChar)))
  | .name => go (e.put (e.current.file ++ "\n"))
  | .get => go { e with pattern := e.held }
  | .getMore => go { e with pattern := e.pattern ++ "\n" ++ e.held }
  | .hold => go { e with held := e.pattern }
  | .holdMore => go { e with held := e.held ++ "\n" ++ e.pattern }
  | .exchange => go { e with pattern := e.held, held := e.pattern }
  | .next =>
    if e.rest.isEmpty then (.quit true 0, e)
    else
      match (printed e).advance with
      | some e => go { e with pattern := e.current.text }
      | none => (.quit true 0, e)
  | .nextMore =>
    let before := e.pattern
    match e.advance with
    | some e => go { e with pattern := before ++ "\n" ++ e.current.text }
    | none => (.quit true 0, e)
  | .print => go (e.putLine e.pattern)
  | .printFirst => go (e.put ((firstLine e.pattern).1 ++ e.separator))
  | .quit print status => (.quit print status, e)
  | .readFile name =>
    match e.read name with
    | some text => go { e with queued := text :: e.queued }
    | none => go e
  | .writeFile name onlyFirst =>
    go (e.putFile name (if onlyFirst then (firstLine e.pattern).1 else e.pattern))
  | .substitute sub => go (e.substitute sub)
  | .translate pairs =>
    go { e with pattern := String.ofList (e.pattern.toList.map fun c => (pairs.lookup c).getD c) }
  | .number => go (e.put (toString e.number ++ "\n"))
  | .clear => go { e with pattern := "" }

/-- The line taken through the script from a command on; `fuel` bounds the commands. -/
def cycle (script : Script) (quiet : Bool) : (fuel : Nat) → (index : Nat) → Editing → Flow × Editing
  | 0, _, e => (.finish true, e)
  | fuel + 1, index, e =>
    match script.instructions[index]? with
    | none => (.finish true, e)
    | some i =>
      let (meant, e) := e.isMeant index i.selection
      if e.spoiled then (.quit false 1, e)
      else if meant then
        match e.act script quiet index (i.selection.last.isSome && !i.selection.negated)
          i.action with
        | (.go index, e) =>
          if e.spoiled then (.quit false 1, e) else cycle script quiet fuel index e
        | (flow, e) => (flow, e)
      else
        match i.action with
        | .opening closedAt => cycle script quiet fuel (closedAt + 1) e
        | _ => cycle script quiet fuel (index + 1) e

/-- The number of commands that are thought of as endless. -/
def endless : Nat := 1000000000

/-- All lines from the current one on; `fuel` bounds the rounds.  The status to end with. -/
def lines (script : Script) (quiet : Bool) : (fuel : Nat) → Editing → Nat × Editing
  | 0, e => (0, e)
  | fuel + 1, e =>
    let finish (print : Bool) (e : Editing) : Editing :=
      (if print && !quiet then e.putLine e.pattern else e).flush
    match e.cycle script quiet endless 0 with
    | (.quit print status, e) => (status, finish print e)
    | (.again, e) => lines script quiet fuel e.flush
    | (flow, e) =>
      let e := finish (match flow with
        | .finish print => print
        | _ => true) e
      match e.advance with
      | some e => lines script quiet fuel { e with pattern := e.current.text, replaced := false }
      | none => (0, e)

end Editing

/-- The lines of files, of which the last one is that of all files or of each. -/
def linesOfFiles (separator : Char) (separate : Bool)
    (files : List (String × String)) : List Line :=
  let cut (file : String × String) : List Line :=
    let parts := file.2.splitOn separator.toString
    let ended := parts.dropLast.map fun text => Line.mk text 0 true file.1 false
    match parts.getLast? with
    | some "" | none => ended
    | some text => ended ++ [⟨text, 0, false, file.1, false⟩]
  let number (lines : List Line) : List Line :=
    lines.zipIdx.map fun (line, n) => { line with number := n + 1 }
  let mark (lines : List Line) : List Line :=
    match lines.reverse with
    | last :: before => ({ last with last := true } :: before).reverse
    | [] => []
  if separate then (files.map fun file => mark (number (cut file))).flatten
  else mark (number (files.flatMap cut))

/-- What editing comes to. -/
structure Edited where
  status : Nat
  output : String
  complaints : List String
  files : List (String × String)

/-- All lines edited by a script. -/
def Script.run (script : Script) (quiet : Bool) (separator : Char) (width : Nat)
    (read : String → Option String) (files : List (String × String)) (lines : List Line) : Edited :=
  match lines with
  | [] => ⟨0, "", [], files⟩
  | first :: rest =>
    let e : Editing := ⟨rest, first, first.text, "", [], false, [], none, [], false, [], files,
      read, separator.toString, width, false⟩
    let (status, e) := e.lines script quiet Editing.endless
    let fault := if e.spoiled then
      ["sed: -e expression #1, char 0: no previous regular expression\n"] else []
    ⟨status, String.join e.out.reverse, e.complaints.reverse ++ fault, e.files⟩

end NavScript.Tool.Editor
