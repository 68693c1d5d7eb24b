import NavScript.Text.CharacterSet

namespace NavScript

open NavScript.Text

/-!
# Regular expressions

An expression matches a part of a text.  Of all matches the one that begins first counts, of those
the longest one, and of those the one found first when earlier alternatives and more rounds come
first.

* `Regex` — expressions
* `Regex.ends` — where the matches from a given place end
* `Regex.find?` — the match that counts
-/

/-- A place that an expression can ask for. -/
inductive Regex.Edge where
  | lineStart
  | lineEnd
  | textStart
  | textEnd
  | wordStart
  | wordEnd
  | wordEdge
  | noWordEdge
  deriving DecidableEq, Repr

/-- A regular expression. -/
inductive Regex where
  | empty
  | any
  | char (c : Char)
  | set (negated : Bool) (members : List Member)
  | edge (e : Regex.Edge)
  | both (first second : Regex)
  | either (first second : Regex)
  /-- An expression at least and at most so many times over. -/
  | repeated (r : Regex) (least : Nat) (most : Option Nat)
  /-- An expression whose match is remembered under a number. -/
  | group (number : Nat) (r : Regex)
  /-- What the group of a number has matched. -/
  | again (number : Nat)

namespace Regex

/-- A text to look for matches in: whether upper and lower case are one, and whether every line has
    a start and an end of its own. -/
structure Subject where
  text : Array Char
  foldCase : Bool
  lines : Bool

/-- What groups have matched, by their numbers: from where to where. -/
abbrev Captures := List (Nat × Nat × Nat)

namespace Subject

/-- A character of a word. -/
def isWordChar (c : Char) : Bool :=
  c.isAlphanum || c == '_'

/-- There is a word's character at a place. -/
def wordAt (s : Subject) (i : Nat) : Bool :=
  (s.text[i]?.map isWordChar).getD false

/-- There is a word's character in front of a place. -/
def wordBefore (s : Subject) (i : Nat) : Bool :=
  i != 0 && s.wordAt (i - 1)

/-- A place is as an expression asks for it. -/
def isAt (s : Subject) (i : Nat) : Edge → Bool
  | .textStart => i == 0
  | .textEnd => i == s.text.size
  | .lineStart => i == 0 || (s.lines && s.text[i - 1]? == some '\n')
  | .lineEnd => i == s.text.size || (s.lines && s.text[i]? == some '\n')
  | .wordStart => s.wordAt i && !s.wordBefore i
  | .wordEnd => s.wordBefore i && !s.wordAt i
  | .wordEdge => s.wordAt i != s.wordBefore i
  | .noWordEdge => s.wordAt i == s.wordBefore i

/-- Two characters are one. -/
def same (s : Subject) (c d : Char) : Bool :=
  c == d || (s.foldCase && c.toLower == d.toLower)

/-- A set holds a character. -/
def holds (s : Subject) (members : List Member) (c : Char) : Bool :=
  let among (c : Char) : Bool := members.any (·.holds c)
  among c || (s.foldCase && (among c.toLower || among c.toUpper))

/-- The characters from one place to another. -/
def part (s : Subject) (first last : Nat) : List Char :=
  (s.text.extract first last).toList

end Subject

/-- The end of a match, and what groups have matched. -/
abbrev End := Nat × Captures

/-- Ends in the order in which they are found, only the first one of each place. -/
def tidied (ends : List End) : List End :=
  match ends with
  | [] | [_] => ends
  | ends =>
    let sorted := ends.zipIdx.mergeSort fun a b => a.1.1 ≤ b.1.1
    let single := sorted.foldr (fun e rest => e :: rest.dropWhile (·.1.1 == e.1.1)) []
    (single.mergeSort fun a b => a.2 ≤ b.2).map (·.1)

/-- One character more, if it fits. -/
def next (s : Subject) (fits : Char → Bool) (i : Nat) (c : Captures) : List End :=
  match s.text[i]? with
  | some d => if fits d then [(i + 1, c)] else []
  | none => []

/-- The ends of the matches of an expression repeated, given those of one round; `done` are the ends
    that have been reached so far, after `count` rounds the last of them.  `fuel` bounds the
    rounds. -/
def rounds (one : End → List End) (least : Nat) (most : Option Nat) :
    (fuel : Nat) → (count : Nat) → (done : List End) → (last : List End) → List End
  | 0, _, done, _ => done
  | fuel + 1, count, done, last =>
    let done := if least ≤ count then last ++ done else done
    if last.isEmpty || most == some count then done
    else
      let onward (e : End) : List End :=
        (one e).filter fun f => e.1 < f.1 || count < least
      rounds one least most fuel (count + 1) done (tidied (last.flatMap onward))

/-- Where the matches of an expression end that begin at a place, in the order in which they are
    found. -/
def ends (s : Subject) : Regex → Nat → Captures → List End
  | empty, i, c => [(i, c)]
  | any, i, c => next s (fun _ => true) i c
  | char d, i, c => next s (s.same d) i c
  | set negated members, i, c => next s (fun d => s.holds members d != negated) i c
  | edge e, i, c => if s.isAt i e then [(i, c)] else []
  | both first second, i, c =>
    match ends s first i c with
    | [] => []
    | [(j, c)] => ends s second j c
    | all => tidied (all.flatMap fun (j, c) => ends s second j c)
  | either first second, i, c => tidied (ends s first i c ++ ends s second i c)
  | repeated r least most, i, c =>
    tidied (rounds (fun (j, c) => ends s r j c) least most (s.text.size + least + 2) 0 [] [(i, c)])
  | group number r, i, c =>
    (ends s r i c).map fun (j, c) => (j, (number, i, j) :: c.filter (·.1 != number))
  | again number, i, c =>
    match c.lookup number with
    | none => []
    | some (first, last) =>
      let wanted := s.part first last
      let found := s.part i (i + wanted.length)
      if found.length == wanted.length && (found.zip wanted).all fun (c, d) => s.same c d then
        [(i + wanted.length, c)]
      else []

/-- A match: where it begins and ends, and what groups have matched. -/
structure Match where
  first : Nat
  last : Nat
  captures : Captures

/-- The first match at one of so many places from the given one on. -/
def findFrom (s : Subject) (r : Regex) : (places : Nat) → (i : Nat) → Option Match
  | 0, _ => none
  | places + 1, i =>
    match r.ends s i [] with
    | first :: more =>
      let (j, c) := more.foldl (fun a b => if a.1 < b.1 then b else a) first
      some ⟨i, j, c⟩
    | [] => findFrom s r places (i + 1)

/-- The match that counts, from the given place on. -/
def find? (s : Subject) (r : Regex) (i : Nat) : Option Match :=
  findFrom s r (s.text.size + 1 - i) i

/-- The number of groups in an expression. -/
def groups : Regex → Nat
  | both first second | either first second => first.groups + second.groups
  | repeated r _ _ => r.groups
  | group _ r => r.groups + 1
  | _ => 0

end Regex

end NavScript
