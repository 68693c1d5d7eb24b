import NavScript.Text.CharacterSet

namespace NavScript.Shell

open NavScript.Text

/-!
# Patterns

A pattern stands for texts: a star for any characters, a question mark for one, and brackets for one
of several.  Characters that were quoted stand for themselves.

* `Pattern` — a pattern, character by character
* `Pattern.ofMarked` — the pattern that characters write
* `Pattern.accepts` — a text that a pattern stands for
-/

/-- A part of a pattern. -/
inductive Part where
  | char (c : Char)
  | any
  | several
  | set (negated : Bool) (members : List Member)
  deriving DecidableEq

/-- A pattern. -/
abbrev Pattern := List Part

/-! ### Reading patterns -/

/-- A character of a pattern, and whether it may have a meaning. -/
abbrev Marked := Bool × Char

/-- The name between `[:` and `:]` at the front of characters, and the rest. -/
def kindName? (cs : List Marked) : Option (String × List Marked) :=
  match cs with
  | (true, '[') :: (true, ':') :: rest =>
    let name := (rest.takeWhile fun m => m.2.isAlpha).map (·.2)
    match rest.dropWhile fun m => m.2.isAlpha with
    | (_, ':') :: (true, ']') :: rest => some (String.ofList name, rest)
    | _ => none
  | _ => none

/-- The members of a set up to the bracket that closes it, added in reverse to `done`, and the rest;
    nothing when it is never closed.  `fuel` bounds the characters. -/
def members? : (fuel : Nat) → (first : Bool) → (done : List Member) → List Marked →
    Option (List Member × List Marked)
  | 0, _, _, _ => none
  | fuel + 1, first, done, cs =>
    match kindName? cs with
    | some (name, rest) => members? fuel false (.kind name :: done) rest
    | none =>
      match cs with
      | [] => none
      | (active, c) :: rest =>
        if active && c == ']' && !first then some (done.reverse, rest)
        else
          match rest with
          | (true, '-') :: (top, d) :: behind =>
            if top && d == ']' then members? fuel false (.one c :: done) rest
            else members? fuel false (.range c d :: done) behind
          | _ => members? fuel false (.one c :: done) rest

/-- A set after its opening bracket, and the rest. -/
def set? (cs : List Marked) : Option (Part × List Marked) :=
  let (negated, cs) := match cs with
    | (true, '!') :: rest | (true, '^') :: rest => (true, rest)
    | cs => (false, cs)
  (members? (cs.length + 1) true [] cs).map fun (members, rest) => (.set negated members, rest)

namespace Pattern

/-- The pattern of characters, added in reverse to `done`; `fuel` bounds the characters. -/
def read : (fuel : Nat) → (done : Pattern) → List Marked → Pattern
  | 0, done, _ => done.reverse
  | _, done, [] => done.reverse
  | fuel + 1, done, (active, c) :: rest =>
    if !active then read fuel (.char c :: done) rest
    else
      match c with
      | '*' => read fuel (.several :: done) rest
      | '?' => read fuel (.any :: done) rest
      | '[' =>
        match set? rest with
        | some (part, rest) => read fuel (part :: done) rest
        | none => read fuel (.char '[' :: done) rest
      | '\\' =>
        match rest with
        | (_, e) :: rest => read fuel (.char e :: done) rest
        | [] => read fuel (.char '\\' :: done) []
      | c => read fuel (.char c :: done) rest

/-- The pattern that characters write. -/
def ofMarked (cs : List Marked) : Pattern :=
  read cs.length [] cs

/-- The pattern stands for more than one text, or can. -/
def isOpen (p : Pattern) : Bool :=
  p.any fun
    | .char _ => false
    | _ => true

/-! ### Matching -/

/-- A text that a pattern stands for. -/
def accepts : Pattern → List Char → Bool
  | [], cs => cs.isEmpty
  | .several :: p, cs => accepts p cs || (match cs with
    | [] => false
    | _ :: rest => accepts (.several :: p) rest)
  | .char c :: p, d :: rest => c == d && accepts p rest
  | .any :: p, _ :: rest => accepts p rest
  | .set negated members :: p, d :: rest => members.any (·.holds d) != negated && accepts p rest
  | _ :: _, [] => false
termination_by p cs => (p.length, cs.length)

/-- What is left of a text when the shortest or the longest front that a pattern stands for is cut
    off; all of it when there is none. -/
def cutFront (p : Pattern) (longest : Bool) (cs : List Char) : List Char :=
  let cuts := (List.range (cs.length + 1)).filter fun n => p.accepts (cs.take n)
  match if longest then cuts.getLast? else cuts.head? with
  | some n => cs.drop n
  | none => cs

/-- What is left of a text when the shortest or the longest back that a pattern stands for is cut
    off; all of it when there is none. -/
def cutBack (p : Pattern) (longest : Bool) (cs : List Char) : List Char :=
  let cuts := (List.range (cs.length + 1)).filter fun n => p.accepts (cs.drop n)
  match if longest then cuts.head? else cuts.getLast? with
  | some n => cs.take n
  | none => cs

end Pattern

end NavScript.Shell
