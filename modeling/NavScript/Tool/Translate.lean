import NavScript.Text.CharacterSet
import NavScript.Tool.Arguments
import NavScript.Tool.Print

namespace NavScript.Tool

open NavScript.Text

/-!
# Translating characters

* `Translation.members` — the characters that a set lists
* `tr` — the tool
-/

namespace Translation

/-- What is listed in a set: a character, a kind of characters, or a character as often as it
    takes. -/
inductive Listed where
  | char (c : Char)
  | range (low high : Char)
  | kind (name : String)
  | filling (c : Char) (count : Option Nat)

/-- The character at the front of a set, of which a backslash changes the meaning, and the rest. -/
def charAt : List Char → Option (Char × List Char)
  | '\\' :: rest =>
    match leadingDigits octalDigit? 8 3 rest with
    | (_, 0) =>
      match rest with
      | c :: rest =>
        match letterEscape? c with
        | some d => if c == 'e' then some (c, rest) else some (d, rest)
        | none => some (c, rest)
      | [] => some ('\\', [])
    | (n, taken) => some (byteChar n, rest.drop taken)
  | c :: rest => some (c, rest)
  | [] => none

/-- A set is at fault. -/
inductive Fault where
  | reversed (low high : Char)
  | unknownKind (name : String)

/-- The fault in words. -/
def Fault.message : Fault → String
  | reversed low high =>
    s!"range-endpoints of '{low}-{high}' are in reverse collating sequence order"
  | unknownKind name => s!"invalid character class '{name}'"

/-- The names of kinds. -/
def kindNames : List String :=
  ["alpha", "digit", "alnum", "upper", "lower", "space", "blank", "punct", "print", "graph",
    "cntrl",     "xdigit"]

/-- What a set lists, added in reverse to `done`; `fuel` bounds the characters. -/
def listed : (fuel : Nat) → (done : List Listed) → List Char → Except Fault (List Listed)
  | 0, done, _ | _, done, [] => .ok done.reverse
  | fuel + 1, done, cs => do
    let single : Except Fault (List Listed) := do
      match charAt cs with
      | none => return done.reverse
      | some (low, '-' :: rest) =>
        match charAt rest with
        | none => listed fuel (.char '-' :: .char low :: done) []
        | some (high, rest) =>
          if high < low then throw (.reversed low high)
          listed fuel (.range low high :: done) rest
      | some (c, rest) => listed fuel (.char c :: done) rest
    match cs with
    | '[' :: ':' :: rest =>
      let name := rest.takeWhile Char.isAlpha
      match rest.dropWhile Char.isAlpha with
      | ':' :: ']' :: rest =>
        let name := String.ofList name
        if kindNames.contains name then listed fuel (.kind name :: done) rest
        else throw (.unknownKind name)
      | _ => single
    | '[' :: '=' :: c :: '=' :: ']' :: rest => listed fuel (.char c :: done) rest
    | '[' :: rest =>
      match charAt rest with
      | some (c, '*' :: behind) =>
        let digits := behind.takeWhile Char.isDigit
        match behind.dropWhile Char.isDigit with
        | ']' :: rest =>
          let base := if digits.head? == some '0' then 8 else 10
          let n := digits.foldl (fun n d => base * n + (d.toNat - '0'.toNat)) 0
          listed fuel (.filling c (if n = 0 then none else some n) :: done) rest
        | _ => single
      | _ => single
    | _ => single

/-- All characters there are. -/
def allChars : List Char :=
  (List.range 256).map Char.ofNat

/-- The characters that one item lists, where a filling takes so many. -/
def Listed.chars (room : Nat) : Listed → List Char
  | char c => [c]
  | range low high => ((List.range (high.toNat + 1)).drop low.toNat).map Char.ofNat
  | kind name => allChars.filter (isOfKind name)
  | filling c count => List.replicate (count.getD room) c

/-- The characters that a set lists, which a filling without a count makes as many as wanted. -/
def members (wanted : Nat) (items : List Listed) : List Char :=
  let fixed := items.foldl (fun count item => count + (item.chars 0).length) 0
  items.flatMap (·.chars (wanted - fixed))

/-- The second set made as long as the first by its last character. -/
def extended (wanted : Nat) (second : List Char) : List Char :=
  match second.getLast? with
  | some last => second ++ List.replicate (wanted - second.length) last
  | none => second

/-- Characters that stand several times over reduced to one each. -/
def squeezed (set : List Char) : List Char → List Char
  | c :: d :: rest =>
    if c == d && set.contains c then squeezed set (d :: rest) else c :: squeezed set (d :: rest)
  | cs => cs

/-- What becomes of characters. -/
structure Plan where
  deleted : List Char
  pairs : List (Char × Char)
  squeezed : List Char

/-- Characters as a plan changes them. -/
def Plan.run (p : Plan) (text : String) : String :=
  let kept := text.toList.filter fun c => !p.deleted.contains c
  let changed := kept.map fun c => (p.pairs.lookup c).getD c
  String.ofList (Translation.squeezed p.squeezed changed)

end Translation

open Translation

/-- The options of the tool. -/
def trOptions : Options :=
  { Options.make "cCdst"
      [("complement", 'c', .none), ("delete", 'd', .none), ("squeeze-repeats", 's', .none),
        ("truncate-set1", 't', .none)] with
    inOrder := true }

/-- The complaint about sets that are missing or too many. -/
def trUsage? (deletes squeezes : Bool) (sets : List String) : Option String :=
  let least := if deletes == squeezes then 2 else 1
  let most := if deletes && !squeezes then 1 else 2
  match sets.getLast? with
  | none => some "missing operand"
  | some last =>
    if sets.length < least then
      let reason :=
        if squeezes then "Two strings must be given when both deleting and squeezing repeats."
        else "Two strings must be given when translating."
      some s!"missing operand after {quote last}\n{reason}"
    else if most < sets.length then
      let extra := (sets[most]?).getD ""
      let reason := if sets.length == 2 then
        "\nOnly one string may be given when deleting without squeezing repeats." else ""
      some s!"extra operand {quote extra}{reason}"
    else none

/-- Characters of the input translated, squeezed or deleted. -/
def tr : Tool :=
  withOptions "tr" 1 trOptions fun items => do
    let deletes := has items 'd'
    let squeezes := has items 's'
    let sets := operands items
    match trUsage? deletes squeezes sets with
    | some complaint => Work.fail 1 (usageComplaint "tr" complaint)
    | none =>
      let read (text : String) := Translation.listed (text.length + 1) [] text.toList
      match sets.mapM read with
      | .error f => Work.fail 1 s!"tr: {f.message}\n"
      | .ok lists =>
        let first := members 0 (lists.headD [])
        let first := if has items 'c' || has items 'C' then
          allChars.filter (!first.contains ·) else first
        let second := (lists[1]?).map (members first.length)
        let translates := !deletes && second.isSome
        if translates && second == some [] && !has items 't' then
          Work.fail 1 "tr: when not truncating set1, string2 must be non-empty\n"
        else
          let given := second.getD []
          let wide := if has items 't' then given else extended first.length given
          let plan : Plan :=
            ⟨if deletes then first else [],
              if translates then (first.zip wide).reverse else [],
              if squeezes then second.getD first else []⟩
          Work.say (plan.run (← Work.takeInput))

end NavScript.Tool
