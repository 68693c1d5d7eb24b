namespace NavScript.Shell

/-!
# Shell commands

A shell program is a list of commands, and a command is made of words.  What a word stands for is
found only when its command runs; until then it is a list of pieces.

* `Piece`, `Word` — words
* `Redirection` — where a command reads and writes
* `Command` — commands
-/

/-- What a word does for a parameter. -/
inductive Alteration where
  /-- It stands in for a value that is not there. -/
  | default
  /-- It stands in for a value that is not there, and becomes that value. -/
  | assign
  /-- It is the complaint about a value that is not there. -/
  | require
  /-- It replaces a value that is there. -/
  | instead
  /-- It is a pattern for what is cut from the front of the value. -/
  | withoutFront (longest : Bool)
  /-- It is a pattern for what is cut from the back of the value. -/
  | withoutBack (longest : Bool)
  deriving DecidableEq

/-- How a redirection opens its descriptor. -/
inductive Opening where
  | reading
  | writing
  /-- Writing where an option would forbid to replace a file. -/
  | replacing
  | appending
  | both
  /-- The descriptor becomes that of the number, or closed. -/
  | duplicate
  /-- The descriptor reads a text of the program, which is known by its number. -/
  | document (number : Nat)
  deriving DecidableEq

mutual

/-- A piece of a word.  What is quoted is neither cut into fields nor read as a pattern. -/
inductive Piece where
  | text (quoted : Bool) (chars : String)
  | value (quoted : Bool) (name : String)
  | length (quoted : Bool) (name : String)
  /-- A parameter's value as a word changes it; with `nullToo` a value without characters counts as
      one that is not there. -/
  | altered (quoted : Bool) (name : String) (nullToo : Bool) (how : Alteration) (word : List Piece)
  | malformed
  | output (quoted : Bool) (command : Command)
  | number (quoted : Bool) (expression : List Piece)

/-- A change of a descriptor, which lasts as long as the command. -/
inductive Redirection where
  | mk (descriptor : Nat) (how : Opening) (target : List Piece)

/-- A command.  Complaints about a command name its line. -/
inductive Command where
  | empty
  | simple (line : Nat) (assignments : List (String × List Piece)) (words : List (List Piece))
      (redirections : List Redirection)
  | pipeline (commands : List Command)
  | negation (command : Command)
  | andThen (first second : Command)
  | orElse (first second : Command)
  | sequence (first second : Command)
  | background (line : Nat) (command : Command)
  | subshell (line : Nat) (body : Command) (redirections : List Redirection)
  | redirected (line : Nat) (body : Command) (redirections : List Redirection)
  | condition (test yes no : Command)
  /-- A loop that runs as long as its test succeeds, or as long as that fails. -/
  | loop (whileFailing : Bool) (test body : Command)
  /-- A loop over words, or over the positional parameters when none are given. -/
  | each (line : Nat) (name : String) (items : Option (List (List Piece))) (body : Command)
  | selection (line : Nat) (subject : List Piece) (branches : List (List (List Piece) × Command))
  | definition (line : Nat) (name : String) (body : Command)

end

/-- A word: its pieces stand side by side. -/
abbrev Word := List Piece

instance : Inhabited Command := ⟨.empty⟩

end NavScript.Shell
