import NavScript.Text.Utf8

namespace NavScript

/-!
# Obstacles

Why a file, a program or a stream could not be used, with the system's wording.
-/

/-- What stood in the way of reading, running or writing. -/
inductive Obstacle where
  | notFound
  | argumentsTooLong
  | permissionDenied
  | alreadyExists
  | notADirectory
  | isADirectory
  | nameTooLong
  | notEmpty
  | notOpen
  | nulInName
  | nulInArgument
  | notText
  | notTextAt (fault : Text.Utf8.Fault)
  | sinkFull
  | sinkBroken
  deriving DecidableEq, Repr

namespace Obstacle

/-- The system's words and number for an obstacle, if it is one of the system's own. -/
def system? : Obstacle → Option (String × Nat)
  | .notFound => some ("No such file or directory", 2)
  | .argumentsTooLong => some ("Argument list too long", 7)
  | .notOpen => some ("Bad file descriptor", 9)
  | .permissionDenied => some ("Permission denied", 13)
  | .alreadyExists => some ("File exists", 17)
  | .notADirectory => some ("Not a directory", 20)
  | .isADirectory => some ("Is a directory", 21)
  | .sinkFull => some ("No space left on device", 28)
  | .sinkBroken => some ("Broken pipe", 32)
  | .nameTooLong => some ("File name too long", 36)
  | .notEmpty => some ("Directory not empty", 39)
  | .nulInName | .nulInArgument | .notText | .notTextAt _ => none

/-- The obstacle in words. -/
def message (o : Obstacle) : String :=
  match o.system? with
  | some (words, number) => s!"{words} (os error {number})"
  | none =>
    match o with
    | .nulInName => "file name contained an unexpected NUL byte"
    | .nulInArgument => "nul byte found in provided data"
    | .notTextAt fault => fault.message
    | _ => "stream did not contain valid UTF-8"

/-- The obstacle in words, without the system's number for it. -/
def words (o : Obstacle) : String :=
  match o.system? with
  | some (words, _) => words
  | none => o.message

end Obstacle

end NavScript
