import NavScript.Error
import NavScript.Files.Basic

namespace NavScript

/-!
# Flatteners

Curves of a drawing are reduced to straight lines before it is read.  A flattener is given a file,
the identifiers of its paths and the greatest deviation allowed, and answers with the text of the
flattened drawing.  It works among the files, and it may change them.

* `Flattener` — a way of flattening
* `Flattener.asIs` — for drawings that hold no curves
* `Flattener.external` — by running a program
-/

/-- What a flattener is asked for. -/
structure Request where
  file : String
  ids : List String
  flatness : Float

/-- A way of flattening: for each request among given files, the text of the flattened drawing, and
    the files afterwards. -/
abbrev Flattener := Files → Request → Except Error String × Files

/-- A program that has ended: how, and what it wrote. -/
structure Finished where
  status : Status
  output : List UInt8
  errors : List UInt8

/-- The programs that can be run: what comes of each with given arguments among given files, and the
    files afterwards. -/
abbrev Programs := Files → String → List String → Except Obstacle Finished × Files

namespace Flattener

/-- A flattener that leaves the files alone. -/
def pure (answer : Files → Request → Except Error String) : Flattener := fun files r =>
  (answer files r, files)

/-- The file as it is. -/
def asIs : Flattener := pure fun files r =>
  (files.readText r.file).mapError fun obstacle => .io (.reading r.file) obstacle

/-- The arguments that a request adds: the flatness, each identifier, and the file last. -/
def requestArgs (r : Request) : List String :=
  ["--flatness", Decimal.shortest r.flatness] ++ r.ids.flatMap (["--id", ·]) ++ [r.file]

/-- What an ended program's outcome means: its output as text, unless it failed. -/
def outcome (program : String) (f : Finished) : Except Error String :=
  if f.status = .success then
    (Text.Utf8.decode f.output).mapError fun fault =>
      .io (.readingFlattener program) (.notTextAt fault)
  else
    .error (.flattenerFailed program f.status (Text.trimmed (Text.Utf8.decodeLossy f.errors)))

/-- What running a program comes to. -/
def ofRunning (program : String) : Except Obstacle Finished → Except Error String
  | .ok finished => outcome program finished
  | .error obstacle => .error (.io (.runningFlattener program) obstacle)

/-- A program run with fixed arguments before those of the request. -/
def external (programs : Programs) (program : String) (args : List String) : Flattener :=
  fun files r =>
    let (finished, files) := programs files program (args ++ requestArgs r)
    (ofRunning program finished, files)

end Flattener

end NavScript
