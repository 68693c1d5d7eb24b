import NavScript.Json.Record
import NavScript.Error

namespace NavScript

/-!
# Options

The settings of a run, read from a JSON record in which every field may be left out.

* `Options` — the settings with their defaults
* `Options.ofText` — a text read as options
-/

/-- The settings of a run. -/
structure Options where
  /-- The program that turns curves into straight lines. -/
  flattener : String := "/usr/share/inkscape/extensions/flatten.py"
  /-- Its arguments before those that each run adds. -/
  flattenerArgs : List String := []
  /-- The greatest deviation allowed to it. -/
  flatness : Float := 0.1
  /-- The side of the arena in units of the drawing. -/
  arenaSize : Float := 200.0
  /-- The count of decimal places of every number written. -/
  precision : Nat := 6

namespace Options

open Json (Value Record)

/-- The fields in the order of their declaration. -/
def fields : List String :=
  ["flattener", "flattener_args", "flatness", "arena_size", "precision"]

/-- One field set, if the value is of its type; a count of places is a natural number. -/
def set? (o : Options) (field : String) (v : Value) : Option Options :=
  match field, v with
  | "flattener", .text s => some { o with flattener := s }
  | "flattener_args", .texts items => some { o with flattenerArgs := items }
  | "flatness", .number n => some { o with flatness := n.toFloat }
  | "arena_size", .number n => some { o with arenaSize := n.toFloat }
  | "precision", .number (.natural n) => some { o with precision := n }
  | _, _ => none

/-- Fields set one after the other; none may occur twice. -/
def setAll? (o : Options) (seen : List String) : List (String × Value) → Option Options
  | [] => some o
  | (field, v) :: rest =>
    if seen.contains field then none
    else (o.set? field v).bind fun o => o.setAll? (field :: seen) rest

/-- A record as options: fields by name, or in the order of their declaration. -/
def ofRecord? : Record → Option Options
  | .named members => setAll? {} [] members
  | .placed items =>
    if fields.length < items.length then none else setAll? {} [] (fields.zip items)

/-- A finite number above zero. -/
def isPositive (x : Float) : Bool :=
  x.isFinite && 0.0 < x

/-- The flatness, then the size of the arena, must be positive. -/
def validate (o : Options) : Except Error Options :=
  if !isPositive o.flatness then .error (.outOfRange (.flatness o.flatness))
  else if !isPositive o.arenaSize then .error (.outOfRange (.arenaSize o.arenaSize))
  else .ok o

/-- A text read as options. -/
def ofText (text : String) : Except Error Options :=
  match (Json.record? text.toList).bind ofRecord? with
  | some o => o.validate
  | none => .error .options

end Options

end NavScript
