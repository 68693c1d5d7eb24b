import NavScript.Error

namespace NavScript

/-!
# Script commands

A script line is a keyword and its arguments.  Some keywords are the simulator's own and are handed
on; the others load a drawing or refer to the one loaded.

* `DrawingCommand`, `Command` — what a line asks for
* `Command.ofWords` — the command of a keyword and its arguments
-/

/-- What a line asks of the drawing that has been loaded. -/
inductive DrawingCommand where
  /-- The paths of a layer as the arena's polygons. -/
  | setArena (label : String)
  /-- The texts of a layer as labels. -/
  | addLabels (label : String)
  /-- The vertices of a path as waypoints. -/
  | followTrajectory (id : String)
  /-- The waypoints of a path up to the offset of the session's trajectory. -/
  | samplePerimeter (id : String)
  /-- An agent at the start of a path. -/
  | placeAgent (id : String)
  /-- A path as a fence. -/
  | setFence (id : String)

/-- What a script line asks for. -/
inductive Command where
  /-- A command of the simulator's own. -/
  | handOn
  | loadSvg (file : String) (scale : Float)
  | onDrawing (command : DrawingCommand)

namespace Command

/-- The keywords of the simulator's own commands. -/
def simulatorKeywords : List String :=
  ["trigger-reward", "seek-reward", "place-agent", "set-trial-phase", "goto", "set-title",
    "set-origin", "set-fence", "add-label", "set-scale-bars"]

/-- The first argument; arguments behind those a command asks for are ignored. -/
def argument (keyword name : String) : List String → Except Error String
  | a :: _ => .ok a
  | [] => .error (.badArguments keyword (.missing name))

/-- A scale: the numeral of a finite number. -/
def readScale (keyword text : String) : Except Error Float :=
  match Decimal.read? text with
  | some x => if x.isFinite then .ok x else .error (.badArguments keyword (.scale text))
  | none => .error (.badArguments keyword (.scale text))

/-- The command on a drawing with a given keyword: the name of its only argument, and the command
    for each argument. -/
def drawing? : String → Option (String × (String → DrawingCommand))
  | "set-arena-from-svg-layer" => some ("layer", .setArena)
  | "add-labels-from-svg-layer" => some ("layer", .addLabels)
  | "follow-trajectory-from-svg-path" => some ("path", .followTrajectory)
  | "sample-perimeter-from-svg-path" => some ("path", .samplePerimeter)
  | "place-agent-at-start-of-svg-path" => some ("path", .placeAgent)
  | "set-fence-from-svg-path" => some ("path", .setFence)
  | _ => none

/-- The command of a keyword and its arguments. -/
def ofWords (keyword : String) (args : List String) : Except Error Command :=
  if simulatorKeywords.contains keyword then .ok handOn
  else if keyword == "load-svg" then do
    let file ← argument keyword "file" args
    let text ← argument keyword "scale" args.tail
    return loadSvg file (← readScale keyword text)
  else
    match drawing? keyword with
    | some (name, command) => (argument keyword name args).map fun a => onDrawing (command a)
    | none => .error (.unknownCommand keyword)

/-- The command reads the drawing that has been loaded. -/
def needsDrawing : Command → Bool
  | onDrawing _ => true
  | _ => false

end Command

end NavScript
