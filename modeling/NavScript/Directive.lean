import NavScript.Geometry.WellKnownText

namespace NavScript

open NavScript.Geometry

/-!
# Directives

What the simulator is told, one line each.  A directive holds its numbers; only `render` writes
them, all with the same count of decimal places.

* `Directive` — the lines that a compiled script is made of
* `Directive.numbers` — the numbers that a directive writes
* `Directive.render` — its line
* `Directive.renderAll?` — the lines of several, unless a number has too many places
-/

/-- One line for the simulator. -/
inductive Directive where
  /-- A command of the simulator's own. -/
  | handedOn (words : List String)
  | arenaSize (side : Float)
  | arena (rings : List Path)
  | addLabel (position : Vertex) (text : String)
  | goto (position : Vertex)
  | placeAgent (position : Vertex) (heading : Float)
  | fence (name : String) (ring : Path)

namespace Directive

/-- The coordinates of a path, in order. -/
def coordinates (path : Path) : List Float :=
  path.flatMap fun v => [v.x, v.y]

/-- The numbers that a directive writes, in order. -/
def numbers : Directive → List Float
  | handedOn _ => []
  | arenaSize side => [side]
  | arena rings => rings.flatMap coordinates
  | addLabel p _ => [p.x, p.y]
  | goto p => [p.x, p.y]
  | placeAgent p heading => [p.x, p.y, heading]
  | fence _ ring => coordinates ring

/-- The line of a directive, its numbers with the given count of places. -/
def render (places : Nat) : Directive → String
  | handedOn words => " ".intercalate words
  | arenaSize side => "set-arena-size " ++ Decimal.fixed places side
  | arena rings => "set-arena " ++ multipolygon places rings
  | addLabel p text => "add-label " ++ pair places p ++ " " ++ text
  | goto p => "goto " ++ pair places p
  | placeAgent p heading => "place-agent " ++ pair places p ++ " " ++ Decimal.fixed places heading
  | fence name ring => "set-fence " ++ name ++ " " ++ multipolygon places [ring]

/-- The directives can be written: the count of places is within its limit, or there is no
    number. -/
def writable (places : Nat) (ds : List Directive) : Bool :=
  places ≤ Decimal.placesLimit || ds.all fun d => d.numbers.isEmpty

/-- The lines of directives that can be written. -/
def renderAll? (places : Nat) (ds : List Directive) : Option (List String) :=
  if writable places ds then some (ds.map (render places)) else none

/-- Up to the limit on places everything can be written. -/
theorem renderAll?_of_le {places : Nat} (h : places ≤ Decimal.placesLimit) (ds : List Directive) :
    renderAll? places ds = some (ds.map (render places)) := by
  simp [renderAll?, writable, h]

end Directive

end NavScript
