import NavScript.PathData.Token
import NavScript.Decimal.Numeral
import NavScript.Geometry.Transform

namespace NavScript.PathData

open NavScript.Geometry

/-!
# Points of path data

Path data is read from the left with a mode and a running point.  `M` and `L` make the following
pairs absolute, `m` and `l` relative to the running point, and `Z` or `z` repeats the first point
and ends the path.  Before its letters and numbers are read the text is limited in size, and while
they are read the points are limited in number and in their coordinates.

* `Fault` — why a text is no path data
* `points` — the points in the coordinates of the drawing
* `path` — the same points in the arena
-/

/-! ### Limits -/

/-- The greatest size of a text, in bytes of UTF-8. -/
def byteLimit : Nat := 8 * 1024 * 1024

/-- The greatest number of points read from pairs. -/
def pointLimit : Nat := 500000

/-- The greatest absolute value of a coordinate. -/
def coordinateLimit : Float := 10000000.0

/-- A finite number of at most the greatest absolute value. -/
def inBounds (x : Float) : Bool :=
  x.isFinite && -coordinateLimit ≤ x && x ≤ coordinateLimit

/-! ### Faults -/

/-- Why a text is no path data; tokens are given as they stand in the text. -/
inductive Fault where
  | tooLong (bytes : Nat)
  | closeBeforePoint
  | afterClose (token : String)
  | noOperator (token : String)
  | notANumber (token : String)
  | outOfBounds (token : String)
  | unpaired (token : String)
  | sumOutOfBounds
  | tooManyPoints
  | noPoint
  deriving DecidableEq, Repr

/-- The fault in words. -/
def Fault.message : Fault → String
  | .tooLong bytes => s!"{bytes} characters exceeds limit"
  | .closeBeforePoint => "close operator before any vertex"
  | .afterClose token => s!"close operator followed by '{token}', it must be the final token"
  | .noOperator token => s!"coordinate '{token}' before any move/line operator"
  | .notANumber token => s!"unexpected token '{token}'"
  | .outOfBounds token => s!"coordinate '{token}' out of bounds"
  | .unpaired token => s!"x coordinate '{token}' has no y"
  | .sumOutOfBounds => "accumulated coordinate out of bounds"
  | .tooManyPoints => "too many vertices"
  | .noPoint => "no vertices"

/-! ### Reading -/

/-- How a pair of numbers gives a point. -/
inductive Mode where
  | absolute
  | relative
  deriving DecidableEq, Repr

/-- What an operator letter does. -/
inductive Operator where
  | mode (m : Mode)
  | close
  deriving DecidableEq, Repr

/-- The operator of a token, if it is one. -/
def Operator.ofToken? : List Char → Option Operator
  | [c] =>
    if c == 'M' || c == 'L' then some (.mode .absolute)
    else if c == 'm' || c == 'l' then some (.mode .relative)
    else if c == 'Z' || c == 'z' then some .close
    else none
  | _ => none

/-- A token read as a coordinate within bounds. -/
def coordinate (token : List Char) : Except Fault Float :=
  match Decimal.readChars? token with
  | none => .error (.notANumber (String.ofList token))
  | some x => if inBounds x then .ok x else .error (.outOfBounds (String.ofList token))

/-- Two tokens read as the coordinates of one pair. -/
def pair (x y : List Char) : Except Fault Point := do
  let x ← coordinate x
  let y ← coordinate y
  return ⟨x, y⟩

/-- The running point after a pair. -/
def Mode.advance (m : Mode) (origin p : Point) : Except Fault Point :=
  match m with
  | .absolute => .ok p
  | .relative =>
    let sum : Point := ⟨p.x + origin.x, p.y + origin.y⟩
    if inBounds sum.x && inBounds sum.y then .ok sum else .error .sumOutOfBounds

/-- What has been read: the mode, the running point, and the points with their number, last
    first. -/
structure Pen where
  mode : Option Mode
  position : Point
  count : Nat
  drawn : List Point

namespace Pen

/-- Nothing read yet: no mode, and the running point at the origin. -/
def start : Pen := ⟨none, ⟨0.0, 0.0⟩, 0, []⟩

/-- One more point. -/
def draw (pen : Pen) (p : Point) : Except Fault Pen :=
  if pointLimit ≤ pen.count then .error .tooManyPoints
  else .ok ⟨pen.mode, p, pen.count + 1, p :: pen.drawn⟩

/-- A pair of coordinate tokens, of which the second may be missing. -/
def drawPair (pen : Pen) (x : List Char) (y : Option (List Char)) : Except Fault Pen :=
  match pen.mode with
  | none => .error (.noOperator (String.ofList x))
  | some mode =>
    match y with
    | none => (coordinate x).bind fun _ => .error (.unpaired (String.ofList x))
    | some y => (pair x y).bind fun p => (mode.advance pen.position p).bind pen.draw

/-- The points once the last token has been read. -/
def finish (pen : Pen) : Except Fault (List Point) :=
  if pen.drawn.isEmpty then .error .noPoint else .ok pen.drawn.reverse

/-- The points once a close operator has been read, given the tokens after it: the first point is
    repeated, and no token may follow. -/
def close (pen : Pen) (rest : List (List Char)) : Except Fault (List Point) :=
  match pen.drawn.getLast?, rest with
  | none, _ => .error .closeBeforePoint
  | some _, token :: _ => .error (.afterClose (String.ofList token))
  | some first, [] => .ok (first :: pen.drawn).reverse

end Pen

/-- The points of a token sequence, continued from what has been read. -/
def pointsOfTokens (pen : Pen) : List (List Char) → Except Fault (List Point)
  | [] => pen.finish
  | token :: rest =>
    match Operator.ofToken? token with
    | some (.mode m) => pointsOfTokens { pen with mode := some m } rest
    | some .close => pen.close rest
    | none =>
      match rest with
      | [] =>
        match pen.drawPair token none with
        | .ok pen => pen.finish
        | .error e => .error e
      | y :: rest =>
        match pen.drawPair token (some y) with
        | .ok pen => pointsOfTokens pen rest
        | .error e => .error e

/-- The points of path data, in the coordinates of the drawing. -/
def points (d : String) : Except Fault (List Point) :=
  if byteLimit < d.utf8ByteSize then .error (.tooLong d.utf8ByteSize)
  else pointsOfTokens .start (tokens d.toList)

/-- The path that path data describes in the arena. -/
def path (d : String) (t : Transform) : Except Fault Path :=
  (points d).map t.applyAll

end NavScript.PathData
