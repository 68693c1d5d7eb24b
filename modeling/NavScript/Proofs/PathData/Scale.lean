import Mathlib.Logic.Basic
import NavScript.Proofs.PathData.Limits

namespace NavScript.PathData

open NavScript.Geometry

/-!
# The scale of a path

Path data is read as points of the drawing, and these are put into the arena once all are read.  The
same path is got if every vertex is put into the arena as soon as it is read, while the running
point stays in the drawing, and the vertex that closes the path is the first one as it is in the
arena.  Of what decides whether a text is accepted, nothing depends on the scale.

* `Plotter` — what has been read, with the vertices in the arena
* `Plotter.drawPair`, `Plotter.close`, `plotTokens` — reading with the vertices put into the arena
* `Pen.plotted`, `plotTokens_plotted` — a pen and a plotter keep step
* `plot_eq_path` — the path is the same
* `refused_or_scaled` — what a text is at all scales
-/

/-! ### Vertices put into the arena as they are read -/

/-- What has been read: the mode, the running point in the drawing, and the vertices in the arena,
    last first. -/
structure Plotter where
  mode : Option Mode
  position : Point
  vertices : List Vertex

namespace Plotter

/-- Nothing read yet. -/
def start : Plotter := ⟨none, ⟨0.0, 0.0⟩, []⟩

variable (t : Transform) (plotter : Plotter)

/-- One more vertex, given by its point. -/
def draw (p : Point) : Except Fault Plotter :=
  if pointLimit ≤ plotter.vertices.length then .error .tooManyPoints
  else .ok ⟨plotter.mode, p, t.apply p :: plotter.vertices⟩

/-- A pair of coordinate tokens, of which the second may be missing. -/
def drawPair (x : List Char) (y : Option (List Char)) : Except Fault Plotter :=
  match plotter.mode with
  | none => .error (.noOperator (String.ofList x))
  | some mode =>
    match y with
    | none => (coordinate x).bind fun _ => .error (.unpaired (String.ofList x))
    | some y => (pair x y).bind fun p => (mode.advance plotter.position p).bind (plotter.draw t)

/-- The path once the last token has been read. -/
def finish : Except Fault Path :=
  if plotter.vertices.isEmpty then .error .noPoint else .ok plotter.vertices.reverse

/-- The path once a close operator has been read: its first vertex is repeated as it is. -/
def close (rest : List (List Char)) : Except Fault Path :=
  match plotter.vertices.getLast?, rest with
  | none, _ => .error .closeBeforePoint
  | some _, token :: _ => .error (.afterClose (String.ofList token))
  | some first, [] => .ok (first :: plotter.vertices).reverse

end Plotter

/-- The path of a token sequence, continued from what has been read. -/
def plotTokens (t : Transform) (plotter : Plotter) : List (List Char) → Except Fault Path
  | [] => plotter.finish
  | token :: rest =>
    match Operator.ofToken? token with
    | some (.mode m) => plotTokens t { plotter with mode := some m } rest
    | some .close => plotter.close rest
    | none =>
      match rest with
      | [] =>
        match plotter.drawPair t token none with
        | .ok plotter => plotter.finish
        | .error e => .error e
      | y :: rest =>
        match plotter.drawPair t token (some y) with
        | .ok plotter => plotTokens t plotter rest
        | .error e => .error e

/-- The path that path data describes, its vertices put into the arena as they are read. -/
def plot (d : String) (t : Transform) : Except Fault Path :=
  if byteLimit < d.utf8ByteSize then .error (.tooLong d.utf8ByteSize)
  else plotTokens t .start (Text.words (normalize d.toList))

/-! ### Pen and plotter -/

namespace Pen

/-- What a pen has drawn, put into the arena. -/
def plotted (t : Transform) (pen : Pen) : Plotter :=
  ⟨pen.mode, pen.position, pen.drawn.map t.apply⟩

/-- The points of a pen are as many as it says. -/
def Counted (pen : Pen) : Prop :=
  pen.count = pen.drawn.length

@[simp] theorem plotted_mode (t : Transform) (pen : Pen) : (pen.plotted t).mode = pen.mode := rfl
@[simp] theorem plotted_position (t : Transform) (pen : Pen) :
    (pen.plotted t).position = pen.position := rfl
@[simp] theorem plotted_vertices (t : Transform) (pen : Pen) :
    (pen.plotted t).vertices = pen.drawn.map t.apply := rfl

variable {t : Transform} {pen : Pen}

/-- Drawing a point and plotting it, in either order. -/
theorem draw_plotted (h : pen.Counted) (p : Point) :
    (pen.plotted t).draw t p = (pen.draw p).map (plotted t) := by
  rw [Plotter.draw, draw, h, plotted_vertices, List.length_map]
  split <;> rfl

/-- So it is with a pair, -/
theorem drawPair_plotted (h : pen.Counted) (x : List Char) (y : Option (List Char)) :
    (pen.plotted t).drawPair t x y = (pen.drawPair x y).map (plotted t) := by
  rw [Plotter.drawPair, drawPair, plotted_mode, plotted_position]
  cases pen.mode with
  | none => rfl
  | some mode =>
    cases y with
    | none => cases coordinate x <;> rfl
    | some y =>
      cases hp : pair x y with
      | error e => simp [hp, Except.bind, Except.map]
      | ok p =>
        cases hq : mode.advance pen.position p with
        | error e => simp [hp, hq, Except.bind, Except.map]
        | ok q => simp [hp, hq, Except.bind, draw_plotted h q]

/-- and with the end of a path. -/
theorem finish_plotted (t : Transform) (pen : Pen) :
    (pen.plotted t).finish = pen.finish.map t.applyAll := by
  rw [Plotter.finish, finish, plotted_vertices, List.isEmpty_map]
  split
  · rfl
  · simp [Except.map, Transform.applyAll]

/-- The vertex that closes a path is the image of the point that closes it. -/
theorem close_plotted (t : Transform) (pen : Pen) (rest : List (List Char)) :
    (pen.plotted t).close rest = (pen.close rest).map t.applyAll := by
  unfold Plotter.close close
  rw [plotted_vertices, List.getLast?_map]
  cases pen.drawn.getLast? with
  | none => rfl
  | some first =>
    cases rest with
    | nil => simp [Except.map, Transform.applyAll]
    | cons token rest => rfl

/-- A pen that has drawn counts what it has drawn. -/
theorem Counted.of_drawPair {pen' : Pen} {x y : List Char} (h : pen.Counted)
    (hd : pen.drawPair x (some y) = .ok pen') : pen'.Counted := by
  obtain ⟨q, rfl, -⟩ := bounded_of_drawPair hd
  rw [Counted, drawnTo_count, drawnTo_drawn, List.length_cons, h]

end Pen

/-- Pen and plotter come to the same vertices, or to the same fault. -/
theorem plotTokens_plotted (t : Transform) (pen : Pen) (h : pen.Counted)
    (tokens : List (List Char)) :
    plotTokens t (pen.plotted t) tokens = (pointsOfTokens pen tokens).map t.applyAll := by
  fun_induction pointsOfTokens pen tokens with
  | case1 pen => exact Pen.finish_plotted t pen
  | case2 pen token rest m hop ih =>
    rw [plotTokens.eq_def]
    simp only [hop]
    exact ih h
  | case3 pen token rest hop =>
    rw [plotTokens.eq_def]
    simp only [hop]
    exact Pen.close_plotted t pen rest
  | case4 pen token hop pen' hd => exact absurd hd (Pen.drawPair_none_ne_ok pen pen' token)
  | case5 pen token hop e hd =>
    rw [plotTokens.eq_def]
    simp only [hop, Pen.drawPair_plotted h, hd]
    rfl
  | case6 pen token hop y rest pen' hd ih =>
    rw [plotTokens.eq_def]
    simp only [hop, Pen.drawPair_plotted h, hd]
    exact ih (h.of_drawPair hd)
  | case7 pen token hop y rest e hd =>
    rw [plotTokens.eq_def]
    simp only [hop, Pen.drawPair_plotted h, hd]
    rfl

/-- Vertices may be put into the arena as they are read. -/
theorem plot_eq_path (d : String) (t : Transform) : plot d t = path d t := by
  have htokens := plotTokens_plotted t .start rfl (tokens d.toList)
  rw [plot, path, points, ← tokens_eq]
  split
  · rfl
  · exact htokens

/-! ### All scales -/

/-- A fault in the points of path data is its fault at every scale. -/
theorem path_of_points_eq_error {d : String} {fault : Fault} (h : points d = .error fault)
    (t : Transform) : path d t = .error fault := by
  rw [path, h]
  rfl

/-- The points of path data are put into the arena at every scale. -/
theorem path_of_points_eq_ok {d : String} {ps : List Point} (h : points d = .ok ps)
    (t : Transform) : path d t = .ok (ps.map t.apply) := by
  rw [path, h]
  rfl

/-- The points of path data, of which there is at least one, lie within bounds. -/
theorem bounded_of_points {d : String} {ps : List Point} (h : points d = .ok ps) :
    ps ≠ [] ∧ ∀ p ∈ ps, Bounded p := by
  obtain ⟨pairs, -, hsome, -, hlength⟩ := length_eq_of_path (path_of_points_eq_ok h .unit)
  refine ⟨?_, ?_⟩
  · rintro rfl
    rw [List.map_nil, List.length_nil] at hlength
    omega
  · rw [points] at h
    split at h
    · cases h
    · exact bounded_of_pointsOfTokens (fun _ hq => absurd hq List.not_mem_nil) h

/-- **What a text is at all scales.**  Either it is refused, for the same fault at every scale, or
    it has points, all of them within bounds, whose images are its path at every scale; and not
    both.  The path is the same when each vertex is put into the arena as it is read. -/
theorem refused_or_scaled (d : String) :
    (∀ t, plot d t = path d t) ∧
      Xor (∃ fault, ∀ t, path d t = .error fault)
        (∃ ps : List Point, ps ≠ [] ∧
          (∀ p ∈ ps, ∀ x ∈ [p.x, p.y], x.isFinite ∧ -coordinateLimit ≤ x ∧ x ≤ coordinateLimit) ∧
          ∀ t, path d t = .ok (ps.map t.apply)) := by
  refine ⟨plot_eq_path d, ?_⟩
  cases h : points d with
  | error fault =>
    refine .inl ⟨⟨fault, path_of_points_eq_error h⟩, ?_⟩
    rintro ⟨ps, -, -, hscaled⟩
    cases (path_of_points_eq_error h .unit).symm.trans (hscaled .unit)
  | ok ps =>
    obtain ⟨hne, hbounded⟩ := bounded_of_points h
    refine .inr ⟨⟨ps, hne, fun p hp x hx => ?_, path_of_points_eq_ok h⟩, ?_⟩
    · have hx' : inBounds x = true := by
        simp only [List.mem_cons, List.not_mem_nil, or_false] at hx
        rcases hx with rfl | rfl
        · exact (hbounded p hp).1
        · exact (hbounded p hp).2
      simpa [inBounds, and_assoc] using hx'
    · rintro ⟨fault, hrefused⟩
      cases (hrefused .unit).symm.trans (path_of_points_eq_ok h .unit)

end NavScript.PathData
