import NavScript.Proofs.Geometry.Position
import NavScript.Proofs.Session.OnDrawing

namespace NavScript

open NavScript.Geometry

/-!
# Lines by positions

A line can be computed with everything taken by its position: the words of the line, the only match
of a label or an identifier, the vertices of a path.  Each position is checked elsewhere, often in
another function, so that no access is out of range, and the line comes to the same.

* `Access` — computations that may be refused, and in which a position may be out of range
* `Access.Yields` — all positions are in range, with what the computation comes to
* `Command.ofWordsAt?`, `Drawing.pathAt?`, `Setting.onDrawingAt?`, `Setting.stepAt?` — the stages of
  a line
* `Setting.stepAt?_eq` — no access of a line is out of range
-/

/-! ### Accesses -/

/-- A computation that may be refused, and that comes to nothing where a position is out of
    range. -/
abbrev Access := ExceptT Error Option

namespace Access

variable {α β ε : Type}

/-- A computation without accesses. -/
def of (x : Except Error α) : Access α := ExceptT.mk (some x)

/-- An access, which comes to nothing out of range. -/
def get (x : Option α) : Access α := ExceptT.mk (x.map .ok)

/-- A computation whose errors are those of a path. -/
def ofArcLength (id : String) (x : Option (Except ArcLengthFault α)) : Access α :=
  ExceptT.mk (x.map (·.mapError (.ofArcLength id)))

/-- All positions are in range, and the computation comes to this. -/
def Yields (x : Access α) (y : Except Error α) : Prop :=
  x.run = some y

namespace Yields

/-- Access to a result yields it. -/
theorem of (y : Except Error α) : (Access.of y).Yields y := rfl

theorem pure (a : α) : (Pure.pure a : Access α).Yields (.ok a) := rfl

theorem throw (e : Error) : (MonadExcept.throw e : Access α).Yields (.error e) := rfl

/-- An element that is there. -/
theorem get {x : Option α} {a : α} (h : x = some a) : (Access.get x).Yields (.ok a) := by
  subst h
  rfl

/-- A length or its fault, put into the words for a path. -/
theorem ofArcLength {id : String} {x : Option (Except ArcLengthFault α)}
    {y : Except ArcLengthFault α} (h : x = some y) :
    (Access.ofArcLength id x).Yields (y.mapError (.ofArcLength id)) := by
  subst h
  rfl

/-- Accesses one after the other yield what the results do. -/
theorem bind {x : Access α} {y : Except Error α} {f : α → Access β} {g : α → Except Error β}
    (hx : x.Yields y) (hf : ∀ a, y = .ok a → (f a).Yields (g a)) : (x >>= f).Yields (y >>= g) := by
  have hrun : (x >>= f).run = x.run >>= ExceptT.bindCont f := rfl
  unfold Yields at hx ⊢
  rw [hrun, hx]
  cases y with
  | error e => rfl
  | ok a => exact hf a rfl

/-- An element that is there, and what goes on with it. -/
theorem get_bind {x : Option α} {a : α} {f : α → Access β} {y : Except Error β} (hx : x = some a)
    (hf : (f a).Yields y) : (Access.get x >>= f).Yields y :=
  bind (get hx) fun _ ha => Except.ok.inj ha ▸ hf

end Yields

end Access

open Access (Yields)

/-! ### Words -/

namespace Command

/-- The argument at a position.  The keyword is looked up only where there is none. -/
def argumentAt? (words : List String) (i : Nat) (name : String) : Access String :=
  match words[i]? with
  | some a => return a
  | none => do throw (.badArguments (← .get words[0]?) (.missing name))

/-- The command of some words, of which the first is the keyword. -/
def ofWordsAt? (words : List String) : Access Command := do
  let keyword ← .get words[0]?
  if simulatorKeywords.contains keyword then return handOn
  else if keyword == "load-svg" then do
    let file ← argumentAt? words 1 "file"
    let text ← argumentAt? words 2 "scale"
    return loadSvg file (← .of (readScale keyword text))
  else
    match drawing? keyword with
    | some (name, command) => do return onDrawing (command (← argumentAt? words 1 name))
    | none => throw (.unknownCommand keyword)

/-- The arguments of a command, looked up by their places. -/
theorem yields_argumentAt? (keyword name : String) (args : List String) (i : Nat) :
    (argumentAt? (keyword :: args) (i + 1) name).Yields (argument keyword name (args.drop i)) := by
  unfold argumentAt?
  rw [List.getElem?_cons_succ]
  cases h : args[i]? with
  | none =>
    rw [List.drop_eq_nil_of_le (List.getElem?_eq_none_iff.mp h)]
    exact .get_bind rfl (.throw _)
  | some a =>
    obtain ⟨hi, rfl⟩ := List.getElem?_eq_some_iff.mp h
    rw [List.drop_eq_getElem_cons hi]
    exact .pure _

/-- Words that begin with a keyword give its command. -/
theorem yields_ofWordsAt? (keyword : String) (args : List String) :
    (ofWordsAt? (keyword :: args)).Yields (ofWords keyword args) := by
  refine .get_bind rfl ?_
  unfold ofWords
  by_cases hsimulator : simulatorKeywords.contains keyword = true
  · rw [if_pos hsimulator, if_pos hsimulator]
    exact .pure _
  · rw [if_neg hsimulator, if_neg hsimulator]
    by_cases hload : (keyword == "load-svg") = true
    · rw [if_pos hload, if_pos hload]
      refine .bind (yields_argumentAt? keyword "file" args 0) fun file _ => ?_
      rw [← List.drop_one]
      exact .bind (yields_argumentAt? keyword "scale" args 1) fun text _ =>
        .bind (.of _) fun scale _ => .pure _
    · rw [if_neg hload, if_neg hload]
      cases drawing? keyword with
      | none => exact .throw _
      | some make => exact .bind (yields_argumentAt? keyword make.1 args 0) fun a _ => .pure _

end Command

/-! ### Drawings -/

/-- The only match, taken out of the matches by its position. -/
def onlyMatchAt? {α : Type} (kind : Kind) (key : String) (found : List α) : Access α :=
  if found.length ≠ 1 then throw (.lookup kind key found.length) else .get found[0]?

/-- The only one of several, looked up as the first of them. -/
theorem yields_onlyMatchAt? {α : Type} (kind : Kind) (key : String) (found : List α) :
    (onlyMatchAt? kind key found).Yields (onlyMatch kind key found) := by
  -- the count is compared with one, and one match is the first
  match found with
  | [] => exact .throw _
  | [a] => exact .get rfl
  | a :: b :: rest =>
    have hcount : (a :: b :: rest).length ≠ 1 := by simp
    rw [onlyMatchAt?, if_pos hcount]
    exact .throw _

namespace Drawing

variable (d : Drawing) (t : Transform)

/-- The only path with an identifier, taken out of them by its position. -/
def pathAt? (id : String) : Access Path := do
  let p ← onlyMatchAt? .path id (d.pathsNamed id)
  .of (p.read .document t)

/-- The paths directly inside the only layer with a label. -/
def layerPathsAt? (label : String) : Access (List Path) := do
  let l ← onlyMatchAt? .layer label (d.layersNamed label)
  .of (l.paths.mapM fun p => p.read (.layer label) t)

/-- The labels of the texts directly inside the only layer with a label. -/
def layerLabelsAt? (label : String) : Access (List Label) := do
  let l ← onlyMatchAt? .layer label (d.layersNamed label)
  .of (l.texts.mapM fun e => (e.read t).mapError (.malformed (.text label)))

/-- The path of a name. -/
theorem yields_pathAt? (id : String) : (d.pathAt? t id).Yields (d.path id t) :=
  .bind (yields_onlyMatchAt? ..) fun _ _ => .of _

/-- The paths of a layer. -/
theorem yields_layerPathsAt? (label : String) :
    (d.layerPathsAt? t label).Yields (d.layerPaths label t) :=
  .bind (yields_onlyMatchAt? ..) fun _ _ => .of _

/-- The labels of a layer. -/
theorem yields_layerLabelsAt? (label : String) :
    (d.layerLabelsAt? t label).Yields (d.layerLabels label t) :=
  .bind (yields_onlyMatchAt? ..) fun _ _ => .of _

end Drawing

/-! ### Commands on a drawing -/

namespace Setting

variable (s : Setting) (l : Loaded)

/-- The part of a path that the session's trajectory covers, its vertices taken by their
    positions. -/
def samplePerimeterAt? (id : String) : Access Path :=
  if !s.trajectory.valid then throw (.outOfRange (.trajectory s.trajectory))
  else do
    let path ← l.drawing.pathAt? l.transform id
    let total ← .get (lengthAt? path)
    let target ← .get (s.trajectory.offsetAt? total)
    .ofArcLength id (sampleAt? path target)

/-- An agent at the first vertex of a path, taken by its position. -/
def placeAgentAt? (id : String) : Access (List Directive) := do
  let path ← l.drawing.pathAt? l.transform id
  let heading ← .ofArcLength id (headingAt? path)
  let first ← .get path[0]?
  return [.placeAgent first heading]

/-- The directives of a command on a drawing. -/
def onDrawingAt? : DrawingCommand → Access (List Directive)
  | .setArena label => do
    let paths ← l.drawing.layerPathsAt? l.transform label
    return [.arena paths]
  | .addLabels label => do
    let labels ← l.drawing.layerLabelsAt? l.transform label
    return labels.map fun label => .addLabel label.position label.text
  | .followTrajectory id => do
    let path ← l.drawing.pathAt? l.transform id
    return path.map .goto
  | .samplePerimeter id => do
    let path ← s.samplePerimeterAt? l id
    return path.map .goto
  | .placeAgent id => placeAgentAt? l id
  | .setFence id => do
    let path ← l.drawing.pathAt? l.transform id
    return [.fence id path]

/-- The run is checked before it is counted down from, and the path is measured before it is cut. -/
theorem yields_samplePerimeterAt? (id : String) :
    (s.samplePerimeterAt? l id).Yields (s.samplePerimeter l id) := by
  unfold samplePerimeterAt? samplePerimeter
  cases hvalid : s.trajectory.valid with
  | false => exact .throw _
  | true =>
    exact .bind (l.drawing.yields_pathAt? l.transform id) fun path _ =>
      .get_bind (lengthAt?_eq path) <| .get_bind (s.trajectory.offsetAt?_eq hvalid _) <|
        .ofArcLength (sampleAt?_eq path _)

/-- An agent is placed at a vertex that there is. -/
theorem yields_placeAgentAt? (id : String) : (placeAgentAt? l id).Yields (placeAgent l id) := by
  refine .bind (l.drawing.yields_pathAt? l.transform id) fun path hpath => ?_
  refine .bind (.ofArcLength (headingAt?_eq path)) fun heading _ => ?_
  -- path data without a vertex have been refused before
  obtain ⟨a, rest, rfl⟩ := Drawing.exists_cons_of_path hpath
  exact .get_bind rfl (.pure _)

/-- No access of a command on a drawing is out of range. -/
theorem yields_onDrawingAt? (command : DrawingCommand) :
    (s.onDrawingAt? l command).Yields (s.onDrawing l command) := by
  cases command with
  | setArena label =>
    exact .bind (l.drawing.yields_layerPathsAt? l.transform label) fun _ _ => .pure _
  | addLabels label =>
    exact .bind (l.drawing.yields_layerLabelsAt? l.transform label) fun _ _ => .pure _
  | followTrajectory id => exact .bind (l.drawing.yields_pathAt? l.transform id) fun _ _ => .pure _
  | samplePerimeter id => exact .bind (s.yields_samplePerimeterAt? l id) fun _ _ => .pure _
  | placeAgent id => exact yields_placeAgentAt? l id
  | setFence id => exact .bind (l.drawing.yields_pathAt? l.transform id) fun _ _ => .pure _

/-! ### Lines -/

/-- The command of a line performed, the line being given by its words. -/
def performAt? (session : Session) (words : List String) : Command → Option Step
  | .handOn => some (.keeping session (.ok [.handedOn words]))
  | .loadSvg file scale =>
    match session.loaded with
    | some _ => some (.keeping session (.error .repeatedLoad))
    | none => some (s.load session.files file scale)
  | .onDrawing command =>
    match session.loaded with
    | some l => (s.onDrawingAt? l command).run.map (.keeping session)
    | none => do return .keeping session (.error (.beforeLoad (← words[0]?)))

/-- A script line, its keyword taken by its position among the words. -/
def stepAt? (session : Session) (line : String) : Option Step :=
  let words := wordsOfLine line
  if words.isEmpty then some (.keeping session (.ok []))
  else do
    match ← (Command.ofWordsAt? words).run with
    | .error e => return .keeping session (.error e)
    | .ok command => s.performAt? session words command

/-- Every command, looked up by the places of its words, does what it does. -/
theorem performAt?_eq (session : Session) (keyword : String) (args : List String)
    (command : Command) :
    s.performAt? session (keyword :: args) command =
      some (s.perform session keyword args command) := by
  cases command with
  | handOn => rfl
  | loadSvg file scale =>
    unfold performAt? perform
    cases session.loaded <;> rfl
  | onDrawing command =>
    unfold performAt? perform
    cases session.loaded with
    | none => rfl
    | some l =>
      have hyields : (s.onDrawingAt? l command).run = some (s.onDrawing l command) :=
        s.yields_onDrawingAt? l command
      dsimp only
      rw [hyields]
      rfl

/-- No access of a line is out of range. -/
theorem stepAt?_eq (session : Session) (line : String) :
    s.stepAt? session line = some (s.step session line) := by
  unfold stepAt? step
  cases wordsOfLine line with
  | nil => rfl
  | cons keyword args =>
    have hwords : (Command.ofWordsAt? (keyword :: args)).run =
      some (Command.ofWords keyword args) :=
      Command.yields_ofWordsAt? keyword args
    simp only [List.isEmpty_cons, Bool.false_eq_true, if_false, stepWords, hwords,
      Option.bind_eq_bind, Option.bind_some]
    cases Command.ofWords keyword args with
    | error e => rfl
    | ok command => exact s.performAt?_eq session keyword args command

end Setting

end NavScript
