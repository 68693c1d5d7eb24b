import NavScript.Proofs.Session.Output
import NavScript.Proofs.Session.OnDrawing
import NavScript.Proofs.Geometry.WellKnownText
import NavScript.Proofs.Text.Spaced

namespace NavScript

open NavScript.Geometry
open NavScript.Text (IsWord Spaced)

/-!
# Output compiled once more

Much of what a script compiles to is itself a script: lines with a command of the simulator's own,
which are handed on.  Handing on cuts a line into its words and puts single spaces between them, so
such a line stays as it is exactly because it has been written in that way.  The other lines are not
commands of a script, or they have a text from the drawing, with whatever blanks are in it.

* `Directive.spaced_render` — every directive but a label is words with single spaces
* `Command.Repeatable` — the commands that compile to commands of the simulator's own
* `Setting.compile_of_spaced` — a line of the simulator's own, compiled
* `Setting.compile_of_output` — the output of such commands, compiled in any session
-/

/-! ### Numbers and polygons -/

/-- A number is one word. -/
theorem spaced_fixed (places : Nat) (x : Float) : Spaced (Decimal.fixed places x).toList :=
  .of_isWord ⟨(isToken_fixed places x).1, fun _ h => isBlank_of_mem_fixed h⟩

/-- Two numbers are two words. -/
theorem spaced_pair (places : Nat) (v : Vertex) : Spaced (pair places v).toList := by
  rw [toList_pair]
  exact (spaced_fixed places v.x).append_space (spaced_fixed places v.y)

/-- The only spaces of a polygon are those inside its pairs. -/
theorem spaced_polygon (places : Nat) (path : Path) : Spaced (polygon places path).toList := by
  have hparts : ∀ part ∈ (path.map (pair places)).map String.toList, Spaced part := by
    simp only [List.map_map, List.forall_mem_map, Function.comp_apply]
    exact fun v _ => spaced_pair places v
  have htext : (polygon places path).toList =
      "((".toList ++ [','].intercalate ((path.map (pair places)).map String.toList) ++
        "))".toList := by
    simp [polygon]
  rw [htext]
  exact .enclosed (by decide) (by decide) (by decide) hparts

/-- Polygons are words with single spaces between them. -/
theorem spaced_multipolygon (places : Nat) (paths : List Path) :
    Spaced (multipolygon places paths).toList := by
  have hparts : ∀ part ∈ (paths.map (polygon places)).map String.toList, Spaced part := by
    simp only [List.map_map, List.forall_mem_map, Function.comp_apply]
    exact fun path _ => spaced_polygon places path
  have htext : (multipolygon places paths).toList = "MULTIPOLYGON(".toList ++
      [','].intercalate ((paths.map (polygon places)).map String.toList) ++ ")".toList := by
    simp [multipolygon]
  rw [htext]
  exact .enclosed (by decide) (by decide) (by decide) hparts

/-! ### Directives -/

namespace Directive

/-- Every directive but a label is words with single spaces between them. -/
theorem spaced_render {d : Directive} (h : d.WellWorded) (htext : d.text? = none) (places : Nat) :
    Spaced (d.render places).toList := by
  have hword : ∀ w : String, IsWord w.toList → Spaced w.toList := fun _ => .of_isWord
  cases d with
  | handedOn ws =>
    obtain ⟨hws, w, -, hhead⟩ := h
    have hne : ws.map String.toList ≠ [] := by
      rintro hnil
      simp [List.map_eq_nil_iff.mp hnil] at hhead
    rw [render_handedOn, String.toList_intercalate]
    exact .intercalate (List.forall_mem_map.mpr hws) hne
  | arenaSize side =>
    have hline : ((arenaSize side).render places).toList =
        "set-arena-size".toList ++ ' ' :: (Decimal.fixed places side).toList := by simp
    rw [hline]
    exact (hword _ (by decide)).append_space (spaced_fixed places side)
  | arena rings =>
    have hline : ((arena rings).render places).toList =
        "set-arena".toList ++ ' ' :: (multipolygon places rings).toList := by simp
    rw [hline]
    exact (hword _ (by decide)).append_space (spaced_multipolygon places rings)
  | addLabel p text => cases htext
  | goto p =>
    have hline :
        ((goto p).render places).toList = "goto".toList ++ ' ' :: (pair places p).toList := by
      simp
    rw [hline]
    exact (hword _ (by decide)).append_space (spaced_pair places p)
  | placeAgent p heading =>
    have hline : ((placeAgent p heading).render places).toList = "place-agent".toList ++
        ' ' :: ((pair places p).toList ++ ' ' :: (Decimal.fixed places heading).toList) := by simp
    rw [hline]
    exact (hword _ (by decide)).append_space
      ((spaced_pair places p).append_space (spaced_fixed places heading))
  | fence name ring =>
    have hline : ((fence name ring).render places).toList = "set-fence".toList ++
        ' ' :: (name.toList ++ ' ' :: (multipolygon places [ring]).toList) := by simp
    rw [hline]
    exact (hword _ (by decide)).append_space
      ((hword _ h).append_space (spaced_multipolygon places [ring]))

/-- A command of the simulator's own without a text from a drawing. -/
def Repeatable : Directive → Prop
  | handedOn _ | goto _ | placeAgent _ _ | fence _ _ => True
  | arenaSize _ | arena _ | addLabel _ _ => False

/-- What can be repeated has no text of a label. -/
theorem Repeatable.text?_eq_none {d : Directive} (h : d.Repeatable) : d.text? = none := by
  cases d with
  | addLabel p text => cases h
  | _ => rfl

/-- It begins with the keyword of such a command. -/
theorem Repeatable.head?_wordsOf {d : Directive} (hd : d.Repeatable) (h : d.WellWorded)
    (places : Nat) :
    ∃ w ∈ Command.simulatorKeywords, (Text.wordsOf (d.render places)).head? = some w := by
  cases d with
  | handedOn ws =>
    obtain ⟨hws, w, hw, hhead⟩ := h
    exact ⟨w, hw, by rw [render_handedOn, Text.wordsOf_intercalate hws, hhead]⟩
  | arenaSize side => cases hd
  | arena rings => cases hd
  | addLabel p text => cases hd
  | goto p =>
    have hline : (goto p).render places = "goto" ++ " " ++ pair places p := by
      rw [show "goto" ++ " " = "goto " from rfl, render_goto]
    exact ⟨"goto", by decide, hline ▸ Text.head?_wordsOf (by decide) _⟩
  | placeAgent p heading =>
    have hline : (placeAgent p heading).render places =
        "place-agent" ++ " " ++ (pair places p ++ " " ++ Decimal.fixed places heading) := by
      rw [show "place-agent" ++ " " = "place-agent " from rfl, render_placeAgent,
        String.append_assoc, String.append_assoc, String.append_assoc]
    exact ⟨"place-agent", by decide, hline ▸ Text.head?_wordsOf (by decide) _⟩
  | fence name ring =>
    have hline : (fence name ring).render places =
        "set-fence" ++ " " ++ (name ++ " " ++ multipolygon places [ring]) := by
      rw [show "set-fence" ++ " " = "set-fence " from rfl, render_fence, String.append_assoc,
        String.append_assoc, String.append_assoc]
    exact ⟨"set-fence", by decide, hline ▸ Text.head?_wordsOf (by decide) _⟩

end Directive

/-! ### Commands -/

/-- The commands that compile to commands of the simulator's own without a text from the drawing. -/
def Command.Repeatable : Command → Prop
  | .handOn => True
  | .loadSvg _ _ => False
  | .onDrawing command =>
    match command with
    | .followTrajectory _ | .samplePerimeter _ | .placeAgent _ | .setFence _ => True
    | .setArena _ | .addLabels _ => False

/-- The directives of a command that can be repeated can be, too. -/
theorem DrawingCommand.Gives.repeatable {command : DrawingCommand} {d : Directive}
    (h : command.Gives d) (hcommand : (Command.onDrawing command).Repeatable) : d.Repeatable := by
  cases command with
  | setArena label => cases hcommand
  | addLabels label => cases hcommand
  | followTrajectory id | samplePerimeter id =>
    obtain ⟨p, rfl⟩ := h
    trivial
  | placeAgent id =>
    obtain ⟨p, heading, rfl⟩ := h
    trivial
  | setFence id =>
    obtain ⟨ring, rfl⟩ := h
    trivial

namespace Setting

variable (s : Setting)

/-- What such a command comes to. -/
theorem repeatable_of_outcome {session : Session} {line keyword : String} {args : List String}
    {command : Command} (hwords : wordsOfLine line = keyword :: args)
    (hc : Command.ofWords keyword args = .ok command) (hcommand : command.Repeatable)
    {ds : List Directive} (h : (s.step session line).outcome = .ok ds) :
    ∀ d ∈ ds, d.Repeatable := by
  rw [step, hwords, stepWords, hc] at h
  cases command with
  | handOn =>
    obtain rfl := Except.ok.inj h
    exact List.forall_mem_singleton.mpr trivial
  | loadSvg file scale => cases hcommand
  | onDrawing command =>
    simp only [perform] at h
    cases hl : session.loaded with
    | none =>
      rw [hl] at h
      cases h
    | some l =>
      rw [hl] at h
      exact fun d hd => (s.gives_of_onDrawing h d hd).repeatable hcommand

/-! ### Lines of the simulator's own -/

/-- A line that begins with a keyword of the simulator's own is no comment. -/
theorem wordsOfLine_eq_of_head? {line keyword : String} (hspaced : Spaced line.toList)
    (hhead : (Text.wordsOf line).head? = some keyword) (hk : keyword ∈ Command.simulatorKeywords) :
    wordsOfLine line = Text.wordsOf line := by
  obtain ⟨args, hwords⟩ := List.head?_eq_some_iff.mp hhead
  have hfirst : ∀ w ∈ Command.simulatorKeywords,
      w.toList.head?.isSome ∧ w.toList.head? ≠ some '#' := by decide
  obtain ⟨hsome, hne⟩ := hfirst keyword hk
  obtain ⟨c, hc⟩ := Option.isSome_iff_exists.mp hsome
  have hline : line.toList.head? = some c := by
    rw [← hspaced.intercalate_wordsOf, hwords]
    cases args with
    | nil => rw [String.intercalate_singleton, hc]
    | cons arg args =>
      rw [String.intercalate_cons_cons, String.toList_append, String.toList_append,
        List.append_assoc, List.head?_append, hc, Option.some_or]
  have hcomment : (line.toList.head? == some '#') = false := by
    rw [hline]
    simpa [hc] using hne
  rw [wordsOfLine, hcomment]
  rfl

/-- A command of the simulator's own that is written with single spaces compiles to itself, whatever
    the setting and the session, and the session stays as it is. -/
theorem compile_of_spaced {line keyword : String} (hspaced : Spaced line.toList)
    (hhead : (Text.wordsOf line).head? = some keyword) (hk : keyword ∈ Command.simulatorKeywords)
    (session : Session) :
    s.compile session line =
      (.lines [line], .keeping session (.ok [.handedOn (Text.wordsOf line)])) := by
  obtain ⟨args, hwords⟩ := List.head?_eq_some_iff.mp hhead
  have hstep : s.step session line = .keeping session (.ok [.handedOn (Text.wordsOf line)]) := by
    have hc : Command.ofWords keyword args = .ok .handOn := if_pos (by simpa using hk)
    rw [step, wordsOfLine_eq_of_head? hspaced hhead hk, hwords, stepWords, hc]
    rfl
  have hline : (Directive.handedOn (Text.wordsOf line)).render s.options.precision = line :=
    hspaced.intercalate_wordsOf
  rw [compile, hstep]
  -- nothing but words is written, so the count of places does not matter
  have hwritable :
      Directive.writable s.options.precision [.handedOn (Text.wordsOf line)] = true := by
    simp [Directive.writable, Directive.numbers]
  simp only [Step.compiled, Step.keeping, Directive.renderAll?, hwritable, if_true, List.map_cons,
    List.map_nil, hline]

/-- **Output is its own output.**  Where a line is handed on, or asks for the waypoints of a path,
    for those of its perimeter, for an agent at its start or for a fence, each line that it compiles
    to compiles to just this line again, in any session of any setting; and the session stays as it
    is. -/
theorem compile_of_output {session : Session} {line keyword : String} {args : List String}
    {command : Command} (hwords : wordsOfLine line = keyword :: args)
    (hc : Command.ofWords keyword args = .ok command) (hcommand : command.Repeatable)
    {outs : List String} (h : (s.compile session line).1 = .lines outs) :
    ∀ out ∈ outs, ∀ (s' : Setting) (session' : Session),
      s'.compile session' out =
        (.lines [out], .keeping session' (.ok [.handedOn (Text.wordsOf out)])) := by
  obtain ⟨ds, hds, rfl⟩ := Step.exists_of_compiled_eq_lines h
  have hrepeatable := s.repeatable_of_outcome hwords hc hcommand hds
  have hworded := s.wellWorded_of_outcome hds
  refine List.forall_mem_map.mpr fun d hd s' session' => ?_
  have hspaced := Directive.spaced_render (hworded d hd) (hrepeatable d hd).text?_eq_none
    s.options.precision
  obtain ⟨w, hw, hhead⟩ := (hrepeatable d hd).head?_wordsOf (hworded d hd) s.options.precision
  exact s'.compile_of_spaced hspaced hhead hw session'

set_option maxRecDepth 4096 in
/-- A fence asked for with a tab, spare spaces and a word that is not read. -/
theorem compile_of_fence :
    wordsOfLine "set-fence-from-svg-path\t p  #" = ["set-fence-from-svg-path", "p", "#"] ∧
      Command.ofWords "set-fence-from-svg-path" ["p", "#"] = .ok (.onDrawing (.setFence "p")) ∧
      (Command.onDrawing (.setFence "p")).Repeatable ∧
      (plain.compile segmentSession "set-fence-from-svg-path\t p  #").1 =
        .lines ["set-fence p MULTIPOLYGON(((1.000000 -2.000000,4.000000 -6.000000)))"] ∧
      ∀ (s' : Setting) (session' : Session),
        s'.compile session' "set-fence p MULTIPOLYGON(((1.000000 -2.000000,4.000000 -6.000000)))" =
          (.lines ["set-fence p MULTIPOLYGON(((1.000000 -2.000000,4.000000 -6.000000)))"],
            .keeping session' (.ok [.handedOn ["set-fence", "p", "MULTIPOLYGON(((1.000000",
              "-2.000000,4.000000", "-6.000000)))"]])) := by
  have hwords : wordsOfLine "set-fence-from-svg-path\t p  #" =
      ["set-fence-from-svg-path", "p", "#"] := rfl
  have hc : Command.ofWords "set-fence-from-svg-path" ["p", "#"] =
      .ok (.onDrawing (.setFence "p")) := rfl
  have hlines : (plain.compile segmentSession "set-fence-from-svg-path\t p  #").1 =
      .lines ["set-fence p MULTIPOLYGON(((1.000000 -2.000000,4.000000 -6.000000)))"] := rfl
  exact ⟨hwords, hc, trivial, hlines,
    plain.compile_of_output hwords hc trivial hlines _ (List.mem_singleton_self _)⟩

end Setting

end NavScript
