import NavScript.Proofs.Files
import NavScript.Proofs.Session.Correspondence

namespace NavScript

/-!
# Runs that do not read some files

What some files hold shows in a run only if a line loads a drawing from one of them, or if the
flattener looks at them.  In all other runs the files can be given other contents: the same is
written, the run ends in the same way, and the session afterwards is the same but for what the files
hold.

* `Programs.Disregard` — programs that do not look at some files
* `Flattener.AgreeOn` — flatteners that give the same answers beside different contents of some
  files
* `Setting.step_fill` — a line that does not load a drawing from these files
* `Setting.run_fill` — a whole run
-/

/-! ### Programs and flatteners -/

/-- The programs do not look at what the files at certain places hold, and they leave them as they
    are. -/
def Programs.Disregard (programs : Programs) (places : List Place) : Prop :=
  ∀ files bytes program args, programs (files.fill places bytes) program args =
    ((programs files program args).1, (programs files program args).2.fill places bytes)

/-- Every program disregards no files at all. -/
theorem Programs.disregard_nil (programs : Programs) : programs.Disregard [] := by
  intro files bytes program args
  simp only [Files.fill_nil]

/-- Programs that all succeed with the same output, whatever they are asked to do. -/
def Programs.answering (output : List UInt8) : Programs := fun files _ _ =>
  (.ok ⟨.success, output, []⟩, files)

/-- The second flattener, with other contents in the files at certain places, gives the answers of
    the first, unless they are asked for one of those files. -/
def Flattener.AgreeOn (places : List Place) (bytes : List UInt8) (f g : Flattener) : Prop :=
  ∀ files r, Files.placeOf r.file ∉ places →
    g (files.fill places bytes) r = ((f files r).1, (f files r).2.fill places bytes)

/-! ### Lines and runs -/

namespace Setting

variable {s : Setting} {g : Flattener} {places : List Place} {bytes : List UInt8}
  (hflatteners : Flattener.AgreeOn places bytes s.flattener g)

include hflatteners

/-- A drawing is loaded from another file whatever these files hold. -/
theorem load_fill {file : String} (h : Files.placeOf (Files.join s.baseDir file) ∉ places)
    (files : Files) (scale : Float) :
    (s.withFlattener g).load (files.fill places bytes) file scale =
      (s.load files file scale).map (Session.mapFiles (·.fill places bytes)) id := by
  refine load_map_congr (s := s) (t := s.withFlattener g) (·.fill places bytes) ?_
    (fun r hr => ?_) rfl scale
  · rw [request, request, withFlattener, Files.readText_fill files places bytes h, Except.map_id]
    rfl
  · -- the flattener is asked for the file that has been read
    have hfile : r.file = Files.join s.baseDir file := by
      obtain ⟨text, document, -, -, rfl⟩ := (s.request_eq_ok_iff files file r).mp hr
      rfl
    exact hflatteners files r (hfile ▸ h)

/-- A line comes to the same whatever these files hold, if it does not load a drawing from one of
    them. -/
theorem step_fill {line : String}
    (hline : ∀ file scale, AsksToLoad line file scale →
      Files.placeOf (Files.join s.baseDir file) ∉ places) (session : Session) :
    (s.withFlattener g).step (session.mapFiles (·.fill places bytes)) line =
      (s.step session line).map (Session.mapFiles (·.fill places bytes)) id :=
  step_map_congr (s := s) (t := s.withFlattener g) (·.fill places bytes)
    (fun file scale _ hasks => load_fill hflatteners (hline file scale hasks) session.files scale)
    fun _ command _ _ => by cases command <;> rfl

/-- **A run is the same whatever these files hold**, if none of its lines loads a drawing from one
    of them. -/
theorem run_fill {script : List ScriptLine}
    (hscript : ∀ line, .ok line ∈ script → ∀ file scale, AsksToLoad line file scale →
      Files.placeOf (Files.join s.baseDir file) ∉ places) (session : Session) (sink : Sink) :
    (s.withFlattener g).run (session.mapFiles (·.fill places bytes)) sink script =
      ((s.run session sink script).1.map (Session.mapFiles (·.fill places bytes)) id,
        (s.run session sink script).2) :=
  run_of_step_eq (s := s) (t := s.withFlattener g) rfl
    (fun line hline => step_fill hflatteners (hscript line hline)) session sink

end Setting

end NavScript
