import NavScript.CommandLine.Buffer
import NavScript.Proofs.Session.Run

namespace NavScript

/-!
# What a buffer hands on

A run does not know how its writer works inside.  Two writers that answer alike, whatever is written
to them, lead to the same run, and they are left by it in states that still belong together.  A
buffer and a sink that takes everything are such writers, so a buffer that is given up at the end of
a run has handed on what the run would have written to the sink.

* `Writer.Simulates` — writers that answer alike
* `Setting.runFrom_of_simulates` — runs into such writers
* `CommandLine.Buffer.all_write` — what a buffer has been given
* `CommandLine.output_runInto` — what a buffer has handed on
-/

section Simulation

variable {W V : Type} [Writer W] [Writer V] {R : W → V → Prop}

/-- Two writers that belong together answer alike when a text is written to both, or both are
    flushed, and belong together afterwards. -/
structure Writer.Simulates (R : W → V → Prop) : Prop where
  write : ∀ {a b} (text : String), R a b →
    R (Writer.write a text).1 (Writer.write b text).1 ∧
      (Writer.write b text).2 = (Writer.write a text).2
  flush : ∀ {a b}, R a b →
    R (Writer.flush a).1 (Writer.flush b).1 ∧ (Writer.flush b).2 = (Writer.flush a).2

namespace Writer.Simulates

variable (hR : Simulates R)

include hR

/-- They answer alike when lines are written to both. -/
theorem writeLines {a : W} {b : V} (h : R a b) (lines : List String) :
    R (Writer.writeLines a lines).1 (Writer.writeLines b lines).1 ∧
      (Writer.writeLines b lines).2 = (Writer.writeLines a lines).2 := by
  induction lines generalizing a b with
  | nil => exact ⟨h, rfl⟩
  | cons line rest ih =>
    obtain ⟨hnext, hfits⟩ := hR.write (line ++ "\n") h
    rw [Writer.writeLines, Writer.writeLines]
    cases ha : Writer.write a (line ++ "\n") with
    | mk a' fits =>
      cases hb : Writer.write b (line ++ "\n") with
      | mk b' fits' =>
        rw [ha, hb] at hnext hfits
        obtain rfl : fits' = fits := hfits
        cases fits' with
        | true => exact ih hnext
        | false => exact ⟨hnext, rfl⟩

end Writer.Simulates

/-- How far a run has come, with another writer in place of its own. -/
def ProgressInto.withSink (p : ProgressInto W) (w : V) : ProgressInto V :=
  ⟨p.session, w, p.requests, p.line⟩

/-- **Runs into writers that answer alike** do not differ but in their writers, which still belong
    together when the runs have ended. -/
theorem Setting.runFrom_of_simulates (s : Setting) (hR : Writer.Simulates R)
    {p : ProgressInto W} {w : V} (hw : R p.sink w) (script : List ScriptLine) :
    ∃ w', R (s.runFrom p script).1.sink w' ∧
      s.runFrom (p.withSink w) script =
        ((s.runFrom p script).1.withSink w', (s.runFrom p script).2) := by
  induction script generalizing p w with
  | nil =>
    obtain ⟨hflush, hdone⟩ := hR.flush hw
    have hsink : (p.withSink w).sink = w := rfl
    rw [runFrom, runFrom, ProgressInto.finish, ProgressInto.finish, hsink]
    cases hp : Writer.flush p.sink with
    | mk a done =>
      cases hq : Writer.flush w with
      | mk b done' =>
        rw [hp, hq] at hflush hdone
        obtain rfl : done' = done := hdone
        cases done' <;> exact ⟨b, hflush, rfl⟩
  | cons first script ih =>
    cases first with
    | error obstacle => exact ⟨w, hw, rfl⟩
    | ok line =>
      cases hc : (s.compile p.session line).1 with
      | refused e =>
        refine ⟨w, ?_, ?_⟩
        · rw [s.runFrom_cons_of_refused hc]
          exact hw
        · rw [s.runFrom_cons_of_refused hc, s.runFrom_cons_of_refused (p := p.withSink w) hc]
          rfl
      | unwritable =>
        refine ⟨w, ?_, ?_⟩
        · rw [s.runFrom_cons_of_unwritable hc]
          exact hw
        · rw [s.runFrom_cons_of_unwritable hc, s.runFrom_cons_of_unwritable (p := p.withSink w) hc]
          rfl
      | lines out =>
        obtain ⟨hnext, hfits⟩ := hR.writeLines hw out
        cases ha : Writer.writeLines p.sink out with
        | mk a fits =>
          cases hb : Writer.writeLines w out with
          | mk b fits' =>
            rw [ha, hb] at hnext hfits
            obtain rfl : fits' = fits := hfits
            cases fits' with
            | true =>
              rw [s.runFrom_cons_of_lines hc ha, s.runFrom_cons_of_lines (p := p.withSink w) hc hb]
              exact ih (p := s.progress p [line] a) hnext
            | false =>
              rw [s.runFrom_cons_of_full hc ha, s.runFrom_cons_of_full (p := p.withSink w) hc hb]
              exact ⟨b, hnext, rfl⟩

end Simulation

namespace CommandLine

namespace Buffer

/-- All bytes that a buffer has been given, handed on or not. -/
def all (b : Buffer) : ByteArray := b.handedOn ++ b.held

/-- Handing on what is held loses nothing. -/
@[simp] theorem all_flush (b : Buffer) : b.flush.all = b.all := by
  simp [flush, all]

/-- Nor does making room. -/
@[simp] theorem all_makeRoom (b : Buffer) (size : Nat) : (b.makeRoom size).all = b.all := by
  rw [makeRoom]
  split
  · rfl
  · exact all_flush b

/-- Room for as many bytes as fill a buffer is only in an empty one. -/
theorem held_makeRoom (b : Buffer) {size : Nat} (h : capacity ≤ size) :
    (b.makeRoom size).held = .empty := by
  rw [makeRoom]
  split
  · exact ByteArray.size_eq_zero_iff.mp (by omega)
  · rfl

/-- A buffer is given bytes behind those that it has been given before.  Where it hands them on at
    once, it holds nothing back that would have had to go first. -/
@[simp] theorem all_write (b : Buffer) (bytes : ByteArray) :
    (b.write bytes).all = b.all ++ bytes := by
  -- the bytes are held behind those for which room was made, or go past an empty buffer
  rw [← all_makeRoom b bytes.size, write]
  split
  · rename_i hmany
    simp [all, held_makeRoom b hmany]
  · simp [all, ByteArray.append_assoc]

/-- What is written in the end is all that was given to the buffer. -/
theorem output_eq_all (b : Buffer) : b.output = b.all := rfl

/-- A sink that takes everything has been given what the buffer has been given. -/
def IsLike (b : Buffer) (sink : Sink) : Prop :=
  sink = ⟨none, false, b.all⟩

/-- Given the same, a buffer and such a sink stay alike. -/
theorem simulates_isLike : Writer.Simulates IsLike where
  write := by
    rintro b sink text rfl
    refine ⟨?_, rfl⟩
    show Sink.mk none false (b.all ++ text.toUTF8) = Sink.mk none false (b.write text.toUTF8).all
    rw [all_write]
  flush := by
    rintro b sink rfl
    refine ⟨?_, rfl⟩
    show Sink.mk none false b.all = Sink.mk none false b.flush.all
    rw [all_flush]

end Buffer

/-- **What a buffer has handed on.**  However a run ends, the buffer that it writes to has handed
    on, once it is given up, what the run writes to a sink that takes everything; and the run ends
    in the same way. -/
theorem output_runInto (s : Setting) (session : Session) (script : List ScriptLine) :
    (s.runInto session Buffer.empty script).1.sink.output =
        (s.run session .unlimited script).1.sink.written ∧
      (s.runInto session Buffer.empty script).2 = (s.run session .unlimited script).2 := by
  obtain ⟨sink, hsink, hrun⟩ := s.runFrom_of_simulates Buffer.simulates_isLike
    (p := ⟨session, Buffer.empty, [], 0⟩) (w := Sink.unlimited) rfl script
  have hsame : s.run session .unlimited script = _ := hrun
  rw [hsame, Setting.runInto, Buffer.output_eq_all]
  obtain rfl : sink = _ := hsink
  exact ⟨rfl, rfl⟩

end CommandLine

end NavScript
