import Mathlib.Data.List.Forall2
import NavScript.Tool.Copy

namespace NavScript.Tool

open NavScript.Text

/-!
# Files that are copied

What a tool copies comes out as it went in: the bytes of files that can be read, one after the
other.

* `Options.read_of_operands` — arguments without an option among them
* `Call.NamesFile` — a name under which a tool reads a file
* `cat_of_files` — files copied to the output
-/

/-! ### Arguments -/

/-- An argument that is not told apart from others by a hyphen. -/
def IsOperand (arg : String) : Prop := arg.toList.head? ≠ some '-'

/-- Operands are added to what has been told apart before. -/
theorem Options.readFrom_of_operands (o : Options) {args : List String}
    (hargs : ∀ arg ∈ args, IsOperand arg) {fuel : Nat} (hfuel : args.length ≤ fuel)
    (done : List Item) : o.readFrom fuel done args = .ok (done.reverse ++ args.map .operand) := by
  induction args generalizing fuel done with
  | nil => cases fuel <;> simp [readFrom]
  | cons arg rest ih =>
    obtain ⟨harg, hrest⟩ := List.forall_mem_cons.mp hargs
    cases fuel with
    | zero => simp at hfuel
    | succ fuel =>
      have hnext := ih hrest (Nat.le_of_succ_le_succ hfuel) (.operand arg :: done)
      unfold readFrom
      split
      case h_1 h => exact absurd (by rw [h]; rfl) harg
      case h_2 h => exact absurd (by rw [h]; rfl) harg
      case h_3 h => exact absurd (by rw [h]; rfl) harg
      case h_4 =>
        rw [hnext]
        simp

/-- Operands are told apart as such. -/
theorem Options.read_of_operands (o : Options) {args : List String}
    (hargs : ∀ arg ∈ args, IsOperand arg) : o.read args = .ok (args.map .operand) :=
  o.readFrom_of_operands hargs (Nat.le_succ _) []

/-- They are found again, -/
theorem operands_map_operand (args : List String) : operands (args.map .operand) = args := by
  simp [operands, List.filterMap_map]

/-- and no option is. -/
theorem has_map_operand (args : List String) (letter : Char) :
    has (args.map .operand) letter = false := by
  simp [has]

/-- A tool that is given operands alone does its work with those. -/
theorem withOptions_of_operands {tool : String} {status : Nat} {o : Options}
    {work : List Item → Work Unit} {call : Call} (hargs : ∀ arg ∈ call.args, IsOperand arg) :
    withOptions tool status o work call =
      ((work (call.args.map .operand)).run ⟨call, ⟨0, [], call.files, none⟩⟩).2.result := by
  unfold withOptions of
  dsimp only
  rw [o.read_of_operands hargs]

/-! ### Files -/

/-- The file of a name, as a tool sees it. -/
def Call.read (call : Call) (name : String) : Except Obstacle (List UInt8) :=
  call.files.read
    (if name.isEmpty then "" else Files.join (Narrow.toText call.directory) (Narrow.toText name))

/-- The names that stand for the input. -/
def inputNames : List String := ["-", "/dev/stdin", "/dev/fd/0", "/proc/self/fd/0"]

/-- An argument under which a tool reads the bytes of a file. -/
structure Call.NamesFile (call : Call) (name : String) (bytes : List UInt8) : Prop where
  isOperand : IsOperand name
  notInput : name ∉ inputNames
  read : call.read name = .ok bytes

/-- Reading a file changes nothing. -/
theorem Work.run_contents {j : Job} {name : String} (hname : name ∉ inputNames)
    (hfiles : j.result.files = j.call.files) :
    (contents name).run j = ((j.call.read name).map Narrow.ofBytes, j) := by
  have hcontains : inputNames.contains name = false := by simpa using hname
  change (if inputNames.contains name = true then _ else _ : Work _).run j = _
  rw [hcontains]
  change ((j.result.files.read _).map _, j) = _
  rw [hfiles]
  rfl

/-- A loop that adds the text of each file to those before it. -/
theorem run_forIn_of_files {call : Call} {j : Job} {names : List String}
    {texts : List (List UInt8)} {round : String → String → Work (ForInStep String)}
    (hround : ∀ name bytes all, call.NamesFile name bytes →
      (round name all).run j = (.yield (all ++ Narrow.ofBytes bytes), j))
    (hfiles : List.Forall₂ call.NamesFile names texts) (all : String) :
    (forIn names all round).run j = (all ++ Narrow.ofBytes texts.flatten, j) := by
  induction hfiles generalizing all with
  | nil =>
    rw [List.forIn_nil, List.flatten_nil, show Narrow.ofBytes [] = "" from rfl, String.append_empty]
    rfl
  | cons hname _ ih =>
    rw [List.forIn_cons, StateT.run_bind, hround _ _ _ hname]
    refine (ih _).trans ?_
    simp [Narrow.ofBytes, String.append_assoc]

/-- **Files copied to the output.**  The bytes of files that can be read come out one after the
    other, all at once, and nothing else happens. -/
theorem cat_of_files {call : Call} {texts : List (List UInt8)} (hargs : call.args ≠ [])
    (hfiles : List.Forall₂ call.NamesFile call.args texts) :
    cat call = ⟨0, [(false, Narrow.ofBytes texts.flatten)], call.files, none⟩ := by
  have hoperands : ∀ arg ∈ call.args, IsOperand arg :=
    ((List.forall₂_and_left _ _).mp (hfiles.imp fun _ _ h => ⟨h.isOperand, h⟩)).1
  have hsources : sources (operands (call.args.map .operand)) = call.args := by
    rw [operands_map_operand, sources, List.isEmpty_eq_false_iff.mpr hargs]
    rfl
  -- without options the lines are neither numbered nor marked
  have hoption (letters : String) :
      letters.toList.any (has (call.args.map .operand)) = false := by
    simp [has_map_operand]
  refine (withOptions_of_operands hoperands).trans ?_
  dsimp only
  rw [hsources, StateT.run_bind, run_forIn_of_files ?_ hfiles]
  · simp only [hoption, Bool.false_eq_true, if_false, String.empty_append]
    rfl
  · intro name bytes all hname
    rw [StateT.run_bind, Work.run_contents hname.notInput rfl, hname.read]
    rfl

end NavScript.Tool
