import NavScript.Tool.Catalogue

namespace NavScript.Tool

/-!
# Tools that only read

Many tools have no need to change a file.  Work leaves the files as they are if all of its steps do,
and of the steps only changing and writing do not.

* `Work.Keeps` — work that leaves the files as they are, step by step
* `LeavesFiles` — a tool that leaves the files as they are
* `writers`, `leavesFiles_of_named?` — the tools that only read
-/

/-! ### Work -/

namespace Work

/-- Work that leaves the files as they are. -/
def Keeps {α : Type} (work : Work α) : Prop :=
  ∀ j, (work.run j).2.result.files = j.result.files

variable {α β : Type}

/-- Nothing is done. -/
theorem keeps_pure (a : α) : Keeps (Pure.pure a) := fun _ => rfl

namespace Keeps

/-- Steps one after the other keep the files if each of them does. -/
theorem bind {w : Work α} {f : α → Work β} (hw : w.Keeps) (hf : ∀ a, (f a).Keeps) :
    (w >>= f).Keeps :=
  fun j => (hf _ _).trans (hw j)

/-- So do steps of which one is chosen. -/
theorem ite {c : Prop} [Decidable c] {v w : Work α} (hv : v.Keeps) (hw : w.Keeps) :
    Keeps (if c then v else w) := by
  split
  · exact hv
  · exact hw

/-- A loop leaves the files as they are if each of its rounds does. -/
theorem forIn {f : α → β → Work (ForInStep β)} (hf : ∀ a b, (f a b).Keeps) (l : List α) (b : β) :
    Keeps (ForIn.forIn l b f) := by
  induction l generalizing b with
  | nil => exact keeps_pure b
  | cons a l ih =>
    rw [List.forIn_cons]
    refine (hf a b).bind fun next => ?_
    cases next with
    | done b => exact keeps_pure b
    | yield b => exact ih b

/-- So does a step for each of a list. -/
theorem forM {f : α → Work PUnit} (hf : ∀ a, (f a).Keeps) (l : List α) : Keeps (l.forM f) := by
  induction l with
  | nil => exact keeps_pure _
  | cons a l ih => exact (hf a).bind fun _ => ih

end Keeps

/-- Looking at what the tool was given changes nothing. -/
theorem keeps_get : Keeps (get : Work Job) := fun _ => rfl

/-- Nor does writing to the output, -/
theorem keeps_say (text : String) : (say text).Keeps := fun _ => rfl

/-- to the errors, -/
theorem keeps_complain (text : String) : (complain text).Keeps := fun _ => rfl

/-- or ending with a number. -/
theorem keeps_setStatus (status : Nat) : (setStatus status).Keeps := fun _ => rfl

theorem keeps_fail (status : Nat) (text : String) : (fail status text).Keeps := fun _ => rfl

theorem keeps_files : files.Keeps := fun _ => rfl

theorem keeps_fullName (name : String) : (fullName name).Keeps := fun _ => rfl

theorem keeps_takeInput : takeInput.Keeps := fun _ => rfl

theorem keeps_find (name : String) : (find name).Keeps := fun _ => rfl

/-- Reading a file leaves it as it is, and so does reading the input. -/
theorem keeps_contents (name : String) : (contents name).Keeps := by
  unfold contents
  refine .ite (keeps_get.bind fun j => ?_) ?_
  · split
    · exact keeps_takeInput.bind fun _ => keeps_pure _
    · exact keeps_pure _
  · exact keeps_files.bind fun _ => (keeps_fullName name).bind fun _ => keeps_pure _

end Work

open Work

/-! ### Tools -/

/-- The tool leaves the files as they are. -/
def LeavesFiles (t : Tool) : Prop := ∀ call, (t call).files = call.files

/-- A tool leaves the files as they are if its work does. -/
theorem leavesFiles_of {work : List String → Work Unit} (h : ∀ args, (work args).Keeps) :
    LeavesFiles (of work) :=
  fun call => h call.args _

/-- So does one whose arguments are told apart first: complaining about them changes nothing. -/
theorem leavesFiles_withOptions {tool : String} {status : Nat} {o : Options}
    {work : List Item → Work Unit} (h : ∀ items, (work items).Keeps) :
    LeavesFiles (withOptions tool status o work) :=
  leavesFiles_of fun args => by
    split
    · exact h _
    · exact keeps_fail _ _

/-! ### Files one after the other -/

/-- Files read one after the other. -/
theorem keeps_eachSource {status : Nat} {complaint : String → Obstacle → String}
    {names : List String} {handle : String → String → Work Unit}
    (h : ∀ name text, (handle name text).Keeps) :
    (eachSource status complaint names handle).Keeps := by
  refine Keeps.forIn (fun name _ => (keeps_contents name).bind fun found => ?_) _ _
  cases found with
  | ok text => exact (h name text).bind fun _ => keeps_pure _
  | error o => exact (keeps_fail _ _).bind fun _ => keeps_pure _

theorem leavesFiles_cat : LeavesFiles cat := leavesFiles_withOptions fun items => by
  refine (Keeps.forIn (fun name all => (keeps_contents name).bind fun found => ?_) _ _).bind
    fun all => ?_
  · cases found with
    | ok text => exact keeps_pure _
    | error o => exact (keeps_fail _ _).bind fun _ => keeps_pure _
  · exact .ite (keeps_say _) (keeps_say _)

theorem leavesFiles_tac : LeavesFiles tac :=
  leavesFiles_withOptions fun _ => keeps_eachSource fun _ _ => keeps_say _

theorem leavesFiles_rev : LeavesFiles rev :=
  leavesFiles_withOptions fun _ => keeps_eachSource fun _ _ => keeps_say _

/-! ### Beginnings and ends -/

/-- Parts of files, with headings between them. -/
theorem keeps_writeParts (tool : String) (items : List Item) (cut : String → String) :
    (writeParts tool items cut).Keeps := by
  refine (Keeps.forIn (fun name first => (keeps_contents name).bind fun found => ?_) _ _).bind
    fun _ => keeps_pure _
  split
  · have hjoin (text : String) : Keeps (do say (cut text); Pure.pure (ForInStep.yield false)) :=
      (keeps_say _).bind fun _ => keeps_pure _
    exact .ite ((keeps_say _).bind fun _ => hjoin _) (hjoin _)
  · have hjoin (text : String) : Keeps (do fail 1 text; Pure.pure (ForInStep.yield false)) :=
      (keeps_fail _ _).bind fun _ => keeps_pure _
    exact .ite ((keeps_say _).bind fun _ => hjoin _) (hjoin _)
  · exact (keeps_fail _ _).bind fun _ => keeps_pure _

/-- A tool that takes an older form of its arguments, too, leaves the files as they are if it does
    when it is given the newer. -/
theorem leavesFiles_head : LeavesFiles head := by
  have hrun : LeavesFiles head.run := leavesFiles_withOptions fun items => by
    split
    · exact keeps_writeParts _ _ _
    · exact keeps_fail _ _
  intro call
  unfold head
  split
  · split
    · rfl
    · exact hrun _
    · exact hrun _
  · exact hrun _

theorem leavesFiles_tail : LeavesFiles tail := by
  have hrun : LeavesFiles tail.run := leavesFiles_withOptions fun items => by
    split
    · exact keeps_writeParts _ _ _
    · exact keeps_fail _ _
  intro call
  unfold tail
  split
  · split
    · rfl
    · exact hrun _
    · exact hrun _
  · exact hrun _

/-! ### Counting -/

theorem leavesFiles_wc : LeavesFiles wc := leavesFiles_withOptions fun items => by
  refine (Keeps.forIn (fun name sizes => (keeps_contents name).bind fun found => ?_) _ _).bind
    fun found => (Keeps.forIn (fun line _ => ?_) _ _).bind
      fun _ => .ite (keeps_say _) (keeps_pure _)
  · cases found <;> exact .ite (keeps_pure _) (keeps_pure _)
  · obtain ⟨name, counts⟩ := line
    cases counts with
    | ok counts => exact (keeps_say _).bind fun _ => keeps_pure _
    | error o =>
      exact (keeps_fail _ _).bind fun _ =>
        .ite ((keeps_say _).bind fun _ => keeps_pure _) (keeps_pure _)

theorem leavesFiles_seq : LeavesFiles seq := by
  have hprint : ∀ items numbers texts, (seq.print items numbers texts).Keeps := by
    intro items numbers texts
    unfold seq.print
    dsimp only
    split
    · exact keeps_fail _ _
    · exact .ite (keeps_fail _ _) (.ite (keeps_say _) (keeps_pure _))
  have hrun : LeavesFiles seq.run := leavesFiles_withOptions fun items => by
    dsimp only
    split
    · exact keeps_fail _ _
    · split
      · exact keeps_fail _ _
      · exact hprint _ _ _
  intro call
  exact hrun _

theorem leavesFiles_nl : LeavesFiles nl := leavesFiles_withOptions fun items => by
  refine (Keeps.forIn (fun name number => (keeps_contents name).bind fun found => ?_) _ _).bind
    fun _ => keeps_pure _
  cases found with
  | error o => exact (keeps_fail _ _).bind fun _ => keeps_pure _
  | ok text =>
    refine (Keeps.forIn (fun line number => ?_) _ _).bind fun _ => keeps_pure _
    exact .ite ((keeps_say _).bind fun _ => keeps_pure _) ((keeps_say _).bind fun _ => keeps_pure _)

/-! ### Columns -/

theorem leavesFiles_cut : LeavesFiles cut := leavesFiles_withOptions fun items => by
  dsimp only
  split
  · exact keeps_fail _ _
  · exact keeps_fail _ _
  · refine .ite (keeps_fail _ _) (.ite (keeps_fail _ _) (.ite (keeps_fail _ _) ?_))
    split
    · exact keeps_fail _ _
    · exact keeps_eachSource fun _ _ => keeps_say _

theorem leavesFiles_paste : LeavesFiles paste := leavesFiles_withOptions fun items => by
  refine (Keeps.forIn (fun name columns => (keeps_contents name).bind fun found => ?_) _ _).bind
    fun columns => keeps_say _
  cases found with
  | ok text => exact keeps_pure _
  | error o => exact (keeps_fail _ _).bind fun _ => keeps_pure _

theorem leavesFiles_fold : LeavesFiles fold := leavesFiles_withOptions fun items => by
  dsimp only
  split
  · exact keeps_fail _ _
  · exact keeps_eachSource fun _ _ => keeps_say _

/-! ### Searching -/

/-- Patterns may be read from files. -/
theorem keeps_patternTexts (items : List Item) : (patternTexts items).Keeps := by
  unfold patternTexts
  refine (Keeps.forIn (fun item texts => ?_) _ _).bind fun texts => ?_
  · dsimp only
    split
    · exact keeps_pure _
    · refine (keeps_contents _).bind fun found => ?_
      cases found <;> exact keeps_pure _
    · exact keeps_pure _
  · dsimp only
    split <;> exact keeps_pure _

/-- Directories may be searched, too. -/
theorem keeps_searched (items : List Item) (names : List String) :
    (searched items names).Keeps := by
  unfold searched
  refine .ite (keeps_pure _) (keeps_files.bind fun files =>
    (Keeps.forIn (fun name all => (keeps_fullName _).bind fun full => ?_) _ _).bind
      fun _ => keeps_pure _)
  split <;> exact keeps_pure _

/-- What is found in a file is shown. -/
theorem keeps_showFound (items : List Item) (r : Report) (name : String) (hidden : Bool)
    (p : Report.Progress) : (showFound items r name hidden p).Keeps := by
  unfold showFound
  refine .ite (keeps_pure _) (.ite ?_ (.ite ?_ (.ite ?_ ?_)))
  · exact .ite ((keeps_say _).bind fun _ => keeps_pure _) (keeps_pure _)
  · exact (keeps_say _).bind fun _ => keeps_pure _
  · exact .ite ((keeps_complain _).bind fun _ => keeps_pure _) (keeps_pure _)
  · exact (keeps_say _).bind fun _ => keeps_pure _

/-- Files are searched one after the other, by induction on their names. -/
theorem keeps_searchFiles (items : List Item) (w : Search) (r : Report) (names : List String)
    (total : Nat) (anyShown failed : Bool) :
    (searchFiles items w r total anyShown failed names).Keeps := by
  induction names generalizing total anyShown failed with
  | nil => exact keeps_setStatus _
  | cons name rest ih =>
    rw [searchFiles]
    refine (keeps_contents name).bind fun found => ?_
    cases found with
    | ok text =>
      exact (keeps_showFound _ _ _ _ _).bind fun shown => .ite (keeps_setStatus _) (ih _ _ _)
    | error o => exact .ite ((keeps_complain _).bind fun _ => ih _ _ _) (ih _ _ _)

theorem leavesFiles_grepWith (kind : Char) : LeavesFiles (grepWith kind) := by
  have hgo : ∀ items kind texts names, (grepWith.go items kind texts names).Keeps := by
    intro items kind texts names
    unfold grepWith.go
    dsimp only
    split
    · exact keeps_fail _ _
    · exact keeps_fail _ _
    · exact (keeps_searched _ _).bind fun _ => keeps_searchFiles _ _ _ _ _ _ _
  intro call
  unfold grepWith
  split
  · rfl
  · refine leavesFiles_of (fun _ => .ite (keeps_fail _ _) ?_) call
    refine (keeps_patternTexts _).bind fun texts => ?_
    dsimp only
    split
    · exact keeps_fail _ _
    · exact keeps_fail _ _
    · exact hgo _ _ _ _
    · exact hgo _ _ _ _

/-! ### Characters and words -/

theorem leavesFiles_tr : LeavesFiles tr := leavesFiles_withOptions fun items => by
  dsimp only
  split
  · exact keeps_fail _ _
  · split
    · exact keeps_fail _ _
    · exact .ite (keeps_fail _ _) (keeps_takeInput.bind fun _ => keeps_say _)

theorem leavesFiles_echo : LeavesFiles echo := leavesFiles_of fun args => by
  dsimp only
  refine .ite ?_ (keeps_say _)
  split
  · exact keeps_say _
  · exact keeps_say _

theorem leavesFiles_printf : LeavesFiles printf := leavesFiles_of fun args => by
  dsimp only
  split
  · exact keeps_fail _ _
  · refine (keeps_say _).bind fun _ =>
      (Keeps.forIn (fun _ _ => (keeps_complain _).bind fun _ => keeps_pure _) _ _).bind fun _ => ?_
    refine .ite ((keeps_setStatus _).bind fun _ => ?_) ?_
    · split
      · exact .ite (keeps_complain _) (keeps_pure _)
      · exact keeps_pure _
    · split
      · exact .ite (keeps_complain _) (keeps_pure _)
      · exact keeps_pure _

theorem leavesFiles_expr : LeavesFiles expr := leavesFiles_of fun args => by
  dsimp only
  refine .ite (keeps_fail _ _) ?_
  split
  · exact (keeps_say _).bind fun _ => keeps_setStatus _
  · exact keeps_fail _ _

theorem leavesFiles_basename : LeavesFiles basename := leavesFiles_withOptions fun items => by
  dsimp only
  split
  · exact keeps_fail _ _
  · exact Keeps.forM (fun _ => keeps_say _) _
  · exact keeps_say _
  · exact keeps_say _
  · exact keeps_fail _ _

theorem leavesFiles_dirname : LeavesFiles dirname := leavesFiles_withOptions fun items => by
  split
  · exact keeps_fail _ _
  · exact Keeps.forM (fun _ => keeps_say _) _

/-! ### The surroundings -/

theorem leavesFiles_printenv : LeavesFiles printenv := leavesFiles_withOptions fun items => by
  refine keeps_get.bind fun j => ?_
  dsimp only
  split
  · exact Keeps.forM (fun _ => keeps_say _) _
  · refine (Keeps.forIn (fun name _ => ?_) _ _).bind fun _ => keeps_pure _
    split
    · exact (keeps_say _).bind fun _ => keeps_pure _
    · exact (keeps_setStatus _).bind fun _ => keeps_pure _

theorem leavesFiles_pwd : LeavesFiles pwd :=
  leavesFiles_withOptions fun _ => keeps_get.bind fun _ => keeps_say _

theorem leavesFiles_sleep : LeavesFiles sleep := leavesFiles_withOptions fun items => by
  split
  · exact keeps_fail _ _
  · exact keeps_pure _
  · exact (Keeps.forIn (fun _ _ => (keeps_fail _ _).bind fun _ => keeps_pure _) _ _).bind
      fun _ => keeps_complain _

theorem leavesFiles_yes : LeavesFiles yes := leavesFiles_withOptions fun _ => keeps_say _

theorem leavesFiles_ls : LeavesFiles ls := leavesFiles_withOptions fun items => by
  refine (Keeps.forIn (fun name found => (keeps_find name).bind fun there => ?_) _ _).bind
    fun found => keeps_files.bind fun files => ?_
  · split
    · exact (keeps_fail _ _).bind fun _ => keeps_pure _
    · exact (keeps_fail _ _).bind fun _ => keeps_pure _
    · exact .ite (keeps_pure _) (keeps_pure _)
    · exact keeps_pure _
  · refine (Keeps.forIn (fun _ _ => (keeps_say _).bind fun _ => keeps_pure _) _ _).bind fun _ => ?_
    exact .ite ((keeps_say _).bind fun _ => keeps_say _) (keeps_say _)

/-! ### All tools -/

/-- The tools that can change files. -/
def writers : List String :=
  ["tee", "sed", "sort", "uniq", "cp", "mv", "rm", "mkdir", "rmdir", "touch", "mktemp", "chmod"]

/-- The tools in turn: the writers are left out, and each of the others has been looked at above. -/
theorem leavesFiles_of_mem_all : ∀ entry ∈ all, entry.1 ∉ writers → LeavesFiles entry.2 := by
  -- what is claimed of a writer is claimed of none, since it is one
  have hwriter : ∀ {name : String} {t : Tool}, name ∈ writers → name ∉ writers → LeavesFiles t :=
    fun hmem hnot => absurd hmem hnot
  simp only [all, List.forall_mem_cons]
  exact ⟨fun _ => leavesFiles_of fun _ => keeps_pure _,
    fun _ => leavesFiles_of fun _ => keeps_setStatus _,
    fun _ => leavesFiles_echo, fun _ => leavesFiles_printf, fun _ => leavesFiles_cat,
    hwriter (by decide), fun _ => leavesFiles_head, fun _ => leavesFiles_tail,
    fun _ => leavesFiles_tac, fun _ => leavesFiles_rev, hwriter (by decide),
    fun _ => leavesFiles_tr,
    fun _ => leavesFiles_wc, fun _ => leavesFiles_seq, fun _ => leavesFiles_nl, hwriter (by decide),
    hwriter (by decide), fun _ => leavesFiles_cut, fun _ => leavesFiles_paste,
    fun _ => leavesFiles_fold, fun _ => leavesFiles_grepWith 'G', fun _ => leavesFiles_grepWith 'E',
    fun _ => leavesFiles_grepWith 'F', fun _ => leavesFiles_expr, fun _ => leavesFiles_basename,
    fun _ => leavesFiles_dirname, hwriter (by decide), hwriter (by decide), hwriter (by decide),
    hwriter (by decide), hwriter (by decide), hwriter (by decide), hwriter (by decide),
    hwriter (by decide), fun _ => leavesFiles_ls, fun _ => leavesFiles_printenv,
    fun _ => leavesFiles_pwd, fun _ => leavesFiles_sleep, fun _ => leavesFiles_yes, by simp⟩

/-- **Tools that only read.**  Of the tools only the writers can change a file. -/
theorem leavesFiles_of_named? {name : String} {t : Tool} (h : named? name = some t)
    (hname : name ∉ writers) : LeavesFiles t := by
  obtain ⟨before, after, hall, -⟩ := List.lookup_eq_some_iff.mp h
  exact leavesFiles_of_mem_all (name, t) (by rw [hall]; simp) hname

end NavScript.Tool
