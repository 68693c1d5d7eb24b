import Mathlib.Data.List.TakeWhile
import NavScript.Files.Basic
import NavScript.Proofs.Text.Utf8

namespace NavScript

/-!
# Files that differ in what some of them hold

Looking a name up goes by the places of directories and by what kind of entry stands there.  Where
the contents of some files are exchanged, every name therefore leads to the same place as before,
and only names of those files are read differently.

* `Files.fill_fill_of_subset`, `Files.fill_append` — contents exchanged twice
* `Files.find_fill` — looking names up
* `Files.place_of_find` — the place that a name leads to
* `Files.readText_fill` — reading other files
* `Files.readText_of_read` — a file with the bytes of a text
* `Files.parent_of_bare` — names without a directory
-/

namespace Files

variable (files : Files) (places : List Place) (bytes : List UInt8)

@[simp] theorem filledAt_directory (p : Place) :
    filledAt places bytes p .directory = .directory := by
  rw [filledAt]
  split <;> rfl

/-- Elsewhere an entry stays as it is. -/
theorem filledAt_of_notMem {p : Place} (h : p ∉ places) (entry : Entry) :
    filledAt places bytes p entry = entry :=
  if_neg h

/-! ### Contents exchanged twice -/

/-- The contents that come last stay. -/
@[simp] theorem filled_filled (held : List UInt8) (entry : Entry) :
    (entry.filled held).filled bytes = entry.filled bytes := by
  cases entry <;> rfl

@[simp] theorem fill_nil : files.fill [] bytes = files := by
  simp [fill, filledAt]

/-- Contents that are exchanged again do not show any more. -/
theorem fill_fill_of_subset {inner : List Place} (h : inner ⊆ places) (held : List UInt8) :
    (files.fill inner held).fill places bytes = files.fill places bytes := by
  simp only [fill, List.map_map]
  congr 1
  refine List.map_congr_left fun e _ => Prod.ext rfl ?_
  simp only [Function.comp, filledAt]
  by_cases hinner : e.1 ∈ inner
  · simp [hinner, h hinner]
  · simp [hinner]

/-- The same contents can be put in at some places and then at others. -/
theorem fill_append (one other : List Place) :
    files.fill (one ++ other) bytes = (files.fill one bytes).fill other bytes := by
  simp only [fill, List.map_map]
  congr 1
  refine List.map_congr_left fun e _ => Prod.ext rfl ?_
  simp only [Function.comp, filledAt, List.mem_append]
  by_cases hone : e.1 ∈ one <;> by_cases hother : e.1 ∈ other <;> simp [hone, hother]

/-- Contents at some places, and others at different places, can be put in in any order. -/
theorem fill_comm {one other : List Place} (h : ∀ p ∈ one, p ∉ other) (held : List UInt8) :
    (files.fill one held).fill other bytes = (files.fill other bytes).fill one held := by
  simp only [fill, List.map_map]
  congr 1
  refine List.map_congr_left fun e _ => Prod.ext rfl ?_
  simp only [Function.comp, filledAt]
  by_cases hone : e.1 ∈ one
  · simp [hone, h e.1 hone]
  · simp [hone]

/-! ### Looking names up -/

/-- Values changed in a list of entries, and looked up. -/
theorem lookup_map_snd {α β : Type} [BEq α] [LawfulBEq α] (f : α → β → β) (p : α)
    (es : List (α × β)) :
    (es.map fun e => (e.1, f e.1 e.2)).lookup p = (es.lookup p).map (f p) := by
  induction es with
  | nil => rfl
  | cons e es ih =>
    rw [List.map_cons, List.lookup_cons, List.lookup_cons]
    cases h : p == e.1 with
    | true =>
      obtain rfl := eq_of_beq h
      rfl
    | false => exact ih

/-- What every system has is no file that holds anything. -/
theorem filledAt_of_lookup_system {p : Place} {entry : Entry} (h : system.lookup p = some entry) :
    filledAt places bytes p entry = entry := by
  obtain ⟨front, back, hsystem, -⟩ := List.lookup_eq_some_iff.mp h
  have hmem : (p, entry) ∈ system := by simp [hsystem]
  have hkind : entry = .device ∨ entry = .directory := by
    rcases List.mem_cons.mp hmem with heq | hdirectory
    · exact .inl (congrArg Prod.snd heq)
    · obtain ⟨place, -, heq⟩ := List.mem_map.mp hdirectory
      exact .inr (congrArg Prod.snd heq).symm
  rw [filledAt]
  rcases hkind with rfl | rfl <;> split <;> rfl

/-- What stands at a place has the new contents there. -/
theorem at?_fill (p : Place) :
    (files.fill places bytes).at? p = (files.at? p).map (filledAt places bytes p) := by
  rw [at?, at?]
  split
  · simp
  · rw [fill, lookup_map_snd]
    cases files.entries.lookup p with
    | some entry => rfl
    | none =>
      cases hsystem : system.lookup p with
      | none => rfl
      | some entry => simp [filledAt_of_lookup_system places bytes hsystem]

/-- What has been looked up, seen after the files at certain places have got other contents. -/
def foundFilled (r : Place × Option Entry) : Place × Option Entry :=
  (r.1, r.2.map (filledAt places bytes r.1))

/-- A step from one directory leads to the same place. -/
theorem step_fill (here : Place) (part : String) :
    (files.fill places bytes).step here part =
      (files.step here part).map (foundFilled places bytes) := by
  rw [step, step]
  split
  · simp [Except.map, foundFilled]
  · split
    · simp [Except.map, foundFilled]
    · split
      · rfl
      · simp only [at?_fill]
        rfl

/-- Directories stay directories, so the walk goes the same way. -/
theorem walk_fill (here : Place) (parts : List String) :
    (files.fill places bytes).walk here parts =
      (files.walk here parts).map (foundFilled places bytes) := by
  induction parts generalizing here with
  | nil => simp [walk, Except.map, foundFilled]
  | cons part rest ih =>
    cases rest with
    | nil => exact step_fill files places bytes here part
    | cons next rest =>
      rw [walk, walk, step_fill]
      cases files.step here part with
      | error obstacle => rfl
      | ok r =>
        obtain ⟨here', entry⟩ := r
        cases entry with
        | none => rfl
        | some entry =>
          cases entry with
          | directory =>
            simp only [Except.map, foundFilled, Option.map_some, filledAt_directory]
            exact ih here'
          | file held | locked | device =>
            simp only [Except.map, foundFilled, Option.map_some, filledAt]
            split <;> rfl

/-- So does a whole name. -/
theorem find_fill (name : String) :
    (files.fill places bytes).find name = (files.find name).map (foundFilled places bytes) := by
  rw [find, find]
  split
  · rfl
  · split
    · rfl
    · split
      · rfl
      · exact walk_fill files places bytes ..

/-! ### Places of names -/

/-- The place of a component seen from a directory. -/
def placeFrom (here : Place) (part : String) : Place :=
  if part == "." then here else if part == ".." then above here else fromWorking (here ++ [part])

/-- The place of components seen from a directory; empty ones lead nowhere else. -/
def placeAlong (here : Place) (parts : List String) : Place :=
  (parts.filter (· ≠ "")).foldl placeFrom here

/-- A place along components, the first of them taken by itself. -/
theorem placeAlong_cons (here : Place) (part : String) (rest : List String) :
    placeAlong here (part :: rest) = placeAlong (placeAlong here [part]) rest := by
  rw [placeAlong, placeAlong, placeAlong, ← List.foldl_append, ← List.filter_append,
    List.singleton_append]

theorem placeOf_eq_placeAlong (name : String) :
    placeOf name =
      placeAlong (if isAbsolute name then root else [])
        ((name.toList.splitOn '/').map String.ofList) := by
  have hcomponents : components name =
      ((name.toList.splitOn '/').map String.ofList).filter (· ≠ "") := by
    rw [components, List.filter_map]
    congr 2
    funext cs
    cases cs <;> simp
  rw [placeAlong, ← hcomponents]
  rfl

/-- A step that succeeds leads where the component says. -/
theorem place_of_step {here p : Place} {part : String} {entry : Option Entry}
    (h : files.step here part = .ok (p, entry)) : p = placeAlong here [part] := by
  by_cases hempty : part = ""
  · subst hempty
    exact (congrArg Prod.fst (Except.ok.inj h)).symm
  · have halong : placeAlong here [part] = placeFrom here part := by simp [placeAlong, hempty]
    rw [halong, placeFrom]
    rw [step] at h
    have hdot : (part == "" || part == ".") = (part == ".") := by simp [hempty]
    rw [hdot] at h
    split at h <;> rename_i hpart
    · rw [if_pos hpart]
      exact (congrArg Prod.fst (Except.ok.inj h)).symm
    · rw [if_neg hpart]
      split at h <;> rename_i hup
      · rw [if_pos hup]
        exact (congrArg Prod.fst (Except.ok.inj h)).symm
      · rw [if_neg hup]
        split at h
        · cases h
        · exact (congrArg Prod.fst (Except.ok.inj h)).symm

/-- A walk ends at the place that its components name. -/
theorem place_of_walk {here p : Place} {parts : List String} {entry : Option Entry}
    (h : files.walk here parts = .ok (p, entry)) : p = placeAlong here parts := by
  induction parts generalizing here with
  | nil => exact (congrArg Prod.fst (Except.ok.inj h)).symm
  | cons part rest ih =>
    cases rest with
    | nil => exact place_of_step files h
    | cons next rest =>
      rw [walk] at h
      rw [placeAlong_cons]
      cases hstep : files.step here part with
      | error obstacle =>
        rw [hstep] at h
        cases h
      | ok r =>
        obtain ⟨here', entry'⟩ := r
        obtain rfl := place_of_step files hstep
        rw [hstep] at h
        -- only a directory lets the walk go on
        cases entry' with
        | none => cases h
        | some entry' =>
          cases entry' with
          | directory => exact ih h
          | file | locked | device => cases h

/-- Whatever there is, a name leads to one place. -/
theorem place_of_find {name : String} {p : Place} {entry : Option Entry}
    (h : files.find name = .ok (p, entry)) : p = placeOf name := by
  rw [find] at h
  split at h
  · cases h
  · split at h
    · cases h
    · split at h
      · cases h
      · rw [placeOf_eq_placeAlong]
        exact place_of_walk files h

/-! ### Reading -/

/-- Other names than those of the files find the same as before. -/
theorem entry_fill {name : String} (h : placeOf name ∉ places) :
    (files.fill places bytes).entry name = files.entry name := by
  rw [entry, entry, find_fill]
  cases hfind : files.find name with
  | error obstacle => rfl
  | ok r =>
    obtain ⟨p, entry⟩ := r
    obtain rfl := place_of_find files hfind
    cases entry with
    | none => rfl
    | some entry => simp [Except.map, foundFilled, filledAt_of_notMem places bytes h]

/-- The text of a file that stands elsewhere stays as it is. -/
theorem readText_fill {name : String} (h : placeOf name ∉ places) :
    (files.fill places bytes).readText name = files.readText name := by
  rw [readText, readText, read, read, entry_fill files places bytes h]

/-- A file with the bytes of a text holds this text. -/
theorem readText_of_read {name text : String}
    (h : files.read name = .ok (Text.Utf8.encode text)) : files.readText name = .ok text := by
  rw [readText, h]
  simp only [bind, Except.bind, Text.Utf8.decode_encode]
  rfl

/-! ### Names without a directory -/

/-- Nothing is taken away from a name in which there is no slash. -/
theorem trimEnd_of_notMem {cs : List Char} (h : '/' ∉ cs) : trimEnd cs = cs := by
  rw [trimEnd.eq_def]
  split <;> simp_all

/-- A name without a slash has no directory. -/
theorem parent_of_bare {name : String} (h : '/' ∉ name.toList) : parent name = "" := by
  have hnone : '/' ∉ name.toList.reverse := by simpa using h
  have hdrop : name.toList.reverse.dropWhile (· != '/') = [] := by
    refine List.dropWhile_eq_nil_iff.mpr fun c hc => ?_
    have hne : c ≠ '/' := fun heq => hnone (heq ▸ hc)
    simpa using hne
  have hroot : (name.toList.reverse == ['/']) = false := by
    refine beq_eq_false_iff_ne.mpr fun heq => hnone ?_
    simp [heq]
  simp [parent, trimEnd_of_notMem hnone, hdrop, hroot, trimEnd]

end Files

end NavScript
