import NavScript.Proofs.Session.Step

namespace NavScript

/-!
# Lines one after the other

A session can go on after a line that is refused.  Since a line leaves nothing behind but the
drawing that it loads, every other line can be taken out, and lines can change places, without any
effect on what the rest compile to, as long as none of them gets to the other side of the line that
loads.

* `Setting.leave`, `Setting.replies` — the session that lines leave, and what they compile to
* `Setting.leave_take_of_load` — before the drawing is loaded, and after it
* `Setting.replies_of_kept` — lines taken out and moved
-/

namespace Setting

variable (s : Setting)

/-- The session that lines leave, each compiled in the session that the one before it leaves. -/
def leave (session : Session) (lines : List String) : Session :=
  lines.foldl (fun session line => (s.step session line).after) session

/-- What lines compile to, each in the session that those before it leave. -/
def replies (session : Session) : List String → List Compiled
  | [] => []
  | line :: rest =>
    (s.compile session line).1 :: replies (s.step session line).after rest

@[simp] theorem leave_nil (session : Session) : s.leave session [] = session := rfl

/-- The first line, and then the others. -/
@[simp] theorem leave_cons (session : Session) (line : String) (rest : List String) :
    s.leave session (line :: rest) = s.leave (s.step session line).after rest := rfl

/-- Lines go on from the session that those before them leave. -/
@[simp] theorem leave_append (session : Session) (a b : List String) :
    s.leave session (a ++ b) = s.leave (s.leave session a) b := by
  simp [leave]

/-- There is one reply for each line. -/
@[simp] theorem length_replies (session : Session) (lines : List String) :
    (s.replies session lines).length = lines.length := by
  induction lines generalizing session with
  | nil => rfl
  | cons line rest ih => simp [replies, ih]

/-- The replies to two parts, the second in the session that the first leaves. -/
@[simp] theorem replies_append (session : Session) (a b : List String) :
    s.replies session (a ++ b) = s.replies session a ++ s.replies (s.leave session a) b := by
  induction a generalizing session with
  | nil => rfl
  | cons line rest ih => simp [replies, ih]

/-- The reply to one of the lines. -/
theorem getElem?_replies (session : Session) (lines : List String) {i : Nat}
    (h : i < lines.length) :
    (s.replies session lines)[i]? =
      some (s.compile (s.leave session (lines.take i)) lines[i]).1 := by
  induction lines generalizing session i with
  | nil => simp at h
  | cons line rest ih =>
    cases i with
    | zero => rfl
    | succ i => simpa [replies] using ih (s.step session line).after (by simpa using h)

/-! ### Sessions that stay as they are -/

/-- Lines that each leave a session as it is are answered in that session. -/
theorem replies_of_fixed {session : Session} {lines : List String}
    (h : ∀ line ∈ lines, (s.step session line).after = session) :
    s.leave session lines = session ∧
      s.replies session lines = lines.map fun line => (s.compile session line).1 := by
  induction lines with
  | nil => exact ⟨rfl, rfl⟩
  | cons line rest ih =>
    have hline := h line (by simp)
    obtain ⟨hleave, hreplies⟩ := ih fun line hl => h line (List.mem_cons_of_mem _ hl)
    refine ⟨?_, ?_⟩
    · rw [leave_cons, hline, hleave]
    · rw [replies, hline, hreplies, List.map_cons]

/-- Once a drawing is loaded, nothing changes any more. -/
theorem leave_of_isSome {session : Session} (h : session.loaded.isSome) (lines : List String) :
    s.leave session lines = session :=
  (s.replies_of_fixed fun line _ => s.step_after_of_isSome h line).1

/-- As long as no drawing has been loaded, nothing has changed. -/
theorem step_after_of_leave (hf : s.flattener.LeavesFiles) {session : Session}
    {lines : List String} (h : (s.leave session lines).loaded = none) :
    ∀ line ∈ lines, (s.step session line).after = session := by
  induction lines with
  | nil => simp
  | cons line rest ih =>
    rcases s.step_after_cases hf session line with hline | ⟨-, -, -, hsome⟩
    · have hrest := ih (by rwa [leave_cons, hline] at h)
      intro line' hl
      rcases List.mem_cons.mp hl with rfl | hl
      · exact hline
      · exact hrest line' hl
    · rw [leave_cons, s.leave_of_isSome hsome] at h
      simp [h] at hsome

/-! ### Lines taken out and moved -/

/-- The line with number `k`, counted from zero, asks for a drawing and succeeds. -/
def LoadsAt (session : Session) (lines : List String) (k : Nat) : Prop :=
  ∃ line out, lines[k]? = some line ∧ IsLoad line ∧
    (s.replies session lines)[k]? = some (.lines out)

/-- Up to the line that loads a drawing the session is the first one, and behind it the one that
    this line leaves. -/
theorem leave_take_of_load (hp : s.options.precision ≤ Decimal.placesLimit)
    (hf : s.flattener.LeavesFiles) {session : Session} {lines : List String} {k : Nat}
    (hk : k < lines.length) (hload : s.LoadsAt session lines k) :
    (∀ i ≤ k, s.leave session (lines.take i) = session) ∧
      (∀ i, k < i → s.leave session (lines.take i) = (s.step session lines[k]).after) ∧
      (s.step session lines[k]).after.loaded.isSome ∧
      ∀ line ∈ lines.take k, (s.step session line).after = session := by
  obtain ⟨line, out, hline, hisload, hreply⟩ := hload
  obtain rfl : lines[k] = line := by simpa [List.getElem?_eq_getElem hk] using hline
  rw [s.getElem?_replies session lines hk, Option.some.injEq] at hreply
  obtain ⟨ds, hds, -⟩ := (Step.compiled_eq_lines_iff hp _ out).mp hreply
  obtain ⟨hnone, hsome⟩ := s.loads_of_isLoad hisload hds
  have hfixed := s.step_after_of_leave hf hnone
  have hbefore : ∀ i ≤ k, s.leave session (lines.take i) = session := by
    intro i hi
    refine (s.replies_of_fixed fun line hl => hfixed line ?_).1
    exact (List.take_subset_take_left lines hi) hl
  rw [hbefore k (Nat.le_refl k)] at hsome
  refine ⟨hbefore, ?_, hsome, hfixed⟩
  intro i hi
  obtain ⟨n, rfl⟩ : ∃ n, i = k + 1 + n := ⟨i - (k + 1), by omega⟩
  rw [List.take_add, List.take_succ_eq_append_getElem hk, leave_append, leave_append,
    hbefore k (Nat.le_refl k), leave_cons, leave_nil, s.leave_of_isSome hsome]

/-- Where no line loads a drawing, no line changes the session. -/
theorem step_after_of_not_loadsAt (hp : s.options.precision ≤ Decimal.placesLimit)
    (hf : s.flattener.LeavesFiles) {session : Session} {lines : List String}
    (h : ∀ k, ¬ s.LoadsAt session lines k) :
    ∀ line ∈ lines, (s.step session line).after = session := by
  induction lines with
  | nil => simp
  | cons line rest ih =>
    rcases s.step_after_cases hf session line with hline | ⟨-, hisload, ⟨ds, hds⟩, -⟩
    · have hrest := ih fun k ⟨line', out, hl, hi, hr⟩ =>
        h (k + 1) ⟨line', out, by simpa using hl, hi, by simpa [replies, hline] using hr⟩
      intro line' hl
      rcases List.mem_cons.mp hl with rfl | hl
      · exact hline
      · exact hrest line' hl
    · have hlines := (Step.compiled_eq_lines_iff hp (s.step session line) _).mpr ⟨ds, hds, rfl⟩
      exact absurd ⟨line, _, rfl, hisload, congrArg some hlines⟩ (h 0)

/-- The replies to lines that are kept, each of which leaves the session as it is. -/
theorem replies_map_of_fixed (session : Session) {lines : List String}
    (kept : List (Fin lines.length))
    (h : ∀ i ∈ kept, (s.step session lines[i]).after = session) :
    s.leave session (kept.map lines.get) = session ∧
      s.replies session (kept.map lines.get) =
        kept.map fun i => (s.compile session lines[i]).1 := by
  have hfixed : ∀ line ∈ kept.map lines.get, (s.step session line).after = session := by
    simpa using h
  obtain ⟨hleave, hreplies⟩ := s.replies_of_fixed hfixed
  exact ⟨hleave, by simpa [Function.comp_def] using hreplies⟩

/-- **A line leaves nothing behind but the drawing that it loads.**  Only a line that asks for a
    drawing where there is none, and succeeds, changes the session; a refused line never does.
    Hence the lines of a session can be given again with some of them left out, some repeated and
    the rest in another order, and each line that is kept compiles to what it did before, if it
    stays on its side of the line that loaded the drawing. -/
theorem replies_of_kept (hp : s.options.precision ≤ Decimal.placesLimit)
    (hf : s.flattener.LeavesFiles) :
    (∀ session line, (s.step session line).after ≠ session →
      session.loaded = none ∧ IsLoad line ∧ ∃ out, (s.compile session line).1 = .lines out) ∧
    (∀ session line e, (s.compile session line).1 = .refused e →
      (s.step session line).after = session) ∧
    (∀ session lines (k : Fin lines.length), s.LoadsAt session lines k →
      ∀ before after : List (Fin lines.length), (∀ i ∈ before, i < k) → (∀ i ∈ after, k < i) →
        (s.replies session ((before ++ k :: after).map lines.get)).map some =
          (before ++ k :: after).map fun i => (s.replies session lines)[i.val]?) ∧
    (∀ session lines, (∀ k, ¬ s.LoadsAt session lines k) →
      ∀ kept : List (Fin lines.length),
        (s.replies session (kept.map lines.get)).map some =
          kept.map fun i => (s.replies session lines)[i.val]?) := by
  refine ⟨?_, ?_, ?_, ?_⟩
  · intro session line hne
    rcases s.step_after_cases hf session line with h | ⟨hnone, hisload, ⟨ds, hds⟩, -⟩
    · exact absurd h hne
    · exact ⟨hnone, hisload, _, (Step.compiled_eq_lines_iff hp _ _).mpr ⟨ds, hds, rfl⟩⟩
  · intro session line e he
    have hout := (Step.compiled_eq_refused_iff _ _ e).mp he
    rcases s.step_after_cases hf session line with h | ⟨-, -, ⟨ds, hds⟩, -⟩
    · exact h
    · rw [hout] at hds
      cases hds
  · intro session lines k hload before after hb ha
    obtain ⟨hbefore, hafter, hsome, hfixed⟩ := s.leave_take_of_load hp hf k.isLt hload
    -- in front of the line that loads the session stays the first one, behind it the one it leaves
    obtain ⟨hleave, hreplies⟩ := s.replies_map_of_fixed session before
      fun i hi => hfixed _ (List.mem_take_iff_getElem.mpr ⟨i, by have := hb i hi; omega, rfl⟩)
    obtain ⟨-, hreplies'⟩ := s.replies_map_of_fixed (s.step session lines[k]).after after
      fun i _ => s.step_after_of_isSome hsome lines[i]
    rw [List.map_append, List.map_cons, replies_append, replies, hleave, hreplies,
      List.get_eq_getElem,
      show lines[k.val] = lines[k] from rfl, hreplies', List.map_append, List.map_cons,
      List.map_append, List.map_cons, List.map_map, List.map_map,
      s.getElem?_replies session lines k.isLt, hbefore k (Nat.le_refl k)]
    congr 1
    · refine List.map_congr_left fun i hi => ?_
      rw [s.getElem?_replies session lines i.isLt, hbefore i (Nat.le_of_lt (hb i hi))]
      rfl
    · congr 1
      refine List.map_congr_left fun i hi => ?_
      rw [s.getElem?_replies session lines i.isLt, hafter i (ha i hi)]
      rfl
  · intro session lines hnone kept
    have hfixed := s.step_after_of_not_loadsAt hp hf hnone
    obtain ⟨-, hreplies⟩ := s.replies_map_of_fixed session kept fun i _ =>
      hfixed _ (List.getElem_mem _)
    rw [hreplies, List.map_map]
    refine List.map_congr_left fun i _ => ?_
    rw [s.getElem?_replies session lines i.isLt,
      (s.replies_of_fixed fun line hl => hfixed line (List.mem_of_mem_take hl)).1]
    rfl

/-- The setting that examples run in: a drawing is taken as it is. -/
def plain : Setting := ⟨{}, "", .single, .asIs⟩

/-- A session that has only the file of an empty drawing. -/
def emptyDrawing : Session := .start ⟨[(["a.svg"], .file [60, 115, 118, 103, 47, 62])], []⟩

/-- Two lines are left out, one of them refused for want of a drawing, and two change places. -/
theorem replies_of_empty_drawing :
    let lines := ["set-fence-from-svg-path p", "load-svg a.svg 2", "# one", "goto  1 2", "bogus"]
    plain.options.precision ≤ Decimal.placesLimit ∧ plain.flattener.LeavesFiles ∧
      plain.LoadsAt emptyDrawing lines 1 ∧
      (plain.replies emptyDrawing ["load-svg a.svg 2", "bogus", "goto  1 2"]).map some =
        [1, 4, 3].map fun i => (plain.replies emptyDrawing lines)[i]? := by
  intro lines
  have hp : plain.options.precision ≤ Decimal.placesLimit := by decide
  have hf : plain.flattener.LeavesFiles := Flattener.leavesFiles_pure _
  have hload : plain.LoadsAt emptyDrawing lines 1 :=
    ⟨"load-svg a.svg 2", ["set-arena-size 400.000000"], rfl, rfl, rfl⟩
  exact ⟨hp, hf, hload, (plain.replies_of_kept hp hf).2.2.1 emptyDrawing lines ⟨1, by decide⟩ hload
    [] [⟨4, by decide⟩, ⟨3, by decide⟩] (by decide) (by decide)⟩

end Setting

end NavScript
