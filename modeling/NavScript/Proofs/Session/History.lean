import NavScript.Proofs.Session.Setting

namespace NavScript

/-!
# The history of a session

A session begins without a drawing and gets one at most once.  Until then every line that asks for a
drawing may lead to a request to the flattener, and from then on no line does; the answer to the
last request is what all later lines work on.

* `Setting.loaded_step_iff` — the lines that get a drawing
* `Setting.loaded_take_iff`, `Setting.loadsAt_unique` — one of the lines at most, and from it on
  there is a drawing
* `Setting.exists_answer_of_loadsAt` — where the drawing comes from
* `Setting.history_of_session` — a session from its beginning
-/

namespace Setting

variable (s : Setting)

/-! ### The line that gets the drawing -/

/-- A line after which there is a drawing, where there was none, asks for one and succeeds. -/
theorem loaded_step_iff (hp : s.options.precision ≤ Decimal.placesLimit) {session : Session}
    (hnone : session.loaded = none) (line : String) :
    (s.step session line).after.loaded.isSome ↔
      IsLoad line ∧ ∃ out, (s.compile session line).1 = .lines out := by
  constructor
  · intro h
    rcases s.step_cases session line with ⟨outcome, hs⟩ | ⟨args, file, scale, -, hw, -, hs⟩
    · rw [hs] at h
      simp [Step.keeping, hnone] at h
    · have hisload : IsLoad line := by simp [IsLoad, hw]
      rw [hs] at h
      rcases s.load_cases session.files file scale with
        ⟨e, hl⟩ | ⟨r, e, -, hl⟩ | ⟨r, l, -, -, hl⟩
      · simp [hl, Step.keeping] at h
      · simp [hl] at h
      · have hds : (s.step session line).outcome =
            .ok [.arenaSize (s.options.arenaSize * scale)] := by rw [hs, hl]
        exact ⟨hisload, _, (Step.compiled_eq_lines_iff hp _ _).mpr ⟨_, hds, rfl⟩⟩
  · rintro ⟨hisload, out, hout⟩
    obtain ⟨ds, hds, -⟩ := Step.exists_of_compiled_eq_lines hout
    exact (s.loads_of_isLoad hisload hds).2

/-- The first line loads a drawing. -/
theorem loadsAt_cons_zero {session : Session} {line : String} {rest : List String} :
    s.LoadsAt session (line :: rest) 0 ↔
      IsLoad line ∧ ∃ out, (s.compile session line).1 = .lines out := by
  simp [LoadsAt, replies]

/-- A later line does, in the session that the first leaves. -/
theorem loadsAt_cons_succ {session : Session} {line : String} {rest : List String} {k : Nat} :
    s.LoadsAt session (line :: rest) (k + 1) ↔ s.LoadsAt (s.step session line).after rest k := by
  simp [LoadsAt, replies]

/-- After some lines there is a drawing exactly if one of them has got it. -/
theorem loaded_take_iff (hp : s.options.precision ≤ Decimal.placesLimit) {session : Session}
    (hnone : session.loaded = none) (lines : List String) (n : Nat) :
    (s.leave session (lines.take n)).loaded.isSome ↔ ∃ k < n, s.LoadsAt session lines k := by
  induction lines generalizing session n with
  | nil => simp [hnone, LoadsAt]
  | cons line rest ih =>
    cases n with
    | zero => simp [hnone]
    | succ n =>
      rw [List.take_succ_cons, leave_cons]
      have hzero : (s.step session line).after.loaded.isSome ↔ s.LoadsAt session (line :: rest) 0 :=
        (s.loaded_step_iff hp hnone line).trans s.loadsAt_cons_zero.symm
      cases hafter : (s.step session line).after.loaded with
      | some l =>
        -- the first line has got it, and it stays
        have hsome : (s.step session line).after.loaded.isSome := by simp [hafter]
        rw [s.leave_of_isSome hsome]
        exact iff_of_true hsome ⟨0, Nat.succ_pos n, hzero.mp hsome⟩
      | none =>
        have hfirst : ¬ s.LoadsAt session (line :: rest) 0 := by
          rw [← hzero, hafter]
          simp
        rw [ih hafter]
        constructor
        · rintro ⟨k, hk, hload⟩
          exact ⟨k + 1, Nat.succ_lt_succ hk, s.loadsAt_cons_succ.mpr hload⟩
        · rintro ⟨k, hk, hload⟩
          cases k with
          | zero => exact absurd hload hfirst
          | succ k => exact ⟨k, Nat.lt_of_succ_lt_succ hk, s.loadsAt_cons_succ.mp hload⟩

/-- The line that gets the drawing finds none, and asks for it. -/
theorem exists_of_loadsAt {session : Session} {lines : List String} {k : Nat}
    (h : s.LoadsAt session lines k) :
    ∃ line ds, lines[k]? = some line ∧ (s.leave session (lines.take k)).loaded = none ∧
      (s.step (s.leave session (lines.take k)) line).outcome = .ok ds ∧ IsLoad line := by
  obtain ⟨line, out, hline, hisload, hreply⟩ := h
  obtain ⟨hk, rfl⟩ := List.getElem?_eq_some_iff.mp hline
  rw [s.getElem?_replies session lines hk, Option.some.injEq] at hreply
  obtain ⟨ds, hds, -⟩ := Step.exists_of_compiled_eq_lines hreply
  exact ⟨lines[k], ds, hline, (s.loads_of_isLoad hisload hds).1, hds, hisload⟩

/-- No two lines of a session get a drawing. -/
theorem loadsAt_unique (hp : s.options.precision ≤ Decimal.placesLimit) {session : Session}
    (hnone : session.loaded = none) {lines : List String} {i j : Nat}
    (hi : s.LoadsAt session lines i) (hj : s.LoadsAt session lines j) : i = j := by
  -- the later of the two would find the drawing of the earlier
  have hfirst : ∀ i j, s.LoadsAt session lines i → s.LoadsAt session lines j → ¬ i < j := by
    intro i j hi hj hlt
    obtain ⟨line, ds, -, hnone', -⟩ := s.exists_of_loadsAt hj
    have hsome := (s.loaded_take_iff hp hnone lines j).mpr ⟨i, hlt, hi⟩
    simp [hnone'] at hsome
  have hij := hfirst i j hi hj
  have hji := hfirst j i hj hi
  omega

/-! ### Where the drawing comes from -/

/-- The line that gets the drawing has asked the flattener, and the drawing is what the answer says,
    at the scale of the line. -/
theorem exists_answer_of_loadsAt {session : Session} {lines : List String} {k : Nat}
    (h : s.LoadsAt session lines k) :
    ∃ line file scale r text drawing, lines[k]? = some line ∧ AsksToLoad line file scale ∧
      s.Requests (s.leave session (lines.take k)).files file r ∧
      (s.flattener (s.leave session (lines.take k)).files r).1 = .ok text ∧
      Drawing.ofText text = .ok drawing ∧
      ∀ n, k < n → (s.leave session (lines.take n)).loaded = some ⟨drawing, ⟨scale⟩⟩ := by
  obtain ⟨line, ds, hline, hnone, hds, hisload⟩ := s.exists_of_loadsAt h
  rcases s.step_cases (s.leave session (lines.take k)) line with
    ⟨outcome, hs⟩ | ⟨args, file, scale, -, hw, hc, hs⟩
  · obtain ⟨-, hsome⟩ := s.loads_of_isLoad hisload hds
    rw [hs] at hsome
    simp [Step.keeping, hnone] at hsome
  · obtain ⟨text, rest, rfl, hread, hfinite⟩ := Command.ofWords_eq_loadSvg_iff.mp hc
    have hasks : AsksToLoad line file scale := ⟨text, rest, hw, hread, hfinite⟩
    rw [hs] at hds
    rcases s.load_cases (s.leave session (lines.take k)).files file scale with
      ⟨e, hl⟩ | ⟨r, e, -, hl⟩ | ⟨r, l, hr, hdrawn, hl⟩
    · simp [hl, Step.keeping] at hds
    · simp [hl] at hds
    · obtain ⟨answer, hanswer, hdrawn⟩ := exists_of_bind_eq_ok hdrawn
      obtain ⟨drawing, hdrawing, hl'⟩ := exists_of_bind_eq_ok hdrawn
      obtain rfl := Except.ok.inj hl'
      refine ⟨line, file, scale, r, answer, drawing, hline, hasks,
        (s.request_eq_ok_iff _ _ r).mp hr, hanswer, hdrawing, fun n hn => ?_⟩
      have hafter : (s.leave session (lines.take (k + 1))).loaded = some ⟨drawing, ⟨scale⟩⟩ := by
        obtain ⟨hk, hline'⟩ := List.getElem?_eq_some_iff.mp hline
        rw [List.take_succ_eq_append_getElem hk, leave_append, leave_cons, leave_nil,
          hline', hs, hl]
      obtain ⟨m, rfl⟩ : ∃ m, n = k + 1 + m := ⟨n - (k + 1), by omega⟩
      rw [List.take_add, leave_append, s.leave_of_isSome (by simp [hafter]), hafter]

/-! ### From the beginning -/

/-- **The history of a session.**  A session that begins without a drawing gets one from at most one
    of its lines, and after any number of lines it has one exactly if that line is among them; from
    then on nothing changes.  A line leads to a request to the flattener, and to one only, exactly
    if it asks for a drawing while there is none and its file can be read as a document.  The
    request names the file as seen from the directory of the setting, the identifiers of all its
    paths, in document order and as often as they stand there, and the flatness of the options; the
    line does not know more of the flattener than the answer to that request.  All that lines ask of
    the drawing later is answered from the text that the flattener gave to the line that got it, at
    the scale of that line. -/
theorem history_of_session (hp : s.options.precision ≤ Decimal.placesLimit) (files : Files)
    (lines : List String) :
    let before := fun n => s.leave (.start files) (lines.take n)
    let loads := s.LoadsAt (.start files) lines
    (∀ i j, loads i → loads j → i = j) ∧
    (∀ n, (before n).loaded.isSome ↔ ∃ k < n, loads k) ∧
    (∀ m n, m ≤ n → (before m).loaded.isSome → before n = before m) ∧
    (∀ k line, lines[k]? = some line →
      (∀ r, (s.step (before k) line).request = some r ↔ (before k).loaded = none ∧
        ∃ file scale, AsksToLoad line file scale ∧ s.Requests (before k).files file r) ∧
      ∀ f, (∀ r, (s.step (before k) line).request = some r →
          f (before k).files r = s.flattener (before k).files r) →
        (s.withFlattener f).step (before k) line = s.step (before k) line) ∧
    ∀ k, loads k →
      ∃ line file scale r text drawing, lines[k]? = some line ∧ AsksToLoad line file scale ∧
        (s.step (before k) line).request = some r ∧
        (s.flattener (before k).files r).1 = .ok text ∧ Drawing.ofText text = .ok drawing ∧
        (∀ n, k < n → (before n).loaded = some ⟨drawing, ⟨scale⟩⟩) ∧
        ∀ n later command, k < n → lines[n]? = some later → Asks later command →
          (s.compile (before n) later).1 =
            .of s.options.precision (s.onDrawing ⟨drawing, ⟨scale⟩⟩ command) := by
  intro before loads
  have hnone : (Session.start files).loaded = none := rfl
  refine ⟨fun i j => s.loadsAt_unique hp hnone, s.loaded_take_iff hp hnone lines, ?_, ?_, ?_⟩
  · intro m n hmn hsome
    obtain ⟨d, rfl⟩ := Nat.exists_eq_add_of_le hmn
    show s.leave _ (lines.take (m + d)) = _
    rw [List.take_add, leave_append, s.leave_of_isSome hsome]
  · intro k line _
    exact ⟨s.request_step_iff (before k) line, fun f => s.step_withFlattener f (before k) line⟩
  · intro k hload
    obtain ⟨line, file, scale, r, text, drawing, hline, hasks, hr, htext, hdrawing, hlater⟩ :=
      s.exists_answer_of_loadsAt hload
    obtain ⟨_, _, -, hnone', -⟩ := s.exists_of_loadsAt hload
    refine ⟨line, file, scale, r, text, drawing, hline, hasks, ?_, htext, hdrawing, hlater, ?_⟩
    · exact (s.request_step_iff _ line r).mpr ⟨hnone', file, scale, hasks, hr⟩
    · intro n later command hn _ hcommand
      exact s.compile_of_asks hp (hlater n hn) hcommand

/-- A document with three paths, two of which have the same identifier. -/
def repeatedText : String :=
  "<svg xmlns=\"http://www.w3.org/2000/svg\"><path id=\"p\" d=\"M 0 0 1 0\"/>" ++
  "<path id=\"p\" d=\"M 5 5\"/><path id=\"q\" d=\"M 0 0 3 4\"/></svg>"

/-- Its drawing. -/
def repeatedDrawing : Drawing :=
  ⟨[], [⟨some "p", some "M 0 0 1 0"⟩, ⟨some "p", some "M 5 5"⟩, ⟨some "q", some "M 0 0 3 4"⟩]⟩

/-- Its file. -/
def repeatedFiles : Files := ⟨[(["a.svg"], .file repeatedText.toUTF8.toList)], []⟩

/-- The file can be read, -/
theorem readText_repeatedFiles : repeatedFiles.readText "a.svg" = .ok repeatedText :=
  repeatedFiles.readText_of_read rfl

/-- and two paths of the drawing that its text is read as have one name. -/
theorem read_repeatedText :
    Drawing.ofText repeatedText = .ok repeatedDrawing ∧
      Drawing.idsOfText repeatedText = .ok ["p", "p", "q"] :=
  Drawing.ofText_and_idsOfText_of_ofList (append_eq_ofList rfl rfl) (by decide +kernel)

/-- What the flattener is asked for that file. -/
def repeatedRequest : Request := ⟨"a.svg", ["p", "p", "q"], plain.options.flatness⟩

/-- The line loads the drawing and asks for both paths of the one name. -/
theorem step_repeatedFiles :
    plain.step (.start repeatedFiles) "load-svg a.svg 2" =
      ⟨.ok [.arenaSize (200.0 * 2.0)], ⟨repeatedFiles, some ⟨repeatedDrawing, ⟨2.0⟩⟩⟩,
        some repeatedRequest⟩ := by
  have hstep : plain.step (.start repeatedFiles) "load-svg a.svg 2" =
      plain.load repeatedFiles "a.svg" 2.0 := rfl
  have htext : repeatedFiles.readText (Files.join plain.baseDir "a.svg") = .ok repeatedText :=
    readText_repeatedFiles
  rw [hstep, plain.load_of_readText rfl htext read_repeatedText.2 read_repeatedText.1]
  rfl

/-- A drawing is asked for three times: of a file that there is not, with success, and again.  Then
    one of its paths is asked for, and one that there are two of. -/
theorem history_of_repeated_paths :
    let lines := ["load-svg b.svg 1", "load-svg a.svg 2", "load-svg a.svg 3",
      "follow-trajectory-from-svg-path q", "follow-trajectory-from-svg-path p"]
    let before := fun n => plain.leave (.start repeatedFiles) (lines.take n)
    plain.options.precision ≤ Decimal.placesLimit ∧
      (∀ k, plain.LoadsAt (.start repeatedFiles) lines k ↔ k = 1) ∧
      (∀ n, (before n).loaded.isSome ↔ 1 < n) ∧ before 5 = before 2 ∧
      (∀ r, (plain.step (before 1) "load-svg a.svg 2").request = some r ↔ r = repeatedRequest) ∧
      (∀ r, (plain.step (before 2) "load-svg a.svg 3").request ≠ some r) ∧
      (∀ f, f (before 1).files repeatedRequest =
          plain.flattener (before 1).files repeatedRequest →
        (plain.withFlattener f).step (before 1) "load-svg a.svg 2" =
          plain.step (before 1) "load-svg a.svg 2") ∧
      (before 5).loaded = some ⟨repeatedDrawing, ⟨2.0⟩⟩ ∧
      (plain.compile (before 3) "follow-trajectory-from-svg-path q").1 =
        .lines ["goto 0.000000 -0.000000", "goto 6.000000 -8.000000"] ∧
      (plain.compile (before 4) "follow-trajectory-from-svg-path p").1 =
        .refused (.lookup .path "p" 2) := by
  intro lines before
  have hp : plain.options.precision ≤ Decimal.placesLimit := by decide
  obtain ⟨hunique, hloaded, hstays, hrequests, hanswers⟩ :=
    plain.history_of_session hp repeatedFiles lines
  have hfirst : before 1 = .start repeatedFiles := rfl
  have hload : plain.LoadsAt (.start repeatedFiles) lines 1 := by
    have hreply : (plain.compile (before 1) "load-svg a.svg 2").1 =
        .lines ["set-arena-size 400.000000"] := by
      rw [hfirst]
      change (plain.step (.start repeatedFiles) "load-svg a.svg 2").compiled
        plain.options.precision = _
      rw [step_repeatedFiles]
      rfl
    refine ⟨"load-svg a.svg 2", ["set-arena-size 400.000000"], rfl, rfl, ?_⟩
    rw [plain.getElem?_replies _ lines (by decide)]
    exact congrArg some hreply
  have honly : ∀ k, plain.LoadsAt (.start repeatedFiles) lines k ↔ k = 1 :=
    fun k => ⟨fun hk => hunique k 1 hk hload, fun hk => hk ▸ hload⟩
  have hsome : ∀ n, (before n).loaded.isSome ↔ 1 < n := by
    intro n
    rw [hloaded n]
    simp [honly]
  have hrequest : (plain.step (before 1) "load-svg a.svg 2").request = some repeatedRequest := by
    rw [hfirst, step_repeatedFiles]
  have hdrawn : (before 2).loaded = some ⟨repeatedDrawing, ⟨2.0⟩⟩ := by
    have htwo : before 2 = plain.leave (before 1) ["load-svg a.svg 2"] :=
      plain.leave_append _ (lines.take 1) _
    rw [htwo, hfirst, leave_cons, step_repeatedFiles]
    rfl
  have hsame : before 5 = before 2 := hstays 2 5 (by decide) ((hsome 2).mpr (by decide))
  obtain ⟨_, _, scale, _, _, drawing, -, -, -, -, -, hlater, hcommands⟩ := hanswers 1 hload
  obtain ⟨rfl, rfl⟩ : repeatedDrawing = drawing ∧ 2.0 = scale := by
    simpa using hdrawn.symm.trans (hlater 2 (by decide))
  have hfollow : plain.onDrawing ⟨repeatedDrawing, ⟨2.0⟩⟩ (.followTrajectory "q") =
      .ok [.goto ⟨0.0, -0.0⟩, .goto ⟨6.0, -8.0⟩] := rfl
  refine ⟨hp, honly, hsome, hsame, fun r => ?_, fun r hr => ?_, fun f hf => ?_,
    hsame ▸ hdrawn, ?_, ?_⟩
  · rw [hrequest, Option.some.injEq, eq_comm]
  · obtain ⟨hnone, -⟩ := ((hrequests 2 "load-svg a.svg 3" rfl).1 r).mp hr
    cases hdrawn.symm.trans hnone
  · refine (hrequests 1 "load-svg a.svg 2" rfl).2 f fun r hr => ?_
    obtain rfl := Option.some.inj (hrequest.symm.trans hr)
    exact hf
  · rw [hcommands 3 "follow-trajectory-from-svg-path q" (.followTrajectory "q") (by decide) rfl
      ⟨[], rfl⟩, hfollow, Compiled.of_ok]
    exact congrArg Compiled.lines (by decide +kernel)
  · exact (hcommands 4 "follow-trajectory-from-svg-path p" (.followTrajectory "p") (by decide) rfl
      ⟨[], rfl⟩).trans rfl

end Setting

end NavScript
