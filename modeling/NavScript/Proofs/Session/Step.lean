import Mathlib.Data.List.Forall2
import NavScript.Session

namespace NavScript

/-!
# What a script line can do

A line leaves the session as it is and asks nothing of the flattener, unless it loads a drawing into
a session that has none.  All that the lines of a session leave for each other follows from this one
case distinction.

* `exists_of_bind_eq_ok`, `mapM_eq_ok_iff`, `mapM_eq_error_iff` — computations that may fail, and
  their results
* `Drawing.document_map_of_ofList` — documents evaluated from the characters of a text
* `Command.ofWords_cases` — the three kinds of commands that a line can give
* `Setting.step_cases`, `Setting.load_cases` — the two things that a line can do, and the three ways
  in which loading can end
* `Setting.onDrawing_cases` — what the commands on a drawing have found
* `Setting.step_after_of_isSome` — a session with a drawing stays as it is
* `Setting.loads_of_isLoad` — a line that asks for a drawing and succeeds
* `Setting.step_after_cases` — a session without one stays as it is until a drawing is loaded
-/

/-- What goes on after something that may fail has got its result. -/
theorem exists_of_bind_eq_ok {α β ε : Type} {x : Except ε α} {f : α → Except ε β} {b : β}
    (h : x >>= f = .ok b) : ∃ a, x = .ok a ∧ f a = .ok b := by
  cases x with
  | error e => cases h
  | ok a => exact ⟨a, rfl, h⟩

/-- Giving another name to what failed does not change the result. -/
theorem of_mapError_eq_ok {α ε ε' : Type} {x : Except ε α} {f : ε → ε'} {a : α}
    (h : x.mapError f = .ok a) : x = .ok a := by
  cases x with
  | error e => cases h
  | ok a' => exact congrArg _ (Except.ok.inj h)

/-- What fails under another name has failed under its own. -/
theorem mapError_eq_error_iff {α ε ε' : Type} {x : Except ε α} {f : ε → ε'} {e' : ε'} :
    x.mapError f = .error e' ↔ ∃ e, x = .error e ∧ e' = f e := by
  cases x with
  | error e => simp [Except.mapError, eq_comm]
  | ok a => simp [Except.mapError]

/-- A list can be read exactly if each of its elements can, and the results go with the elements. -/
theorem mapM_eq_ok_iff {α β ε : Type} {f : α → Except ε β} {as : List α} {bs : List β} :
    as.mapM f = .ok bs ↔ List.Forall₂ (fun a b => f a = .ok b) as bs := by
  induction as generalizing bs with
  | nil =>
    rw [List.forall₂_nil_left_iff]
    exact ⟨fun h => (Except.ok.inj h).symm, fun h => congrArg Except.ok h.symm⟩
  | cons a as ih =>
    rw [List.mapM_cons, List.forall₂_cons_left_iff]
    constructor
    · intro h
      obtain ⟨b, ha, h⟩ := exists_of_bind_eq_ok h
      obtain ⟨bs', has, h⟩ := exists_of_bind_eq_ok h
      exact ⟨b, bs', ha, ih.mp has, (Except.ok.inj h).symm⟩
    · rintro ⟨b, bs', ha, has, rfl⟩
      rw [ha, ih.mpr has]
      rfl

/-- A list cannot be read exactly if one of its elements cannot, and the error is that of the first
    such element. -/
theorem mapM_eq_error_iff {α β ε : Type} {f : α → Except ε β} {as : List α} {e : ε} :
    as.mapM f = .error e ↔ ∃ before a after, as = before ++ a :: after ∧
      (∀ b ∈ before, ∃ r, f b = .ok r) ∧ f a = .error e := by
  induction as with
  | nil => exact ⟨fun h => (nomatch h), fun ⟨before, a, after, h, _⟩ => by simp at h⟩
  | cons a as ih =>
    rw [List.mapM_cons]
    cases ha : f a with
    | error e' =>
      constructor
      · intro h
        obtain rfl : e' = e := Except.error.inj h
        exact ⟨[], a, as, rfl, by simp, ha⟩
      · rintro ⟨before, a', after, has, hbefore, he⟩
        cases before with
        | nil =>
          obtain ⟨rfl, rfl⟩ := List.cons.inj has
          exact congrArg Except.error (Except.error.inj (ha.symm.trans he))
        | cons b before =>
          obtain ⟨rfl, -⟩ := List.cons.inj has
          obtain ⟨r, hr⟩ := hbefore a List.mem_cons_self
          cases ha.symm.trans hr
    | ok r =>
      -- the first element can be read, so it is the rest that decides
      have hrest : ((as.mapM f >>= fun bs => pure (r :: bs)) : Except ε (List β)) = .error e ↔
          as.mapM f = .error e := by
        cases as.mapM f with
        | error e' =>
          exact ⟨fun h => congrArg Except.error (Except.error.inj h),
            fun h => congrArg Except.error (Except.error.inj h)⟩
        | ok bs => exact iff_of_false (fun h => nomatch h) (fun h => nomatch h)
      change (as.mapM f >>= fun bs => pure (r :: bs)) = .error e ↔ _
      rw [hrest, ih]
      constructor
      · rintro ⟨before, a', after, rfl, hbefore, he⟩
        exact ⟨a :: before, a', after, rfl, List.forall_mem_cons.mpr ⟨⟨r, ha⟩, hbefore⟩, he⟩
      · rintro ⟨before, a', after, has, hbefore, he⟩
        cases before with
        | nil =>
          obtain ⟨rfl, -⟩ := List.cons.inj has
          cases ha.symm.trans he
        | cons b before =>
          obtain ⟨-, rfl⟩ := List.cons.inj has
          exact ⟨before, a', after, rfl, (List.forall_mem_cons.mp hbefore).2, he⟩

/-- A result can be told from its value alone: values can often be compared where errors cannot. -/
theorem eq_ok_of_toOption {α ε : Type} {x : Except ε α} {a : α} (h : x.toOption = some a) :
    x = .ok a := by
  cases x with
  | error e => cases h
  | ok a' => exact congrArg _ (Option.some.inj h)

/-! ### Texts given by their characters -/

/-- Two texts are given by their characters, and so is the one that they make. -/
theorem append_eq_ofList {s t : String} {cs ds : List Char} (hs : s = String.ofList cs)
    (ht : t = String.ofList ds) : s ++ t = String.ofList (cs ++ ds) := by
  rw [hs, ht, String.ofList_append]

/-- A text is parsed by its characters.  Where a document is evaluated they are given, since taking
    the text apart is far more work than parsing it. -/
theorem Markup.parse_of_ofList {text : String} {cs : List Char} (h : text = String.ofList cs) :
    parse text = (events cs).foldlM Building.step .start >>= Building.finish := by
  rw [parse, h, String.toList_ofList]

/-- What is read from the document of a text that is given by its characters. -/
theorem Drawing.document_map_of_ofList {α : Type} {text : String} {cs : List Char}
    {read : List Markup.Node → α} {a : α} (h : text = String.ofList cs)
    (ha : ((Markup.events cs).foldlM Markup.Building.step .start >>=
      Markup.Building.finish).toOption.map read = some a) :
    (document text).map read = .ok a := by
  rw [← Markup.parse_of_ofList h] at ha
  rw [document]
  cases hparse : Markup.parse text with
  | error fault =>
    rw [hparse] at ha
    cases ha
  | ok nodes =>
    rw [hparse] at ha
    exact congrArg Except.ok (Option.some.inj ha)

/-- The drawing and the identifiers of its paths come from the same document. -/
theorem Drawing.ofText_and_idsOfText_of_ofList {text : String} {cs : List Char} {drawing : Drawing}
    {ids : List String} (h : text = String.ofList cs)
    (hread : ((Markup.events cs).foldlM Markup.Building.step .start >>=
      Markup.Building.finish).toOption.map (fun d => (ofDocument d, pathIds d)) =
        some (drawing, ids)) :
    ofText text = .ok drawing ∧ idsOfText text = .ok ids := by
  have hboth := document_map_of_ofList h hread
  rw [ofText, idsOfText]
  cases hdocument : document text with
  | error e =>
    rw [hdocument] at hboth
    cases hboth
  | ok d =>
    rw [hdocument] at hboth
    obtain ⟨rfl, rfl⟩ := Prod.ext_iff.mp (Except.ok.inj hboth)
    exact ⟨rfl, rfl⟩

/-! ### Commands -/

/-- A line whose first word asks for a drawing to be loaded. -/
def IsLoad (line : String) : Prop :=
  (Setting.wordsOfLine line).head? = some "load-svg"

/-- A flattener that leaves the files as they are. -/
def Flattener.LeavesFiles (f : Flattener) : Prop :=
  ∀ files r, (f files r).2 = files

/-- A flattener that only answers leaves the files as they are. -/
theorem Flattener.leavesFiles_pure (answer : Files → Request → Except Error String) :
    (Flattener.pure answer).LeavesFiles :=
  fun _ _ => rfl

/-- The command of a line: it is handed on, it loads a drawing, or it works on the one loaded, with
    its first argument. -/
theorem Command.ofWords_cases {keyword : String} {args : List String} {command : Command}
    (h : Command.ofWords keyword args = .ok command) :
    (keyword ∈ simulatorKeywords ∧ command = .handOn) ∨
    (keyword = "load-svg" ∧ ∃ file scale, command = .loadSvg file scale) ∨
    ∃ name make a rest, drawing? keyword = some (name, make) ∧ args = a :: rest ∧
      command = .onDrawing (make a) := by
  unfold ofWords at h
  split at h
  · rename_i hk
    exact .inl ⟨by simpa using hk, (Except.ok.inj h).symm⟩
  · split at h
    · rename_i hk
      refine .inr (.inl ⟨eq_of_beq hk, ?_⟩)
      obtain ⟨file, -, h⟩ := exists_of_bind_eq_ok h
      obtain ⟨text, -, h⟩ := exists_of_bind_eq_ok h
      obtain ⟨scale, -, h⟩ := exists_of_bind_eq_ok h
      exact ⟨file, scale, (Except.ok.inj h).symm⟩
    · split at h
      · rename_i name make hk
        cases args with
        | nil => simp [argument, Except.map] at h
        | cons a rest =>
          exact .inr (.inr ⟨name, make, a, rest, hk, rfl, (Except.ok.inj h).symm⟩)
      · cases h

/-- Only one keyword loads a drawing. -/
theorem Command.keyword_of_loadSvg {keyword file : String} {args : List String} {scale : Float}
    (h : Command.ofWords keyword args = .ok (.loadSvg file scale)) : keyword = "load-svg" := by
  rcases ofWords_cases h with ⟨-, hc⟩ | ⟨hk, -⟩ | ⟨name, make, a, rest, -, -, hc⟩
  · cases hc
  · exact hk
  · cases hc

/-- That keyword asks for nothing else. -/
theorem Command.exists_eq_loadSvg {args : List String} {command : Command}
    (h : Command.ofWords "load-svg" args = .ok command) :
    ∃ file scale, command = .loadSvg file scale := by
  rcases ofWords_cases h with ⟨hk, -⟩ | ⟨-, hc⟩ | ⟨name, make, a, rest, hk, -, -⟩
  · exact absurd hk (by decide)
  · exact hc
  · cases hk

/-! ### Loading -/

namespace Setting

variable (s : Setting)

/-- Loading fails before the flattener is asked, or behind it, or it leaves a drawing. -/
theorem load_cases (files : Files) (file : String) (scale : Float) :
    (∃ e, s.load files file scale = .keeping ⟨files, none⟩ (.error e)) ∨
    (∃ r e, s.request files file = .ok r ∧
      s.load files file scale = ⟨.error e, ⟨(s.flattener files r).2, none⟩, some r⟩) ∨
    (∃ r l, s.request files file = .ok r ∧ drawn scale (s.flattener files r).1 = .ok l ∧
      s.load files file scale =
        ⟨.ok [.arenaSize (s.options.arenaSize * scale)], ⟨(s.flattener files r).2, some l⟩,
          some r⟩) := by
  unfold load
  cases hr : s.request files file with
  | error e => exact .inl ⟨e, rfl⟩
  | ok r =>
    cases hl : drawn scale (s.flattener files r).1 with
    | error e => exact .inr (.inl ⟨r, e, rfl, by simp only [hl]⟩)
    | ok l => exact .inr (.inr ⟨r, l, rfl, hl, by simp only [hl]⟩)

/-- A line keeps the session, or it loads a drawing where there is none. -/
theorem step_cases (session : Session) (line : String) :
    (∃ outcome, s.step session line = .keeping session outcome) ∨
    (∃ args file scale, session.loaded = none ∧ wordsOfLine line = "load-svg" :: args ∧
      Command.ofWords "load-svg" args = .ok (.loadSvg file scale) ∧
      s.step session line = s.load session.files file scale) := by
  unfold step
  cases hw : wordsOfLine line with
  | nil => exact .inl ⟨_, rfl⟩
  | cons keyword args =>
    simp only [stepWords]
    cases hc : Command.ofWords keyword args with
    | error e => exact .inl ⟨_, rfl⟩
    | ok command =>
      cases command with
      | handOn => exact .inl ⟨_, rfl⟩
      | onDrawing command =>
        simp only [perform]
        cases session.loaded <;> exact .inl ⟨_, rfl⟩
      | loadSvg file scale =>
        obtain rfl := Command.keyword_of_loadSvg hc
        simp only [perform]
        cases hl : session.loaded with
        | some l => exact .inl ⟨_, rfl⟩
        | none => exact .inr ⟨args, file, scale, rfl, rfl, hc, rfl⟩

/-! ### Commands on a drawing -/

/-- A command on a drawing that succeeds has found what it names, and says just that. -/
theorem onDrawing_cases {l : Loaded} {command : DrawingCommand} {ds : List Directive}
    (h : s.onDrawing l command = .ok ds) :
    match command with
    | .setArena label =>
      ∃ paths, l.drawing.layerPaths label l.transform = .ok paths ∧ ds = [.arena paths]
    | .addLabels label =>
      ∃ labels, l.drawing.layerLabels label l.transform = .ok labels ∧
        ds = labels.map fun m => .addLabel m.position m.text
    | .followTrajectory id =>
      ∃ path, l.drawing.path id l.transform = .ok path ∧ ds = path.map .goto
    | .samplePerimeter id => ∃ path, s.samplePerimeter l id = .ok path ∧ ds = path.map .goto
    | .placeAgent id =>
      ∃ path angle, l.drawing.path id l.transform = .ok path ∧ Geometry.heading path = .ok angle ∧
        ds = path.head?.toList.map (.placeAgent · angle)
    | .setFence id => ∃ path, l.drawing.path id l.transform = .ok path ∧ ds = [.fence id path] := by
  cases command with
  | placeAgent id =>
    obtain ⟨path, hpath, h⟩ := exists_of_bind_eq_ok h
    obtain ⟨angle, hangle, h⟩ := exists_of_bind_eq_ok h
    exact ⟨path, angle, hpath, of_mapError_eq_ok hangle, (Except.ok.inj h).symm⟩
  | _ =>
    obtain ⟨found, hfound, h⟩ := exists_of_bind_eq_ok h
    exact ⟨found, hfound, (Except.ok.inj h).symm⟩

/-! ### The session after a line -/

/-- A session that has a drawing stays as it is. -/
theorem step_after_of_isSome {session : Session} (h : session.loaded.isSome) (line : String) :
    (s.step session line).after = session := by
  rcases s.step_cases session line with ⟨outcome, hs⟩ | ⟨args, file, scale, hn, -⟩
  · rw [hs]
    rfl
  · simp [hn] at h

/-- A line that asks for a drawing and succeeds has found none loaded, and leaves one. -/
theorem loads_of_isLoad {session : Session} {line : String} {ds : List Directive}
    (hline : IsLoad line) (h : (s.step session line).outcome = .ok ds) :
    session.loaded = none ∧ (s.step session line).after.loaded.isSome := by
  unfold IsLoad at hline
  unfold step at h ⊢
  cases hw : wordsOfLine line with
  | nil => simp [hw] at hline
  | cons keyword args =>
    obtain rfl : keyword = "load-svg" := by simpa [hw] using hline
    cases hc : Command.ofWords "load-svg" args with
    | error e => simp [hw, stepWords, hc, Step.keeping] at h
    | ok command =>
      obtain ⟨file, scale, rfl⟩ := Command.exists_eq_loadSvg hc
      cases hl : session.loaded with
      | some l => simp [hw, stepWords, hc, perform, hl, Step.keeping] at h
      | none =>
        simp only [hw, stepWords, hc, perform, hl] at h ⊢
        rcases s.load_cases session.files file scale with ⟨e, hs⟩ | ⟨r, e, -, hs⟩ | ⟨r, l, -, -, hs⟩
        · simp [hs, Step.keeping] at h
        · simp [hs] at h
        · exact ⟨trivial, by rw [hs]; rfl⟩

/-- A line keeps the session, or it is one that loads a drawing where there is none, and
    succeeds. -/
theorem step_after_cases (hf : s.flattener.LeavesFiles) (session : Session) (line : String) :
    (s.step session line).after = session ∨
      (session.loaded = none ∧ IsLoad line ∧ (∃ ds, (s.step session line).outcome = .ok ds) ∧
        (s.step session line).after.loaded.isSome) := by
  rcases s.step_cases session line with ⟨outcome, hs⟩ | ⟨args, file, scale, hn, hw, -, hs⟩
  · left
    rw [hs]
    rfl
  · have hsession : (⟨session.files, none⟩ : Session) = session := by
      cases session
      simp_all
    rw [hs]
    rcases s.load_cases session.files file scale with ⟨e, hl⟩ | ⟨r, e, -, hl⟩ | ⟨r, l, -, -, hl⟩
    · left
      rw [hl]
      exact hsession
    · left
      rw [hl, hf]
      exact hsession
    · right
      rw [hl]
      exact ⟨hn, by simp [IsLoad, hw], ⟨_, rfl⟩, rfl⟩

end Setting

/-! ### What a line compiles to -/

namespace Step

/-- What is refused is a step that fails. -/
theorem compiled_eq_refused_iff (places : Nat) (step : Step) (e : Error) :
    step.compiled places = .refused e ↔ step.outcome = .error e := by
  unfold compiled
  cases step.outcome with
  | error e' => simp
  | ok ds => cases h : Directive.renderAll? places ds <;> simp [h]

/-- What is written is what the directives are written as. -/
theorem exists_of_compiled_eq_lines {places : Nat} {step : Step} {lines : List String}
    (h : step.compiled places = .lines lines) :
    ∃ ds, step.outcome = .ok ds ∧ lines = ds.map (Directive.render places) := by
  unfold compiled at h
  cases hds : step.outcome with
  | error e => simp [hds] at h
  | ok ds =>
    by_cases hw : Directive.writable places ds
    · have hlines : lines = ds.map (Directive.render places) := by
        simpa [hds, Directive.renderAll?, hw, eq_comm] using h
      exact ⟨ds, rfl, hlines⟩
    · simp [hds, Directive.renderAll?, hw] at h

/-- Up to the limit on places, what is not refused is written. -/
theorem compiled_eq_lines_iff {places : Nat} (h : places ≤ Decimal.placesLimit) (step : Step)
    (lines : List String) :
    step.compiled places = .lines lines ↔
      ∃ ds, step.outcome = .ok ds ∧ lines = ds.map (Directive.render places) := by
  refine ⟨exists_of_compiled_eq_lines, ?_⟩
  rintro ⟨ds, hds, rfl⟩
  simp only [compiled, hds, Directive.renderAll?_of_le h]

/-- Places that can be written leave nothing unwritable. -/
theorem compiled_ne_unwritable {places : Nat} (h : places ≤ Decimal.placesLimit) (step : Step) :
    step.compiled places ≠ .unwritable := by
  unfold compiled
  cases step.outcome with
  | error e => simp
  | ok ds => simp [Directive.renderAll?_of_le h]

end Step

end NavScript
