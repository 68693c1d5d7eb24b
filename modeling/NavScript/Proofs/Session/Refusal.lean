import NavScript.Proofs.Files
import NavScript.Proofs.Geometry.Offset
import NavScript.Proofs.Session.Checks
import NavScript.Proofs.Session.OnDrawing

namespace NavScript

open NavScript.Geometry

/-!
# What a line is refused for

Every stage of a line fails as its checks say, and stages made one after the other fail as the first
of their checks that fails.  So a line is refused with the error of that check, and compiled if it
fails none.

* `Settled` — what can go wrong in a computation is what its checks say
* `Settled.bind`, `Settled.map`, `Settled.mapM` — computations made of others
* `Command.settled_ofWords`, `Setting.settled_load`, `Setting.settled_onDrawing` — the stages of a
  line
* `Setting.firstFailure_of_compile` — a line is refused for the first check that fails
* `Setting.refused_of_stray_end_tag` — a refusal that is not reported
-/

/-! ### Computations and their checks -/

section Settled

variable {α β ε : Type} {cs ds : List Check}

/-- The error of a computation, if there is one. -/
def failure? : Except Error α → Option Error
  | .error e => some e
  | .ok _ => none

/-- A computation fails as the first of the checks that fails. -/
def Settled (cs : List Check) (x : Except Error α) : Prop :=
  FirstFailure cs (failure? x)

/-- A check that fails among the first is the first to fail among all. -/
theorem FirstFailure.append_of_some {e : Error} (h : FirstFailure cs (some e)) :
    FirstFailure (cs ++ ds) (some e) := by
  generalize hr : some e = r at h
  induction h with
  | passed => cases hr
  | fails h =>
    obtain rfl := Option.some.inj hr
    exact .fails h
  | passes h _ ih => exact .passes h (ih hr)

/-- Behind checks that pass, the others decide. -/
theorem FirstFailure.append_of_none {r : Option Error} (h : FirstFailure cs none)
    (hr : FirstFailure ds r) : FirstFailure (cs ++ ds) r := by
  generalize hnone : none = first at h
  induction h with
  | passed => exact hr
  | fails h => cases hnone
  | passes h _ ih => exact .passes h (ih hnone)

namespace Settled

/-- A result without a check. -/
theorem ok (a : α) : Settled [] (.ok a) := .passed

/-- A step that is passed. -/
theorem cons {check : Check} {x : Except Error α} (h : ∀ e, ¬ check e) (hx : Settled cs x) :
    Settled (check :: cs) x :=
  .passes h hx

/-- Checks of one step and then those of the next, which is reached only if the first are passed. -/
theorem bind {x : Except Error α} {f : α → Except Error β} (hx : Settled cs x)
    (hf : ∀ a, x = .ok a → Settled ds (f a)) : Settled (cs ++ ds) (x >>= f) := by
  cases x with
  | error e => exact hx.append_of_some
  | ok a => exact hx.append_of_none (hf a rfl)

/-- What is done with a result is no check. -/
theorem map {x : Except Error α} (f : α → β) (hx : Settled cs x) : Settled cs (x.map f) := by
  cases x <;> exact hx

/-- What is passed is passed for every error, so nothing is malformed. -/
theorem element_ok {bad : Prop} {a : α} : Settled [elementCheck bad] (.ok a) ↔ ¬ bad := by
  refine ⟨fun h hbad => ?_, fun h => .cons (fun e he => h he.1) (.ok a)⟩
  cases h with
  | passes h => exact h (.malformed .pathData .missingSpan) ⟨hbad, _, _, rfl⟩

/-- An element that is refused is malformed. -/
theorem element_error {bad : Prop} {e : Error} :
    Settled [elementCheck bad] (.error e : Except Error α) ↔
      bad ∧ ∃ what defect, e = .malformed what defect := by
  refine ⟨fun h => ?_, fun h => .fails h⟩
  cases h with
  | fails h => exact h
  | passes _ hrest => cases hrest

/-- Elements are read in order, and the first that is malformed stops the list. -/
theorem mapM {bad : α → Prop} {f : α → Except Error β}
    (hf : ∀ a, Settled [elementCheck (bad a)] (f a)) (as : List α) :
    Settled [elementCheck (∃ a ∈ as, bad a)] (as.mapM f) := by
  induction as with
  | nil => exact element_ok.mpr (by simp)
  | cons a as ih =>
    have ha := hf a
    rw [List.mapM_cons]
    cases hfa : f a with
    | error e =>
      rw [hfa, element_error] at ha
      exact element_error.mpr ⟨⟨a, List.mem_cons_self, ha.1⟩, ha.2⟩
    | ok b =>
      rw [hfa, element_ok] at ha
      cases has : as.mapM f with
      | error e =>
        rw [has, element_error] at ih
        obtain ⟨⟨a', ha', hbad⟩, he⟩ := ih
        exact element_error.mpr ⟨⟨a', List.mem_cons_of_mem a ha', hbad⟩, he⟩
      | ok bs =>
        rw [has, element_ok] at ih
        refine element_ok.mpr ?_
        rintro ⟨a', ha', hbad⟩
        rcases List.mem_cons.mp ha' with rfl | ha'
        · exact ha hbad
        · exact ih ⟨a', ha', hbad⟩

end Settled

end Settled

/-! ### Words -/

namespace Command

/-- The simulator's own commands require nothing, and none of them has to do with a drawing. -/
theorem keyword_of_mem_simulatorKeywords (keyword : String) (h : keyword ∈ simulatorKeywords) :
    parameters keyword = [] ∧ keyword ≠ "load-svg" ∧ drawing? keyword = none := by
  have hall : ∀ keyword ∈ simulatorKeywords,
      parameters keyword = [] ∧ keyword ≠ "load-svg" ∧ (drawing? keyword).isNone := by decide
  obtain ⟨hparameters, hload, hdrawing⟩ := hall keyword h
  exact ⟨hparameters, hload, Option.isNone_iff_eq_none.mp hdrawing⟩

/-- A command on a drawing requires one argument. -/
theorem keyword_of_drawing? {keyword name : String} {make : String → DrawingCommand}
    (h : drawing? keyword = some (name, make)) :
    parameters keyword = [name] ∧ keyword ∈ keywords ∧ keyword ∉ simulatorKeywords ∧
      keyword ≠ "load-svg" := by
  unfold drawing? at h
  split at h <;> cases h <;> exact ⟨rfl, by decide, by decide, by decide⟩

/-- There are no other keywords. -/
theorem keyword_cases {keyword : String} (h : keyword ∈ keywords) :
    keyword ∈ simulatorKeywords ∨ keyword = "load-svg" ∨ (drawing? keyword).isSome := by
  have hall : ∀ keyword ∈ keywords, keyword ∈ simulatorKeywords ∨ keyword = "load-svg" ∨
      (drawing? keyword).isSome := by decide
  exact hall keyword h

/-- Reading a scale fails with everything that is none. -/
theorem readScale_cases (keyword text : String) :
    (IsScale text ∧ ∃ scale, readScale keyword text = .ok scale) ∨
      (¬ IsScale text ∧ readScale keyword text = .error (.badArguments keyword (.scale text))) := by
  unfold readScale IsScale
  cases hx : Decimal.read? text with
  | none => simp
  | some x =>
    by_cases hfinite : x.isFinite <;> simp [hfinite]

/-- The words of a command are settled by its checks. -/
theorem settled_ofWords (keyword : String) (args : List String) :
    Settled (checks keyword args) (ofWords keyword args) := by
  unfold checks
  by_cases hknown : keyword ∈ keywords
  · refine .cons (fun e he => he.1 hknown) ?_
    rcases keyword_cases hknown with hk | rfl | hk
    · obtain ⟨hparameters, hne, -⟩ := keyword_of_mem_simulatorKeywords keyword hk
      have hok : ofWords keyword args = .ok .handOn := if_pos (by simpa using hk)
      rw [hok, hparameters]
      exact .cons (by simp) <| .cons (fun e he => hne he.1) (.ok _)
    · match args with
      | [] => exact .fails ⟨"file", rfl, rfl⟩
      | [file] => exact .fails ⟨"scale", rfl, rfl⟩
      | file :: text :: rest =>
        refine .cons (by simp [parameters]) ?_
        have hload : ofWords "load-svg" (file :: text :: rest) =
            (readScale "load-svg" text).map (loadSvg file) := rfl
        rw [hload]
        rcases readScale_cases "load-svg" text with ⟨hscale, scale, hread⟩ | ⟨hscale, hread⟩
        · rw [hread]
          exact .cons (fun e ⟨_, text', htext, hne, _⟩ =>
            hne (Option.some.inj htext ▸ hscale)) (.ok _)
        · rw [hread]
          exact .fails ⟨rfl, text, rfl, hscale, rfl⟩
    · obtain ⟨⟨name, make⟩, hmake⟩ := Option.isSome_iff_exists.mp hk
      obtain ⟨hparameters, -, hsimulator, hne⟩ := keyword_of_drawing? hmake
      have hdrawing : ofWords keyword args =
          (argument keyword name args).map fun a => onDrawing (make a) := by
        simp [ofWords, hsimulator, hne, hmake]
      rw [hdrawing, hparameters]
      cases args with
      | nil => exact .fails ⟨name, rfl, rfl⟩
      | cons a rest => exact .cons (by simp) <| .cons (fun e he => hne he.1) (.ok _)
  · have hdrawing : drawing? keyword = none := by
      cases hmake : drawing? keyword with
      | none => rfl
      | some make => exact absurd (keyword_of_drawing? hmake).2.1 hknown
    have hsimulator : keyword ∉ simulatorKeywords := fun h => hknown (List.mem_append_left _ h)
    have hload : keyword ≠ "load-svg" := fun h => hknown (h ▸ by decide)
    have hunknown : ofWords keyword args = .error (.unknownCommand keyword) := by
      simp [ofWords, hsimulator, hload, hdrawing]
    rw [hunknown]
    exact .fails ⟨hknown, rfl⟩

end Command

/-! ### Loading -/

/-- A document is settled by whether its text is well formed. -/
theorem settled_document (text : String) : Settled [IllFormed text] (Drawing.document text) := by
  unfold Drawing.document
  cases h : Markup.parse text with
  | error fault =>
    cases fault with
    | malformed => exact .fails (.inl ⟨h, rfl⟩)
    | strayEndTag => exact .fails (.inr ⟨h, rfl⟩)
  | ok document => exact .cons (fun e he => by simp [IllFormed, h] at he) (.ok document)

/-- A document that is read is the one that its text writes. -/
theorem parse_of_document_eq_ok {text : String} {document : List Markup.Node}
    (h : Drawing.document text = .ok document) : Markup.parse text = .ok document :=
  of_mapError_eq_ok h

/-! ### Elements and matches -/

/-- The only one of several is settled by how many there are. -/
theorem settled_onlyMatch {α : Type} (kind : Kind) (key : String) (found : List α) :
    Settled [matchCheck kind key found.length] (onlyMatch kind key found) := by
  unfold onlyMatch
  split
  · exact .cons (fun e he => he.1 rfl) (.ok _)
  · rename_i hne
    refine .fails ⟨fun hone => ?_, rfl⟩
    obtain ⟨a, rfl⟩ := List.length_eq_one_iff.mp hone
    exact hne a rfl

/-- What is found as the only one is alone. -/
theorem eq_singleton_of_onlyMatch_eq_ok {α : Type} {kind : Kind} {key : String}
    {found : List α} {a : α} (h : onlyMatch kind key found = .ok a) : found = [a] := by
  unfold onlyMatch at h
  split at h
  · rw [Except.ok.inj h]
  · cases h

/-- A path is settled by whether it is malformed. -/
theorem PathElement.settled_read (p : PathElement) (owner : Owner) (t : Transform) :
    Settled [elementCheck (p.Malformed t)] (p.read owner t) := by
  unfold PathElement.read
  cases hd : p.d with
  | none => exact Settled.element_error.mpr ⟨fun d path h => (nomatch hd.symm.trans h), _, _, rfl⟩
  | some d =>
    change Settled _ ((PathData.path d t).mapError _)
    cases hpath : PathData.path d t with
    | error fault =>
      refine Settled.element_error.mpr ⟨fun d' path h hok => ?_, _, _, rfl⟩
      obtain rfl := Option.some.inj (hd.symm.trans h)
      cases hpath.symm.trans hok
    | ok path => exact Settled.element_ok.mpr fun h => h d path hd hpath

/-- An attribute is a number exactly if it is there and is a numeral. -/
theorem readAttribute_eq_ok_iff (name : String) (value : Option String) :
    (∃ x, readAttribute name value = .ok x) ↔ IsNumeral value := by
  unfold readAttribute IsNumeral
  cases value with
  | none => simp
  | some text => cases hx : Decimal.readChars? (Text.trim text.toList) <;> simp [hx]

/-- A label is settled by whether it is malformed. -/
theorem TextElement.settled_read (e : TextElement) (t : Transform) (what : Subject) :
    Settled [elementCheck e.Malformed] ((e.read t).mapError (.malformed what)) := by
  unfold TextElement.read TextElement.Malformed
  rw [← readAttribute_eq_ok_iff "x", ← readAttribute_eq_ok_iff "y"]
  cases readAttribute "x" e.x with
  | error defect => exact Settled.element_error.mpr ⟨by simp, _, _, rfl⟩
  | ok x =>
    cases readAttribute "y" e.y with
    | error defect => exact Settled.element_error.mpr ⟨by simp, _, _, rfl⟩
    | ok y =>
      cases e.span with
      | none => exact Settled.element_error.mpr ⟨by simp, _, _, rfl⟩
      | some text => exact Settled.element_ok.mpr (by simp)

namespace Drawing

/-- A path of a drawing: there has to be one alone of that name, and it has to be well formed. -/
theorem settled_path (d : Drawing) (id : String) (t : Transform) :
    Settled [matchCheck .path id (d.pathsNamed id).length,
      elementCheck (∃ p ∈ d.pathsNamed id, p.Malformed t)] (d.path id t) := by
  refine Settled.bind (settled_onlyMatch ..) fun p hp => ?_
  -- there is one match, so that what is asked of all matches is asked of it
  rw [eq_singleton_of_onlyMatch_eq_ok hp]
  simp only [List.mem_singleton, exists_eq_left]
  exact p.settled_read _ _

/-- The paths of a layer: there has to be one layer of that name, and its paths have to be well
    formed. -/
theorem settled_layerPaths (d : Drawing) (label : String) (t : Transform) :
    Settled [matchCheck .layer label (d.layersNamed label).length,
      elementCheck (∃ layer ∈ d.layersNamed label, ∃ p ∈ layer.paths, p.Malformed t)]
      (d.layerPaths label t) := by
  refine Settled.bind (settled_onlyMatch ..) fun layer hlayer => ?_
  rw [eq_singleton_of_onlyMatch_eq_ok hlayer]
  simp only [List.mem_singleton, exists_eq_left]
  exact .mapM (fun p => p.settled_read _ _) _

/-- The labels of a layer, likewise. -/
theorem settled_layerLabels (d : Drawing) (label : String) (t : Transform) :
    Settled [matchCheck .layer label (d.layersNamed label).length,
      elementCheck (∃ layer ∈ d.layersNamed label, ∃ e ∈ layer.texts, e.Malformed)]
      (d.layerLabels label t) := by
  refine Settled.bind (settled_onlyMatch ..) fun layer hlayer => ?_
  rw [eq_singleton_of_onlyMatch_eq_ok hlayer]
  simp only [List.mem_singleton, exists_eq_left]
  exact .mapM (fun e => e.settled_read t _) _

end Drawing

/-! ### Paths that are measured -/

namespace Setting

variable (s : Setting) {l : Loaded} {id : String} {path : Path}

/-- Only a path with a segment has a heading. -/
theorem settled_heading (hpath : l.drawing.path id l.transform = .ok path) :
    Settled [l.segmentCheck id] ((heading path).mapError (.ofArcLength id)) := by
  obtain ⟨a, rest, rfl⟩ := Drawing.exists_cons_of_path hpath
  cases rest with
  | nil => exact .fails ⟨a, hpath, rfl⟩
  | cons b rest => exact .cons (fun e ⟨v, hv, _⟩ => nomatch hpath.symm.trans hv) (.ok _)

/-- Only a path with a segment, and of finite length, has a sample for every run. -/
theorem settled_sample (htotal : s.trajectory.total < 2 ^ 32) (hvalid : s.trajectory.valid)
    (hpath : l.drawing.path id l.transform = .ok path) :
    Settled [l.segmentCheck id, s.lengthCheck l id]
      ((sample path (s.trajectory.offset (length path))).mapError (.ofArcLength id)) := by
  obtain ⟨a, rest, rfl⟩ := Drawing.exists_cons_of_path hpath
  cases rest with
  | nil => exact .fails ⟨a, hpath, rfl⟩
  | cons b rest =>
    refine .cons (fun e ⟨v, hv, _⟩ => nomatch hpath.symm.trans hv) ?_
    by_cases hlength : (length (a :: b :: rest)).isFinite
    · rw [sample_offset_eq hvalid htotal hlength]
      refine .cons ?_ (.ok _)
      rintro e ⟨path, hok, hne, -⟩
      obtain rfl := Except.ok.inj (hpath.symm.trans hok)
      exact hne hlength
    · -- the offset is a multiple of the length, so it is not finite either
      have hrange : ¬ admits (length (a :: b :: rest))
          (s.trajectory.offset (length (a :: b :: rest))) := by
        intro hadmits
        simp only [admits, Bool.and_eq_true] at hadmits
        exact hlength (Binary64.isFinite_of_mul hadmits.1.1).1
      rw [sample, if_neg hrange]
      exact .fails ⟨_, hpath, hlength, rfl⟩

/-! ### Commands -/

/-- A part of a path is settled by the trajectory, then by the path, then by its length. -/
theorem settled_samplePerimeter (htotal : s.trajectory.total < 2 ^ 32) (l : Loaded) (id : String) :
    Settled (s.loadedChecks l (.samplePerimeter id)) (s.samplePerimeter l id) := by
  unfold samplePerimeter
  cases hvalid : s.trajectory.valid with
  | false => exact .fails ⟨hvalid, rfl⟩
  | true =>
    refine .cons (fun e he => by simp [hvalid] at he) ?_
    exact Settled.bind (l.drawing.settled_path id l.transform) fun path hpath =>
      s.settled_sample htotal hvalid hpath

/-- Every command on a drawing is settled by its checks. -/
theorem settled_onDrawing (htotal : s.trajectory.total < 2 ^ 32) (l : Loaded)
    (command : DrawingCommand) : Settled (s.loadedChecks l command) (s.onDrawing l command) := by
  cases command with
  | setArena label => exact (l.drawing.settled_layerPaths label l.transform).map _
  | addLabels label => exact (l.drawing.settled_layerLabels label l.transform).map _
  | followTrajectory id => exact (l.drawing.settled_path id l.transform).map _
  | samplePerimeter id => exact (s.settled_samplePerimeter htotal l id).map _
  | placeAgent id =>
    exact Settled.bind (l.drawing.settled_path id l.transform) fun path hpath =>
      (settled_heading hpath).map _
  | setFence id => exact (l.drawing.settled_path id l.transform).map _

/-- A request is made of a file that has been read as a document. -/
theorem request_eq (files : Files) (file : String) :
    s.request files file =
      ((files.readText (Files.join s.baseDir file)).mapError
          fun obstacle => .io (.reading (Files.join s.baseDir file)) obstacle) >>= fun text =>
        (Drawing.document text).map fun document =>
          ⟨Files.join s.baseDir file, pathIds document, s.options.flatness⟩ := by
  unfold request Drawing.idsOfText
  dsimp only
  cases files.readText (Files.join s.baseDir file) with
  | error obstacle => rfl
  | ok text =>
    change (Drawing.document text).map pathIds >>= _ = (Drawing.document text).map _
    cases Drawing.document text <;> rfl

/-- A drawing is loaded by reading its file and then what the flattener makes of it. -/
theorem outcome_load (files : Files) (file : String) (scale : Float) :
    (s.load files file scale).outcome =
      ((files.readText (Files.join s.baseDir file)).mapError
          fun obstacle => .io (.reading (Files.join s.baseDir file)) obstacle) >>= fun text =>
        Drawing.document text >>= fun document =>
          s.flattened files (Files.join s.baseDir file) document >>= fun text' =>
            (Drawing.document text').map fun _ => [.arenaSize (s.options.arenaSize * scale)] := by
  unfold load
  rw [request_eq]
  cases files.readText (Files.join s.baseDir file) with
  | error obstacle => rfl
  | ok text =>
    simp only [Except.mapError, Except.bind, bind]
    cases Drawing.document text with
    | error e => rfl
    | ok document =>
      simp only [Except.map, flattened]
      cases (s.flattener files
        ⟨Files.join s.baseDir file, pathIds document, s.options.flatness⟩).1 with
      | error e => rfl
      | ok text' =>
        simp only [drawn, Drawing.ofText, Except.bind, bind]
        cases Drawing.document text' <;> rfl

/-- A file that can be read but is no document stops the loading for that. -/
theorem outcome_load_of_document_eq_error {files : Files} {file text : String} {e : Error}
    (htext : files.readText (Files.join s.baseDir file) = .ok text)
    (hdocument : Drawing.document text = .error e) (scale : Float) :
    (s.load files file scale).outcome = .error e := by
  rw [outcome_load, htext]
  simp only [Except.mapError, Except.bind, bind, hdocument]

/-- Loading is settled by the checks of the file, of its document and of what the flattener makes of
    it. -/
theorem settled_load {session : Session} (hnone : session.loaded = none) (file : String)
    (scale : Float) :
    Settled (s.loadChecks session file) (s.load session.files file scale).outcome := by
  rw [outcome_load]
  refine .cons (fun e he => he.1 hnone) ?_
  -- each check names the results of those before it, which are known once these are passed
  cases hread : session.files.readText (Files.join s.baseDir file) with
  | error obstacle => exact .fails ⟨obstacle, rfl, rfl⟩
  | ok text =>
    refine .cons (by simp) ?_
    simp only [Except.ok.injEq, exists_and_left, exists_eq_left']
    change Settled _ (Drawing.document text >>= _)
    refine Settled.bind (settled_document text) fun document hdocument => ?_
    simp only [parse_of_document_eq_ok hdocument, Except.ok.injEq, exists_eq_left']
    cases s.flattened session.files (Files.join s.baseDir file) document with
    | error e => exact .fails rfl
    | ok text' =>
      refine .cons (by simp) ?_
      simp only [Except.ok.injEq, exists_eq_left']
      exact (settled_document text').map _

/-- Once the words of a line give a command, what it is still refused for is what the command can be
    refused for. -/
theorem settled_perform (htotal : s.trajectory.total < 2 ^ 32) (session : Session)
    {keyword : String}
    {args : List String} {command : Command} (hc : Command.ofWords keyword args = .ok command) :
    Settled (s.commandChecks session keyword args)
      (s.perform session keyword args command).outcome := by
  rcases Command.ofWords_cases hc with
    ⟨hk, rfl⟩ | ⟨rfl, -⟩ | ⟨name, make, a, rest, hk, rfl, rfl⟩
  · obtain ⟨-, hload, hdrawing⟩ := Command.keyword_of_mem_simulatorKeywords keyword hk
    cases args with
    | nil => exact .passed
    | cons argument rest =>
      rw [commandChecks, if_neg hload, hdrawing]
      exact .passed
  · cases args with
    | nil => cases hc
    | cons file rest =>
      obtain ⟨text, -, hc⟩ := exists_of_bind_eq_ok
        (x := Command.argument "load-svg" "scale" rest) hc
      obtain ⟨scale, -, hc⟩ := exists_of_bind_eq_ok hc
      obtain rfl := Except.ok.inj hc
      rw [commandChecks, if_pos rfl]
      simp only [perform]
      cases hl : session.loaded with
      | some l => exact .fails ⟨by simp [hl], rfl⟩
      | none => exact s.settled_load hl file scale
  · obtain ⟨-, -, -, hload⟩ := Command.keyword_of_drawing? hk
    simp only [commandChecks, if_neg hload, hk, perform, drawingChecks]
    cases session.loaded with
    | none => exact .fails ⟨rfl, rfl⟩
    | some l => exact .passes (by simp) (s.settled_onDrawing htotal l (make a))

/-- What a line can be refused for, and that it is refused for nothing else. -/
theorem settled_step (htotal : s.trajectory.total < 2 ^ 32) (session : Session)
    {line keyword : String} {args : List String} (hw : wordsOfLine line = keyword :: args) :
    Settled (s.checks session keyword args) (s.step session line).outcome := by
  have hwords := Command.settled_ofWords keyword args
  rw [step, hw, stepWords]
  cases hc : Command.ofWords keyword args with
  | error e =>
    rw [hc] at hwords
    exact hwords.append_of_some
  | ok command =>
    rw [hc] at hwords
    exact hwords.append_of_none (s.settled_perform htotal session hc)

/-- **The first failure decides.**  A line that has words and is no comment is refused with the
    error of the first of its checks that fails, and compiled if none of them does. -/
theorem firstFailure_of_compile (hp : s.options.precision ≤ Decimal.placesLimit)
    (htotal : s.trajectory.total < 2 ^ 32) (session : Session) {line keyword : String}
    {args : List String} (hcomment : line.toList.head? ≠ some '#')
    (hwords : Text.wordsOf line = keyword :: args) :
    ∃ r, FirstFailure (s.checks session keyword args) r ∧
      match r with
      | some e => (s.compile session line).1 = .refused e
      | none => ∃ out, (s.compile session line).1 = .lines out := by
  have hw : wordsOfLine line = keyword :: args := by
    rw [wordsOfLine, if_neg (by simpa using hcomment)]
    exact hwords
  refine ⟨_, s.settled_step htotal session hw, ?_⟩
  cases ho : (s.step session line).outcome with
  | error e => exact (Step.compiled_eq_refused_iff _ _ _).mpr ho
  | ok ds => exact ⟨_, (Step.compiled_eq_lines_iff hp _ _).mpr ⟨ds, ho, rfl⟩⟩

/-- A session that has loaded a drawing with one path, which is a point. -/
def pointSession : Session :=
  ⟨⟨[], []⟩, some ⟨⟨[], [⟨some "p", some "M 1 2"⟩]⟩, ⟨1.0⟩⟩⟩

set_option maxRecDepth 4096 in
/-- A path of one vertex is found and can be read, but it has no segment. -/
theorem firstFailure_of_point :
    plain.options.precision ≤ Decimal.placesLimit ∧ plain.trajectory.total < 2 ^ 32 ∧
      Text.wordsOf "sample-perimeter-from-svg-path p" = ["sample-perimeter-from-svg-path", "p"] ∧
      FirstFailure (plain.checks pointSession "sample-perimeter-from-svg-path" ["p"])
        (some (.degeneratePath "p" 1)) ∧
      (plain.compile pointSession "sample-perimeter-from-svg-path p").1 =
        .refused (.degeneratePath "p" 1) := by
  have hp : plain.options.precision ≤ Decimal.placesLimit := by decide
  have htotal : plain.trajectory.total < 2 ^ 32 := by decide
  have hcomment : "sample-perimeter-from-svg-path p".toList.head? ≠ some '#' := by decide
  have hwords : Text.wordsOf "sample-perimeter-from-svg-path p" =
      ["sample-perimeter-from-svg-path", "p"] := rfl
  have hrefused : (plain.compile pointSession "sample-perimeter-from-svg-path p").1 =
      .refused (.degeneratePath "p" 1) := rfl
  obtain ⟨r, hfirst, hcompile⟩ :=
    plain.firstFailure_of_compile hp htotal pointSession hcomment hwords
  cases r with
  | none =>
    obtain ⟨out, hout⟩ := hcompile
    cases hrefused.symm.trans hout
  | some e =>
    obtain rfl := Compiled.refused.inj (hcompile.symm.trans hrefused)
    exact ⟨hp, htotal, hwords, hfirst, hrefused⟩

/-- A document whose root is closed by an entity, and then again. -/
def strayText : String :=
  "<!DOCTYPE svg [<!ENTITY e \"<x/></svg>\">]>" ++
    "<svg xmlns=\"http://www.w3.org/2000/svg\"" ++
    " xmlns:inkscape=\"http://www.inkscape.org/namespaces/inkscape\">&e;</svg>"

/-- The file of that document. -/
def strayFiles : Files :=
  ⟨[(["a.svg"], .file strayText.toUTF8.toList)], []⟩

/-- The text ends an element that was never begun. -/
theorem parse_strayText : Markup.parse strayText = .error .strayEndTag := by
  -- documents cannot be compared, faults can
  have hfault : (match Markup.parse strayText with
      | .error fault => fault == .strayEndTag
      | .ok _ => false) = true := by
    rw [Markup.parse_of_ofList (show strayText = String.ofList _ from
      append_eq_ofList (append_eq_ofList rfl rfl) rfl)]
    decide +kernel
  split at hfault
  · rename_i fault hparse
    rw [hparse, eq_of_beq hfault]
  · cases hfault

/-- The file can be read. -/
theorem readText_strayFiles : strayFiles.readText "a.svg" = .ok strayText :=
  strayFiles.readText_of_read rfl

/-- Loading the drawing in that file breaks down. -/
theorem compile_strayFiles :
    (plain.compile (.start strayFiles) "load-svg a.svg 1").1 = .refused .strayEndTag := by
  have hdocument : Drawing.document strayText = .error .strayEndTag := by
    rw [Drawing.document, parse_strayText]
    rfl
  have hstep : plain.step (.start strayFiles) "load-svg a.svg 1" =
      plain.load strayFiles "a.svg" 1.0 := rfl
  have htext : strayFiles.readText (Files.join plain.baseDir "a.svg") = .ok strayText :=
    readText_strayFiles
  have houtcome : (plain.step (.start strayFiles) "load-svg a.svg 1").outcome =
      .error .strayEndTag := by
    rw [hstep]
    exact plain.outcome_load_of_document_eq_error htext hdocument 1.0
  exact (Step.compiled_eq_refused_iff plain.options.precision _ _).mpr houtcome

/-- A text can be no document without an error that is reported: the drawing is read from a text
    that is not well-formed, and reading it breaks down. -/
theorem refused_of_stray_end_tag :
    strayFiles.readText "a.svg" = .ok strayText ∧
      (∀ document, Markup.parse strayText ≠ .ok document) ∧
      (plain.compile (.start strayFiles) "load-svg a.svg 1").1 = .refused .strayEndTag ∧
      Error.strayEndTag.isBreakdown = true := by
  refine ⟨readText_strayFiles, fun document h => ?_, compile_strayFiles, rfl⟩
  rw [parse_strayText] at h
  cases h

end Setting

end NavScript
