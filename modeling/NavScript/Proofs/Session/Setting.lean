import NavScript.Proofs.Session.Refusal

namespace NavScript

open Markup (Node descendants)

/-!
# What a line takes from the setting

A line that asks for a drawing takes from the setting how to get it, and a line that works on the
drawing takes the run of the batch, if it samples.  All other lines take nothing, and what a line
comes to never depends on how its numbers are written.

* `AsksToLoad` — the lines that ask for a drawing
* `Setting.Requests`, `Setting.request_step_iff` — what a line asks of the flattener
* `Step.map`, `Setting.step_map_congr`, `Setting.load_map_congr` — a line in two settings and among
  different files
* `Step.mapRequest`, `Setting.step_congr` — a line in two settings
* `Setting.load_of_readText` — a drawing whose file is taken as it is
* `Setting.withFlattener`, `Setting.withPlaces` — another flattener, another count of places
-/

/-! ### Lines that ask for a drawing -/

/-- The line asks for the drawing in a file at a scale.  Words behind the scale are ignored. -/
def AsksToLoad (line file : String) (scale : Float) : Prop :=
  ∃ text rest, Setting.wordsOfLine line = "load-svg" :: file :: text :: rest ∧
    Decimal.read? text = some scale ∧ scale.isFinite = true

/-- The words of a line that loads a drawing: a file, a scale that is a finite number, and whatever
    follows them. -/
theorem Command.ofWords_eq_loadSvg_iff {args : List String} {file : String} {scale : Float} :
    Command.ofWords "load-svg" args = .ok (.loadSvg file scale) ↔
      ∃ text rest, args = file :: text :: rest ∧ Decimal.read? text = some scale ∧
        scale.isFinite = true := by
  match args with
  | [] => exact iff_of_false (fun h => nomatch h) (by simp)
  | [a] => exact iff_of_false (fun h => nomatch h) (by simp)
  | a :: text :: rest =>
    have hwords : Command.ofWords "load-svg" (a :: text :: rest) =
        (Command.readScale "load-svg" text).map (Command.loadSvg a) := rfl
    rw [hwords, Command.readScale]
    cases hx : Decimal.read? text with
    | none => simp [Except.map, hx]
    | some x =>
      by_cases hfinite : x.isFinite = true
      · simp only [hfinite, if_true, Except.map, Except.ok.injEq, Command.loadSvg.injEq]
        constructor
        · rintro ⟨rfl, rfl⟩
          exact ⟨text, rest, rfl, hx, hfinite⟩
        · rintro ⟨text', rest', hargs, hx', -⟩
          obtain ⟨rfl, rfl, rfl⟩ : a = file ∧ text = text' ∧ rest = rest' := by simpa using hargs
          exact ⟨rfl, Option.some.inj (hx.symm.trans hx')⟩
      · refine iff_of_false (by simp [hfinite, Except.map]) ?_
        rintro ⟨text', rest', hargs, hx', hfinite'⟩
        obtain ⟨rfl, rfl, rfl⟩ : a = file ∧ text = text' ∧ rest = rest' := by simpa using hargs
        obtain rfl := Option.some.inj (hx.symm.trans hx')
        exact hfinite hfinite'

/-- Its first word says so. -/
theorem AsksToLoad.isLoad {line file : String} {scale : Float} (h : AsksToLoad line file scale) :
    IsLoad line := by
  obtain ⟨text, rest, hw, -, -⟩ := h
  simp [IsLoad, hw]

/-- A keyword of commands on a drawing, with an argument, asks for such a command. -/
theorem asks_of_drawing? {line keyword name a : String} {make : String → DrawingCommand}
    {rest : List String} (hw : Setting.wordsOfLine line = keyword :: a :: rest)
    (hk : Command.drawing? keyword = some (name, make)) : Asks line (make a) := by
  refine ⟨rest, ?_⟩
  rw [hw]
  unfold Command.drawing? at hk
  split at hk <;> cases hk <;> rfl

/-! ### Steps that differ in the files and in what is asked of the flattener -/

/-- The session among other files. -/
def Session.mapFiles (g : Files → Files) (session : Session) : Session :=
  { session with files := g session.files }

/-- The step with its session and its request put through functions. -/
def Step.map (φ : Session → Session) (f : Request → Request) (step : Step) : Step :=
  ⟨step.outcome, φ step.after, step.request.map f⟩

@[simp] theorem Step.map_id (step : Step) : step.map id id = step := by
  simp [Step.map]

/-- The step with another request in place of its own, if it makes one. -/
def Step.mapRequest (f : Request → Request) (step : Step) : Step :=
  { step with request := step.request.map f }

@[simp] theorem Step.mapRequest_id (step : Step) : step.mapRequest id = step := by
  simp [mapRequest]

namespace Setting

variable (s : Setting)

/-- A line that asks for a drawing, in a session that has none, loads it. -/
theorem step_of_asksToLoad {session : Session} (hnone : session.loaded = none) {line file : String}
    {scale : Float} (h : AsksToLoad line file scale) :
    s.step session line = s.load session.files file scale := by
  obtain ⟨text, rest, hw, hread, hfinite⟩ := h
  have hc : Command.ofWords "load-svg" (file :: text :: rest) = .ok (.loadSvg file scale) :=
    Command.ofWords_eq_loadSvg_iff.mpr ⟨text, rest, rfl, hread, hfinite⟩
  simp only [step, hw, stepWords, hc, perform, hnone]

/-- A line comes to the same in two settings, and among different files, if the same drawing is
    loaded for it, where it asks for one, and the same is done with the drawing, where it works on
    that. -/
theorem step_map_congr {s t : Setting} (g : Files → Files) {f : Request → Request}
    {session : Session} {line : String}
    (hload : ∀ file scale, session.loaded = none → AsksToLoad line file scale →
      t.load (g session.files) file scale =
        (s.load session.files file scale).map (Session.mapFiles g) f)
    (hdrawing : ∀ l command, session.loaded = some l → Asks line command →
      t.onDrawing l command = s.onDrawing l command) :
    t.step (session.mapFiles g) line = (s.step session line).map (Session.mapFiles g) f := by
  have hloaded : (session.mapFiles g).loaded = session.loaded := rfl
  unfold step
  cases hw : wordsOfLine line with
  | nil => rfl
  | cons keyword args =>
    simp only [stepWords]
    cases hc : Command.ofWords keyword args with
    | error e => rfl
    | ok command =>
      rcases Command.ofWords_cases hc with
        ⟨-, rfl⟩ | ⟨rfl, file, scale, rfl⟩ | ⟨name, make, a, rest, hk, rfl, rfl⟩
      · rfl
      · simp only [perform, hloaded]
        cases hl : session.loaded with
        | some l => rfl
        | none =>
          obtain ⟨text, rest, rfl, hread, hfinite⟩ := Command.ofWords_eq_loadSvg_iff.mp hc
          exact hload file scale hl ⟨text, rest, hw, hread, hfinite⟩
      · simp only [perform, hloaded]
        cases hl : session.loaded with
        | none => rfl
        | some l =>
          simp only [hdrawing l _ hl (asks_of_drawing? hw hk)]
          rfl

/-- A line comes to the same in two settings if they load the same drawing for it, where it asks for
    one, and do the same with the drawing, where it works on that. -/
theorem step_congr {s t : Setting} {f : Request → Request} {session : Session} {line : String}
    (hload : ∀ file scale, session.loaded = none → AsksToLoad line file scale →
      t.load session.files file scale = (s.load session.files file scale).mapRequest f)
    (hdrawing : ∀ l command, session.loaded = some l → Asks line command →
      t.onDrawing l command = s.onDrawing l command) :
    t.step session line = (s.step session line).mapRequest f :=
  step_map_congr id hload hdrawing

/-- What comes of an answer of the flattener. -/
def answered (scale : Float) (r : Request) (answer : Except Error String × Files) : Step :=
  match drawn scale answer.1 with
  | .error e => ⟨.error e, ⟨answer.2, none⟩, some r⟩
  | .ok l => ⟨.ok [.arenaSize (s.options.arenaSize * scale)], ⟨answer.2, some l⟩, some r⟩

/-- What comes of loading when the flattener is asked, -/
theorem load_of_request_eq_ok {files : Files} {file : String} {r : Request}
    (h : s.request files file = .ok r) (scale : Float) :
    s.load files file scale = s.answered scale r (s.flattener files r) := by
  unfold load
  rw [h]
  rfl

/-- and when it is not. -/
theorem load_of_request_eq_error {files : Files} {file : String} {e : Error}
    (h : s.request files file = .error e) (scale : Float) :
    s.load files file scale = .keeping ⟨files, none⟩ (.error e) := by
  unfold load
  rw [h]

/-- The flattener is asked for the identifiers in the file, which has been read as a text. -/
theorem request_of_readText {files : Files} {file text : String} {ids : List String}
    (htext : files.readText (Files.join s.baseDir file) = .ok text)
    (hids : Drawing.idsOfText text = .ok ids) :
    s.request files file = .ok ⟨Files.join s.baseDir file, ids, s.options.flatness⟩ := by
  simp only [request, htext, hids, Except.mapError, Except.bind, bind]
  rfl

/-- A drawing is loaded from the text of the file where that is taken as it is. -/
theorem load_of_readText (hasis : s.flattener = .asIs) {files : Files} {file text : String}
    {ids : List String} {drawing : Drawing}
    (htext : files.readText (Files.join s.baseDir file) = .ok text)
    (hids : Drawing.idsOfText text = .ok ids) (hdrawing : Drawing.ofText text = .ok drawing)
    (scale : Float) :
    s.load files file scale =
      ⟨.ok [.arenaSize (s.options.arenaSize * scale)], ⟨files, some ⟨drawing, ⟨scale⟩⟩⟩,
        some ⟨Files.join s.baseDir file, ids, s.options.flatness⟩⟩ := by
  rw [s.load_of_request_eq_ok (s.request_of_readText htext hids), hasis]
  simp only [answered, Flattener.asIs, Flattener.pure, htext, Except.mapError, drawn, hdrawing,
    Except.bind, bind]
  rfl

/-- The same drawing is loaded in two settings, and among different files, if the flatteners give
    the same answers to what they are asked for. -/
theorem load_map_congr {s t : Setting} (g : Files → Files) {f : Request → Request} {files : Files}
    {file : String} (hrequest : t.request (g files) file = (s.request files file).map f)
    (hanswer : ∀ r, s.request files file = .ok r →
      t.flattener (g files) (f r) = ((s.flattener files r).1, g (s.flattener files r).2))
    (harena : t.options.arenaSize = s.options.arenaSize) (scale : Float) :
    t.load (g files) file scale = (s.load files file scale).map (Session.mapFiles g) f := by
  cases hr : s.request files file with
  | error e =>
    rw [hr] at hrequest
    rw [s.load_of_request_eq_error hr, t.load_of_request_eq_error hrequest]
    rfl
  | ok r =>
    rw [hr] at hrequest
    rw [s.load_of_request_eq_ok hr, t.load_of_request_eq_ok hrequest, hanswer r hr]
    unfold answered
    rw [harena]
    cases drawn scale (s.flattener files r).1 <;> rfl

/-- Two settings load the same drawing if their flatteners give the same answers to what they are
    asked for. -/
theorem load_congr {s t : Setting} {f : Request → Request} {files : Files} {file : String}
    (hrequest : t.request files file = (s.request files file).map f)
    (hanswer : ∀ r, s.request files file = .ok r → t.flattener files (f r) = s.flattener files r)
    (harena : t.options.arenaSize = s.options.arenaSize) (scale : Float) :
    t.load files file scale = (s.load files file scale).mapRequest f :=
  load_map_congr id hrequest hanswer harena scale

/-! ### Requests to the flattener -/

/-- What the flattener is asked for a file: the file, the identifiers of all paths in it, in
    document order and as often as they stand there, and the flatness that the options allow. -/
def Requests (files : Files) (file : String) (r : Request) : Prop :=
  ∃ text document, files.readText (Files.join s.baseDir file) = .ok text ∧
    Markup.parse text = .ok document ∧
    r = ⟨Files.join s.baseDir file,
      ((descendants document).filter (isDrawn "path")).filterMap (Node.attribute? none "id"),
      s.options.flatness⟩

/-- The flattener is asked exactly for the requests that the files allow. -/
theorem request_eq_ok_iff (files : Files) (file : String) (r : Request) :
    s.request files file = .ok r ↔ s.Requests files file r := by
  rw [request_eq]
  constructor
  · intro h
    obtain ⟨text, htext, h⟩ := exists_of_bind_eq_ok h
    have hread := of_mapError_eq_ok htext
    cases hdocument : Drawing.document text with
    | error e =>
      rw [hdocument] at h
      cases h
    | ok document =>
      rw [hdocument] at h
      exact ⟨text, document, hread, parse_of_document_eq_ok hdocument, (Except.ok.inj h).symm⟩
  · rintro ⟨text, document, hread, hparse, rfl⟩
    have hdocument : Drawing.document text = .ok document := by
      rw [Drawing.document, hparse]
      rfl
    simp only [hread, Except.mapError, bind, Except.bind, hdocument]
    rfl

/-- Loading asks the flattener exactly if there is something to ask it for. -/
theorem request_load_iff (files : Files) (file : String) (scale : Float) (r : Request) :
    (s.load files file scale).request = some r ↔ s.request files file = .ok r := by
  cases hr : s.request files file with
  | error e => simp [s.load_of_request_eq_error hr, Step.keeping]
  | ok r' =>
    rw [s.load_of_request_eq_ok hr, answered]
    cases drawn scale (s.flattener files r').1 <;> simp

/-- A line leads to a request exactly if it asks for a drawing, in a session that has none, and the
    file can be read as a document. -/
theorem request_step_iff (session : Session) (line : String) (r : Request) :
    (s.step session line).request = some r ↔
      session.loaded = none ∧ ∃ file scale, AsksToLoad line file scale ∧
        s.Requests session.files file r := by
  simp only [← request_eq_ok_iff]
  constructor
  · intro h
    rcases s.step_cases session line with
      ⟨outcome, hs⟩ | ⟨args, file, scale, hnone, hw, hc, hs⟩
    · rw [hs] at h
      cases h
    · obtain ⟨text, rest, rfl, hread, hfinite⟩ := Command.ofWords_eq_loadSvg_iff.mp hc
      rw [hs, request_load_iff] at h
      exact ⟨hnone, file, scale, ⟨text, rest, hw, hread, hfinite⟩, h⟩
  · rintro ⟨hnone, file, scale, hasks, hr⟩
    rw [s.step_of_asksToLoad hnone hasks, request_load_iff]
    exact hr

/-! ### Other settings -/

/-- A line comes to the same in two settings that load in the same way, if the flatteners give the
    same answer to the request of the line, where it makes one, and if the line is answered alike
    from the drawing, where it works on that. -/
theorem step_eq_of_same {s t : Setting} {session : Session} {line : String}
    (hdir : t.baseDir = s.baseDir) (hflatness : t.options.flatness = s.options.flatness)
    (harena : t.options.arenaSize = s.options.arenaSize)
    (hanswer : ∀ r, (s.step session line).request = some r →
      t.flattener session.files r = s.flattener session.files r)
    (hdrawing : ∀ l command, session.loaded = some l → Asks line command →
      t.onDrawing l command = s.onDrawing l command) :
    t.step session line = s.step session line := by
  have hcongr : t.step session line = (s.step session line).mapRequest id := by
    refine step_congr (fun file scale hnone hasks => ?_) hdrawing
    rw [s.step_of_asksToLoad hnone hasks] at hanswer
    have hrequest : t.request session.files file = (s.request session.files file).map id := by
      rw [Except.map_id]
      unfold request
      rw [hdir, hflatness]
      rfl
    exact load_congr hrequest (fun r hr => hanswer r ((s.request_load_iff ..).mpr hr)) harena scale
  rw [hcongr, Step.mapRequest_id]

/-- The setting with another flattener. -/
def withFlattener (f : Flattener) : Setting :=
  { s with flattener := f }

/-- A line knows the flattener by the answer to its request, and a line without a request does not
    know it at all. -/
theorem step_withFlattener (f : Flattener) (session : Session) (line : String)
    (h : ∀ r, (s.step session line).request = some r →
      f session.files r = s.flattener session.files r) :
    (s.withFlattener f).step session line = s.step session line :=
  step_eq_of_same rfl rfl rfl h fun l command _ _ => by cases command <;> rfl

/-- The setting with another count of places. -/
def withPlaces (places : Nat) : Setting :=
  { s with options := { s.options with precision := places } }

/-- What a line comes to does not depend on the count of places. -/
theorem step_withPlaces (places : Nat) (session : Session) (line : String) :
    (s.withPlaces places).step session line = s.step session line :=
  step_eq_of_same rfl rfl rfl (fun _ _ => rfl) fun l command _ _ => by cases command <;> rfl

/-- What a line compiles to with few places is what has been understood of it. -/
theorem compile_withPlaces {places : Nat} (h : places ≤ Decimal.placesLimit) (session : Session)
    (line : String) :
    ((s.withPlaces places).compile session line).1 = .of places (s.step session line).outcome := by
  change ((s.withPlaces places).step session line).compiled places = _
  rw [Step.compiled_eq_of h, step_withPlaces]

end Setting

end NavScript
