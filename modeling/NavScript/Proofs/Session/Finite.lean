import NavScript.Proofs.Geometry.ArcLength
import NavScript.Proofs.PathData.Limits
import NavScript.Proofs.Session.Output
import NavScript.Proofs.Session.Setting

namespace NavScript

open NavScript.Geometry NavScript.Binary64

/-!
# Finite numbers

The coordinates of paths are checked to be within bounds when they are read, and at any scale that
is not extreme nothing that is computed from them leaves the range of finite numbers.  The
coordinates of texts are not checked: a text may stand at infinity, or at no number at all, and so
does its label.

A scale is checked to be finite, and no more.  At scales above about 1e301 the vertices of a path
can be out of the range of finite numbers, which is a third way to a line with a number that is not
finite.

* `within_apply` — points within bounds in the arena
* `Setting.isFinite_of_onDrawing` — what is computed from paths
* `Setting.map_position?_of_addLabels` — where labels stand
* `Setting.Escapes`, `Setting.finite_of_outcome` — the lines with a number that is not finite
-/

/-! ### Points in the arena -/

/-- The greatest scale up to which points within bounds are finite in the arena for certain. -/
def scaleBound : Float := 1e300

/-- The bound for scales is below a power of two. -/
theorem within_scaleBound : Within 997 scaleBound := by
  have hexact : Decimal.exact scaleBound = .finite false 6724873095247260 944 := by decide +kernel
  exact (Within.of_exact hexact).mono (by decide)

/-- So are the coordinates in paths. -/
theorem within_of_inBounds {x : Float} (h : PathData.inBounds x = true) : Within 24 x := by
  have hexact : Decimal.exact PathData.coordinateLimit = .finite false 5368709120000000 (-29) := by
    decide +kernel
  have hlimit : Within 24 PathData.coordinateLimit := (Within.of_exact hexact).mono (by decide)
  simp only [PathData.inBounds, Bool.and_eq_true, decide_eq_true_eq] at h
  obtain ⟨⟨hx, hlow⟩, hhigh⟩ := h
  rw [le_iff_value (isFinite_neg.trans hlimit.finite) hx, value_neg] at hlow
  rw [le_iff_value hx hlimit.finite] at hhigh
  exact ⟨hx, (abs_le.mpr ⟨hlow, hhigh⟩).trans ((le_abs_self _).trans hlimit.bound)⟩

/-- Points within bounds are finite in the arena. -/
theorem within_apply {t : Transform} (ht : t.scale.abs ≤ scaleBound) {p : Point}
    (hp : PathData.Bounded p) : (t.apply p).Within 1021 := by
  have hscale := Within.of_abs_le within_scaleBound ht
  exact ⟨(within_of_inBounds hp.1).mul hscale (by decide) (by decide),
    (within_of_inBounds hp.2).neg.mul hscale (by decide) (by decide)⟩

-- at a greater scale a point within bounds need not be finite
example : PathData.inBounds 1e7 = true ∧
    ((⟨1e302⟩ : Transform).apply ⟨1e7, 0.0⟩).x.isFinite = false := by
  decide +kernel

/-! ### Paths of a drawing -/

/-- Every result for a list is that for one of its elements. -/
theorem exists_of_mem_mapM {α β ε : Type} {f : α → Except ε β} {as : List α} {bs : List β}
    (h : as.mapM f = .ok bs) : ∀ b ∈ bs, ∃ a ∈ as, f a = .ok b := by
  have hresults : as.map (fun a => (f a).toOption) = bs.map some :=
    map_eq_map_of_mapM_eq_ok (fun a b hab => by rw [hab]; rfl) h
  intro b hb
  obtain ⟨a, ha, hab⟩ := List.mem_map.mp (hresults ▸ List.mem_map_of_mem (f := some) hb)
  refine ⟨a, ha, ?_⟩
  cases hf : f a with
  | error e => simp [hf, Except.toOption] at hab
  | ok b' =>
    rw [hf] at hab
    rw [Option.some.inj hab]

/-- The vertices of a path that has been read, scaled, lie within a power of two. -/
theorem PathElement.within_of_read {e : PathElement} {owner : Owner} {t : Transform} {path : Path}
    (ht : t.scale.abs ≤ scaleBound) (h : e.read owner t = .ok path) :
    ∀ v ∈ path, v.Within 1021 := by
  unfold PathElement.read at h
  split at h
  · cases h
  · intro v hv
    obtain ⟨p, hp, rfl⟩ := PathData.bounded_of_path (of_mapError_eq_ok h) v hv
    exact within_apply ht hp

/-- So do those of a path of a drawing, -/
theorem Drawing.within_of_path {d : Drawing} {id : String} {t : Transform} {path : Path}
    (ht : t.scale.abs ≤ scaleBound) (h : d.path id t = .ok path) : ∀ v ∈ path, v.Within 1021 := by
  obtain ⟨e, -, h⟩ := exists_of_bind_eq_ok h
  exact e.within_of_read ht h

/-- and those of the paths of a layer. -/
theorem Drawing.within_of_layerPaths {d : Drawing} {label : String} {t : Transform}
    {paths : List Path} (ht : t.scale.abs ≤ scaleBound) (h : d.layerPaths label t = .ok paths) :
    ∀ path ∈ paths, ∀ v ∈ path, v.Within 1021 := by
  obtain ⟨layer, -, h⟩ := exists_of_bind_eq_ok h
  intro path hpath
  obtain ⟨e, -, hread⟩ := exists_of_mem_mapM h path hpath
  exact e.within_of_read ht hread

/-! ### Labels of a drawing -/

/-- Where a text stands in the arena, if its coordinates can be read. -/
def TextElement.position? (e : TextElement) (t : Transform) : Option Vertex :=
  match readAttribute "x" e.x, readAttribute "y" e.y with
  | .ok x, .ok y => some (t.apply ⟨x, y⟩)
  | _, _ => none

/-- A label that has been read has the position that its element gives. -/
theorem TextElement.position?_of_read {e : TextElement} {t : Transform} {label : Label}
    (h : e.read t = .ok label) : e.position? t = some label.position := by
  unfold TextElement.read at h
  obtain ⟨x, hx, h⟩ := exists_of_bind_eq_ok h
  obtain ⟨y, hy, h⟩ := exists_of_bind_eq_ok h
  split at h
  · rename_i text hspan
    obtain rfl : ⟨t.apply ⟨x, y⟩, text⟩ = label := Except.ok.inj h
    simp only [position?, hx, hy]
  · cases h

/-! ### Directives -/

/-- The numbers that a directive writes, but for a heading. -/
def Directive.measures : Directive → List Float
  | .placeAgent p _ => [p.x, p.y]
  | d => d.numbers

/-- The coordinates of such a vertex are finite, -/
theorem isFinite_of_within {k : Int} {v : Vertex} (h : v.Within k) :
    ∀ x ∈ [v.x, v.y], x.isFinite := by
  simpa using ⟨h.x.finite, h.y.finite⟩

/-- and so are those of a path of them, -/
theorem isFinite_of_mem_coordinates {k : Int} {path : Path} (h : ∀ v ∈ path, v.Within k) :
    ∀ x ∈ Directive.coordinates path, x.isFinite := by
  intro x hx
  obtain ⟨v, hv, hx⟩ := List.mem_flatMap.mp hx
  exact isFinite_of_within (h v hv) x hx

/-- and the numbers of its waypoints. -/
theorem isFinite_of_mem_waypoints {k : Int} {path : Path} (h : ∀ v ∈ path, v.Within k) :
    ∀ d ∈ path.map Directive.goto, ∀ x ∈ d.measures, x.isFinite := by
  intro d hd
  obtain ⟨v, hv, rfl⟩ := List.mem_map.mp hd
  exact isFinite_of_within (h v hv)

namespace Setting

variable (s : Setting)

/-- A sampled path is the part of a path that a valid trajectory covers. -/
theorem exists_of_samplePerimeter {l : Loaded} {id : String} {path : Path}
    (h : s.samplePerimeter l id = .ok path) :
    s.trajectory.valid = true ∧ ∃ whole, l.drawing.path id l.transform = .ok whole ∧
      sample whole (s.trajectory.offset (length whole)) = .ok path := by
  unfold samplePerimeter at h
  cases hvalid : s.trajectory.valid with
  | false =>
    rw [hvalid] at h
    cases h
  | true =>
    rw [hvalid] at h
    obtain ⟨whole, hwhole, h⟩ := exists_of_bind_eq_ok h
    exact ⟨rfl, whole, hwhole, of_mapError_eq_ok h⟩

/-- What a command computes from paths is finite. -/
theorem isFinite_of_onDrawing (htotal : s.trajectory.total < 2 ^ 32) {l : Loaded}
    (ht : l.transform.scale.abs ≤ scaleBound) {command : DrawingCommand} {ds : List Directive}
    (h : s.onDrawing l command = .ok ds) (hlabels : ∀ label, command ≠ .addLabels label) :
    ∀ d ∈ ds, ∀ x ∈ d.measures, x.isFinite := by
  cases command with
  | setArena label =>
    obtain ⟨paths, hpaths, rfl⟩ := s.onDrawing_cases h
    intro d hd x hx
    rw [List.mem_singleton.mp hd] at hx
    obtain ⟨path, hpath, hx⟩ := List.mem_flatMap.mp hx
    exact isFinite_of_mem_coordinates (Drawing.within_of_layerPaths ht hpaths path hpath) x hx
  | addLabels label => exact absurd rfl (hlabels label)
  | followTrajectory id =>
    obtain ⟨path, hpath, rfl⟩ := s.onDrawing_cases h
    exact isFinite_of_mem_waypoints (Drawing.within_of_path ht hpath)
  | samplePerimeter id =>
    obtain ⟨path, hpath, rfl⟩ := s.onDrawing_cases h
    obtain ⟨hvalid, whole, hwhole, hsample⟩ := s.exists_of_samplePerimeter hpath
    exact isFinite_of_mem_waypoints (within_of_sample_offset (by decide) (by decide)
      (Drawing.within_of_path ht hwhole) hvalid htotal hsample)
  | placeAgent id =>
    obtain ⟨path, heading, hpath, -, rfl⟩ := s.onDrawing_cases h
    intro d hd
    obtain ⟨v, hv, rfl⟩ := List.mem_map.mp hd
    exact isFinite_of_within (Drawing.within_of_path ht hpath v
      (List.mem_of_mem_head? (Option.mem_toList.mp hv)))
  | setFence id =>
    obtain ⟨path, hpath, rfl⟩ := s.onDrawing_cases h
    intro d hd
    rw [List.mem_singleton.mp hd]
    exact isFinite_of_mem_coordinates (Drawing.within_of_path ht hpath)

/-- An agent looks along the difference of two vertices, which is finite. -/
theorem heading_of_onDrawing {l : Loaded} (ht : l.transform.scale.abs ≤ scaleBound)
    {command : DrawingCommand} {ds : List Directive} (h : s.onDrawing l command = .ok ds)
    {p : Vertex} {heading : Float} (hmem : .placeAgent p heading ∈ ds) :
    ∃ dy dx : Float, dy.isFinite ∧ dx.isFinite ∧ heading = Float.atan2 dy dx := by
  have hgives := s.gives_of_onDrawing h _ hmem
  cases command with
  | placeAgent id =>
    obtain ⟨path, angle, hpath, hangle, rfl⟩ := s.onDrawing_cases h
    obtain ⟨v, -, hv⟩ := List.mem_map.mp hmem
    obtain ⟨-, rfl⟩ := Directive.placeAgent.inj hv
    match path, hpath, hangle with
    | a :: b :: rest, hpath, hangle =>
      obtain rfl : a.direction b = angle := Except.ok.inj hangle
      have hwithin := Drawing.within_of_path ht hpath
      have ha := hwithin a (by simp)
      have hb := hwithin b (by simp)
      exact ⟨_, _, (hb.y.sub ha.y (by decide) (by decide)).finite,
        (hb.x.sub ha.x (by decide) (by decide)).finite, rfl⟩
    | [], _, hangle => cases hangle
    | [a], _, hangle => cases hangle
  | setArena label | addLabels label | followTrajectory id | samplePerimeter id | setFence id =>
    simp [DrawingCommand.Gives] at hgives

/-- Labels stand where the texts of the layer stand. -/
theorem map_position?_of_addLabels {l : Loaded} {label : String} {ds : List Directive}
    (h : s.onDrawing l (.addLabels label) = .ok ds) :
    ∃ (layer : Layer) (labels : List Label), l.drawing.layer label = .ok layer ∧
      ds = labels.map (fun m : Label => .addLabel m.position m.text) ∧
      layer.texts.map (·.position? l.transform) = labels.map fun m => some m.position := by
  obtain ⟨labels, hlabels, rfl⟩ := s.onDrawing_cases h
  obtain ⟨layer, hlayer, hread⟩ := exists_of_bind_eq_ok hlabels
  exact ⟨layer, labels, hlayer, rfl, map_eq_map_of_mapM_eq_ok
    (fun e m hm => TextElement.position?_of_read (of_mapError_eq_ok hm)) hread⟩

/-- Labels are finite exactly if all texts of the layer stand at finite points. -/
theorem isFinite_of_addLabels_iff {l : Loaded} {label : String} {layer : Layer}
    {ds : List Directive} (h : s.onDrawing l (.addLabels label) = .ok ds)
    (hlayer : l.drawing.layer label = .ok layer) :
    (∀ d ∈ ds, ∀ x ∈ d.measures, x.isFinite) ↔
      ∀ e ∈ layer.texts, ∀ v, e.position? l.transform = some v → v.x.isFinite ∧ v.y.isFinite := by
  obtain ⟨layer', labels, hlayer', rfl, hpositions⟩ := s.map_position?_of_addLabels h
  obtain rfl : layer = layer' := Except.ok.inj (hlayer.symm.trans hlayer')
  constructor
  · intro hfinite e he v hv
    have hmem : some v ∈ labels.map fun m => some m.position :=
      hpositions ▸ List.mem_map.mpr ⟨e, he, hv⟩
    obtain ⟨m, hm, hmv⟩ := List.mem_map.mp hmem
    obtain rfl := Option.some.inj hmv
    have hlabel := hfinite _ (List.mem_map_of_mem hm)
    exact ⟨hlabel _ (by simp [Directive.measures, Directive.numbers]),
      hlabel _ (by simp [Directive.measures, Directive.numbers])⟩
  · intro hfinite d hd
    obtain ⟨m, hm, rfl⟩ := List.mem_map.mp hd
    have hmem : some m.position ∈ layer.texts.map (·.position? l.transform) :=
      hpositions ▸ List.mem_map_of_mem (f := fun m : Label => some m.position) hm
    obtain ⟨e, he, hv⟩ := List.mem_map.mp hmem
    simpa [Directive.measures, Directive.numbers] using hfinite e he _ hv

/-! ### Lines -/

/-- A line with a number that is not finite: it loads a drawing at a scale that makes the arena
    endless, or it asks for the label of a text that stands at no finite point. -/
def Escapes (session : Session) (line : String) : Prop :=
  (∃ args file scale, wordsOfLine line = "load-svg" :: args ∧
    Command.ofWords "load-svg" args = .ok (.loadSvg file scale) ∧
    ¬ (s.options.arenaSize * scale).isFinite) ∨
  ∃ l label rest layer e v, session.loaded = some l ∧
    wordsOfLine line = "add-labels-from-svg-layer" :: label :: rest ∧
    l.drawing.layer label = .ok layer ∧ e ∈ layer.texts ∧ e.position? l.transform = some v ∧
    ¬ (v.x.isFinite ∧ v.y.isFinite)

/-- All measures of a line are finite unless it escapes. -/
theorem isFinite_of_outcome_iff {session : Session} {line : String} {ds : List Directive}
    (htotal : s.trajectory.total < 2 ^ 32)
    (hscale : ∀ l, session.loaded = some l → l.transform.scale.abs ≤ scaleBound)
    (h : (s.step session line).outcome = .ok ds) :
    (∀ d ∈ ds, ∀ x ∈ d.measures, x.isFinite) ↔ ¬ s.Escapes session line := by
  rcases s.outcome_cases h with
    ⟨hw, rfl⟩ | ⟨keyword, args, hw, hk, rfl⟩ | ⟨args, file, scale, hw, hc, rfl⟩ |
      ⟨keyword, name, make, a, args, l, hw, hk, hl, hds⟩
  · simp [Escapes, hw]
  · have hload : keyword ≠ "load-svg" := by
      rintro rfl
      exact absurd hk (by decide)
    have hlabels : keyword ≠ "add-labels-from-svg-layer" := by
      rintro rfl
      exact absurd hk (by decide)
    simp [Escapes, hw, hload, hlabels, Directive.measures, Directive.numbers]
  · simp [Escapes, hw, hc, Directive.measures, Directive.numbers]
  · have hload : keyword ≠ "load-svg" := by
      rintro rfl
      cases hk
    -- labels are read from texts, which are not checked; all else is read from paths, which are
    by_cases hmake : ∃ label, make a = .addLabels label
    · obtain ⟨label, hlabel⟩ := hmake
      obtain ⟨rfl, rfl⟩ := (Command.drawing?_argument hk).1 a label hlabel
      rw [hlabel] at hds
      obtain ⟨layer, -, hlayer, -⟩ := s.map_position?_of_addLabels hds
      rw [s.isFinite_of_addLabels_iff hds hlayer]
      constructor
      · rintro hfinite (⟨_, _, _, hw', -⟩ | ⟨l', label', rest, layer', e, v, hl', hw', hlayer', he,
          hv, hne⟩)
        · simp [hw] at hw'
        · obtain ⟨rfl, -⟩ : label = label' ∧ args = rest := by simpa using hw.symm.trans hw'
          obtain rfl : l = l' := Option.some.inj (hl.symm.trans hl')
          obtain rfl : layer = layer' := Except.ok.inj (hlayer.symm.trans hlayer')
          exact hne (hfinite e he v hv)
      · intro hescapes e he v hv
        by_contra hne
        exact hescapes (.inr ⟨l, label, args, layer, e, v, hl, hw, hlayer, he, hv, hne⟩)
    · refine iff_of_true (s.isFinite_of_onDrawing htotal (hscale l hl) hds fun label hlabel =>
        hmake ⟨label, hlabel⟩) ?_
      rintro (⟨_, _, _, hw', -⟩ | ⟨_, label, rest, _, _, _, -, hw', -⟩)
      · exact hload (List.cons.inj (hw.symm.trans hw')).1
      · obtain rfl := (List.cons.inj (hw.symm.trans hw')).1
        obtain rfl := Command.eq_addLabels_of_drawing? hk
        exact hmake ⟨a, rfl⟩

/-- **Where numbers are finite.**  At a scale that is not extreme, a line writes a number that is
    not finite exactly if it makes the arena endless or asks for the label of a text that stands at
    no finite point; and an agent looks along a finite difference.  At greater scales the vertices
    of paths may be infinite as well. -/
theorem finite_of_outcome {session : Session} {line : String} {ds : List Directive}
    (htotal : s.trajectory.total < 2 ^ 32)
    (hscale : ∀ l, session.loaded = some l → l.transform.scale.abs ≤ scaleBound)
    (h : (s.step session line).outcome = .ok ds) :
    ((∀ d ∈ ds, ∀ x ∈ d.measures, Decimal.fixed s.options.precision x ∉ nonNumerals) ↔
      ¬ s.Escapes session line) ∧
    ∀ p heading, .placeAgent p heading ∈ ds →
      ∃ dy dx : Float, dy.isFinite ∧ dx.isFinite ∧ heading = Float.atan2 dy dx := by
  constructor
  · rw [← s.isFinite_of_outcome_iff htotal hscale h]
    simp only [fixed_mem_nonNumerals_iff, ← isFinite_iff, not_not]
  · intro p heading hmem
    rcases s.outcome_cases h with
      ⟨-, rfl⟩ | ⟨keyword, args, -, -, rfl⟩ | ⟨args, file, scale, -, -, rfl⟩ |
        ⟨keyword, name, make, a, args, l, -, -, hl, hds⟩
    · cases hmem
    · simp at hmem
    · simp at hmem
    · exact s.heading_of_onDrawing (hscale l hl) hds hmem

/-- A session that has loaded a drawing with one label, which is infinitely far to the right. -/
def distantSession : Session :=
  ⟨⟨[], []⟩, some ⟨⟨[⟨some "l", [], [⟨some "inf", some "2", some "A"⟩]⟩], []⟩, ⟨1.0⟩⟩⟩

set_option maxRecDepth 4096 in
/-- The label lies where the attribute says, at no finite place. -/
theorem outcome_distantSession :
    (plain.step distantSession "add-labels-from-svg-layer l").outcome =
      .ok [.addLabel ⟨1.0 / 0.0, -2.0⟩ "A"] := rfl

/-- Its label is written where no number is. -/
theorem escapes_of_distant_label :
    plain.trajectory.total < 2 ^ 32 ∧
      (∀ l, distantSession.loaded = some l → l.transform.scale.abs ≤ scaleBound) ∧
      (plain.step distantSession "add-labels-from-svg-layer l").outcome =
        .ok [.addLabel ⟨1.0 / 0.0, -2.0⟩ "A"] ∧
      plain.Escapes distantSession "add-labels-from-svg-layer l" := by
  have hscale : ∀ l, distantSession.loaded = some l → l.transform.scale.abs ≤ scaleBound := by
    intro l hl
    obtain rfl := Option.some.inj hl
    decide +kernel
  refine ⟨by decide, hscale, outcome_distantSession, ?_⟩
  have hiff := (plain.finite_of_outcome (by decide) hscale outcome_distantSession).1
  by_contra hescapes
  exact absurd (hiff.mpr hescapes) (by decide +kernel)

/-- A document with such a label. -/
def distantText : String :=
  "<svg xmlns=\"http://www.w3.org/2000/svg\"" ++
    " xmlns:i=\"http://www.inkscape.org/namespaces/inkscape\">" ++
  "<g i:label=\"l\"><text x=\"inf\" y=\"2\"><tspan>A</tspan></text></g></svg>"

/-- Its drawing. -/
def distantDrawing : Drawing :=
  ⟨[⟨some "l", [], [⟨some "inf", some "2", some "A"⟩]⟩], []⟩

/-- What the text is read as: there are no paths in it. -/
theorem read_distantText :
    Drawing.ofText distantText = .ok distantDrawing ∧ Drawing.idsOfText distantText = .ok [] :=
  Drawing.ofText_and_idsOfText_of_ofList (append_eq_ofList (append_eq_ofList rfl rfl) rfl)
    (by decide +kernel)

set_option maxRecDepth 4096 in
/-- With the options that are taken where none are given, its label is written at infinity. -/
theorem written_of_distant_text :
    Options.ofText "\x7b\x7d" = .ok plain.options ∧
      (plain.run (.start ⟨[(["a.svg"], .file distantText.toUTF8.toList)], []⟩) .unlimited
          [.ok "load-svg a.svg 1", .ok "add-labels-from-svg-layer l"]).1.sink.written =
        "set-arena-size 200.000000\nadd-label inf -2.000000 A\n".toUTF8 := by
  refine ⟨rfl, ?_⟩
  -- the files are kept closed, so that the lines are not compiled from the bytes in them
  obtain ⟨files, hfiles⟩ : ∃ files : Files,
      files = ⟨[(["a.svg"], .file distantText.toUTF8.toList)], []⟩ := ⟨_, rfl⟩
  rw [← hfiles]
  have htext : files.readText (Files.join plain.baseDir "a.svg") = .ok distantText := by
    rw [hfiles]
    exact Files.readText_of_read _ rfl
  have hload : plain.step (.start files) "load-svg a.svg 1" = plain.load files "a.svg" 1.0 := rfl
  have hreplies : plain.replies (.start files) ["load-svg a.svg 1", "add-labels-from-svg-layer l"] =
      [["set-arena-size 200.000000"], ["add-label inf -2.000000 A"]].map .lines := by
    rw [replies, compile, hload,
      plain.load_of_readText rfl htext read_distantText.2 read_distantText.1]
    rfl
  exact written_run_unlimited
    (show _ = ["load-svg a.svg 1", "add-labels-from-svg-layer l"].map Except.ok ++ [] from rfl)
    hreplies (.inl rfl)

end Setting

end NavScript
