import NavScript.Proofs.Session.Run
import NavScript.Proofs.Directive

namespace NavScript

open NavScript.Geometry
open NavScript.Text (IsWord SingleLine)

/-!
# What a script is compiled to, and what is read of it

A line compiles to directives, and these are single lines, unless it asks for the labels of a layer:
the texts of their spans are the only texts that get from a drawing into the output.  Where one of
them has a line feed in it, more lines are read than have been written.

* `Setting.outcome_cases` — what a line that is not refused has said
* `Setting.mem_text?_iff` — where texts come from
* `Setting.BreaksLines` — a line that asks for a label with a line break in it
* `Setting.lines_of_output` — what lines compile to, what a run writes, and what is read of that
-/

/-! ### Labels -/

/-- Elements kept by what each is read as are kept by the list. -/
theorem map_eq_map_of_mapM_eq_ok {α β γ ε : Type} {f : α → Except ε β} {before : α → γ}
    {after : β → γ} (hf : ∀ a b, f a = .ok b → before a = after b) {as : List α} {bs : List β}
    (h : as.mapM f = .ok bs) : as.map before = bs.map after := by
  have hall := mapM_eq_ok_iff.mp h
  clear h
  induction hall with
  | nil => rfl
  | cons ha _ ih => rw [List.map_cons, List.map_cons, hf _ _ ha, ih]

/-- A label has the text of a span. -/
theorem TextElement.span_of_read {e : TextElement} {t : Transform} {label : Label}
    (h : e.read t = .ok label) : e.span = some label.text := by
  unfold TextElement.read at h
  obtain ⟨x, -, h⟩ := exists_of_bind_eq_ok h
  obtain ⟨y, -, h⟩ := exists_of_bind_eq_ok h
  split at h
  · rename_i text hspan
    obtain rfl : ⟨t.apply ⟨x, y⟩, text⟩ = label := Except.ok.inj h
    exact hspan
  · cases h

/-- The labels of a layer have the texts of its spans, in order. -/
theorem Drawing.map_span_of_layerLabels {d : Drawing} {label : String} {t : Transform}
    {labels : List Label} (h : d.layerLabels label t = .ok labels) :
    ∃ layer, d.layer label = .ok layer ∧
      layer.texts.map TextElement.span = labels.map fun l => some l.text := by
  obtain ⟨layer, hlayer, h⟩ := exists_of_bind_eq_ok h
  refine ⟨layer, hlayer, map_eq_map_of_mapM_eq_ok ?_ h⟩
  intro e l hread
  cases he : e.read t with
  | error defect =>
    rw [he] at hread
    cases hread
  | ok l' =>
    rw [he] at hread
    obtain rfl : l' = l := Except.ok.inj hread
    exact TextElement.span_of_read he

/-! ### Commands on a drawing -/

/-- Only one keyword asks for labels; they are those of the layer that the argument names, as a
    fence has the name that the argument gives. -/
theorem Command.drawing?_argument {keyword name : String} {make : String → DrawingCommand}
    (h : Command.drawing? keyword = some (name, make)) :
    (∀ a label, make a = .addLabels label → keyword = "add-labels-from-svg-layer" ∧ label = a) ∧
      ∀ a id, make a = .setFence id → id = a := by
  unfold Command.drawing? at h
  split at h <;> cases h <;> simp [eq_comm]

/-- One keyword adds labels. -/
theorem Command.eq_addLabels_of_drawing? {name : String} {make : String → DrawingCommand}
    (h : Command.drawing? "add-labels-from-svg-layer" = some (name, make)) : make = .addLabels :=
  (Prod.mk.inj (Option.some.inj h)).2.symm

/-- The directives that a command on a drawing is there to give. -/
def DrawingCommand.Gives (d : Directive) : DrawingCommand → Prop
  | .setArena _ => ∃ rings, d = .arena rings
  | .addLabels _ => ∃ p text, d = .addLabel p text
  | .followTrajectory _ => ∃ p, d = .goto p
  | .samplePerimeter _ => ∃ p, d = .goto p
  | .placeAgent _ => ∃ p heading, d = .placeAgent p heading
  | .setFence id => ∃ ring, d = .fence id ring

namespace DrawingCommand

/-- The directives of a command are well worded if the name of a fence is a word. -/
theorem Gives.wellWorded {command : DrawingCommand} {d : Directive} (h : command.Gives d)
    (hid : ∀ id, command = .setFence id → IsWord id.toList) : d.WellWorded := by
  cases command with
  | setArena label =>
    obtain ⟨rings, rfl⟩ := h
    trivial
  | addLabels label =>
    obtain ⟨p, text, rfl⟩ := h
    trivial
  | followTrajectory id =>
    obtain ⟨p, rfl⟩ := h
    trivial
  | samplePerimeter id =>
    obtain ⟨p, rfl⟩ := h
    trivial
  | placeAgent id =>
    obtain ⟨p, heading, rfl⟩ := h
    trivial
  | setFence id =>
    obtain ⟨ring, rfl⟩ := h
    exact hid id rfl

/-- Only labels have a text from the drawing. -/
theorem Gives.text?_eq_none {command : DrawingCommand} {d : Directive} (h : command.Gives d)
    (hlabels : ∀ label, command ≠ .addLabels label) : d.text? = none := by
  cases command with
  | setArena label =>
    obtain ⟨rings, rfl⟩ := h
    rfl
  | addLabels label => exact absurd rfl (hlabels label)
  | followTrajectory id =>
    obtain ⟨p, rfl⟩ := h
    rfl
  | samplePerimeter id =>
    obtain ⟨p, rfl⟩ := h
    rfl
  | placeAgent id =>
    obtain ⟨p, heading, rfl⟩ := h
    rfl
  | setFence id =>
    obtain ⟨ring, rfl⟩ := h
    rfl

end DrawingCommand

namespace Setting

variable (s : Setting)

/-- A command on a drawing gives its own directives only. -/
theorem gives_of_onDrawing {l : Loaded} {command : DrawingCommand} {ds : List Directive}
    (h : s.onDrawing l command = .ok ds) : ∀ d ∈ ds, command.Gives d := by
  cases command with
  | setArena label =>
    obtain ⟨paths, -, rfl⟩ := s.onDrawing_cases h
    simp [DrawingCommand.Gives]
  | addLabels label =>
    obtain ⟨labels, -, rfl⟩ := s.onDrawing_cases h
    simp [DrawingCommand.Gives]
  | followTrajectory id =>
    obtain ⟨path, -, rfl⟩ := s.onDrawing_cases h
    simp [DrawingCommand.Gives]
  | samplePerimeter id =>
    obtain ⟨path, -, rfl⟩ := s.onDrawing_cases h
    simp [DrawingCommand.Gives]
  | placeAgent id =>
    obtain ⟨path, angle, -, -, rfl⟩ := s.onDrawing_cases h
    simp [DrawingCommand.Gives]
  | setFence id =>
    obtain ⟨path, -, rfl⟩ := s.onDrawing_cases h
    simp [DrawingCommand.Gives]

/-- The labels of a layer have the texts of its spans, in order. -/
theorem map_text?_of_addLabels {l : Loaded} {label : String} {ds : List Directive}
    (h : s.onDrawing l (.addLabels label) = .ok ds) :
    ∃ layer, l.drawing.layer label = .ok layer ∧
      layer.texts.map TextElement.span = ds.map Directive.text? := by
  obtain ⟨labels, hlabels, rfl⟩ := s.onDrawing_cases h
  obtain ⟨layer, hlayer, hspans⟩ := Drawing.map_span_of_layerLabels hlabels
  refine ⟨layer, hlayer, ?_⟩
  rw [hspans, List.map_map]
  rfl

/-! ### What lines say -/

/-- What a line that is not refused has said. -/
theorem outcome_cases {session : Session} {line : String} {ds : List Directive}
    (h : (s.step session line).outcome = .ok ds) :
    (wordsOfLine line = [] ∧ ds = []) ∨
    (∃ keyword args, wordsOfLine line = keyword :: args ∧ keyword ∈ Command.simulatorKeywords ∧
      ds = [.handedOn (keyword :: args)]) ∨
    (∃ args file scale, wordsOfLine line = "load-svg" :: args ∧
      Command.ofWords "load-svg" args = .ok (.loadSvg file scale) ∧
      ds = [.arenaSize (s.options.arenaSize * scale)]) ∨
    ∃ keyword name make a args l, wordsOfLine line = keyword :: a :: args ∧
      Command.drawing? keyword = some (name, make) ∧ session.loaded = some l ∧
      s.onDrawing l (make a) = .ok ds := by
  unfold step at h
  cases hw : wordsOfLine line with
  | nil =>
    rw [hw] at h
    exact .inl ⟨rfl, (Except.ok.inj h).symm⟩
  | cons keyword args =>
    rw [hw, stepWords] at h
    cases hc : Command.ofWords keyword args with
    | error e => simp [hc, Step.keeping] at h
    | ok command =>
      simp only [hc] at h
      rcases Command.ofWords_cases hc with
        ⟨hk, rfl⟩ | ⟨rfl, file, scale, rfl⟩ | ⟨name, make, a, rest, hk, rfl, rfl⟩
      · exact .inr (.inl ⟨keyword, args, rfl, hk, (Except.ok.inj h).symm⟩)
      · refine .inr (.inr (.inl ⟨args, file, scale, rfl, hc, ?_⟩))
        cases hl : session.loaded with
        | some l => simp [perform, hl, Step.keeping] at h
        | none =>
          simp only [perform, hl] at h
          rcases s.load_cases session.files file scale with
            ⟨e, hs⟩ | ⟨r, e, -, hs⟩ | ⟨r, l, -, -, hs⟩
          · simp [hs, Step.keeping] at h
          · simp [hs] at h
          · rw [hs] at h
            exact (Except.ok.inj h).symm
      · refine .inr (.inr (.inr ⟨keyword, name, make, a, rest, ?_⟩))
        cases hl : session.loaded with
        | none => simp [perform, hl, Step.keeping] at h
        | some l =>
          simp only [perform, hl] at h
          exact ⟨l, rfl, hk, rfl, h⟩

/-- The words of a line are words. -/
theorem isWord_of_mem_wordsOfLine {line word : String} (h : word ∈ wordsOfLine line) :
    IsWord word.toList := by
  unfold wordsOfLine at h
  split at h
  · cases h
  · obtain ⟨w, hw, rfl⟩ := List.mem_map.mp h
    simpa using Text.isWord_of_mem_words hw

/-- What a line comes to is words where words are asked for. -/
theorem wellWorded_of_outcome {session : Session} {line : String} {ds : List Directive}
    (h : (s.step session line).outcome = .ok ds) : ∀ d ∈ ds, d.WellWorded := by
  have hwords : ∀ w ∈ wordsOfLine line, IsWord w.toList := fun _ hw => isWord_of_mem_wordsOfLine hw
  intro d hd
  rcases s.outcome_cases h with
    ⟨-, rfl⟩ | ⟨keyword, args, hw, hk, rfl⟩ | ⟨args, file, scale, -, -, rfl⟩ |
      ⟨keyword, name, make, a, args, l, hw, hk, -, hds⟩
  · cases hd
  · rw [List.mem_singleton.mp hd]
    exact ⟨fun w hmem => hwords w (hw ▸ hmem), keyword, hk, rfl⟩
  · rw [List.mem_singleton.mp hd]
    trivial
  · refine (s.gives_of_onDrawing hds d hd).wellWorded fun id hid => ?_
    rw [(Command.drawing?_argument hk).2 a id hid]
    exact hwords a (by simp [hw])

/-- The texts that a line has from a drawing: it asks for the labels of a layer, and they are the
    texts of its spans. -/
theorem mem_text?_iff {session : Session} {line : String} {ds : List Directive}
    (h : (s.step session line).outcome = .ok ds) (text : String) :
    (∃ d ∈ ds, d.text? = some text) ↔
      ∃ l label rest layer e, session.loaded = some l ∧
        wordsOfLine line = "add-labels-from-svg-layer" :: label :: rest ∧
        l.drawing.layer label = .ok layer ∧ e ∈ layer.texts ∧ e.span = some text := by
  rcases s.outcome_cases h with
    ⟨hw, rfl⟩ | ⟨keyword, args, hw, hk, rfl⟩ | ⟨args, file, scale, hw, -, rfl⟩ |
      ⟨keyword, name, make, a, args, l, hw, hk, hl, hds⟩
  · simp [hw]
  · have hne : keyword ≠ "add-labels-from-svg-layer" := by
      rintro rfl
      exact absurd hk (by decide)
    simp [hw, hne, Directive.text?]
  · simp [hw, Directive.text?]
  · constructor
    · rintro ⟨d, hd, htext⟩
      -- no other command has a text from the drawing, and no other keyword gives this command
      by_cases hmake : ∃ label, make a = .addLabels label
      · obtain ⟨label, hlabel⟩ := hmake
        obtain ⟨rfl, rfl⟩ := (Command.drawing?_argument hk).1 a label hlabel
        rw [hlabel] at hds
        obtain ⟨layer, hlayer, hspans⟩ := s.map_text?_of_addLabels hds
        obtain ⟨e, he, hspan⟩ := List.mem_map.mp (hspans ▸ List.mem_map_of_mem hd)
        exact ⟨l, label, args, layer, e, hl, hw, hlayer, he, hspan.trans htext⟩
      · have hgives := s.gives_of_onDrawing hds d hd
        rw [hgives.text?_eq_none fun label hlabel => hmake ⟨label, hlabel⟩] at htext
        cases htext
    · rintro ⟨l', label, rest, layer, e, hl', hw', hlayer, he, hspan⟩
      obtain ⟨rfl, rfl, rfl⟩ : keyword = "add-labels-from-svg-layer" ∧ a = label ∧ args = rest := by
        simpa using hw.symm.trans hw'
      obtain rfl : l = l' := Option.some.inj (hl.symm.trans hl')
      obtain rfl := Command.eq_addLabels_of_drawing? hk
      obtain ⟨layer', hlayer', hspans⟩ := s.map_text?_of_addLabels hds
      obtain rfl : layer = layer' := Except.ok.inj (hlayer.symm.trans hlayer')
      -- the line has not been refused, so every span of the layer has become a label
      obtain ⟨d, hd, htext⟩ := List.mem_map.mp (hspans ▸ List.mem_map_of_mem he)
      exact ⟨d, hd, htext.trans hspan⟩

/-! ### Line breaks -/

/-- A line that asks for labels, one of which has a line break in its text. -/
def BreaksLines (session : Session) (line : String) : Prop :=
  ∃ l label rest layer e text, session.loaded = some l ∧
    wordsOfLine line = "add-labels-from-svg-layer" :: label :: rest ∧
    l.drawing.layer label = .ok layer ∧ e ∈ layer.texts ∧ e.span = some text ∧ ¬ SingleLine text

/-- What a line compiles to begins with a command each time, and is one line each time unless the
    line asks for a label with a line break. -/
theorem compile_lines {session : Session} {line : String} {outs : List String}
    (h : (s.compile session line).1 = .lines outs) :
    (∀ out ∈ outs, ∃ w ∈ simulatorWords, (Text.wordsOf out).head? = some w) ∧
      ((∀ out ∈ outs, SingleLine out) ↔ ¬ BreaksLines session line) := by
  obtain ⟨ds, hds, rfl⟩ := Step.exists_of_compiled_eq_lines h
  have hworded := s.wellWorded_of_outcome hds
  refine ⟨?_, ?_⟩
  · rw [List.forall_mem_map]
    exact fun d hd => Directive.head?_wordsOf_render (hworded d hd) _
  · rw [List.forall_mem_map]
    constructor
    · rintro hsingle ⟨l, label, rest, layer, e, text, hl, hw, hlayer, he, hspan, hbreak⟩
      obtain ⟨d, hd, htext⟩ :=
        (s.mem_text?_iff hds text).mpr ⟨l, label, rest, layer, e, hl, hw, hlayer, he, hspan⟩
      have hrender := (Directive.singleLine_render_iff (hworded d hd) _).mp (hsingle d hd)
      exact hbreak (hrender text htext)
    · intro hbreaks d hd
      refine (Directive.singleLine_render_iff (hworded d hd) _).mpr fun text htext => ?_
      by_cases hsingle : SingleLine text
      · exact hsingle
      · obtain ⟨l, label, rest, layer, e, hl, hw, hlayer, he, hspan⟩ :=
          (s.mem_text?_iff hds text).mp ⟨d, hd, htext⟩
        exact absurd ⟨l, label, rest, layer, e, text, hl, hw, hlayer, he, hspan, hsingle⟩ hbreaks

end Setting

/-! ### Texts of output -/

/-- The bytes of lines, each with a line feed. -/
theorem encode_outputText (lines : List String) :
    Text.Utf8.encode (outputText lines) =
      lines.flatMap fun line => Text.Utf8.encode line ++ [10] := by
  induction lines with
  | nil => exact Text.encode_eq_flatMap ""
  | cons line rest ih =>
    have hfeed : Text.Utf8.encode "\n" = [10] := Text.encode_eq_flatMap "\n"
    rw [outputText_cons, Text.encode_append, Text.encode_append, hfeed, List.flatMap_cons, ih]

/-- Strings written are read again if each is a line. -/
theorem lines_outputText_eq_iff (outs : List String) :
    Text.lines (outputText outs).toUTF8.toList = outs.map Text.Utf8.encode ↔
      ∀ out ∈ outs, '\n' ∉ out.toList ∧ out.toList.getLast? ≠ some '\r' := by
  have hbytes : (outputText outs).toUTF8.toList =
      outs.flatMap fun line => Text.Utf8.encode line ++ [10] := encode_outputText outs
  rw [hbytes, Text.lines_encode_eq_iff]

namespace Setting

variable (s : Setting)

/-! ### Runs -/

/-- What has been written of the lines that compile is theirs, and behind them nothing is
    written. -/
theorem exists_written_run (session : Session) (script : List ScriptLine) :
    ∃ (before : List String) (outs : List (List String)) (rest : List ScriptLine),
      script = before.map .ok ++ rest ∧ s.replies session before = outs.map .lines ∧
      (s.run session .unlimited script).1.sink.written = (outputText outs.flatten).toUTF8 := by
  obtain ⟨before, outs, rest, hscript, hreplies, hstops⟩ := s.exists_compiled_prefix session script
  exact ⟨before, outs, rest, hscript, hreplies, written_run_unlimited hscript hreplies hstops⟩

/-- Where no line asks for a label with a line break, all that lines compile to is single lines. -/
theorem singleLine_of_replies {session : Session} {before : List String} {outs : List (List String)}
    (h : s.replies session before = outs.map .lines)
    (hbreaks : ∀ k line, before[k]? = some line →
      ¬ BreaksLines (s.leave session (before.take k)) line) :
    ∀ out ∈ outs.flatten, SingleLine out := by
  intro out hout
  obtain ⟨batch, hbatch, hmem⟩ := List.mem_flatten.mp hout
  obtain ⟨k, hk, rfl⟩ := List.mem_iff_getElem.mp hbatch
  have hlength : before.length = outs.length := by
    simpa using congrArg List.length h
  have hk' : k < before.length := by omega
  have hcompile : (s.compile (s.leave session (before.take k)) before[k]).1 = .lines outs[k] := by
    have hreply := s.getElem?_replies session before hk'
    rw [h, List.getElem?_map, List.getElem?_eq_getElem hk] at hreply
    exact (Option.some.inj hreply).symm
  have hline := hbreaks k before[k] (List.getElem?_eq_getElem hk')
  exact (s.compile_lines hcompile).2.mpr hline out hmem

/-- **What is written and what is read.**  Each string that a script line compiles to begins with a
    command of the simulator, and all of them are single lines exactly if the line does not ask for
    a label with a line break in its text.  What a run writes is read as the strings that its lines
    have compiled to exactly if none of these has a line feed in it or a carriage return at its end,
    which is so where no line asks for such a label. -/
theorem lines_of_output :
    (∀ session line outs, (s.compile session line).1 = .lines outs →
      (∀ out ∈ outs, ∃ w ∈ simulatorWords, (Text.wordsOf out).head? = some w) ∧
      ((∀ out ∈ outs, SingleLine out) ↔ ¬ BreaksLines session line)) ∧
    ∀ (session : Session) (bytes : List UInt8),
      ∃ (before : List String) (outs : List (List String)) (rest : List ScriptLine),
        scriptLines bytes = before.map .ok ++ rest ∧
        s.replies session before = outs.map .lines ∧
        let written := (s.run session .unlimited (scriptLines bytes)).1.sink.written
        written = (outputText outs.flatten).toUTF8 ∧
        (Text.lines written.toList = outs.flatten.map Text.Utf8.encode ↔
          ∀ out ∈ outs.flatten, '\n' ∉ out.toList ∧ out.toList.getLast? ≠ some '\r') ∧
        ((∀ k line, before[k]? = some line →
            ¬ BreaksLines (s.leave session (before.take k)) line) →
          Text.lines written.toList = outs.flatten.map Text.Utf8.encode) := by
  refine ⟨fun session line outs h => s.compile_lines h, fun session bytes => ?_⟩
  obtain ⟨before, outs, rest, hscript, hreplies, hwritten⟩ :=
    s.exists_written_run session (scriptLines bytes)
  refine ⟨before, outs, rest, hscript, hreplies, hwritten, ?_, ?_⟩
  · rw [hwritten, lines_outputText_eq_iff]
  · intro hbreaks
    rw [hwritten, lines_outputText_eq_iff]
    intro out hout
    obtain ⟨hfeed, hreturn⟩ := s.singleLine_of_replies hreplies hbreaks out hout
    exact ⟨hfeed, fun hlast => hreturn (List.mem_of_getLast? hlast)⟩

/-- A drawing with one label, which is of two lines. -/
def twoLineLabel : Drawing :=
  ⟨[⟨some "l", [], [⟨some "1", some "2", some "A\ngoto 9 9"⟩]⟩], []⟩

/-- A session that has loaded it. -/
def twoLineSession : Session :=
  ⟨⟨[], []⟩, some ⟨twoLineLabel, ⟨1.0⟩⟩⟩

set_option maxRecDepth 4096 in
/-- The one line that a label with a line feed in it compiles to. -/
theorem compile_twoLineSession :
    (plain.compile twoLineSession "add-labels-from-svg-layer l").1 =
      .lines ["add-label 1.000000 -2.000000 A\ngoto 9 9"] := rfl

/-- Its label breaks the line. -/
theorem breaksLines_of_two_lines :
    (plain.compile twoLineSession "add-labels-from-svg-layer l").1 =
        .lines ["add-label 1.000000 -2.000000 A\ngoto 9 9"] ∧
      BreaksLines twoLineSession "add-labels-from-svg-layer l" := by
  refine ⟨compile_twoLineSession, ?_⟩
  have hiff := (plain.lines_of_output.1 _ _ _ compile_twoLineSession).2
  by_cases hbreaks : BreaksLines twoLineSession "add-labels-from-svg-layer l"
  · exact hbreaks
  · have hsingle := hiff.mpr hbreaks _ (List.mem_singleton_self _)
    exact absurd hsingle (by decide)

set_option maxRecDepth 4096 in
/-- A document can have such a label, and its second line is a command of its own for whoever reads
    the output. -/
theorem lines_of_two_line_label :
    Drawing.ofText
        "<svg xmlns=\"http://www.w3.org/2000/svg\"
          xmlns:i=\"http://www.inkscape.org/namespaces/inkscape\">
          <g i:label=\"l\"><text x=\"1\" y=\"2\"><tspan>A\ngoto 9 9</tspan></text></g></svg>" =
      .ok twoLineLabel ∧
      (plain.compile twoLineSession "add-labels-from-svg-layer l").1 =
        .lines ["add-label 1.000000 -2.000000 A\ngoto 9 9"] ∧
      ¬ SingleLine "add-label 1.000000 -2.000000 A\ngoto 9 9" ∧
      Text.lines (outputText ["add-label 1.000000 -2.000000 A\ngoto 9 9"]).toUTF8.toList =
        ["add-label 1.000000 -2.000000 A", "goto 9 9"].map Text.Utf8.encode := by
  refine ⟨Drawing.document_map_of_ofList rfl (by decide +kernel), compile_twoLineSession,
    by decide, ?_⟩
  · have houtput : outputText ["add-label 1.000000 -2.000000 A\ngoto 9 9"] =
        outputText ["add-label 1.000000 -2.000000 A", "goto 9 9"] := rfl
    rw [houtput, lines_outputText_eq_iff]
    decide

end Setting

end NavScript
