import NavScript.CommandLine.Outcome
import NavScript.Proofs.Buffer
import NavScript.Proofs.StandardInput

namespace NavScript

/-!
# The program and the runs behind it

A conversion writes what its script's run writes, and its status and reports tell how that run has
ended.  The script can stand in a file or come from the standard input: as long as nothing else is
read from there, the two come to the same.

* `Setting.EndsAt`, `Setting.exists_ending` — how a run with few places ends
* `CommandLine.Failure.causes_atLine` — what an error at a line is traced back to
* `CommandLine.convert_eq` — a conversion by its run
* `CommandLine.convert_bare_eq` — the same script by name and from the standard input
* `CommandLine.outcome_of_convert` — what becomes of a conversion
-/

namespace Setting

variable (s : Setting)

/-- How a run ends after so many lines, in the session that these leave and in front of the rest of
    the script: nothing is left, or the next line cannot be read or is refused. -/
def EndsAt (session : Session) (n : Nat) (rest : List ScriptLine) : Ending → Prop
  | .done => rest = []
  | .stopped e =>
    (∃ obstacle behind, rest = .error obstacle :: behind ∧
      e = ⟨n + 1, none, .io .readingScript obstacle⟩) ∨
    ∃ line behind error, rest = .ok line :: behind ∧
      (s.compile session line).1 = .refused error ∧ e = ⟨n + 1, commandName line, error⟩
  | .unwritable => False

/-- A run with few places, into a sink that takes everything, writes what its lines compile to up to
    the one that it ends at. -/
theorem exists_ending (hp : s.options.precision ≤ Decimal.placesLimit) (session : Session)
    (script : List ScriptLine) :
    ∃ (before : List String) (outs : List (List String)) (rest : List ScriptLine),
      script = before.map .ok ++ rest ∧
      s.replies session before = outs.map .lines ∧
      (s.run session .unlimited script).1.sink.written = (outputText outs.flatten).toUTF8 ∧
      s.EndsAt (s.leave session before) before.length rest (s.run session .unlimited script).2 := by
  obtain ⟨before, outs, rest, hscript, hreplies, hstops⟩ := s.exists_compiled_prefix session script
  refine ⟨before, outs, rest, hscript, hreplies, written_run_unlimited hscript hreplies hstops, ?_⟩
  rw [run_unlimited_eq hscript hreplies]
  rcases hstops with rfl | ⟨obstacle, behind, rfl⟩ | ⟨line, behind, rfl, hne⟩
  · rfl
  · exact .inl ⟨obstacle, behind, rfl, by simp [progress]⟩
  · cases he : (s.compile (s.leave session before) line).1 with
    | lines out => exact absurd he (hne out)
    | refused e =>
      rw [s.runFrom_cons_of_refused he]
      exact .inr ⟨line, behind, e, rfl, he, by simp [progress]⟩
    | unwritable => exact absurd he (Step.compiled_ne_unwritable hp _)

end Setting

namespace CommandLine

/-! ### Causes -/

namespace Failure

/-- A failure is traced back step by step. -/
theorem causes_eq (wording : Wording) (f : Failure) :
    f.causes wording =
      match f.source wording with
      | none => []
      | some cause => cause.message :: cause.causes wording := by
  rw [causes]
  split <;> simp_all

/-- Behind an error is what the system or a reader has to say, and nothing is behind that. -/
theorem causes_error (wording : Wording) (e : Error) :
    (error e).causes wording = (underlying wording e).toList := by
  rw [causes_eq, source]
  cases underlying wording e with
  | none => rfl
  | some text =>
    have hlast : (remark text).causes wording = [] := by rw [causes_eq, source]
    simp [message, hlast]

/-- Behind an error at a line is the error itself. -/
theorem causes_atLine (wording : Wording) (e : ScriptError) :
    (atLine e).causes wording = e.error.message :: (underlying wording e.error).toList := by
  rw [← causes_error, causes_eq]
  rfl

end Failure

/-! ### A script called `-` -/

/-- A hyphen stands for the standard input. -/
theorem isStandardInput_hyphen : isStandardInput "-" = true := by
  simp [isStandardInput, Files.trimEnd]

/-- Drawings are then seen from the working directory. -/
theorem baseDir_hyphen : baseDir "-" = "" := by
  rw [baseDir, if_pos isStandardInput_hyphen]

/-- The script is what the standard input holds. -/
theorem openScript_hyphen (files : Files) (input : StandardInput) :
    openScript files input "-" = .ok (scriptLines input.stream.script) := by
  rw [openScript, if_pos isStandardInput_hyphen]

/-- Behind it the standard input has been read. -/
theorem behindScript_hyphen (input : StandardInput) :
    behindScript input "-" = input.readAsScript := by
  rw [behindScript, isStandardInput_hyphen, Bool.true_or, if_pos rfl]

/-- Whatever the script is, the names of the standard input stay. -/
theorem exists_behindScript_eq (input : StandardInput) (script : String) :
    ∃ stream, behindScript input script = input.withStream stream := by
  rw [behindScript]
  split
  · exact ⟨input.stream.besideScript, rfl⟩
  · exact ⟨input.stream, rfl⟩

/-! ### Names without a directory -/

section Bare

variable {name : String} (h : '/' ∉ name.toList) (hne : name ≠ "-")

include h hne

/-- A bare name is not one of those of the standard input. -/
theorem isStandardInput_of_bare : isStandardInput name = false := by
  have hnone : '/' ∉ name.toList.reverse := by simpa using h
  rw [isStandardInput, Files.trimEnd_of_notMem hnone]
  refine beq_eq_false_iff_ne.mpr fun heq => hne ?_
  rw [← String.toList_inj, List.reverse_eq_iff.mp heq]
  rfl

/-- Drawings are seen from the working directory behind a bare name, too. -/
theorem baseDir_of_bare : baseDir name = "" := by
  simp [baseDir, isStandardInput_of_bare h hne, Files.parent_of_bare h]

/-- A script under such a name leaves the standard input alone, unless the name leads there. -/
theorem behindScript_of_bare {input : StandardInput} (hplace : Files.placeOf name ∉ input.places) :
    behindScript input name = input := by
  rw [behindScript, isStandardInput_of_bare h hne, Bool.false_or, input.isAt_of_notMem hplace]
  rfl

end Bare

/-! ### Conversions -/

/-- What a run has written is the output, however it ends. -/
theorem output_ofRun (wording : Wording) (output : ByteArray) (ending : Ending) :
    (Outcome.ofRun wording output ending).output = output := by
  cases ending with
  | done => rfl
  | unwritable => rfl
  | stopped e =>
    rw [Outcome.ofRun]
    split <;> rfl

section Convert

variable (wording : Wording) {files : Files} {programs : Programs} {input : StandardInput}
  {args : Arguments}

/-- The options of a conversion: those of its file, or else the defaults, with the flattener of the
    arguments, if they name one. -/
theorem options_eq_ok {base : Options}
    (h : args.config = none ∧ base = {} ∨
      ∃ name, args.config = some name ∧ optionsOfFile files name = .ok base) :
    options files args =
      .ok { base with flattener := args.flattener.getD base.flattener } := by
  rw [options]
  rcases h with ⟨hnone, rfl⟩ | ⟨name, hsome, hbase⟩
  · rw [hnone]
    rfl
  · rw [hsome]
    simp only [hbase]
    rfl

/-- Options in another file do not depend on what the standard input holds. -/
theorem options_withStream (files : Files) (stream : Stream) (script : String)
    (h : ∀ name, args.config = some name → Files.placeOf name ∉ input.places) :
    options ((input.withStream stream).among files) { args with script } =
      options (input.among files) args := by
  rw [options, options, StandardInput.among_withStream]
  cases hconfig : args.config with
  | none => rfl
  | some name => simp only [optionsOfFile, Files.readText_fill _ _ _ (h name hconfig)]

/-- Reading options in another file takes nothing from the standard input. -/
theorem behindOptions_eq (h : ∀ name, args.config = some name → Files.placeOf name ∉ input.places) :
    behindOptions input args = input := by
  rw [behindOptions]
  cases hconfig : args.config with
  | none => rfl
  | some name => exact input.readAt_of_notMem (h name hconfig)

/-- **A conversion by its run.**  The buffer does not show: what has been handed on in the end is
    what a sink that takes everything gets from the run, and the run ends in the same way. -/
theorem convert_eq {o : Options} {script : List ScriptLine}
    (ho : options (input.among files) args = .ok o)
    (hscript : openScript files (behindOptions input args) args.script = .ok script) :
    let left := behindScript (behindOptions input args) args.script
    let run := (settingOf programs left args o).run (.start (left.among files)) .unlimited script
    convert wording files programs input args = .ofRun wording run.1.sink.written run.2 := by
  intro left run
  obtain ⟨houtput, hending⟩ :=
    output_runInto (settingOf programs left args o) (.start (left.among files)) script
  rw [convert]
  simp only [ho, hscript]
  exact congrArg₂ (Outcome.ofRun wording) houtput hending

/-- **The same script by name and from the standard input**: the outcome is the same, if nothing but
    the script is read from there. -/
theorem convert_bare_eq {bytes : List UInt8} {stream : Stream} (hbytes : stream.script = bytes)
    (hbare : '/' ∉ args.script.toList) (hne : args.script ≠ "-")
    (hopen : openScript files input args.script = .ok (scriptLines bytes))
    (hconfig : ∀ name, args.config = some name → Files.placeOf name ∉ input.places)
    (hlines : ∀ line, .ok line ∈ scriptLines bytes → ∀ file scale, AsksToLoad line file scale →
      Files.placeOf file ∉ input.places)
    (hprograms : args.noFlatten = true ∨ programs.Disregard input.sharedPlaces) :
    convert wording files programs input args =
      convert wording files programs (input.withStream stream) { args with script := "-" } := by
  have hoptions := options_withStream files stream "-" hconfig
  cases ho : options (input.among files) args with
  | error e =>
    rw [ho] at hoptions
    simp only [convert, ho, hoptions]
  | ok o =>
    rw [ho] at hoptions
    have hbehind := behindOptions_eq hconfig
    have hbehind' : behindOptions (input.withStream stream) { args with script := "-" } =
        input.withStream stream := behindOptions_eq hconfig
    have hopen' : openScript files (input.withStream stream) "-" = .ok (scriptLines bytes) := by
      rw [openScript_hyphen, ← hbytes]
      rfl
    rw [convert_eq wording ho (hbehind ▸ hopen), convert_eq wording hoptions (hbehind' ▸ hopen'),
      hbehind, hbehind', behindScript_hyphen]
    -- the names of the standard input are the same, whoever has read the script from it
    obtain ⟨stream₀, hleft⟩ := exists_behindScript_eq input args.script
    have hleft' : (input.withStream stream).readAsScript =
      input.withStream stream.besideScript := rfl
    rw [hleft, hleft']
    have hsession : Session.start ((input.withStream stream.besideScript).among files) =
        (Session.start ((input.withStream stream₀).among files)).mapFiles
          (·.fill input.places stream.besideScript.contents) :=
      congrArg Session.start
        ((input.withStream stream₀).among_withStream stream.besideScript files)
    have hflatteners : Flattener.AgreeOn input.places stream.besideScript.contents
        (settingOf programs (input.withStream stream₀) args o).flattener
        (flattener programs (input.withStream stream.besideScript) args o) :=
      (input.withStream stream₀).agreeOn_flattening args.noFlatten hprograms stream.besideScript
        o.flattener o.flattenerArgs
    -- both scripts name their drawings from the working directory
    have hdir : baseDir args.script = "" := baseDir_of_bare hbare hne
    have hsetting : settingOf programs (input.withStream stream.besideScript)
          { args with script := "-" } o =
        (settingOf programs (input.withStream stream₀) args o).withFlattener
          (flattener programs (input.withStream stream.besideScript) args o) := by
      rw [settingOf, settingOf, Setting.withFlattener, hdir, baseDir_hyphen]
      rfl
    have hscript : ∀ line, .ok line ∈ scriptLines bytes → ∀ file scale, AsksToLoad line file scale →
        Files.placeOf (Files.join (baseDir args.script) file) ∉ input.places := by
      intro line hline file scale hasks
      have hjoin : Files.join "" file = file := by simp [Files.join]
      rw [hdir, hjoin]
      exact hlines line hline file scale hasks
    have hrun := Setting.run_fill (s := settingOf programs (input.withStream stream₀) args o)
      hflatteners hscript (.start ((input.withStream stream₀).among files)) .unlimited
    rw [hsetting, hsession, hrun]
    rfl

end Convert

/-! ### Invocations -/

/-- The text "<svg/>". -/
def emptySvg : List UInt8 := [60, 115, 118, 103, 47, 62]

/-- A script that loads a drawing and goes on with a line that is refused: "load-svg a.svg 1" and
    "bogus". -/
def shortScript : List UInt8 :=
  [108, 111, 97, 100, 45, 115, 118, 103, 32, 97, 46, 115, 118, 103, 32, 49, 10,
    98, 111, 103, 117, 115, 10]

/-- The script with its drawing. -/
def shortFiles : Files := ⟨[(["a"], .file shortScript), (["a.svg"], .file emptySvg)], []⟩

/-- Its two lines. -/
theorem scriptLines_shortScript :
    scriptLines shortScript = [.ok "load-svg a.svg 1", .ok "bogus"] := rfl

/-- A script that loads its drawing from the standard input: "load-svg /dev/stdin 1". -/
def inputScript : List UInt8 :=
  [108, 111, 97, 100, 45, 115, 118, 103, 32, 47, 100, 101, 118, 47, 115, 116, 100, 105, 110, 32,
    49, 10]

/-- The script alone. -/
def inputFiles : Files := ⟨[(["a"], .file inputScript)], []⟩

end CommandLine

end NavScript
