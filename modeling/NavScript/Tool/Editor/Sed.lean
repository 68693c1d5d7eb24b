import NavScript.Tool.Editor.Editing

namespace NavScript.Tool.Editor

/-!
# The stream editor

* `sed` — the tool
-/

/-- The options of the editor. -/
def options : Options :=
  { Options.make "bsnrzuEe:f:l:V:"
      [("quiet", 'n', .none), ("silent", 'n', .none), ("expression", 'e', .required),
        ("file", 'f', .required), ("in-place", 'i', .optional), ("line-length", 'l', .required),
        ("regexp-extended", 'r', .none), ("separate", 's', .none), ("unbuffered", 'u', .none),
        ("null-data", 'z', .none)] with
    letters := ('i', .optional) :: (Options.make "bsnrzuEe:f:l:" []).letters }

/-- A part of a script, and the words by which complaints name it; a part of a file is named by its
    line. -/
structure Source where
  text : String
  name : String
  isFile : Bool

/-- The complaint about a fault in a script of several parts. -/
def complaintOf (sources : List Source) (f : Fault) : String :=
  let rec place (position : Nat) : List Source → String
    | [] => ""
    | [s] => own s position
    | s :: rest =>
      if position ≤ s.text.length then own s position else place (position - s.text.length - 1) rest
  if f.position = 0 then
    match sources.getLast? with
    | some s => s!"sed: {s.name}{own0 s}: {f.message}\n"
    | none => ""
  else s!"sed: {place f.position sources}: {f.message}\n"
where
  own0 (s : Source) : String := if s.isFile then " line 0" else ", char 0"
  own (s : Source) (position : Nat) : String :=
    if s.isFile then
      let lines := ((s.text.toList.take (position - 1)).filter (· == '\n')).length + 1
      s!"{s.name} line {lines}"
    else s!"{s.name}, char {position}"

/-- The parts of a script that options give, or the obstacle in the way of one. -/
def sourcesOf (items : List Item) : Work (Except (String × Obstacle) (List Source)) := do
  let mut sources : List Source := []
  let mut count := 0
  for item in items do
    match item with
    | .option 'e' (some text) =>
      count := count + 1
      sources := sources ++ [⟨text, s!"-e expression #{count}", false⟩]
    | .option 'f' (some name) =>
      match ← Work.contents name with
      | .ok text =>
        let body := if text.endsWith "\n" then String.ofList text.toList.dropLast else text
        sources := sources ++ [⟨body, s!"file {name}", true⟩]
      | .error o => return .error (name, o)
    | _ => Pure.pure ()
  return .ok sources

/-- The complaint about a file that cannot be read, and the status for it; the second says that
    nothing more can be done. -/
def unreadableFile (name : String) (o : Obstacle) : String :=
  match o with
  | .isADirectory => s!"sed: read error on {name}: Is a directory\n"
  | o => s!"sed: can't read {name}: {o.words}\n"

/-- The files that can be read, each of which is complained about otherwise. -/
def readable (names : List String) : Work (List (String × String)) := do
  let mut files : List (String × String) := []
  for name in names do
    match ← Work.contents name with
    | .ok text => files := files ++ [(name, text)]
    | .error o =>
      Work.complain (unreadableFile name o)
      Work.setStatus (if o == .isADirectory then 4 else 2)
  return files

/-- The files that a script writes, which are empty at first. -/
def writtenFiles (script : Script) : List (String × String) :=
  let names := script.instructions.toList.filterMap fun i =>
    match i.action with
    | .writeFile name _ => some name
    | .substitute s => s.file
    | _ => none
  (names.filter fun name => name != "/dev/stdout" && name != "/dev/stderr").map (·, "")

/-- A text edited, with the files that the script reads and writes on the way. -/
def edit (script : Script) (quiet : Bool) (separator : Char) (width : Nat) (lines : List Line) :
    Work String := do
  let job ← get
  let read (name : String) : Option String :=
    ((job.result.files.read (Files.join (Text.Narrow.toText job.call.directory)
      (Text.Narrow.toText name))).toOption).map Text.Narrow.ofBytes
  let edited := script.run quiet separator width read (writtenFiles script) lines
  for (name, text) in edited.files do
    if let .error o ← Work.write name text then
      Work.fail 4 s!"sed: couldn't open file {name}: {o.words}\n"
  for complaint in edited.complaints do Work.complain complaint
  if edited.status != 0 then Work.setStatus edited.status
  return edited.output

/-- A file edited in its place. -/
def editInPlace (script : Script) (quiet : Bool) (separator : Char) (width : Nat)
    (suffix : Option String) (file : String × String) : Work Unit := do
  let text ← edit script quiet separator width (linesOfFiles separator true [file])
  if let some suffix := suffix then
    let _ ← Work.write (file.1 ++ suffix) file.2
  if let .error o ← Work.write file.1 text then
    Work.fail 4 s!"sed: couldn't open file {file.1}: {o.words}\n"

/-- A jump to a label that is nowhere. -/
def strayLabel? (script : Script) : Option String :=
  script.instructions.toList.findSome? fun i =>
    match i.action with
    | .jump label | .jumpIfReplaced label | .jumpUnlessReplaced label =>
      if label.isEmpty || (script.labels.lookup label).isSome then none else some label
    | _ => none

/-- A script run over files. -/
def runScript (items : List Item) (sources : List Source) (names : List String) : Work Unit := do
  let extended := has items 'r' || has items 'E'
  match Script.read extended ("\n".intercalate (sources.map (·.text))) with
  | .error f => Work.fail 1 (complaintOf sources f)
  | .ok script =>
    if let some label := strayLabel? script then
      Work.fail 4 ("sed: can't find label for jump to " ++ inMarks label ++ "\n")
    else
      let quiet := has items 'n' || script.quiet
      let separator := if has items 'z' then Char.ofNat 0 else '\n'
      let width := ((value? items 'l').bind String.toNat?).getD Editing.shownWidth
      let files ← readable (Tool.sources names)
      if has items 'i' then
        for file in files do
          editInPlace script quiet separator width (value? items 'i') file
      else
        Work.say
          (← edit script quiet separator width (linesOfFiles separator (has items 's') files))

/-- The stream editor. -/
def sed : Tool := fun call =>
  match options.read call.args with
  | .error complaint => of (fun _ => Work.fail 1 s!"sed: {complaint}\n") call
  | .ok items =>
    of (fun _ => do
      match ← sourcesOf items with
      | .error (name, o) => Work.fail 4 s!"sed: couldn't open file {name}: {o.words}\n"
      | .ok [] =>
        match operands items with
        | [] =>
          Work.fail 1
            "Usage: sed [OPTION]... \x7bscript-only-if-no-other-script\x7d [input-file]...\n"
        | text :: names => runScript items [⟨text, "-e expression #1", false⟩] names
      | .ok sources => runScript items sources (operands items)) call

end NavScript.Tool.Editor
