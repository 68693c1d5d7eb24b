import NavScript.Files.Tree
import NavScript.Tool.Counting
import NavScript.Tool.Names

namespace NavScript.Tool

open NavScript.Text

/-!
# Files and directories

Tools that change what stands where, or tell it.

* `cp`, `mv`, `rm` — files copied, moved and removed
* `mkdir`, `rmdir`, `touch`, `mktemp` — directories and files made, and directories removed
* `chmod` — files that can be run
* `ls` — the names in directories
-/

/-- The place of a name, and what stands there, if anything does. -/
def Work.find (name : String) : Work (Except Obstacle (Place × Option Entry)) := do
  return (← files).find (← fullName name)

/-- A directory stands under a name. -/
def Work.isDirectory (name : String) : Work Bool := do
  match ← entry name with
  | .ok .directory => return true
  | _ => return false

/-- The name of something in a directory. -/
def inside (directory name : String) : String :=
  if directory.endsWith "/" then directory ++ name else directory ++ "/" ++ name

/-- A name as messages show it, always in quotes. -/
abbrev named := quote

/-! ### Copying and moving -/

/-- Where something is copied or moved to. -/
inductive Target where
  | into (directory : String)
  | under (name : String)

/-- The sources and the target that options and operands name, or the complaint about them. -/
def targetOf (tool : String) (items : List Item) : Work (Except String (List String × Target)) := do
  let names := operands items
  match value? items 't', names.reverse with
  | some _, [] => return .error (usageComplaint tool "missing file operand")
  | some directory, _ =>
    if ← Work.isDirectory directory then return .ok (names, .into directory)
    else return .error s!"{tool}: target directory {named directory}: No such file or directory\n"
  | none, [] => return .error (usageComplaint tool "missing file operand")
  | none, [one] =>
    return .error (usageComplaint tool s!"missing destination file operand after {named one}")
  | none, last :: before =>
    match ← Work.entry last with
    | .ok .directory =>
      return .ok (before.reverse, if has items 'T' then .under last else .into last)
    | .ok _ =>
      if before.length = 1 then return .ok (before, .under last)
      else return .error s!"{tool}: target {named last}: Not a directory\n"
    | .error o =>
      if before.length = 1 then return .ok (before, .under last)
      else return .error s!"{tool}: target {named last}: {o.words}\n"

/-- The name that something gets at a target. -/
def Target.nameFor (source : String) : Target → String
  | .into directory => inside directory (lastPart source)
  | .under name => name

/-- The options of both tools. -/
def copyOptions : Options :=
  Options.make "aHLPRTbdfilnprst:uvxZ"
    [("archive", 'a', .none), ("force", 'f', .none), ("interactive", 'i', .none),
      ("no-clobber", 'n', .none), ("recursive", 'r', .none), ("verbose", 'v', .none),
      ("update", 'u', .optional), ("target-directory", 't', .required),
      ("no-target-directory", 'T', .none), ("preserve", 'p', .optional),
      ("dereference", 'L', .none), ("no-dereference", 'P', .none)]

/-- Something copied under another name. -/
def copyOne (items : List Item) (source target : String) : Work Unit := do
  let deep := ['r', 'R', 'a'].any (has items)
  match ← Work.find source, ← Work.find target with
  | .error o, _ => Work.fail 1 s!"cp: cannot stat {named source}: {o.words}\n"
  | .ok (_, none), _ => Work.fail 1 s!"cp: cannot stat {named source}: No such file or directory\n"
  | .ok (_, some .directory), .error o =>
    if deep then Work.fail 1 s!"cp: cannot create directory {named target}: {o.words}\n"
    else Work.fail 1 s!"cp: -r not specified; omitting directory {named source}\n"
  | .ok (_, some _), .error o =>
    Work.fail 1 s!"cp: cannot create regular file {named target}: {o.words}\n"
  | .ok (place, some .directory), .ok (other, found) =>
    if !deep then Work.fail 1 s!"cp: -r not specified; omitting directory {named source}\n"
    else if place.isPrefixOf other then
      Work.fail 1 s!"cp: cannot copy a directory, {named source}, into itself, {named target}\n"
    else
      match found with
      | some .directory | none => copy place other
      | some _ =>
        Work.fail 1
          s!"cp: cannot overwrite non-directory {named target} with directory {named source}\n"
  | .ok (_, some .locked), _ =>
    Work.fail 1 s!"cp: cannot open {named source} for reading: Permission denied\n"
  | .ok (place, some entry), .ok (other, found) =>
    match found with
    | some .directory =>
      Work.fail 1
        s!"cp: cannot overwrite directory {named target} with non-directory {named source}\n"
    | some .device => Pure.pure ()
    | some _ =>
      if place == other then
        Work.fail 1 s!"cp: {named source} and {named target} are the same file\n"
      else if !has items 'n' then copy place other
    | none =>
      match entry with
      | .device => let _ ← Work.write target ""
      | _ => copy place other
where
  copy (place other : Place) : Work Unit := do
    let _ ← Work.change fun files => .ok (files.copyTree place other)
    if has items 'v' then Work.say s!"{named source} -> {named target}\n"

/-- Files copied. -/
def cp : Tool :=
  withOptions "cp" 1 copyOptions fun items => do
    match ← targetOf "cp" items with
    | .error complaint => Work.fail 1 complaint
    | .ok (names, target) =>
      if has items 'n' then
        Work.complain ("cp: warning: behavior of -n is non-portable and may change in future; "
          ++ "use --update=none instead\n")
      names.forM fun name => copyOne items name (target.nameFor name)

/-- Something moved to another name. -/
def moveOne (items : List Item) (source target : String) : Work Unit := do
  match ← Work.find source, ← Work.find target with
  | .error o, _ => Work.fail 1 s!"mv: cannot stat {named source}: {o.words}\n"
  | .ok (_, none), _ => Work.fail 1 s!"mv: cannot stat {named source}: No such file or directory\n"
  | .ok (_, some _), .error o =>
    Work.fail 1 s!"mv: cannot move {named source} to {named target}: {o.words}\n"
  | .ok (place, some entry), .ok (other, found) =>
    let isDirectory := match entry with
      | .directory => true
      | _ => false
    if place == other then
      Work.fail 1 s!"mv: {named source} and {named target} are the same file\n"
    else if isDirectory && place.isPrefixOf other then
      Work.fail 1 s!"mv: cannot move {named source} to a subdirectory of itself, {named target}\n"
    else
      match found with
      | some .directory =>
        if !isDirectory then
          Work.fail 1
            s!"mv: cannot overwrite directory {named target} with non-directory {named source}\n"
        else if ((← Work.files).names other).isEmpty then move place other
        else Work.fail 1 s!"mv: cannot overwrite {named target}: Directory not empty\n"
      | some _ =>
        if isDirectory then
          Work.fail 1
            s!"mv: cannot overwrite non-directory {named target} with directory {named source}\n"
        else if !has items 'n' then move place other
      | none => move place other
where
  move (place other : Place) : Work Unit := do
    let _ ← Work.change fun files => .ok (files.moveTree place other)
    if has items 'v' then Work.say s!"renamed {named source} -> {named target}\n"

/-- Files moved. -/
def mv : Tool :=
  withOptions "mv" 1 copyOptions fun items => do
    match ← targetOf "mv" items with
    | .error complaint => Work.fail 1 complaint
    | .ok (names, target) => names.forM fun name => moveOne items name (target.nameFor name)

/-! ### Removing and making -/

/-- Something removed. -/
def removeOne (items : List Item) (name : String) : Work Unit := do
  let deep := has items 'r' || has items 'R'
  let fail (o : Obstacle) : Work Unit := Work.fail 1 s!"rm: cannot remove {named name}: {o.words}\n"
  match ← Work.find name with
  | .error o =>
    if has items 'f' && (o == .notFound || o == .notADirectory) then Pure.pure () else fail o
  | .ok (_, none) => if has items 'f' then Pure.pure () else fail .notFound
  | .ok (place, some .directory) =>
    if [".", ".."].contains (lastPart name) && deep then
      Work.fail 1 s!"rm: refusing to remove '.' or '..' directory: skipping {named name}\n"
    else if deep then
      let _ ← Work.change fun files => .ok (files.dropTree place)
      if has items 'v' then Work.say s!"removed directory {named name}\n"
    else if !has items 'd' then fail .isADirectory
    else
      let full ← Work.fullName name
      match ← Work.change fun files => files.removeDirectory full with
      | .ok () => if has items 'v' then Work.say s!"removed directory {named name}\n"
      | .error o => fail o
  | .ok (place, some _) =>
    let _ ← Work.change fun files => .ok (files.drop place)
    if has items 'v' then Work.say s!"removed {named name}\n"

/-- Files removed. -/
def rm : Tool :=
  withOptions "rm" 1
    (Options.make "dfiIrRv"
      [("force", 'f', .none), ("recursive", 'r', .none), ("dir", 'd', .none),
        ("verbose", 'v', .none)]) fun items => do
    let names := operands items
    if names.isEmpty && !has items 'f' then Work.fail 1 (usageComplaint "rm" "missing operand")
    else names.forM (removeOne items)

/-- The names that lead to a name, the shortest first, and the name itself. -/
def leadingNames (name : String) : List String :=
  let parts := (withoutSlashes name).splitOn "/"
  ((List.range parts.length).map fun n => "/".intercalate (parts.take (n + 1))).filter (!·.isEmpty)

/-- A directory made. -/
def makeOne (items : List Item) (name : String) : Work Unit := do
  let full ← Work.fullName name
  match ← Work.change fun files => files.makeDirectory full with
  | .ok () => if has items 'v' then Work.say s!"mkdir: created directory {named name}\n"
  | .error o =>
    if has items 'p' && (← Work.isDirectory name) then Pure.pure ()
    else Work.fail 1 s!"mkdir: cannot create directory {named name}: {o.words}\n"

/-- Directories made. -/
def mkdir : Tool :=
  withOptions "mkdir" 1
    (Options.make "pvm:Z"
      [("parents", 'p', .none), ("verbose", 'v', .none), ("mode", 'm', .required)])
    fun items => do
      match operands items with
      | [] => Work.fail 1 (usageComplaint "mkdir" "missing operand")
      | names =>
        for name in names do
          if has items 'p' then
            for leading in leadingNames name do makeOne items leading
          else makeOne items name

/-- Directories removed in which nothing is left. -/
def rmdir : Tool :=
  withOptions "rmdir" 1
    (Options.make "pv" [("parents", 'p', .none), ("verbose", 'v', .none),
      ("ignore-fail-on-non-empty", 'N', .none)]) fun items => do
    match operands items with
    | [] => Work.fail 1 (usageComplaint "rmdir" "missing operand")
    | names =>
      for name in names do
        for part in if has items 'p' then (leadingNames name).reverse else [name] do
          let full ← Work.fullName part
          if has items 'v' then Work.say s!"rmdir: removing directory, {named part}\n"
          match ← Work.change fun files => files.removeDirectory full with
          | .ok () => Pure.pure ()
          | .error .notEmpty =>
            if !has items 'N' then
              Work.fail 1 s!"rmdir: failed to remove {named part}: Directory not empty\n"
          | .error o => Work.fail 1 s!"rmdir: failed to remove {named part}: {o.words}\n"

/-- Files made where there are none. -/
def touch : Tool :=
  withOptions "touch" 1
    (Options.make "acd:fhmr:t:"
      [("no-create", 'c', .none), ("date", 'd', .required), ("reference", 'r', .required),
        ("time", 't', .required)]) fun items => do
    match operands items with
    | [] => Work.fail 1 (usageComplaint "touch" "missing file operand")
    | names =>
      for name in names do
        match ← Work.find name with
        | .ok (_, some _) => Pure.pure ()
        | .ok (_, none) =>
          if !has items 'c' then let _ ← Work.write name ""
        | .error o =>
          if !has items 'c' then Work.fail 1 s!"touch: cannot touch {named name}: {o.words}\n"

/-- A name of which the letters `X` at the end of a template are replaced by digits, so that nothing
    stands under it; `tries` bounds the search. -/
def freeName (taken : String → Bool) (front : String) (digits : Nat) (ending : String) :
    (tries : Nat) → (n : Nat) → String
  | 0, n => candidate n
  | tries + 1, n =>
    if taken (candidate n) then freeName taken front digits ending tries (n + 1) else candidate n
where
  candidate (n : Nat) : String :=
    let text := toString n
    front ++ "".pushn '0' (digits - text.length) ++ text ++ ending

/-- A file or directory made under a name that is free. -/
def mktemp : Tool :=
  withOptions "mktemp" 1
    (Options.make "duqp:tV"
      [("directory", 'd', .none), ("dry-run", 'u', .none), ("quiet", 'q', .none),
        ("suffix", 'S', .required), ("tmpdir", 'p', .optional)]) fun items => do
    let environment := (← get).call.environment
    let place := ((value? items 'p').or (environment.lookup "TMPDIR")).getD "/tmp"
    match operands items with
    | _ :: _ :: _ => Work.fail 1 (usageComplaint "mktemp" "too many templates")
    | names =>
      let template := match names with
        | [name] => if has items 't' || has items 'p' then inside place name else name
        | _ => inside place "tmp.XXXXXXXXXX"
      let ending := (value? items 'S').getD ""
      let digits := (template.toList.reverse.takeWhile (· == 'X')).length
      if digits < 3 then
        Work.fail 1 s!"mktemp: too few X's in template {named template}\n"
      else
        let front := String.ofList (template.toList.take (template.length - digits))
        let files ← Work.files
        let directory := (← get).call.directory
        let taken (name : String) : Bool :=
          match files.find (Files.join (Narrow.toText directory) (Narrow.toText name)) with
          | .ok (_, some _) => true
          | _ => false
        let name := freeName taken front digits ending (files.entries.length + 1) 0
        if has items 'u' then Work.say (name ++ "\n")
        else
          let full ← Work.fullName name
          let made ← if has items 'd' then Work.change fun files => files.makeDirectory full
            else Work.write name ""
          let kind := if has items 'd' then "directory" else "file"
          match made with
          | .ok () => Work.say (name ++ "\n")
          | .error o =>
            Work.fail 1
              s!"mktemp: failed to create {kind} via template {named template}: {o.words}\n"

/-! ### Files that can be run -/

/-- What a mode says about running: yes or no, or nothing. -/
def runningIn? (mode : String) : Option (Option Bool) :=
  let digits := mode.toList
  if !digits.isEmpty && digits.length ≤ 4 && digits.all fun c => '0' ≤ c && c ≤ '7' then
    some (some (digits.reverse.take 3 |>.any fun c => (c.toNat - '0'.toNat) % 2 == 1))
  else
    let clauses := (mode.splitOn ",").map fun text => (text.toList.dropWhile "ugoa".toList.contains)
    let clause? (cs : List Char) : Option (Option Bool) :=
      match cs with
      | sign :: signs =>
        if ['+', '-', '='].contains sign && signs.all "rwxXstugo+-=".toList.contains then
          let runs := signs.contains 'x'
          if sign == '=' then some (some runs)
          else if runs then some (some (sign == '+'))
          else some none
        else none
      | [] => none
    clauses.foldl (fun all cs => all.bind fun before =>
      (clause? cs).map fun now => now.or before) (some none)

/-- Files that can be run from now on, or no longer. -/
def chmod : Tool := fun call =>
  let isMode (arg : String) : Bool :=
    match arg.toList with
    | '-' :: c :: _ => "rwxXst".toList.contains c
    | _ => false
  let args := match call.args.findIdx? isMode with
    | some n => call.args.take n ++ "--" :: call.args.drop n
    | none => call.args
  run { call with args }
where
  run : Tool :=
    withOptions "chmod" 1
      (Options.make "Rvcf" [("recursive", 'R', .none), ("verbose", 'v', .none),
        ("changes", 'c', .none), ("quiet", 'f', .none), ("silent", 'f', .none)]) fun items => do
      match operands items with
      | [] => Work.fail 1 (usageComplaint "chmod" "missing operand")
      | [mode] => Work.fail 1 (usageComplaint "chmod" s!"missing operand after {named mode}")
      | mode :: names =>
        match runningIn? mode with
        | none => Work.fail 1 (usageComplaint "chmod" s!"invalid mode: {named mode}")
        | some on =>
          for name in names do
            let full ← Work.fullName name
            match ← Work.change fun files => (do
                let (_, found) ← files.find full
                if found.isNone then .error .notFound
                else
                  match on with
                  | some on => files.setRunnable full on
                  | none => .ok files) with
            | .ok () => Pure.pure ()
            | .error o => Work.fail 1 s!"chmod: cannot access {named name}: {o.words}\n"

/-! ### Names in directories -/

/-- The options of the tool. -/
def lsOptions : Options :=
  Options.make "1aAbBcCdfFhHiklLmnNopqQrRsStuUvxXZg"
    [("all", 'a', .none), ("almost-all", 'A', .none), ("directory", 'd', .none),
      ("reverse", 'r', .none), ("recursive", 'R', .none), ("classify", 'F', .optional),
      ("quote-name", 'Q', .none), ("color", 'K', .optional)]

/-- A name as the tool shows it, with a mark for what stands there. -/
def listed (items : List Item) (files : Files) (place : Place) (name : String) : String :=
  let text := if has items 'Q' then "\"" ++ name ++ "\"" else name
  let mark := match files.at? place with
    | some .directory => if has items 'F' || has items 'p' then "/" else ""
    | some _ => if has items 'F' && files.runnable.contains place then "*" else ""
    | none => ""
  text ++ mark ++ "\n"

/-- What is shown of a directory. -/
def listing (items : List Item) (files : Files) (place : Place) : String :=
  let names := (files.names place).map fun name => (name, place ++ [name])
  let dots := if has items 'a' then [(".", place), ("..", Files.above place)] else []
  let visible := names.filter fun n => has items 'a' || has items 'A' || !n.1.startsWith "."
  let all := dots ++ visible
  let all := if has items 'r' then all.reverse else all
  String.join (all.map fun n => listed items files n.2 (Narrow.ofText n.1))

/-- The directories in a directory and below them, by the names that lead there; `fuel` bounds how
    deep they are. -/
def directoriesBelow (files : Files) (hidden : Bool) : (fuel : Nat) → String → Place →
    List (String × Place)
  | 0, _, _ => []
  | fuel + 1, name, place =>
    (files.names place).flatMap fun part =>
      let there := Files.fromWorking (place ++ [part])
      match files.at? there with
      | some .directory =>
        if part.startsWith "." && !hidden then []
        else
          let under := inside name (Narrow.ofText part)
          (under, there) :: directoriesBelow files hidden fuel under there
      | _ => []

/-- The names in directories. -/
def ls : Tool :=
  withOptions "ls" 2 lsOptions fun items => do
    let given := operands items
    let order (names : List (String × Place)) : List (String × Place) :=
      let sorted := names.mergeSort fun a b => a.1 ≤ b.1
      if has items 'r' then sorted.reverse else sorted
    let mut plain : List (String × Place) := []
    let mut directories : List (String × Place) := []
    for name in if given.isEmpty then ["."] else given do
      match ← Work.find name with
      | .error o => Work.fail 2 s!"ls: cannot access {named name}: {o.words}\n"
      | .ok (_, none) =>
        Work.fail 2 s!"ls: cannot access {named name}: No such file or directory\n"
      | .ok (place, some .directory) =>
        if has items 'd' then plain := plain ++ [(name, place)]
        else directories := directories ++ [(name, place)]
      | .ok (place, some _) => plain := plain ++ [(name, place)]
    let files ← Work.files
    for (name, place) in order plain do Work.say (listed items files place name)
    let hidden := has items 'a' || has items 'A'
    let all := (order directories).flatMap fun (name, place) =>
      (name, place) :: (if has items 'R' then
        directoriesBelow files hidden (files.entries.length + 1) name place else [])
    let titled := 1 < given.length || has items 'R'
    let parts := all.map fun (name, place) =>
      (if titled then name ++ ":\n" else "") ++ listing items files place
    if !plain.isEmpty && !parts.isEmpty then Work.say "\n"
    Work.say ("\n".intercalate parts)

end NavScript.Tool
