import NavScript.Tool.Copy

namespace NavScript.Tool

/-!
# Columns

* `cut` — parts of lines
* `paste` — lines side by side
* `fold` — lines broken at a width
-/

/-! ### Lists of numbers -/

/-- Numbers from one to another; without an end they go on. -/
structure Span where
  first : Nat
  last : Option Nat

/-- A number is in one of the spans. -/
def isListed (spans : List Span) (n : Nat) : Bool :=
  spans.any fun s => s.first ≤ n && (match s.last with
    | some last => n ≤ last
    | none => true)

/-- What a list counts, as complaints name it: one of them, and several. -/
structure Counted where
  one : String
  several : String

/-- The span that a text writes, or the complaint about it. -/
def readSpan (u : Counted) (text : String) : Except String Span :=
  let number (cs : List Char) : Option Nat := (String.ofList cs).toNat?
  let cs := text.toList
  let front := cs.takeWhile Char.isDigit
  match cs.dropWhile Char.isDigit with
  | [] =>
    match number front with
    | none => .error s!"{u.several} are numbered from 1"
    | some 0 => .error s!"{u.several} are numbered from 1"
    | some n => .ok ⟨n, some n⟩
  | '-' :: rest =>
    if !rest.all Char.isDigit then .error s!"invalid {u.one} range"
    else if front.isEmpty && rest.isEmpty then .error "invalid range with no endpoint: -"
    else
      let first := (number front).getD 1
      let last := number rest
      if first = 0 then .error s!"{u.several} are numbered from 1"
      else if (last.map fun n => decide (n < first)).getD false then
        .error "invalid decreasing range"
      else .ok ⟨first, last⟩
  | rest =>
    .error s!"invalid {u.one} value {quote (String.ofList rest)}"

/-! ### Parts of lines -/

/-- The options of the tool. -/
def cutOptions : Options :=
  { Options.make "b:c:d:f:nsz"
      [("bytes", 'b', .required), ("characters", 'c', .required), ("delimiter", 'd', .required),
        ("fields", 'f', .required), ("only-delimited", 's', .none),
        ("output-delimiter", 'O', .required), ("complement", 'N', .none),
        ("zero-terminated", 'z', .none)] with
    inOrder := false }

/-- Bytes of a line, with a delimiter between those that stood apart. -/
def cutBytes (spans : List Span) (complement : Bool) (between : Option String) (line : String) :
    String :=
  let kept := (line.toList.zipIdx).filter fun (_, i) => isListed spans (i + 1) != complement
  match between with
  | none => String.ofList (kept.map (·.1))
  | some between =>
    let starts (n : Nat) : Bool := spans.any (·.first == n)
    let step (done : String × Option Nat) (entry : Char × Nat) : String × Option Nat :=
      let (text, before) := done
      let (c, i) := entry
      match before with
      | none => (text.push c, some i)
      | some j =>
        if i == j + 1 && !starts (i + 1) then (text.push c, some i)
        else ((text ++ between).push c, some i)
    (kept.foldl step ("", none)).1

/-- Fields of a line; a line without a delimiter stays as it is, or is left out. -/
def cutFields (spans : List Span) (complement onlyDelimited : Bool) (delimiter : Char)
    (between : String) (line : String) : Option String :=
  let fields := line.splitOn delimiter.toString
  match fields with
  | [_] => if onlyDelimited then none else some line
  | fields =>
    let kept := (fields.zipIdx).filter fun (_, i) => isListed spans (i + 1) != complement
    some (between.intercalate (kept.map (·.1)))

/-- Parts of the lines of files. -/
def cut : Tool :=
  withOptions "cut" 1 cutOptions fun items => do
    let lists := items.filterMap fun
      | .option letter (some text) =>
        if letter == 'f' then some (true, text)
        else if letter == 'b' || letter == 'c' then some (false, text)
        else none
      | _ => none
    let fail (complaint : String) : Work Unit := Work.fail 1 (usageComplaint "cut" complaint)
    match lists with
    | [] => fail "you must specify a list of bytes, characters, or fields"
    | _ :: _ :: _ => fail "only one list may be specified"
    | [(isFields, text)] =>
      let delimiter := (value? items 'd').getD "\t"
      let u : Counted :=
        if isFields then ⟨"field", "fields"⟩
        else ⟨"byte/character", "byte/character positions"⟩
      let pieces :=
        (text.toList.splitOnP fun c => c == ',' || c == ' ' || c == '\t').map String.ofList
      if 1 < delimiter.length then fail "the delimiter must be a single character"
      else if !isFields && (value? items 'd').isSome then
        fail "an input delimiter may be specified only when operating on fields"
      else if !isFields && has items 's' then
        fail "suppressing non-delimited lines makes sense\n\tonly when operating on fields"
      else
        match pieces.mapM (readSpan u) with
        | .error complaint => fail complaint
        | .ok spans =>
          let c := delimiter.toList.headD (Char.ofNat 0)
          let between := (value? items 'O').getD delimiter
          let part (line : String) : Option String :=
            if isFields then cutFields spans (has items 'N') (has items 's') c between line
            else some (cutBytes spans (has items 'N') (value? items 'O') line)
          eachSource 1 (unreadable "cut") (sources (operands items)) fun _ text =>
            Work.say (String.join (((linesOf text).map lineBody).filterMap fun line =>
              (part line).map (· ++ "\n")))

/-! ### Side by side -/

/-- Lists read side by side, row after row, with empty texts where one has ended; `fuel` bounds the
    rows. -/
def rows : (fuel : Nat) → List (List String) → List (List String)
  | 0, _ => []
  | fuel + 1, columns =>
    if columns.all (·.isEmpty) then []
    else (columns.map (·.headD "")) :: rows fuel (columns.map List.tail)

/-- Texts with delimiters between them, taken in turn. -/
def joinInTurn (delimiters : List Char) : List String → String
  | [] => ""
  | first :: rest =>
    let between (i : Nat) : String :=
      match delimiters[i % max 1 delimiters.length]? with
      | some c => c.toString
      | none => ""
    first ++ String.join (rest.zipIdx.map fun (text, i) => between i ++ text)

/-- The lines of files side by side, or those of each file one behind the other. -/
def paste : Tool :=
  withOptions "paste" 1
    (Options.make "d:sz" [("delimiters", 'd', .required), ("serial", 's', .none)]) fun items => do
    let given := (value? items 'd').getD "\t"
    let delimiters := (given.replace "\\n" "\n").replace "\\t" "\t"
    let mut columns : List (List String) := []
    for name in sources (operands items) do
      match ← Work.contents name with
      | .ok text => columns := columns ++ [(linesOf text).map lineBody]
      | .error o => Work.fail 1 (unreadable "paste" name o)
    let lines := if has items 's' then columns
      else rows ((columns.map List.length).foldl max 0 + 1) columns
    Work.say (String.join (lines.map fun line => joinInTurn delimiters.toList line ++ "\n"))

/-! ### Widths -/

/-- A line broken into parts of a width; `fuel` bounds the parts. -/
def brokenLine (width : Nat) (atBlanks : Bool) : (fuel : Nat) → List Char → List String
  | 0, cs => [String.ofList cs]
  | fuel + 1, cs =>
    if cs.length ≤ width then [String.ofList cs]
    else
      let front := cs.take width
      let upToBlank := (front.reverse.dropWhile (· != ' ')).reverse
      let front := if atBlanks && !upToBlank.isEmpty then upToBlank else front
      String.ofList front :: brokenLine width atBlanks fuel (cs.drop front.length)

/-- The lines of files broken at a width. -/
def fold : Tool :=
  withOptions "fold" 1
    (Options.make "bsw:" [("bytes", 'b', .none), ("spaces", 's', .none), ("width", 'w', .required)])
    fun items => do
      let given := (value? items 'w').getD "80"
      match given.toNat?.filter (0 < ·) with
      | none => Work.fail 1 s!"fold: invalid number of columns: {quote given}\n"
      | some width =>
        eachSource 1 (unreadable "fold") (sources (operands items)) fun _ text =>
          Work.say (String.join ((linesOf text).map fun line =>
            let body := lineBody line
            "\n".intercalate (brokenLine width (has items 's') (body.length + 1) body.toList)
              ++ (if line.endsWith "\n" then "\n" else "")))

end NavScript.Tool
