namespace NavScript.Files

/-!
# File names

File names are texts with slashes between their components.  Joining and taking the parent work on
the text alone: nothing is looked up, and no component is resolved.

* `join` — a name seen from a directory
* `parent` — the directory of a name
-/

/-- A name that begins at the root. -/
def isAbsolute (name : String) : Bool :=
  name.toList.head? == some '/'

/-- A name seen from a directory.  An absolute name stays as it is; any other is put behind the
    directory, with a slash between them unless the directory is empty or ends in one. -/
def join (directory name : String) : String :=
  if isAbsolute name then name
  else if directory.isEmpty || directory.toList.getLast? == some '/' then directory ++ name
  else directory ++ "/" ++ name

/-- A reversed name without its trailing slashes and trailing components that are one dot, keeping
    the slash of the root and a leading dot. -/
def trimEnd : List Char → List Char
  | ['/'] => ['/']
  | '/' :: rest => trimEnd rest
  | '.' :: '/' :: rest => trimEnd ('/' :: rest)
  | cs => cs
termination_by cs => cs.length

/-- The directory of a name: the name without its last component.  The root and the empty name have
    none. -/
def parent (name : String) : String :=
  let reversed := trimEnd name.toList.reverse
  if reversed == ['/'] then ""
  else String.ofList (trimEnd (reversed.dropWhile (· != '/'))).reverse

end NavScript.Files
