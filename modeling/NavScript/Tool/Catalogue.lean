import NavScript.Tool.Calculation
import NavScript.Tool.Columns
import NavScript.Tool.Disk
import NavScript.Tool.Editor.Sed
import NavScript.Tool.Print
import NavScript.Tool.Search
import NavScript.Tool.Sorting
import NavScript.Tool.Surroundings
import NavScript.Tool.Translate

namespace NavScript.Tool

/-!
# The tools by name

* `named?` — the tool of a name
-/

/-- The tools. -/
def all : List (String × Tool) :=
  [("true", of fun _ => return), ("false", of fun _ => Work.setStatus 1), ("echo", echo),
    ("printf", printf), ("cat", cat), ("tee", tee), ("head", head), ("tail", tail), ("tac", tac),
    ("rev", rev), ("sed", Editor.sed), ("tr", tr), ("wc", wc), ("seq", seq), ("nl", nl),
    ("sort", sort), ("uniq", uniq), ("cut", cut), ("paste", paste), ("fold", fold),
    ("grep", grep), ("egrep", grepWith 'E'), ("fgrep", grepWith 'F'), ("expr", expr),
    ("basename", basename), ("dirname", dirname), ("cp", cp), ("mv", mv), ("rm", rm),
    ("mkdir", mkdir), ("rmdir", rmdir), ("touch", touch), ("mktemp", mktemp), ("chmod", chmod),
    ("ls", ls), ("printenv", printenv), ("pwd", pwd), ("sleep", sleep), ("yes", yes)]

/-- The tool of a name. -/
def named? (name : String) : Option Tool :=
  all.lookup name

end NavScript.Tool
