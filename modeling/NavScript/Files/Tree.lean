import NavScript.Files.Basic

namespace NavScript.Files

/-!
# Directories with what is in them

* `below` — what stands at a place and below it
* `dropTree`, `copyTree`, `moveTree` — all of that removed, copied and moved
-/

/-- What stands at a place and below it. -/
def below (files : Files) (place : Place) : List (Place × Entry) :=
  files.entries.filter fun e => place.isPrefixOf e.1

/-- Nothing left at a place and below it. -/
def dropTree (files : Files) (place : Place) : Files :=
  { files with
    entries := files.entries.filter fun e => !place.isPrefixOf e.1
    runnable := files.runnable.filter fun p => !place.isPrefixOf p }

/-- What stands at a place and below it put at another one too; a file that was there already keeps
    whether it can be run. -/
def copyTree (files : Files) (source target : Place) : Files :=
  let moved (place : Place) : Place := target ++ place.drop source.length
  let copied := (files.below source).reverse
  let after := copied.foldl (fun (files : Files) e => files.put (moved e.1) e.2) files
  let runnable := (files.runnable.filter fun p =>
    source.isPrefixOf p && (files.at? (moved p)).isNone).map moved
  { after with runnable := runnable ++ after.runnable }

/-- What stands at a place and below it put at another one in place of what was there. -/
def moveTree (files : Files) (source target : Place) : Files :=
  ((files.dropTree target).copyTree source target).dropTree source

end NavScript.Files
