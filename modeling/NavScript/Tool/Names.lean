import NavScript.Tool.Arguments

namespace NavScript.Tool

/-!
# Parts of names

* `basename` — the last part of a name
* `dirname` — what is in front of it
-/

/-- A text without the slashes at its end. -/
def withoutSlashes (text : String) : String :=
  String.ofList (text.toList.reverse.dropWhile (· == '/')).reverse

/-- The last part of a name. -/
def lastPart (name : String) : String :=
  let body := withoutSlashes name
  if body.isEmpty then (if name.isEmpty then "" else "/")
  else String.ofList (body.toList.reverse.takeWhile (· != '/')).reverse

/-- What is in front of the last part of a name. -/
def frontPart (name : String) : String :=
  let body := (withoutSlashes name).toList.reverse
  let front := withoutSlashes (String.ofList (body.dropWhile (· != '/')).reverse)
  if !front.isEmpty then front else if name.startsWith "/" then "/" else "."

/-- A name without an ending, unless it is nothing else. -/
def withoutEnding (ending name : String) : String :=
  if name != ending && !ending.isEmpty && ending.toList.isSuffixOf name.toList then
    String.ofList (name.toList.take (name.length - ending.length))
  else name

/-- What ends each answer. -/
def answerEnd (items : List Item) : String :=
  if has items 'z' then (Char.ofNat 0).toString else "\n"

/-- The options of the tool; the first operand ends them. -/
def basenameOptions : Options :=
  { Options.make "as:z"
      [("multiple", 'a', .none), ("suffix", 's', .required), ("zero", 'z', .none)] with
    inOrder := true }

/-- The last parts of names. -/
def basename : Tool :=
  withOptions "basename" 1 basenameOptions fun items => do
    let answer (ending name : String) : Work Unit :=
      Work.say (withoutEnding ending (lastPart name) ++ answerEnd items)
    let several := has items 'a' || has items 's'
    match operands items, several with
    | [], _ => Work.fail 1 (usageComplaint "basename" "missing operand")
    | names, true => names.forM (answer ((value? items 's').getD ""))
    | [name], false => answer "" name
    | [name, ending], false => answer ending name
    | _ :: _ :: extra :: _, false =>
      Work.fail 1 (usageComplaint "basename" s!"extra operand {quote extra}")

/-- What is in front of the last parts of names. -/
def dirname : Tool :=
  withOptions "dirname" 1 (Options.make "z" [("zero", 'z', .none)]) fun items => do
    match operands items with
    | [] => Work.fail 1 (usageComplaint "dirname" "missing operand")
    | names => names.forM fun name => Work.say (frontPart name ++ answerEnd items)

end NavScript.Tool
