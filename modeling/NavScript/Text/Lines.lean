namespace NavScript.Text

/-!
# Physical lines

A script is a sequence of lines, each ended by a line feed; a carriage return before the line feed
belongs to the line end.  Bytes after the last line feed form one more line, which keeps a trailing
carriage return; a text that ends in a line feed has no line after it.

* `lines` — the lines of a byte string, without their ends
-/

/-- A line without the carriage return of its line end. -/
def dropReturn (line : List UInt8) : List UInt8 :=
  if line.getLast? = some 13 then line.dropLast else line

/-- The lines of a byte string: every part before a line feed, and what stands after the last one
    unless that is nothing. -/
def lines (bytes : List UInt8) : List (List UInt8) :=
  -- there is always a last part, which no line feed ends
  let parts := bytes.splitOn 10
  parts.dropLast.map dropReturn ++ parts.getLast?.toList.filter (!·.isEmpty)

end NavScript.Text
