namespace NavScript.Text

/-!
# Hexadecimal digits

References and escapes give characters by hexadecimal numbers.

* `hexDigit?` — the value of a digit, in either case
* `hexNumber?` — the number that digits write
-/

/-- The value of a hexadecimal digit, if the character is one. -/
def hexDigit? (c : Char) : Option Nat :=
  if '0' ≤ c && c ≤ '9' then some (c.toNat - '0'.toNat)
  else if 'a' ≤ c && c ≤ 'f' then some (c.toNat - 'a'.toNat + 10)
  else if 'A' ≤ c && c ≤ 'F' then some (c.toNat - 'A'.toNat + 10)
  else none

/-- The number that hexadecimal digits write, if all of the characters are such digits. -/
def hexNumber? (cs : List Char) : Option Nat :=
  cs.foldlM (fun n c => (hexDigit? c).map (16 * n + ·)) 0

end NavScript.Text
