import NavScript.Text.Utf8

namespace NavScript.Text.Narrow

/-!
# Narrow texts

Programs work on bytes, whatever text the bytes stand for.  A narrow text has one character for each
byte, the one of that number, so that bytes can be cut, compared and joined like text.

* `ofBytes`, `toBytes` — bytes as a narrow text, and back
* `ofText`, `toText` — the bytes that write a text, and back
-/

/-- Bytes as a narrow text. -/
def ofBytes (bytes : List UInt8) : String :=
  String.ofList (bytes.map fun b => Char.ofNat b.toNat)

/-- The bytes of a narrow text. -/
def toBytes (narrow : String) : List UInt8 :=
  narrow.toList.map fun c => UInt8.ofNat c.toNat

/-- The bytes that write a text, as a narrow text. -/
def ofText (text : String) : String :=
  ofBytes (Utf8.encode text)

/-- The text that bytes write; those that write none become replacement characters. -/
def toText (narrow : String) : String :=
  Utf8.decodeLossy (toBytes narrow)

/-- Nothing is lost on the way. -/
theorem toBytes_ofBytes (bytes : List UInt8) : toBytes (ofBytes bytes) = bytes := by
  have own : ∀ b : UInt8, UInt8.ofNat (Char.ofNat b.toNat).toNat = b := fun b => by
    have small : b.toNat.isValidChar := Or.inl (by have := b.toNat_lt; omega)
    have held : (Char.ofNat b.toNat).toNat = b.toNat := by
      rw [Char.ofNat, dif_pos small]
      rfl
    simp [held]
  simp [toBytes, ofBytes, Function.comp_def, own]

end NavScript.Text.Narrow
