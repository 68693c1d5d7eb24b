import NavScript.Run

namespace NavScript.CommandLine

/-!
# The buffer in front of the standard output

Lines are collected in a buffer, which hands them on when it is full, when it is flushed, and when
it is given up.

* `Buffer` — what is held back and what has been handed on
* `Buffer.write`, `Buffer.flush` — what can be done with it
-/

/-- A buffer: the bytes that it holds back, and those that it has handed on. -/
structure Buffer where
  held : ByteArray
  handedOn : ByteArray

namespace Buffer

/-- How many bytes are held back at most. -/
def capacity : Nat := 8192

/-- A buffer that has been given nothing. -/
def empty : Buffer := ⟨.empty, .empty⟩

/-- Everything handed on. -/
def flush (b : Buffer) : Buffer := ⟨.empty, b.handedOn ++ b.held⟩

/-- Room made for so many bytes: where they do not fit behind the ones held back, those are handed
    on. -/
def makeRoom (b : Buffer) (size : Nat) : Buffer :=
  if b.held.size + size ≤ capacity then b else b.flush

/-- More bytes.  So many that they would fill the buffer by themselves are handed on at once. -/
def write (b : Buffer) (bytes : ByteArray) : Buffer :=
  let b := b.makeRoom bytes.size
  if capacity ≤ bytes.size then { b with handedOn := b.handedOn ++ bytes }
  else { b with held := b.held ++ bytes }

instance : Writer Buffer where
  write b text := (b.write text.toUTF8, true)
  flush b := (b.flush, true)

/-- What has been handed on when the buffer is given up, which flushes it. -/
def output (b : Buffer) : ByteArray := b.flush.handedOn

end Buffer

end NavScript.CommandLine
