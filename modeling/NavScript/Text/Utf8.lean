namespace NavScript.Text.Utf8

/-!
# UTF-8

Reading bytes as text.  The bytes are cut into pieces, each a character or a run of bytes that
begins none; a strict reader refuses the first such run and names its place, a lenient one puts the
replacement character for each.

* `pieces` — the bytes cut into characters and faults
* `decode` — all characters, or the first fault
* `decodeLossy` — every fault replaced by U+FFFD
-/

/-- One step of reading: a character, a run of bytes that can begin none, or a character that the
    bytes end in the middle of. -/
inductive Piece where
  | char (c : Char)
  | stray (length : Nat)
  | unfinished (length : Nat)

/-- A character begun: the bytes read, those still owed, the bounds of the next one, and the code
    point so far. -/
structure Begun where
  read : Nat
  owed : Nat
  low : UInt8
  high : UInt8
  code : Nat

/-- The character that a byte begins, if it begins one of several bytes.  The bounds of the second
    byte leave out overlong forms, surrogates and what lies above U+10FFFF. -/
def begin? (b : UInt8) : Option Begun :=
  let n := b.toNat
  if b < 0xC2 then none
  else if b ≤ 0xDF then some ⟨1, 1, 0x80, 0xBF, n - 0xC0⟩
  else if b = 0xE0 then some ⟨1, 2, 0xA0, 0xBF, 0⟩
  else if b = 0xED then some ⟨1, 2, 0x80, 0x9F, 13⟩
  else if b ≤ 0xEF then some ⟨1, 2, 0x80, 0xBF, n - 0xE0⟩
  else if b = 0xF0 then some ⟨1, 3, 0x90, 0xBF, 0⟩
  else if b ≤ 0xF3 then some ⟨1, 3, 0x80, 0xBF, n - 0xF0⟩
  else if b = 0xF4 then some ⟨1, 3, 0x80, 0x8F, 4⟩
  else none

/-- Reading between characters or inside one, and the pieces found, last first. -/
structure Reader where
  begun : Option Begun
  done : List Piece

namespace Reader

/-- A byte read between characters. -/
def start (b : UInt8) (done : List Piece) : Reader :=
  if b < 0x80 then ⟨none, .char (Char.ofNat b.toNat) :: done⟩
  else match begin? b with
    | some g => ⟨some g, done⟩
    | none => ⟨none, .stray 1 :: done⟩

/-- A byte read.  One that cannot continue the character begun ends it as a stray run and is read
    again as the first of what follows. -/
def step (r : Reader) (b : UInt8) : Reader :=
  match r.begun with
  | none => start b r.done
  | some g =>
    if g.low ≤ b && b ≤ g.high then
      let code := g.code * 64 + (b.toNat - 0x80)
      if g.owed = 1 then ⟨none, .char (Char.ofNat code) :: r.done⟩
      else ⟨some ⟨g.read + 1, g.owed - 1, 0x80, 0xBF, code⟩, r.done⟩
    else start b (.stray g.read :: r.done)

/-- The pieces in order once the bytes have ended. -/
def finish (r : Reader) : List Piece :=
  match r.begun with
  | none => r.done.reverse
  | some g => (Piece.unfinished g.read :: r.done).reverse

end Reader

/-- The bytes cut into characters and faults. -/
def pieces (bytes : List UInt8) : List Piece :=
  (bytes.foldl Reader.step ⟨none, []⟩).finish

/-- Where bytes stop being text: the number of bytes before the fault, and the length of the run
    that begins no character, `none` when the bytes end inside a character. -/
structure Fault where
  index : Nat
  length : Option Nat
  deriving DecidableEq, Repr

/-- The fault in words. -/
def Fault.message (f : Fault) : String :=
  match f.length with
  | some n => s!"invalid utf-8 sequence of {n} bytes from index {f.index}"
  | none => s!"incomplete utf-8 byte sequence from index {f.index}"

/-- The characters of the pieces, or the first fault, which lies `index` bytes on from here. -/
def collect (index : Nat) (done : List Char) : List Piece → Except Fault String
  | [] => .ok (String.ofList done.reverse)
  | .char c :: rest => collect (index + c.utf8Size) (c :: done) rest
  | .stray n :: _ => .error ⟨index, some n⟩
  | .unfinished _ :: _ => .error ⟨index, none⟩

/-- Bytes read as text, or the first place where they are none. -/
def decode (bytes : List UInt8) : Except Fault String :=
  collect 0 [] (pieces bytes)

/-- The character that stands for a piece where no fault is allowed to stop the reading. -/
def Piece.toChar : Piece → Char
  | .char c => c
  | .stray _ | .unfinished _ => Char.ofNat 0xFFFD

/-- Bytes read as text with the replacement character for every fault. -/
def decodeLossy (bytes : List UInt8) : String :=
  String.ofList ((pieces bytes).map Piece.toChar)

/-- The bytes of a string. -/
def encode (s : String) : List UInt8 :=
  s.toUTF8.toList

end NavScript.Text.Utf8
