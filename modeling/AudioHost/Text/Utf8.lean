/-!
Bytes as text.

A machine reads bytes one at a time. It knows how many tail bytes a character still owes and in
which range the next one must lie. A byte that does not fit ends the part read so far as broken,
and is then read as a first byte itself.
-/

namespace AudioHost.Utf8

/-- A character that has begun. -/
structure Pending where
  owed : Nat
  /-- The range of the next byte. -/
  low : Nat
  high : Nat
  /-- The bits read so far. -/
  value : Nat
  /-- The number of bytes read so far. -/
  taken : Nat
deriving DecidableEq, Repr

/-- What a text of bytes is made of. -/
inductive Piece where
  | char (c : Char)
  /-- Bytes that are no character. -/
  | broken (bytes : Nat)
  /-- A character that the end of the text cuts off. -/
  | cut (bytes : Nat)
deriving DecidableEq, Repr

/-- What a byte can begin. -/
inductive Opening where
  | char (c : Char)
  | lead (p : Pending)
  | bad
deriving DecidableEq, Repr

/-- What a first byte begins. -/
def opening (b : UInt8) : Opening :=
  let n := b.toNat
  if n < 0x80 then .char (Char.ofNat n)
  else if n < 0xC2 then .bad
  else if n < 0xE0 then .lead ⟨1, 0x80, 0xBF, n - 0xC0, 1⟩
  else if n < 0xF0 then
    .lead ⟨2, if n = 0xE0 then 0xA0 else 0x80, if n = 0xED then 0x9F else 0xBF, n - 0xE0, 1⟩
  else if n < 0xF5 then
    .lead ⟨3, if n = 0xF0 then 0x90 else 0x80, if n = 0xF4 then 0x8F else 0xBF, n - 0xF0, 1⟩
  else .bad

/-- Adds a tail byte to a character that has begun. -/
def Pending.extend (p : Pending) (b : UInt8) : Pending :=
  ⟨p.owed - 1, 0x80, 0xBF, p.value * 64 + (b.toNat - 0x80), p.taken + 1⟩

/-- The pieces of a text of bytes, given the character that has begun. -/
def piecesFrom : Option Pending → List UInt8 → List Piece
  | none, [] => []
  | some p, [] => [.cut p.taken]
  | none, b :: bs => match opening b with
    | .char c => .char c :: piecesFrom none bs
    | .lead p => piecesFrom (some p) bs
    | .bad => .broken 1 :: piecesFrom none bs
  | some p, b :: bs =>
    if p.low ≤ b.toNat ∧ b.toNat ≤ p.high then
      let q := p.extend b
      if q.owed = 0 then .char (Char.ofNat q.value) :: piecesFrom none bs
      else piecesFrom (some q) bs
    else
      .broken p.taken :: match opening b with
        | .char c => .char c :: piecesFrom none bs
        | .lead q => piecesFrom (some q) bs
        | .bad => .broken 1 :: piecesFrom none bs

/-- The pieces of a text of bytes. -/
def pieces (bytes : List UInt8) : List Piece := piecesFrom none bytes

/-- The character that stands for what is none. -/
def replacement : Char := Char.ofNat 0xFFFD

/-- The character of a piece. -/
def Piece.shown : Piece → Char
  | .char c => c
  | _ => replacement

/-- The text of some bytes, with a replacement for each broken part. -/
def decodeLossy (bytes : List UInt8) : String := String.ofList ((pieces bytes).map Piece.shown)

/-- Where and how a text of bytes is broken: the number of good bytes in front, and the number of
bad ones unless the text just ends too early. -/
structure Fault where
  index : Nat
  length : Option Nat
deriving DecidableEq, Repr

/-- What a fault says. -/
def Fault.message (f : Fault) : String :=
  match f.length with
  | some n => s!"invalid utf-8 sequence of {n} bytes from index {f.index}"
  | none => s!"incomplete utf-8 byte sequence from index {f.index}"

/-- The bytes of a character. -/
def encodeChar (c : Char) : List UInt8 := String.utf8EncodeChar c

/-- The bytes of a text. -/
def encode (s : String) : List UInt8 := s.toList.flatMap encodeChar

/-- The characters of pieces up to the first fault. -/
def sound : Nat → List Piece → Except Fault (List Char)
  | _, [] => .ok []
  | index, .char c :: ps => (sound (index + c.utf8Size) ps).map (c :: ·)
  | index, .broken n :: _ => .error ⟨index, some n⟩
  | index, .cut _ :: _ => .error ⟨index, none⟩

/-- The text of some bytes, or what is wrong with them. -/
def decode (bytes : List UInt8) : Except Fault String :=
  (sound 0 (pieces bytes)).map String.ofList

end AudioHost.Utf8
