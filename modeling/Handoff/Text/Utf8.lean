import Handoff.Message
/-!
# UTF-8

Reading bytes as text. A byte string that is not text is faulted at the first byte that begins no
character, with the number of bytes that could still have begun one. When the bytes end inside a
character there is no such number.
-/
namespace Handoff.Text.Utf8

/-- Where a byte string stops being text. -/
structure Fault where
  /-- Bytes in front that are text. -/
  index : Nat
  /-- Length of the ill-formed sequence, or nothing when the bytes end too early. -/
  length? : Option Nat
deriving DecidableEq, Repr

def Fault.message (f : Fault) : String :=
  match f.length? with
  | some n =>
    "invalid utf-8 sequence of " ++ toString n ++ " bytes from index " ++ toString f.index
  | none => "incomplete utf-8 byte sequence from index " ++ toString f.index

def isContinuation (b : UInt8) : Bool := 0x80 ≤ b && b ≤ 0xBF

/-- Number of continuation bytes after a first byte. -/
def tailLength? (b : UInt8) : Option Nat :=
  if b < 0x80 then some 0
  else if 0xC2 ≤ b && b ≤ 0xDF then some 1
  else if 0xE0 ≤ b && b ≤ 0xEF then some 2
  else if 0xF0 ≤ b && b ≤ 0xF4 then some 3
  else none

/-- Whether the second byte may follow the first: no overlong forms, no surrogates, no code point
above the last one. -/
def mayFollow (first second : UInt8) : Bool :=
  if first = 0xE0 then 0xA0 ≤ second && second ≤ 0xBF
  else if first = 0xED then 0x80 ≤ second && second ≤ 0x9F
  else if first = 0xF0 then 0x90 ≤ second && second ≤ 0xBF
  else if first = 0xF4 then 0x80 ≤ second && second ≤ 0x8F
  else isContinuation second

/-- The bits of a first byte that belong to the code point. -/
def leadBits (tail : Nat) (b : UInt8) : Nat :=
  match tail with
  | 0 => b.toNat
  | 1 => b.toNat % 32
  | 2 => b.toNat % 16
  | _ => b.toNat % 8

/-- The rest of a character: so many bytes still to come, so many read, and the value so far. Gives
the code point and what follows it. -/
def readTail (first : UInt8) : Nat → Nat → Nat → Bytes → Except (Option Nat) (Nat × Bytes)
  | 0, _, value, bytes => .ok (value, bytes)
  | _ + 1, _, _, [] => .error none
  | n + 1, read, value, b :: bytes =>
    if (if read = 1 then mayFollow first b else isContinuation b) then
      readTail first n (read + 1) (value * 64 + b.toNat % 64) bytes
    else .error (some read)

/-- The first character, the number of its bytes and what follows it; or the length of the fault. -/
def readChar (first : UInt8) (bytes : Bytes) : Except (Option Nat) (Char × Nat × Bytes) :=
  match tailLength? first with
  | none => .error (some 1)
  | some tail =>
    match readTail first tail 1 (leadBits tail first) bytes with
    | .error e => .error e
    | .ok (value, rest) => .ok (Char.ofNat value, tail + 1, rest)

/-- Reads characters from an index on. Every character takes at least one byte. -/
def decodeFrom : Nat → Nat → Bytes → Except Fault (List Char)
  | _, _, [] => .ok []
  | 0, _, _ :: _ => .ok []
  | n + 1, index, b :: bytes =>
    match readChar b bytes with
    | .error length? => .error ⟨index, length?⟩
    | .ok (c, size, rest) => (decodeFrom n (index + size) rest).map (c :: ·)

/-- The text that a byte string holds. -/
def decode (bytes : Bytes) : Except Fault (List Char) := decodeFrom bytes.length 0 bytes

/-- What a text is written as. -/
def encode (text : String) : Bytes := text.toUTF8.toList

/-- The text that a byte string holds, if it is text. -/
def decode? (bytes : Bytes) : Option String :=
  match decode bytes with
  | .ok text => some (String.ofList text)
  | .error _ => none

end Handoff.Text.Utf8
