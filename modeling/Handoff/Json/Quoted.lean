import Handoff.Json.Basic
/-!
# Quoted strings

Writing escapes the quote, the backslash and the control characters below a space, and nothing else.
Reading accepts every escape of the format. A string that is kept must hold whole characters, so
surrogates must come in pairs; a string that is skipped is only checked for form.
-/
namespace Handoff.Json

def lowerHex (n : Nat) : Char := Nat.digitChar n

/-- How a character is written inside quotes. -/
def escapeChar (c : Char) : List Char :=
  if c = '"' then ['\\', '"']
  else if c = '\\' then ['\\', '\\']
  else if c = '\x08' then ['\\', 'b']
  else if c = '\t' then ['\\', 't']
  else if c = '\n' then ['\\', 'n']
  else if c = '\x0c' then ['\\', 'f']
  else if c = '\r' then ['\\', 'r']
  else if c.toNat < 32 then
    ['\\', 'u', '0', '0', lowerHex (c.toNat / 16), lowerHex (c.toNat % 16)]
  else [c]

def quote (s : List Char) : List Char := '"' :: s.flatMap escapeChar ++ ['"']

def hexValue? (c : Char) : Option Nat :=
  if '0' ≤ c && c ≤ '9' then some (c.toNat - '0'.toNat)
  else if 'a' ≤ c && c ≤ 'f' then some (c.toNat - 'a'.toNat + 10)
  else if 'A' ≤ c && c ≤ 'F' then some (c.toNat - 'A'.toNat + 10)
  else none

/-- Length of the encoded text. -/
def octets (s : List Char) : Nat := s.foldl (fun n c => n + c.utf8Size) 0

/-- Reads four hexadecimal digits. The text counts as ended when fewer than four octets are left. -/
def readHex : Reader Nat
  | a :: b :: c :: d :: rest =>
    match hexValue? a, hexValue? b, hexValue? c, hexValue? d with
    | some a, some b, some c, some d => .ok (((a * 16 + b) * 16 + c) * 16 + d, rest)
    | _, _, _, _ => .error .malformed
  | s => if octets s < 4 then .error .ended else .error .malformed

def isHighSurrogate (n : Nat) : Bool := 0xD800 ≤ n && n ≤ 0xDBFF

def isLowSurrogate (n : Nat) : Bool := 0xDC00 ≤ n && n ≤ 0xDFFF

/-- The character that a pair of surrogates stands for. -/
def joinSurrogates (high low : Nat) : Char :=
  Char.ofNat (0x10000 + (high - 0xD800) * 0x400 + (low - 0xDC00))

/-- Reads the second half of a pair of surrogates. -/
def readLow (high : Nat) : Reader Char
  | [] => .error .ended
  | '\\' :: [] => .error .ended
  | '\\' :: 'u' :: rest =>
    match readHex rest with
    | .error e => .error e
    | .ok (low, rest) =>
      if isLowSurrogate low then .ok (joinSurrogates high low, rest) else .error .malformed
  | _ => .error .malformed

/-- Reads what follows a backslash and the letter u. -/
def readUnicode (s : List Char) : Except Fault (Char × List Char) :=
  match readHex s with
  | .error e => .error e
  | .ok (n, rest) =>
    if isLowSurrogate n then .error .malformed
    else if isHighSurrogate n then readLow n rest
    else .ok (Char.ofNat n, rest)

/-- Reads what follows a backslash. -/
def readEscape : Reader Char
  | [] => .error .ended
  | '"' :: rest => .ok ('"', rest)
  | '\\' :: rest => .ok ('\\', rest)
  | '/' :: rest => .ok ('/', rest)
  | 'b' :: rest => .ok ('\x08', rest)
  | 'f' :: rest => .ok ('\x0c', rest)
  | 'n' :: rest => .ok ('\n', rest)
  | 'r' :: rest => .ok ('\r', rest)
  | 't' :: rest => .ok ('\t', rest)
  | 'u' :: rest => readUnicode rest
  | _ => .error .malformed

/-- Reads one character as written, or the closing quote. -/
def readUnit : Reader (Option Char)
  | [] => .error .ended
  | '"' :: rest => .ok (none, rest)
  | '\\' :: rest => (readEscape rest).map fun (c, rest) => (some c, rest)
  | c :: rest => if c.toNat < 32 then .error .malformed else .ok (some c, rest)

/-- The same, checked for form only. -/
def skipUnit : Reader Bool
  | [] => .error .ended
  | '"' :: rest => .ok (false, rest)
  | '\\' :: 'u' :: rest => (readHex rest).map fun (_, rest) => (true, rest)
  | '\\' :: rest => (readEscape rest).map fun (_, rest) => (true, rest)
  | c :: rest => if c.toNat < 32 then .error .malformed else .ok (true, rest)

def readUnits : Nat → Reader (List Char)
  | 0, _ => .error .ended
  | n + 1, s =>
    match readUnit s with
    | .error e => .error e
    | .ok (none, rest) => .ok ([], rest)
    | .ok (some c, rest) => (readUnits n rest).map fun (cs, rest) => (c :: cs, rest)

def skipUnits : Nat → List Char → Except Fault (List Char)
  | 0, _ => .error .ended
  | n + 1, s =>
    match skipUnit s with
    | .error e => .error e
    | .ok (false, rest) => .ok rest
    | .ok (true, rest) => skipUnits n rest

/-- Reads a string whose opening quote is read. Every character written takes at least one. -/
def readString (s : List Char) : Except Fault (List Char × List Char) := readUnits (s.length + 1) s

/-- Skips a string whose opening quote is read. -/
def skipString (s : List Char) : Except Fault (List Char) := skipUnits (s.length + 1) s

end Handoff.Json
