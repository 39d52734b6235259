import Handoff.Json.Basic
/-!
# Numbers

A number that is read is a natural number of 64 bits written with digits only, or some other
number. One whose value is too large for a double counts as malformed. A number that is skipped may
have any value; there an end of the text inside the number counts as malformed too.
-/
namespace Handoff.Json

open Handoff.Text (isDigit digitsValue wordLimit)

inductive Number
  | natural (n : Nat)
  | other
deriving DecidableEq, Repr

/-- Values from here on round to infinity: half a step above the largest double. -/
def overflowBound : Nat := Nat.pow 2 1024 - Nat.pow 2 970

/-- Whether the mantissa times ten to the exponent is too large for a double. Far from the bound the
number of digits decides. -/
def overflows (mantissa : Nat) (exponent : Int) : Bool :=
  if mantissa = 0 then false
  else
    let magnitude : Int := (Nat.toDigits 10 mantissa).length + exponent
    if magnitude < 300 then false
    else if 320 < magnitude then true
    else if 0 ≤ exponent then overflowBound ≤ mantissa * Nat.pow 10 exponent.toNat
    else overflowBound * Nat.pow 10 (-exponent).toNat ≤ mantissa

/-- Reads the exponent after its letter. -/
def readExponent (s : List Char) : Except Fault (Int × List Char) :=
  let (negative, s) :=
    match s with
    | '+' :: rest => (false, rest)
    | '-' :: rest => (true, rest)
    | s => (false, s)
  match s with
  | [] => .error .ended
  | c :: _ =>
    if isDigit c then
      let n : Int := digitsValue (s.takeWhile isDigit)
      .ok (if negative then -n else n, s.dropWhile isDigit)
    else .error .malformed

/-- A number that is not written with digits only. -/
def otherNumber (mantissa : Nat) (exponent : Int) (rest : List Char) :
    Except Fault (Number × List Char) :=
  if overflows mantissa exponent then .error .malformed else .ok (.other, rest)

/-- Reads what may follow the fraction: an exponent. -/
def readAfterFraction (mantissa : Nat) (exponent : Int) (s : List Char) :
    Except Fault (Number × List Char) :=
  match s with
  | 'e' :: rest | 'E' :: rest =>
    match readExponent rest with
    | .error e => .error e
    | .ok (n, rest) => otherNumber mantissa (exponent + n) rest
  | s => otherNumber mantissa exponent s

/-- Reads what follows the whole part. -/
def readAfterWhole (negative : Bool) (whole : Nat) (s : List Char) :
    Except Fault (Number × List Char) :=
  match s with
  | '.' :: rest =>
    match rest with
    | [] => .error .ended
    | c :: _ =>
      if isDigit c then
        let digits := rest.takeWhile isDigit
        readAfterFraction (whole * Nat.pow 10 digits.length + digitsValue digits) (-digits.length)
          (rest.dropWhile isDigit)
      else .error .malformed
  | 'e' :: _ | 'E' :: _ => readAfterFraction whole 0 s
  | s =>
    if !negative && whole < wordLimit then .ok (.natural whole, s) else otherNumber whole 0 s

/-- Reads a number after its sign. -/
def readUnsigned (negative : Bool) (s : List Char) : Except Fault (Number × List Char) :=
  match s with
  | [] => .error .ended
  | '0' :: rest =>
    match rest with
    | c :: _ => if isDigit c then .error .malformed else readAfterWhole negative 0 rest
    | [] => readAfterWhole negative 0 rest
  | c :: _ =>
    if isDigit c then
      readAfterWhole negative (digitsValue (s.takeWhile isDigit)) (s.dropWhile isDigit)
    else .error .malformed

/-- Reads a number, from its sign or first digit on. -/
def readNumber : Reader Number
  | '-' :: rest => readUnsigned true rest
  | s => readUnsigned false s

/-- At least one digit. -/
def skipDigits (s : List Char) : Except Fault (List Char) :=
  match s with
  | c :: _ => if isDigit c then .ok (s.dropWhile isDigit) else .error .malformed
  | [] => .error .malformed

def skipExponent (s : List Char) : Except Fault (List Char) :=
  match s with
  | '+' :: rest | '-' :: rest => skipDigits rest
  | s => skipDigits s

def skipAfterFraction (s : List Char) : Except Fault (List Char) :=
  match s with
  | 'e' :: rest | 'E' :: rest => skipExponent rest
  | s => .ok s

def skipAfterWhole (s : List Char) : Except Fault (List Char) :=
  match s with
  | '.' :: rest =>
    match skipDigits rest with
    | .error e => .error e
    | .ok rest => skipAfterFraction rest
  | s => skipAfterFraction s

def skipUnsigned (s : List Char) : Except Fault (List Char) :=
  match s with
  | '0' :: rest =>
    match rest with
    | c :: _ => if isDigit c then .error .malformed else skipAfterWhole rest
    | [] => skipAfterWhole rest
  | s =>
    match skipDigits s with
    | .error e => .error e
    | .ok rest => skipAfterWhole rest

/-- Skips a number, from its sign or first digit on. -/
def skipNumber (s : List Char) : Except Fault (List Char) :=
  match s with
  | '-' :: rest => skipUnsigned rest
  | s => skipUnsigned s

end Handoff.Json
