/-!
# Digits and unsigned numbers

An unsigned number is written with at least one ASCII digit, after at most one plus sign, and with
nothing else. It must fit into 64 bits.
-/
namespace Handoff.Text

/-- Numbers below this one fit into 64 bits. -/
def wordLimit : Nat := 18446744073709551616

def isDigit (c : Char) : Bool := '0' ≤ c && c ≤ '9'

def digitsValue (digits : List Char) : Nat :=
  digits.foldl (fun n c => 10 * n + (c.toNat - '0'.toNat)) 0

/-- The value of digits alone. -/
def digits? (s : List Char) : Option Nat :=
  if s.isEmpty || !s.all isDigit then none
  else
    let n := digitsValue s
    if n < wordLimit then some n else none

def unsigned? (s : List Char) : Option Nat :=
  match s with
  | '+' :: rest => digits? rest
  | s => digits? s

end Handoff.Text
