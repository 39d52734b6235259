/-!
# Shortest decimals of doubles

A natural number is rounded to the nearest double, ties to even, and written with the fewest
significant digits that still round to that double, padded with zeros. Of several such decimals the
nearest one is written. All of it is exact arithmetic on natural numbers.
-/
namespace Handoff.Decimal

/-- A double that is a natural number: a significand of at most 53 bits times a power of two. -/
structure Double where
  significand : Nat
  exponent : Nat
deriving DecidableEq, Repr

namespace Double

/-- Distance to the next greater double. -/
def unit (d : Double) : Nat := Nat.pow 2 d.exponent

def value (d : Double) : Nat := d.significand * d.unit

/-- The least significand of 53 bits. -/
def leading : Nat := 4503599627370496

/-- The double nearest to a natural number. -/
def nearest (n : Nat) : Double :=
  let exponent := n.log2 - 52
  let unit := Nat.pow 2 exponent
  let half := unit / 2
  let whole := n / unit
  let rest := n % unit
  let up := exponent ≠ 0 && (half < rest || (half = rest && whole % 2 = 1))
  let significand := if up then whole + 1 else whole
  if significand = 2 * leading then ⟨leading, exponent + 1⟩ else ⟨significand, exponent⟩

/-- Whether a natural number rounds to the double. Below a power of two the doubles lie twice as
dense. The ends of the interval belong to it when the significand is even. -/
def covers (d : Double) (n : Nat) : Bool :=
  let below := if d.significand = leading then d.unit else 2 * d.unit
  let low := 4 * d.value - below
  let high := 4 * d.value + 2 * d.unit
  if d.significand % 2 = 0 then low ≤ 4 * n && 4 * n ≤ high else low < 4 * n && 4 * n < high

/-- The neighbours of the double among the multiples of a power of ten, the nearer one first. -/
def neighbours (d : Double) (places : Nat) : List Nat :=
  let step := Nat.pow 10 places
  let low := d.value / step * step
  let high := low + step
  if d.value - low < high - d.value then [low, high] else [high, low]

/-- The decimal with the most zeros at its end, at most so many, that rounds to the double. -/
def shortestWithin (d : Double) : Nat → Nat
  | 0 => d.value
  | places + 1 =>
    match (d.neighbours (places + 1)).find? d.covers with
    | some n => n
    | none => d.shortestWithin places

def shortest (d : Double) : Nat := d.shortestWithin (Nat.toDigits 10 d.value).length

end Double

/-- The decimal that stands for a natural number held as a double. -/
def shortest (n : Nat) : Nat := (Double.nearest n).shortest

end Handoff.Decimal
