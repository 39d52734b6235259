/-!
# Lengths of time

A length of time is a whole number of nanoseconds. It is written in the largest unit, among
seconds, milliseconds, microseconds and nanoseconds, of which it holds at least one whole. What
remains follows a point as a decimal fraction, never rounded and without zeros at its end.
-/
namespace Handoff

structure Duration where
  nanoseconds : Nat
deriving DecidableEq, Repr

namespace Duration

def ofMilliseconds (n : Nat) : Duration := ⟨n * 1000000⟩

def ofSeconds (seconds nanoseconds : Nat) : Duration := ⟨seconds * 1000000000 + nanoseconds⟩

def milliseconds (d : Duration) : Nat := d.nanoseconds / 1000000

/-- The decimal digits of `n`, with zeros in front up to the width. -/
def padded (width n : Nat) : List Char :=
  let digits := Nat.toDigits 10 n
  List.replicate (width - digits.length) '0' ++ digits

/-- The text after the digits without the zeros at its end. -/
def withoutTrailingZeros (digits : List Char) : List Char :=
  (digits.reverse.dropWhile (· = '0')).reverse

/-- `n` in a unit of ten to the `places` nanoseconds. -/
def inUnit (places n : Nat) (unit : String) : String :=
  let whole := n / Nat.pow 10 places
  let rest := n % Nat.pow 10 places
  let fraction :=
    if rest = 0 then "" else "." ++ String.ofList (withoutTrailingZeros (padded places rest))
  toString whole ++ fraction ++ unit

def text (d : Duration) : String :=
  let n := d.nanoseconds
  if 1000000000 ≤ n then inUnit 9 n "s"
  else if 1000000 ≤ n then inUnit 6 n "ms"
  else if 1000 ≤ n then inUnit 3 n "µs"
  else inUnit 0 n "ns"

end Duration
end Handoff
