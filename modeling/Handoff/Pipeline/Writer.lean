import Handoff.Message
/-!
# Output of a pipeline

Bytes are handed to a destination in calls. Each call takes some of the bytes or fails, and the
destination decides this from the number of calls before. Writing everything means calling until no
byte is left; a call that takes nothing is a failure. What was taken before a failure stays.
-/
namespace Handoff.Pipeline

/-- What a destination does with a call. -/
inductive Acceptance
  /-- takes at most so many bytes -/
  | upTo (limit : Nat)
  | everything
  | failure (text : String)
deriving DecidableEq, Repr

structure Writer where
  /-- By the number of calls before. -/
  accept : Nat → Acceptance := fun _ => .everything
  /-- Whether what was taken can be made final in the end. -/
  flushFailure : Option String := none
  calls : Nat := 0
  output : Bytes := []

namespace Writer

/-- One call. Gives the bytes that were not taken. -/
def call (w : Writer) (bytes : Bytes) : Except String Bytes × Writer :=
  let taken (n : Nat) : Except String Bytes × Writer :=
    if n = 0 then (.error "write zero", { w with calls := w.calls + 1 })
    else
      (.ok (bytes.drop n),
        { w with calls := w.calls + 1, output := w.output ++ bytes.take n })
  match w.accept w.calls with
  | .failure text => (.error text, { w with calls := w.calls + 1 })
  | .upTo limit => taken limit
  | .everything => taken bytes.length

/-- Calls until no byte is left. A call that does not fail takes at least one. -/
def writeWithin : Nat → Writer → Bytes → Except String Unit × Writer
  | _, w, [] => (.ok (), w)
  | 0, w, _ :: _ => (.ok (), w)
  | n + 1, w, b :: bytes =>
    match w.call (b :: bytes) with
    | (.error text, w) => (.error text, w)
    | (.ok rest, w) => writeWithin n w rest

def write (w : Writer) (bytes : Bytes) : Except String Unit × Writer :=
  writeWithin bytes.length w bytes

/-- Every part on a line of its own. The first failure ends it. -/
def writeParts (w : Writer) : List Bytes → Except String Unit × Writer
  | [] => (.ok (), w)
  | part :: rest =>
    match w.write part with
    | (.error text, w) => (.error text, w)
    | (.ok _, w) =>
      match w.write [10] with
      | (.error text, w) => (.error text, w)
      | (.ok _, w) => w.writeParts rest

def writeMessage (w : Writer) (m : Message) : Except String Unit × Writer := w.writeParts m.parts

def flush (w : Writer) : Except String Unit :=
  match w.flushFailure with
  | some text => .error text
  | none => .ok ()

end Writer
end Handoff.Pipeline
