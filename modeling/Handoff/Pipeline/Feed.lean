import Handoff.Text.Lines
import Handoff.Text.Utf8
/-!
# Input of a pipeline

Input arrives in pieces, and after the last piece it ends, or fails. Lines are cut from what has
arrived. A line is given out as soon as its line feed has arrived; what is left when the input ends
is the last line, and is lost when the input fails. Every line must be UTF-8, its line feed
included.
-/
namespace Handoff.Pipeline

/-- How input ends. -/
inductive Ending
  | clean
  | failure (text : String)
deriving DecidableEq, Repr

structure Feed where
  /-- Pieces still to arrive. -/
  coming : List Bytes := []
  ending : Ending := .clean
  /-- Arrived and not yet given out as lines. -/
  pending : Bytes := []
  /-- The end has been reached. -/
  ended : Bool := false
deriving DecidableEq, Repr

/-- What a reader of lines finds. -/
inductive LineRead
  | line (content : Bytes) (rest : Feed)
  | failed (text : String)
  | finished
  | nothing
deriving DecidableEq, Repr

namespace Feed

/-- The next piece arrives, or the end after the last one. -/
def arrive (f : Feed) : Feed :=
  match f.coming with
  | [] => { f with ended := true }
  | piece :: rest => { f with coming := rest, pending := f.pending ++ piece }

/-- Gives out a line, with what is left after it. -/
def giveOut (f : Feed) (line rest : Bytes) : LineRead :=
  match Text.Utf8.decode line with
  | .ok _ => .line (Text.Lines.content line) { f with pending := rest }
  | .error fault => .failed fault.message

def next (f : Feed) : LineRead :=
  match Text.Lines.cut? f.pending with
  | some (line, rest) => f.giveOut line rest
  | none =>
    if f.ended then
      match f.ending with
      | .failure text => .failed text
      | .clean => if f.pending.isEmpty then .finished else f.giveOut f.pending []
    else .nothing

end Feed
end Handoff.Pipeline
