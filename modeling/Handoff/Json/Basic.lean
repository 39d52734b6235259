import Handoff.Text.Digits
/-!
# Reading JSON text

Readers take characters from the front of a text and give a value and the rest. A reader stops at
the first fault it meets from left to right. Faults are told apart only by kind.
-/
namespace Handoff.Json

inductive Fault
  /-- the text is not JSON at this point -/
  | malformed
  /-- the text ends too early -/
  | ended
  /-- well formed so far, and not the value that is wanted -/
  | mismatched
deriving DecidableEq, Repr

/-- A reader gives a value and the text that follows it. -/
abbrev Reader (α : Type) := List Char → Except Fault (α × List Char)

def isBlank (c : Char) : Bool := c = ' ' || c = '\n' || c = '\t' || c = '\r'

def skipBlank (s : List Char) : List Char := s.dropWhile isBlank

/-- Reads the rest of a word whose first letter is read. -/
def readWord : List Char → List Char → Except Fault (List Char)
  | [], s => .ok s
  | _ :: _, [] => .error .ended
  | c :: word, d :: s => if c = d then readWord word s else .error .malformed

/-- Reads a whole text: a value and nothing but blanks after it. -/
def readAll {α : Type} (read : Reader α) (text : List Char) : Except Fault α :=
  match read text with
  | .error e => .error e
  | .ok (value, rest) =>
    match skipBlank rest with
    | [] => .ok value
    | _ :: _ => .error .malformed

end Handoff.Json
