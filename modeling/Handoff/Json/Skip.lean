import Handoff.Json.Number
import Handoff.Json.Quoted
/-!
# Skipping a value

A value that nobody wants is checked for form and passed over, however deep it is nested. The open
lists and objects around the place of reading are kept on a stack, so that skipping is one loop.
-/
namespace Handoff.Json

open Handoff.Text (isDigit)

inductive Frame
  | list
  | object
deriving DecidableEq, Repr

/-- What is expected next. -/
inductive Expected
  | value
  /-- a first item, or the end of what was just opened -/
  | first
  /-- an item, with its name in an object -/
  | item
  /-- a comma or the end of what is open -/
  | next
deriving DecidableEq, Repr

/-- Skips a value that is neither list nor object, from its first character on. -/
def skipScalar (s : List Char) : Except Fault (List Char) :=
  match s with
  | [] => .error .ended
  | '"' :: rest => skipString rest
  | 'n' :: rest => readWord ['u', 'l', 'l'] rest
  | 't' :: rest => readWord ['r', 'u', 'e'] rest
  | 'f' :: rest => readWord ['a', 'l', 's', 'e'] rest
  | c :: _ => if c = '-' || isDigit c then skipNumber s else .error .malformed

/-- Skips the name of a member and the colon after it. -/
def skipName (s : List Char) : Except Fault (List Char) :=
  match skipBlank s with
  | [] => .error .ended
  | '"' :: rest =>
    match skipString rest with
    | .error e => .error e
    | .ok rest =>
      match skipBlank rest with
      | [] => .error .ended
      | ':' :: rest => .ok rest
      | _ => .error .malformed
  | _ => .error .malformed

/-- Whether the character closes the frame. -/
def Frame.closedBy : Frame → Char → Bool
  | .list, c => c = ']'
  | .object, c => c = '}'

/-- Skips on until the stack is empty and its last value is read. -/
def skipFrom : Nat → Expected → List Frame → List Char → Except Fault (List Char)
  | 0, _, _, _ => .error .ended
  | n + 1, .value, stack, s =>
    match skipBlank s with
    | '[' :: rest => skipFrom n .first (.list :: stack) rest
    | '{' :: rest => skipFrom n .first (.object :: stack) rest
    | s =>
      match skipScalar s with
      | .error e => .error e
      | .ok rest => skipFrom n .next stack rest
  | n + 1, .first, stack, s =>
    match stack, skipBlank s with
    | _, [] => .error .ended
    | [], c :: rest => skipFrom n .item [] (c :: rest)
    | frame :: outer, c :: rest =>
      if frame.closedBy c then skipFrom n .next outer rest
      else skipFrom n .item (frame :: outer) (c :: rest)
  | n + 1, .item, stack, s =>
    match stack with
    | .object :: _ =>
      match skipName s with
      | .error e => .error e
      | .ok rest => skipFrom n .value stack rest
    | _ => skipFrom n .value stack s
  | n + 1, .next, stack, s =>
    match stack with
    | [] => .ok s
    | frame :: outer =>
      match skipBlank s with
      | [] => .error .ended
      | c :: rest =>
        if c = ',' then skipFrom n .item (frame :: outer) rest
        else if frame.closedBy c then skipFrom n .next outer rest
        else .error .malformed

/-- Skips one value. Every character takes at most three turns of the loop. -/
def skipValue (s : List Char) : Except Fault (List Char) :=
  skipFrom (3 * s.length + 4) .value [] s

end Handoff.Json
