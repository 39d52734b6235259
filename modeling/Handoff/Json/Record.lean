import Handoff.Json.Skip
/-!
# Records of one field

A record is read from an object that holds its field at most once, among any other members, which
are skipped; or from a list whose only item is the field. Lists of items are read here too.
-/
namespace Handoff.Json

open Handoff.Text (isDigit)

/-- The fault of a value, from its first character on, that is not of the wanted kind. -/
def mismatch (s : List Char) : Fault :=
  let scanned {α : Type} (r : Except Fault α) : Fault :=
    match r with
    | .error e => e
    | .ok _ => .mismatched
  match s with
  | [] => .ended
  | '"' :: rest => scanned (readString rest)
  | 'n' :: rest => scanned (readWord ['u', 'l', 'l'] rest)
  | 't' :: rest => scanned (readWord ['r', 'u', 'e'] rest)
  | 'f' :: rest => scanned (readWord ['a', 'l', 's', 'e'] rest)
  | c :: _ =>
    if c = '-' || isDigit c then scanned (readNumber s)
    else if c = '[' || c = '{' then .mismatched
    else .malformed

/-- A natural number below 256, written with digits only. -/
def readByte : Reader UInt8 := fun s =>
  match skipBlank s with
  | [] => .error .ended
  | c :: rest =>
    if c = '-' || isDigit c then
      match readNumber (c :: rest) with
      | .error e => .error e
      | .ok (.natural n, rest) =>
        if n < 256 then .ok (UInt8.ofNat n, rest) else .error .mismatched
      | .ok (.other, _) => .error .mismatched
    else .error (mismatch (c :: rest))

/-- A string as a list of characters. -/
def readText : Reader (List Char) := fun s =>
  match skipBlank s with
  | [] => .error .ended
  | '"' :: rest => readString rest
  | s => .error (mismatch s)

/-- The items of a list, from after its bracket or after an item on, up to its end. -/
def readItems {α : Type} (item : Reader α) : Nat → Bool → Reader (List α)
  | 0, _, _ => .error .ended
  | n + 1, isFirst, s =>
    let more (s : List Char) : Except Fault (List α × List Char) :=
      match item s with
      | .error e => .error e
      | .ok (x, rest) => (readItems item n false rest).map fun (xs, rest) => (x :: xs, rest)
    match skipBlank s with
    | [] => .error .ended
    | ']' :: rest => .ok ([], rest)
    | c :: rest =>
      if isFirst then more (c :: rest)
      else if c = ',' then
        match skipBlank rest with
        | [] => .error .ended
        | ']' :: _ => .error .malformed
        | s => more s
      else .error .malformed

def readList {α : Type} (item : Reader α) : Reader (List α) := fun s =>
  match skipBlank s with
  | [] => .error .ended
  | '[' :: rest => readItems item (rest.length + 1) true rest
  | s => .error (mismatch s)

/-- A field that was found, or what stands in for it. Without either the value does not fit. -/
def fieldOr {α : Type} (missing found : Option α) : Except Fault α :=
  match found, missing with
  | some x, _ => .ok x
  | none, some x => .ok x
  | none, none => .error .mismatched

/-- The colon after the name of a member. -/
def readColon (s : List Char) : Except Fault (List Char) :=
  match skipBlank s with
  | [] => .error .ended
  | ':' :: rest => .ok rest
  | _ => .error .malformed

/-- The members of an object, from after its brace or after a member on, up to its end. -/
def readMembers {α : Type} (field : List Char) (value : Reader α) (missing : Option α) :
    Nat → Bool → Option α → Reader α
  | 0, _, _, _ => .error .ended
  | n + 1, isFirst, found, s =>
    let member (s : List Char) : Except Fault (α × List Char) :=
      match readString s with
      | .error e => .error e
      | .ok (name, rest) =>
        if name = field then
          match found with
          | some _ => .error .mismatched
          | none =>
            match readColon rest with
            | .error e => .error e
            | .ok rest =>
              match value rest with
              | .error e => .error e
              | .ok (x, rest) => readMembers field value missing n false (some x) rest
        else
          match readColon rest with
          | .error e => .error e
          | .ok rest =>
            match skipValue rest with
            | .error e => .error e
            | .ok rest => readMembers field value missing n false found rest
    match skipBlank s with
    | [] => .error .ended
    | '}' :: rest => (fieldOr missing found).map fun x => (x, rest)
    | c :: rest =>
      if isFirst then
        if c = '"' then member rest else .error .malformed
      else if c = ',' then
        match skipBlank rest with
        | [] => .error .ended
        | '"' :: rest => member rest
        | _ => .error .malformed
      else .error .malformed

/-- The end of a list that holds no more items. -/
def readListEnd {α : Type} (x : α) (s : List Char) : Except Fault (α × List Char) :=
  match skipBlank s with
  | [] => .error .ended
  | ']' :: rest => .ok (x, rest)
  | _ => .error .malformed

/-- A record of one field, with what stands in for the field if it may be missing. -/
def readRecord {α : Type} (field : List Char) (value : Reader α) (missing : Option α) :
    Reader α := fun s =>
  match skipBlank s with
  | [] => .error .ended
  | '[' :: rest =>
    match skipBlank rest with
    | [] => .error .ended
    | ']' :: rest => (fieldOr missing none).map fun x => (x, rest)
    | s =>
      match value s with
      | .error e => .error e
      | .ok (x, rest) => readListEnd x rest
  | '{' :: rest => readMembers field value missing (rest.length + 1) true none rest
  | s => .error (mismatch s)

end Handoff.Json
