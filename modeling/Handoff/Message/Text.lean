import Handoff.Json.Record
import Handoff.Message
/-!
# Messages as text

A message is written as an object with the one member `parts`, a list of lists of byte values. It is
read back from any object that holds this member once.
-/
namespace Handoff.Message

/-- Items between brackets, with commas. -/
def bracketed (items : List (List Char)) : List Char := '[' :: [','].intercalate items ++ [']']

def partText (part : Bytes) : List Char := bracketed (part.map fun b => Nat.toDigits 10 b.toNat)

def fieldName : List Char := ['p', 'a', 'r', 't', 's']

/-- The text of a message. -/
def toText (m : Message) : List Char :=
  '{' :: Json.quote fieldName ++ ':' :: bracketed (m.parts.map partText) ++ ['}']

def read : Json.Reader Message := fun s =>
  match Json.readRecord fieldName (Json.readList (Json.readList Json.readByte)) none s with
  | .error e => .error e
  | .ok (parts, rest) => .ok (⟨parts⟩, rest)

/-- The message a text holds. -/
def ofText? (text : List Char) : Except Json.Fault Message := Json.readAll read text

end Handoff.Message
