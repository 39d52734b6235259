/-!
# Messages and transactions

A message is an opaque payload: a list of byte strings called parts. A transaction is one unit of
work on its way through the pipeline. It is known by a serial number, so that the answer given to
it can be looked up in the ledger of replies whoever holds it.
-/
namespace Handoff

abbrev Bytes := List UInt8

structure Message where
  parts : List Bytes := []
deriving DecidableEq, Repr, Inhabited

namespace Message

/-- A message of one part. -/
def ofBytes (bytes : Bytes) : Message := ⟨[bytes]⟩

/-- A message whose only part is the UTF-8 encoding of the text. -/
def ofText (text : String) : Message := ofBytes text.toUTF8.toList

def size (m : Message) : Nat := m.parts.length

def isEmpty (m : Message) : Bool := m.parts.isEmpty

end Message

structure Transaction where
  serial : Nat
  payload : Message
deriving DecidableEq, Repr, Inhabited

end Handoff
