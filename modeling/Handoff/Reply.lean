import Handoff.Message
/-!
# Replies

Every transaction has one answer slot that it shares with its sender. The slot is written at most
once: by an answer, or by letting the transaction go unanswered. The sender takes the outcome out
at most once; a later look finds the slot empty, which reads as `dropped`.
-/
namespace Handoff

/-- What the sender of a transaction may learn. -/
inductive Outcome
  | delivered
  | rejected (reason : String)
  | stageClosed
  | dropped
deriving DecidableEq, Repr

/-- The text of a failed outcome. -/
def Outcome.problem? : Outcome → Option String
  | .delivered => none
  | .rejected reason => some ("rejected by consumer: " ++ reason)
  | .stageClosed => some "stage closed before the transaction was handed off"
  | .dropped => some "transaction dropped without a response"

/-- The slot shared by a transaction and its sender. -/
structure Reply where
  /-- Set once, when the transaction is answered or let go. -/
  outcome : Option Outcome := none
  /-- The sender still holds its end. -/
  listening : Bool := true
  /-- The sender has looked and found an outcome. -/
  taken : Bool := false
deriving DecidableEq, Repr

namespace Reply

/-- Unanswered, with a sender that listens. -/
def fresh : Reply := {}

/-- The first answer stays. -/
def answer (r : Reply) (o : Outcome) : Reply :=
  match r.outcome with
  | none => { r with outcome := some o }
  | some _ => r

/-- The sender looks without waiting. Nothing yet leaves the slot as it is. -/
def look (r : Reply) : Option Outcome × Reply :=
  match r.outcome with
  | none => (none, r)
  | some o => (some (if r.taken then .dropped else o), { r with taken := true })

/-- What a sender finds that waits for the outcome. Waiting again on a slot that was already
emptied is a mistake of the sender and is reported as such. -/
inductive Awaited
  | pending
  | settled (o : Outcome)
  | alreadyTaken
deriving DecidableEq, Repr

def await (r : Reply) : Awaited :=
  if r.taken then .alreadyTaken
  else match r.outcome with
    | none => .pending
    | some o => .settled o

def stopListening (r : Reply) : Reply := { r with listening := false }

@[simp] theorem outcome_answer (r : Reply) (o : Outcome) :
    (r.answer o).outcome = some (r.outcome.getD o) := by
  unfold answer; split <;> simp_all

@[simp] theorem listening_answer (r : Reply) (o : Outcome) :
    (r.answer o).listening = r.listening := by
  unfold answer; split <;> rfl

@[simp] theorem outcome_look (r : Reply) : r.look.2.outcome = r.outcome := by
  unfold look; split <;> simp_all

end Reply

/-- The slots of all transactions issued so far, by serial number. -/
structure Replies where
  slots : List Reply := []
deriving DecidableEq, Repr

namespace Replies

/-- The serial number of the next transaction. -/
def next (rs : Replies) : Nat := rs.slots.length

/-- Opens the slot of one more transaction. -/
def issue (rs : Replies) : Replies := ⟨rs.slots ++ [.fresh]⟩

def get (rs : Replies) (serial : Nat) : Reply := rs.slots.getD serial .fresh

def modify (rs : Replies) (serial : Nat) (f : Reply → Reply) : Replies :=
  ⟨rs.slots.modify serial f⟩

def answer (rs : Replies) (serial : Nat) (o : Outcome) : Replies :=
  rs.modify serial (·.answer o)

/-- The transaction is let go: its sender will see `dropped`, unless it was answered before. -/
def release (rs : Replies) (serial : Nat) : Replies := rs.answer serial .dropped

/-- Lets go of several transactions. -/
def releaseAll (rs : Replies) (ts : List Transaction) : Replies :=
  ts.foldl (fun rs t => rs.release t.serial) rs

@[simp] theorem next_modify (rs : Replies) (serial : Nat) (f : Reply → Reply) :
    (rs.modify serial f).next = rs.next := by
  simp [modify, next]

@[simp] theorem next_issue (rs : Replies) : rs.issue.next = rs.next + 1 := by
  simp [issue, next]

theorem get_modify_same {rs : Replies} {serial : Nat} (h : serial < rs.next) (f : Reply → Reply) :
    (rs.modify serial f).get serial = f (rs.get serial) := by
  have h' : serial < rs.slots.length := h
  simp [get, modify, List.getD_eq_getElem?_getD, h']

theorem get_modify_other {rs : Replies} {serial other : Nat} (h : serial ≠ other)
    (f : Reply → Reply) : (rs.modify serial f).get other = rs.get other := by
  simp [get, modify, List.getD_eq_getElem?_getD, h]

end Replies
end Handoff
