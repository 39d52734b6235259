import Handoff.Proofs.Replies

/-!
# What a sender finds when it looks

The sender of a transaction may look for the outcome as often as it likes and may at last wait for
it. The ledger holds one outcome for each transaction, which does not change any more once it is
written. Yet looking takes it out: the first look that finds it has it, every later one finds
`dropped` whatever it was, and a sender that then waits makes a mistake. What happens to other
transactions has no part in this.
-/
namespace Handoff

/-- The ways in which a transaction ends. -/
inductive Ending
  | respond (o : Outcome)
  | ack
  | reject (reason : String)
  /-- the payload is taken out -/
  | unpack
  | drop
deriving DecidableEq, Repr

/-- What its sender is to learn. -/
def Ending.outcome : Ending → Outcome
  | .respond o => o
  | .ack => .delivered
  | .reject reason => .rejected reason
  | .unpack | .drop => .dropped

namespace Replies

/-- What can happen in a ledger. -/
inductive Act
  | issue
  /-- a sender looks without waiting -/
  | look (serial : Nat)
  /-- a sender goes away -/
  | leave (serial : Nat)
  | finish (serial : Nat) (e : Ending)
deriving DecidableEq, Repr

def after (rs : Replies) : Act → Replies
  | .issue => rs.issue
  | .look n => rs.modify n (·.look.2)
  | .leave n => rs.modify n Reply.stopListening
  | .finish n e => rs.answer n e.outcome

def afterAll (rs : Replies) (as : List Act) : Replies := as.foldl after rs

/-- What the sender of a transaction finds, look by look. -/
def findings (serial : Nat) : Replies → List Act → List (Option Outcome)
  | _, [] => []
  | rs, a :: as =>
    (if a = .look serial then [(rs.get serial).look.1] else []) ++ findings serial (rs.after a) as

variable {rs : Replies} {serial : Nat} {o : Outcome} {a : Act} {as bs : List Act}

theorem get_issue (h : serial < rs.next) : rs.issue.get serial = rs.get serial := by
  have h' : serial < rs.slots.length := h
  simp [get, issue, List.getD_eq_getElem?_getD, List.getElem?_append_left h']

theorem get_modify (h : serial < rs.next) (n : Nat) (f : Reply → Reply) :
    (rs.modify n f).get serial = if n = serial then f (rs.get serial) else rs.get serial := by
  split
  · rename_i hn
    subst hn
    exact get_modify_same h f
  · exact get_modify_other ‹_› f

theorem next_le_after (rs : Replies) (a : Act) : rs.next ≤ (rs.after a).next := by
  cases a with
  | issue => exact (next_issue rs).symm ▸ Nat.le_succ _
  | look | leave => exact Nat.le_of_eq (next_modify ..).symm
  | finish => exact Nat.le_of_eq (next_answer ..).symm

theorem next_le_afterAll (rs : Replies) (as : List Act) : rs.next ≤ (rs.afterAll as).next := by
  induction as generalizing rs with
  | nil => exact Nat.le_refl _
  | cons a as ih => exact Nat.le_trans (next_le_after rs a) (ih _)

theorem findings_append (serial : Nat) (rs : Replies) (as bs : List Act) :
    rs.findings serial (as ++ bs) =
      rs.findings serial as ++ (rs.afterAll as).findings serial bs := by
  induction as generalizing rs with
  | nil => rfl
  | cons a as ih =>
    rw [List.cons_append, findings, findings, ih, List.append_assoc]
    rfl

/-- The slot of a transaction that has not ended, after anything but its end. -/
theorem get_after_open (h : serial < rs.next) (ho : (rs.get serial).outcome = none)
    (ha : ∀ e, a ≠ .finish serial e) :
    ((rs.after a).get serial).outcome = none ∧
      ((rs.after a).get serial).taken = (rs.get serial).taken := by
  cases a with
  | issue =>
    rw [after, get_issue h]
    exact ⟨ho, rfl⟩
  | look n =>
    rw [after, get_modify h]
    split <;> simp [Reply.look, ho]
  | leave n =>
    rw [after, get_modify h]
    split <;> simp [Reply.stopListening, ho]
  | finish n e =>
    have hn : n ≠ serial := fun hn => ha e (hn ▸ rfl)
    rw [after, answer, get_modify_other hn]
    exact ⟨ho, rfl⟩

/-- The end writes an open slot and takes nothing out of it. -/
theorem get_after_end (h : serial < rs.next) (ho : (rs.get serial).outcome = none) (e : Ending) :
    (rs.after (.finish serial e)).get serial =
      { rs.get serial with outcome := some e.outcome } := by
  rw [after, answer, get_modify_same h, Reply.answer, ho]

/-- The slot of a transaction that has ended, after anything. -/
theorem get_after_settled (h : serial < rs.next) (ho : (rs.get serial).outcome = some o) :
    ((rs.after a).get serial).outcome = some o ∧
      ((rs.after a).get serial).taken = ((rs.get serial).taken || decide (a = .look serial)) := by
  cases a with
  | issue =>
    rw [after, get_issue h]
    simp [ho]
  | look n =>
    rw [after, get_modify h]
    by_cases hn : n = serial <;> simp [Reply.look, ho, hn]
  | leave n =>
    rw [after, get_modify h]
    split <;> simp [Reply.stopListening, ho]
  | finish n e =>
    rw [after, answer, get_modify h]
    split <;> simp [Reply.answer, ho]

/-- Until its transaction ends, a sender finds nothing. -/
theorem findings_open (h : serial < rs.next) (ho : (rs.get serial).outcome = none)
    (ha : ∀ e, .finish serial e ∉ as) :
    rs.findings serial as = List.replicate (as.count (.look serial)) none ∧
      ((rs.afterAll as).get serial).outcome = none ∧
      ((rs.afterAll as).get serial).taken = (rs.get serial).taken := by
  induction as generalizing rs with
  | nil => exact ⟨rfl, ho, rfl⟩
  | cons a as ih =>
    obtain ⟨ho', ht'⟩ := get_after_open h ho fun e he => ha e (he ▸ List.mem_cons_self)
    obtain ⟨hf, hopen, htaken⟩ := ih (Nat.lt_of_lt_of_le h (next_le_after rs a)) ho'
      fun e he => ha e (List.mem_cons_of_mem _ he)
    refine ⟨?_, hopen, htaken.trans ht'⟩
    rw [findings, hf]
    by_cases hl : a = .look serial
    · simp [hl, Reply.look, ho, List.replicate_succ]
    · simp [hl]

/-- What a sender finds from then on: the outcome, and after it `dropped`. -/
def foundAfter (o : Outcome) : Nat → List (Option Outcome)
  | 0 => []
  | n + 1 => some o :: List.replicate n (some .dropped)

@[simp] theorem foundAfter_succ (o : Outcome) (n : Nat) :
    foundAfter o (n + 1) = some o :: List.replicate n (some .dropped) := rfl

@[simp] theorem foundAfter_dropped (n : Nat) :
    foundAfter .dropped n = List.replicate n (some .dropped) := by
  cases n <;> rfl

/-- What looks find of a transaction that has ended. A slot that was emptied reads as `dropped`. -/
theorem findings_settled (as : List Act) (h : serial < rs.next)
    (ho : (rs.get serial).outcome = some o) :
    rs.findings serial as =
        foundAfter (if (rs.get serial).taken then .dropped else o) (as.count (.look serial)) ∧
      ((rs.afterAll as).get serial).outcome = some o ∧
      ((rs.afterAll as).get serial).taken =
        ((rs.get serial).taken || decide (0 < as.count (.look serial))) := by
  induction as generalizing rs with
  | nil => exact ⟨rfl, ho, by simp [afterAll]⟩
  | cons a as ih =>
    obtain ⟨ho', ht'⟩ := get_after_settled (a := a) h ho
    obtain ⟨hf, hsettled, htaken⟩ := ih (Nat.lt_of_lt_of_le h (next_le_after rs a)) ho'
    rw [ht'] at hf htaken
    refine ⟨?_, hsettled, htaken.trans ?_⟩
    · rw [findings, hf]
      by_cases hl : a = .look serial
      · simp [hl, Reply.look, ho]
      · simp [hl]
    · by_cases hl : a = .look serial <;> simp [hl]

@[simp] theorem get_issue_next (rs : Replies) : rs.issue.get rs.next = .fresh := by
  simp [get, issue, next, List.getD_eq_getElem?_getD]

/-- A transaction ends once, in whatever way, and its sender looks before and after, while anything
happens to the other transactions. It finds nothing before the end. The ledger then holds the
outcome for good, but only the first look after the end finds it; the others find `dropped`, and
a sender that waits in the end has the outcome only if it has not looked since. -/
theorem outcome_found_once (rs : Replies) (e : Ending) {before : List Act}
    (hb : ∀ e, .finish rs.next e ∉ before) (after : List Act) :
    rs.issue.findings rs.next (before ++ .finish rs.next e :: after) =
        List.replicate (before.count (.look rs.next)) none ++
          foundAfter e.outcome (after.count (.look rs.next)) ∧
      (rs.issue.afterAll (before ++ .finish rs.next e :: after)).outcome rs.next =
        some e.outcome ∧
      ((rs.issue.afterAll (before ++ .finish rs.next e :: after)).get rs.next).await =
        if after.count (.look rs.next) = 0 then .settled e.outcome else .alreadyTaken := by
  have hlt : rs.next < rs.issue.next := by simp
  obtain ⟨hfound, ho, ht⟩ := findings_open hlt (by rw [get_issue_next]; rfl) hb
  let ended := (rs.issue.afterAll before).after (.finish rs.next e)
  have hmid : rs.next < (rs.issue.afterAll before).next :=
    Nat.lt_of_lt_of_le hlt (next_le_afterAll _ before)
  have hend : ended.get rs.next =
      { (rs.issue.afterAll before).get rs.next with outcome := some e.outcome } :=
    get_after_end hmid ho e
  have htaken : (ended.get rs.next).taken = false := by
    rw [hend, ht, get_issue_next]
    rfl
  obtain ⟨hfound', ho', ht'⟩ := findings_settled after
    (Nat.lt_of_lt_of_le hmid (next_le_after _ _)) (by rw [hend])
  rw [htaken] at hfound' ht'
  have hall : rs.issue.afterAll (before ++ .finish rs.next e :: after) = ended.afterAll after :=
    List.foldl_append
  refine ⟨?_, ?_, ?_⟩
  · rw [findings_append, hfound, findings]
    exact congrArg _ hfound'
  · rw [hall]
    exact ho'
  · rw [hall, Reply.await, ho', ht']
    by_cases hc : after.count (.look rs.next) = 0
    · simp [hc]
    · simp [hc, Nat.pos_of_ne_zero hc]

/-- The sender of the second transaction looks once too early and twice after it was refused, while
the first is answered and left. -/
theorem outcome_found_once_of_refused :
    let rs : Replies := (⟨[]⟩ : Replies).issue
    let early : List Act := [.look 0, .look 1, .finish 0 .ack]
    let late : List Act := [.leave 0, .look 1, .issue, .look 0, .look 1]
    (∀ e, Act.finish rs.next e ∉ early) ∧
      rs.issue.findings 1 (early ++ .finish 1 (.reject "no") :: late) =
        [none, some (.rejected "no"), some .dropped] ∧
      ((rs.issue.afterAll (early ++ .finish 1 (.reject "no") :: late)).get 1).await =
        .alreadyTaken := by
  have hb : ∀ e, Act.finish 1 e ∉ [.look 0, .look 1, .finish 0 .ack] := by simp
  have h := outcome_found_once (⟨[]⟩ : Replies).issue (.reject "no") hb
    [.leave 0, .look 1, .issue, .look 0, .look 1]
  exact ⟨hb, h.1, h.2.2⟩

/-- A transaction was delivered, and its sender, who looks twice, is told the second time that
nobody answered; waiting instead is a mistake, although the ledger has the outcome. -/
theorem answer_lost_at_second_look :
    let rs : Replies := (⟨[]⟩ : Replies).issue
    rs.findings 0 [.finish 0 .ack, .look 0, .look 0] = [some .delivered, some .dropped] ∧
      ((rs.afterAll [.finish 0 .ack, .look 0]).get 0).await = .alreadyTaken ∧
      (rs.afterAll [.finish 0 .ack, .look 0, .look 0]).outcome 0 = some .delivered :=
  ⟨rfl, rfl, rfl⟩

end Replies
end Handoff
