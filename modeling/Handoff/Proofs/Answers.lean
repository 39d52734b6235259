import Handoff.Proofs.Moves
import Handoff.Proofs.Writer

/-!
# What the consumer answers

The consumer answers a transaction with the move that writes it, and with no other move. Writing
then decides the answer, and either answer brings the consumer back to where it waits for the next
transaction.
-/
namespace Handoff.Pipeline.Run

variable {r r' : Run} {m : Move} {given : List (Transaction × Outcome)}

/-- What the consumer answers with a move. -/
def answers (m : Move) (r : Run) : List (Transaction × Outcome) :=
  match m, r.consumer with
  | .consume .channel, .writing t =>
    match (r.writer.writeMessage t.payload).1 with
    | .ok _ => [(t, .delivered)]
    | .error text => [(t, .rejected text)]
  | _, _ => []

/-- What a move leaves of the writer, the count and the place of the consumer, by what it answers. -/
inductive Answered (r r' : Run) : List (Transaction × Outcome) → Prop
  | none : r'.writer = r.writer → r'.summary.delivered = r.summary.delivered →
      (∀ t, r.consumer = .writing t → r'.consumer = .writing t) → Answered r r' []
  | delivered {t} : r.consumer = .writing t → r'.consumer = .selecting →
      r.writer.writeMessage t.payload = (.ok (), r'.writer) →
      r'.summary.delivered = r.summary.delivered + 1 → Answered r r' [(t, .delivered)]
  | rejected {t text} : r.consumer = .writing t → r'.consumer = .selecting →
      r.writer.writeMessage t.payload = (.error text, r'.writer) →
      r'.summary.delivered = r.summary.delivered → Answered r r' [(t, .rejected text)]

theorem Answered.of_still (hw : r'.writer = r.writer) (hs : r'.summary = r.summary)
    (hc : r'.consumer = r.consumer) : Answered r r' [] :=
  .none hw (congrArg Summary.delivered hs) fun _ => hc.trans

theorem answers_eq_nil (hn : ∀ t, r.consumer ≠ .writing t) : r.answers m = [] := by
  unfold answers
  split
  · exact absurd ‹_› (hn _)
  · rfl

theorem Produces.writer_eq (hs : Produces r r') : r'.writer = r.writer := by
  cases hs <;> rfl

/-- Only where it writes does the consumer write and answer. -/
theorem Consumes.answered (hs : Consumes r r') (hn : ∀ t, r.consumer ≠ .writing t) :
    Answered r r' [] := by
  have hwriting : ∀ t, r.consumer = .writing t → r'.consumer = .writing t :=
    fun t hc => absurd hc (hn t)
  cases hs with
  | take | findEnd | flush | askCancel => exact .none rfl rfl hwriting
  | write hp | failWrite hp => exact absurd hp (hn _)
  | failFlush | confirm | expire =>
    obtain ⟨h, -, he⟩ := finish_cases _ _
    rw [he] at hwriting ⊢
    exact .none rfl rfl hwriting
  | stop =>
    obtain ⟨hub, stops, hstop⟩ := stop_frame r
    obtain ⟨calls, hcount⟩ := r.stop.count_eq fun c => { c with waits := c.waits + 1 }
    rw [hcount, hstop] at hwriting ⊢
    exact .none rfl rfl hwriting
  | interrupt =>
    obtain ⟨hub, calls, hstop⟩ := stop_frame { r.note .shutdownReceived with
      summary := { r.summary with interrupted := true } }
    rw [hstop] at hwriting ⊢
    exact .none rfl rfl hwriting

/-- A message is written as a whole and acknowledged, or the failure is its answer. -/
theorem answered_of_writing {t : Transaction} (hc : r.consumer = .writing t)
    (hs : r.consume = some r') : Answered r r' (r.answers (.consume .channel)) := by
  simp only [answers, hc]
  simp only [consume, hc] at hs
  split at hs
  · rename_i writer hw
    cases hs
    rw [hw]
    exact .delivered hc rfl hw rfl
  · rename_i text writer hw
    cases hs
    rw [hw]
    exact .rejected hc rfl hw rfl

theorem answered_of_step (hs : r.step m = some r') : Answered r r' (r.answers m) := by
  cases m with
  | consume b =>
    by_cases hw : ∃ t, r.consumer = .writing t
    · obtain ⟨t, hc⟩ := hw
      cases b with
      | channel => exact answered_of_writing hc hs
      | close => simp [step, interrupt, hc] at hs
    · have hn : ∀ t, r.consumer ≠ .writing t := fun t hc => hw ⟨t, hc⟩
      rw [answers_eq_nil hn]
      cases b with
      | channel => exact (consume_cases hs).answered hn
      | close => exact (interrupt_cases hs).answered hn
  | expire =>
    refine (expire_cases hs).answered fun t hc => ?_
    simp [step, expire, hc] at hs
  | produce =>
    have hp := produce_cases hs
    exact .of_still hp.writer_eq hp.leaves.summary hp.leaves.consumer
  | cancel =>
    have hp := cancel_cases hs
    exact .of_still hp.writer_eq hp.leaves.summary hp.leaves.consumer
  | arrive | signal =>
    simp only [step, Option.ite_none_left_eq_some, Option.some.injEq] at hs
    obtain ⟨-, rfl⟩ := hs
    exact .of_still rfl rfl rfl
  | loop b =>
    simp only [step, Option.map_eq_some_iff] at hs
    obtain ⟨p, -, rfl⟩ := hs
    exact .of_still rfl rfl rfl
  | watch serial =>
    obtain ⟨watched, hub, rfl⟩ := watch_frame hs
    exact .of_still rfl rfl rfl

/-- What was answered can be told from the run before and after. -/
theorem Answered.unique {given' : List (Transaction × Outcome)} (h : Answered r r' given)
    (h' : Answered r r' given') : given = given' := by
  cases h with
  | none hw hd hc =>
    cases h' with
    | none => rfl
    | delivered hp hq | rejected hp hq => cases (hc _ hp).symm.trans hq
  | delivered hp hq hw =>
    cases h' with
    | none _ _ hc => cases (hc _ hp).symm.trans hq
    | delivered hp' =>
      cases hp.symm.trans hp'
      rfl
    | rejected hp' _ hw' =>
      cases hp.symm.trans hp'
      cases hw.symm.trans hw'
  | rejected hp hq hw =>
    cases h' with
    | none _ _ hc => cases (hc _ hp).symm.trans hq
    | delivered hp' _ hw' =>
      cases hp.symm.trans hp'
      cases hw.symm.trans hw'
    | rejected hp' _ hw' =>
      cases hp.symm.trans hp'
      cases hw.symm.trans hw'
      rfl

end Handoff.Pipeline.Run
