import Handoff.Proofs.Delivery
import Handoff.Proofs.Framing

/-!
# Accounts of a consumer whose writer may fail

Whatever a writer does with its calls, the consumer answers each transaction that it takes once. It
acknowledges the one whose calls all took something, rejects the other with the text of the call
that failed, and goes on either way until it finds the end of the outbound channel. By then the
summary counts the acknowledged ones and the loop has counted both. Nothing that inbound accepted is
ever dropped, also when the output cannot be made final in the end: the loop, which goes on when the
run has returned, answers what is left.

Nothing is assumed about the input, the writer, the schedule or the shutdown signal. A ledger adds
to a run what inbound accepted, what the consumer took and what it answered, with the calls made for
each answer.
-/
namespace Handoff.Pipeline

/-- An answer of the consumer, with what came of each call that it made to write the transaction. -/
structure Answer where
  transaction : Transaction
  outcome : Outcome
  writes : List (Option String)

/-- The answer to a transaction whose calls came to this: the first failure decides. -/
def verdict (writes : List (Option String)) : Outcome :=
  match writes.findSome? id with
  | none => .delivered
  | some text => .rejected text

namespace Answer

def isDelivered (a : Answer) : Bool :=
  match a.outcome with
  | .delivered => true
  | _ => false

def isRejected (a : Answer) : Bool :=
  match a.outcome with
  | .rejected _ => true
  | _ => false

def pair (a : Answer) : Transaction × Outcome := (a.transaction, a.outcome)

end Answer

theorem verdict_replicate (k : Nat) : verdict (List.replicate k none) = .delivered := by
  induction k with
  | zero => rfl
  | succ k ih => exact ih

theorem verdict_fault (k : Nat) (text : String) :
    verdict (List.replicate k none ++ [some text]) = .rejected text := by
  induction k with
  | zero => rfl
  | succ k ih => exact ih

/-- What was given is either an acknowledgement or a rejection. -/
theorem count_of_verdict {answers : List Answer} (h : ∀ a ∈ answers, a.outcome = verdict a.writes) :
    answers.countP Answer.isDelivered + answers.countP Answer.isRejected = answers.length := by
  induction answers with
  | nil => rfl
  | cons a answers ih =>
    have hrest := ih fun b hb => h b (List.mem_cons_of_mem _ hb)
    have ha := h a List.mem_cons_self
    rw [List.countP_cons, List.countP_cons, List.length_cons]
    unfold verdict at ha
    split at ha
    · simp only [Answer.isDelivered, Answer.isRejected, ha, if_true, Bool.false_eq_true, if_false]
      omega
    · simp only [Answer.isDelivered, Answer.isRejected, ha, if_true, Bool.false_eq_true, if_false]
      omega

namespace Run

variable {r r' : Run} {m : Move} {given : List (Transaction × Outcome)}

namespace Answered

/-- The consumer has at most one transaction in hand, and answers before it takes the next. -/
theorem held_eq (h : Answered r r' given) : given.map (·.1) ++ r'.consumer.held =
    r.consumer.held ++ r'.consumer.held.drop r.consumer.held.length := by
  cases h with
  | none hw hd hc =>
    cases hp : r.consumer with
    | writing t =>
      rw [hc t hp]
      rfl
    | selecting | flushing | cancelling | stopping | waiting | returned => rfl
  | delivered hp hq | rejected hp hq =>
    rw [hp, hq]
    rfl

/-- An answer says what came of the calls that were made for it. -/
theorem eq_verdict (h : Answered r r' given) :
    ∀ p ∈ given, p.2 = verdict (r.writer.faults r.writer.calls r'.writer.calls) := by
  intro p hp
  cases h with
  | none => cases hp
  | @delivered t _ _ hw =>
    obtain rfl := List.mem_singleton.mp hp
    have hputs := r.writer.writeMessage_puts t.payload
    rw [hw] at hputs
    rcases hputs.faults_cases with ⟨-, k, hk⟩ | ⟨text, k, hn, -⟩
    · rw [hk, verdict_replicate]
    · cases hn
  | @rejected t text _ _ hw =>
    obtain rfl := List.mem_singleton.mp hp
    have hputs := r.writer.writeMessage_puts t.payload
    rw [hw] at hputs
    rcases hputs.faults_cases with ⟨hn, -⟩ | ⟨text', k, he, hk⟩
    · cases hn
    · cases he
      rw [hk, verdict_fault]

end Answered

/-- The consumer can always write what it took, and is then back where it waits. -/
theorem exists_answer {t : Transaction} (hc : r.consumer = .writing t) :
    ∃ r' o, r.step (.consume .channel) = some r' ∧ r'.consumer = .selecting ∧
      r.answers (.consume .channel) = [(t, o)] := by
  simp only [step, consume, answers, hc]
  split
  · rename_i hw
    rw [hw]
    exact ⟨_, _, rfl, rfl, rfl⟩
  · rename_i hw
    rw [hw]
    exact ⟨_, _, rfl, rfl, rfl⟩

namespace Stillborn

variable {writer : Writer}

theorem step (h : Stillborn writer r) (hs : Step r r') : Stillborn writer r' := by
  cases hs with
  | arrive | signal | learn | report => exact { h with }
  | loop hl =>
    have hp := h.position
    simp [Loop.step, hp] at hl
  | produce hs => exact absurd h.producer hs.not_done
  | consume hs =>
    obtain ⟨e, hc⟩ := h.consumer
    exact absurd hs (not_consumes hc)

end Stillborn
end Run

/-- A run with what inbound accepted so far, what the consumer took and what it answered, each in
its order. -/
structure Ledger where
  run : Run
  accepted : List Transaction := []
  taken : List Transaction := []
  answered : List Answer := []

namespace Ledger

/-- What a move adds to the answers. -/
def answers (m : Move) (r r' : Run) : List Answer :=
  (r.answers m).map fun (t, o) => ⟨t, o, r.writer.faults r.writer.calls r'.writer.calls⟩

/-- One move of the run. What it adds to the inbound queue is accepted, and what the consumer holds
after it and not before is taken. -/
def step (m : Move) (l : Ledger) : Option Ledger :=
  (l.run.step m).map fun run =>
    { run
      accepted := l.accepted ++ run.inbound.queue.drop l.run.inbound.queue.length
      taken := l.taken ++ run.consumer.held.drop l.run.consumer.held.length
      answered := l.answered ++ answers m l.run run }

/-- What became of a transaction, as far as that is known. -/
def outcome (l : Ledger) (t : Transaction) : Option Outcome :=
  l.run.hub.replies.outcome t.serial

/-- What a ledger says of its own run. -/
structure Kept (before : Bytes) (l : Ledger) : Prop where
  taken : l.taken = l.answered.map (·.transaction) ++ l.run.consumer.held
  verdicts : ∀ a ∈ l.answered, a.outcome = verdict a.writes
  written : Wrote before (l.answered.map Answer.pair) l.run.writer.output
  delivered : l.run.summary.delivered = l.answered.countP Answer.isDelivered

variable {l l' : Ledger} {m : Move} {r' : Run} {before : Bytes} {slots : Nat} {past : Past}

theorem pairs_answers (m : Move) (r r' : Run) :
    (answers m r r').map Answer.pair = r.answers m := by
  rw [answers, List.map_map]
  exact List.map_id _

theorem Kept.step (h : Kept before l) (hs : Ledger.step m l = some l') : Kept before l' := by
  simp only [Ledger.step, Option.map_eq_some_iff] at hs
  obtain ⟨run, hs, rfl⟩ := hs
  have ha := Run.answered_of_step hs
  have hnew : (answers m l.run run).map (·.transaction) = (l.run.answers m).map (·.1) := by
    rw [answers, List.map_map]
    rfl
  constructor
  · have hheld := ha.held_eq
    show l.taken ++ _ = _
    rw [h.taken, List.append_assoc, ← hheld, List.map_append, hnew, List.append_assoc]
  · intro a hm
    rcases List.mem_append.mp hm with hm | hm
    · exact h.verdicts a hm
    · obtain ⟨p, hp, rfl⟩ := List.mem_map.mp hm
      exact ha.eq_verdict p hp
  · rw [List.map_append, pairs_answers]
    exact h.written.trans ha.wrote
  · show run.summary.delivered = _
    rw [List.countP_append, ← h.delivered]
    generalize hg : l.run.answers m = given at ha
    cases ha with
    | none _ hd => simp [answers, hg, hd]
    | delivered _ _ _ hd => simp [answers, hg, hd, Answer.isDelivered]
    | rejected _ _ _ hd => simp [answers, hg, hd, Answer.isDelivered]

/-- A run on its way over the pass-through stage, as its exchange. -/
structure Underway (slots : Nat) (l : Ledger) (past : Past) : Prop where
  reachable : Exchange.Reachable Stage.typeName slots 0 (l.run.exchange past)
  tracks : Run.Tracks l.run past
  draining : Run.Draining l.run past
  accepted : past.accepted = l.accepted
  returned : past.returned = l.answered.map Answer.pair

theorem Underway.step (h : Underway slots l past) (hs : Ledger.step m l = some l') :
    ∃ past', Underway slots l' past' := by
  simp only [Ledger.step, Option.map_eq_some_iff] at hs
  obtain ⟨run, hs, rfl⟩ := hs
  have hw := h.reachable.steady
  obtain ⟨past', haccepted, hreturned, hr, ht⟩ := h.tracks.step hw hs
  refine ⟨past', h.reachable.trans hr, ht,
    h.draining.step h.tracks hw (Run.step_cases hs) hr, ?_, ?_⟩
  · rw [haccepted, h.accepted]
  · rw [hreturned, h.returned, List.map_append, pairs_answers]

/-- The accounts of a run. -/
structure Settles (before : Bytes) (l : Ledger) : Prop where
  /-- What the consumer took it has answered, in the same order, or is about to write. -/
  taken : l.taken = l.answered.map (·.transaction) ++ l.run.consumer.held
  once : l.taken.Nodup
  /-- The answer says what came of the calls, and is what the sender learns. -/
  answers : ∀ a ∈ l.answered, a.outcome = verdict a.writes ∧ l.outcome a.transaction = some a.outcome
  /-- Acknowledged messages are written as a whole, and rejected ones up to their failure. -/
  written : Wrote before (l.answered.map Answer.pair) l.run.writer.output
  /-- Whatever comes of writing, the consumer can answer and is back where it waits. -/
  goesOn : ∀ t, l.run.consumer = .writing t → ∃ l' a, step (.consume .channel) l = some l' ∧
    l'.run.consumer = .selecting ∧ l'.answered = l.answered ++ [a] ∧ a.transaction = t
  delivered : l.run.summary.delivered = l.answered.countP Answer.isDelivered
  /-- Once the consumer has found the end, nothing is left to answer and both counts agree. -/
  ended : l.run.consumer.reads = false → l.taken = l.answered.map (·.transaction) ∧
    l.run.hub.forwarded =
      l.answered.countP Answer.isDelivered + l.answered.countP Answer.isRejected
  reported : ∀ s, l.run.result? = some (.ok s) → s = l.run.summary
  notDropped : ∀ t ∈ l.accepted, l.outcome t ≠ some .dropped

namespace Underway

/-- No answer of the consumer drops a transaction. -/
theorem answered_ne (h : Underway slots l past) (hk : Kept before l) :
    ∀ p ∈ past.returned, p.2 ≠ .dropped := by
  intro p hp
  rw [h.returned] at hp
  obtain ⟨a, ha, rfl⟩ := List.mem_map.mp hp
  show a.outcome ≠ _
  rw [hk.verdicts a ha, verdict]
  split <;> exact Outcome.noConfusion

/-- While the consumer reads it holds a handle, and after that nothing is placed. -/
theorem lost_eq_nil (h : Underway slots l past) : past.lost = [] := by
  have hw := h.reachable.steady
  cases hr : l.run.consumer.reads with
  | false => exact (h.draining.drained hr).lost
  | true =>
    refine hw.outflow.intact ?_
    show 0 < l.run.hub.outlet.handles
    rw [h.tracks.handles]
    cases hc : l.run.consumer with
    | selecting | writing => exact Nat.two_pos
    | flushing | cancelling | stopping | waiting | returned =>
      rw [hc] at hr
      cases hr

theorem taken_eq (h : Underway slots l past) (hk : Kept before l) :
    (l.run.exchange past).taken = l.taken := by
  show past.returned.map (·.1) ++ l.run.consumer.held = l.taken
  rw [hk.taken, h.returned, List.map_map]
  rfl

end Underway

theorem exists_answer {t : Transaction} (hc : l.run.consumer = .writing t) :
    ∃ l' a, step (.consume .channel) l = some l' ∧ l'.run.consumer = .selecting ∧
      l'.answered = l.answered ++ [a] ∧ a.transaction = t := by
  obtain ⟨run, o, hs, hq, ha⟩ := Run.exists_answer hc
  refine ⟨_, ⟨t, o, l.run.writer.faults l.run.writer.calls run.writer.calls⟩,
    by rw [step, hs]; rfl, hq, ?_, rfl⟩
  show l.answered ++ answers (.consume .channel) l.run run = _
  rw [answers, ha]
  rfl

theorem held_of_not_reads (hr : l.run.consumer.reads = false) : l.run.consumer.held = [] := by
  cases hc : l.run.consumer with
  | writing t =>
    rw [hc] at hr
    cases hr
  | selecting | flushing | cancelling | stopping | waiting | returned => rfl

theorem Underway.settles (h : Underway slots l past) (hk : Kept before l) : Settles before l := by
  have hw := h.reachable.steady
  refine ⟨hk.taken, ?_, fun a ha => ⟨hk.verdicts a ha, ?_⟩, hk.written, fun t => exists_answer,
    hk.delivered, fun hr => ⟨?_, ?_⟩, fun s hs => ?_, fun t ht => ?_⟩
  · rw [← h.taken_eq hk]
    exact hw.nodup_taken
  · have hp : a.pair ∈ past.returned := by
      rw [h.returned]
      exact List.mem_map_of_mem ha
    exact hw.sound.returnedAnswer _ hp
  · rw [hk.taken, held_of_not_reads hr, List.append_nil]
  · have hcount := h.reachable.forwarded_eq (h.draining.drained hr)
    rw [h.taken_eq hk, hk.taken, held_of_not_reads hr, List.append_nil, List.length_map] at hcount
    rw [count_of_verdict hk.verdicts]
    exact hcount
  · exact h.draining.result s (Run.consumer_of_result hs)
  · rw [← h.accepted] at ht
    exact hw.not_dropped h.lost_eq_nil (h.answered_ne hk) ht

/-- A run that failed before it began has nothing to account for. -/
theorem settles_of_stillborn {writer : Writer} (h : Run.Stillborn writer l.run)
    (haccepted : l.accepted = []) (htaken : l.taken = []) (hanswered : l.answered = []) :
    Settles writer.output l := by
  obtain ⟨e, hc⟩ := h.consumer
  have hheld : l.run.consumer.held = [] := by rw [hc]; rfl
  refine ⟨?_, ?_, ?_, ?_, fun t => exists_answer, ?_, fun _ => ⟨?_, ?_⟩, fun s hs => ?_, ?_⟩
  · rw [htaken, hanswered, hheld]
    rfl
  · rw [htaken]
    exact List.nodup_nil
  · rw [hanswered]
    nofun
  · rw [hanswered, h.writer]
    exact .nil
  · rw [hanswered]
    exact h.delivered
  · rw [htaken, hanswered]
    rfl
  · rw [hanswered]
    exact h.forwarded
  · cases hc.symm.trans (Run.consumer_of_result hs)
  · rw [haccepted]
    nofun

theorem stillborn_step {writer : Writer} (h : Run.Stillborn writer l.run)
    (hs : Ledger.step m l = some l') : Run.Stillborn writer l'.run ∧ l'.accepted = l.accepted ∧
      l'.taken = l.taken ∧ l'.answered = l.answered := by
  simp only [Ledger.step, Option.map_eq_some_iff] at hs
  obtain ⟨run, hs, rfl⟩ := hs
  have h' := h.step (Run.step_cases hs)
  obtain ⟨e, hc⟩ := h.consumer
  obtain ⟨e', hc'⟩ := h'.consumer
  have hnone : l.run.answers m = [] := Run.answers_eq_nil (by rw [hc]; nofun)
  refine ⟨h', ?_, ?_, ?_⟩
  · simp only [h'.queue, List.drop_nil, List.append_nil]
  · simp only [hc', Consumer.held, List.drop_nil, List.append_nil]
  · simp only [answers, hnone, List.map_nil, List.append_nil]

section Runs

variable {settings : PipelineSettings} {registry : Registry Buffer} {buffer : Buffer} {feed : Feed}
  {writer : Writer}

/-- Every run over the pass-through stage, whatever its input, its writer, its schedule and the
moment of the shutdown signal are, keeps its accounts: at every moment, and so when it returns and
after that. -/
theorem settles_under_any_writer (hb : (registry.construct settings.buffer).1 = .ok buffer)
    (hc : buffer.conduct = .passThrough)
    (h : Reached step { run := .start settings registry feed writer } l) :
    Settles writer.output l := by
  rcases Run.stillborn_or_launched hb hc with hdead | ⟨calls, he⟩
  · obtain ⟨hdead, haccepted, htaken, hanswered⟩ := h.invariant
      (P := fun l => Run.Stillborn writer l.run ∧ l.accepted = [] ∧ l.taken = [] ∧ l.answered = [])
      ⟨hdead, rfl, rfl, rfl⟩ fun m l l' ⟨hdead, haccepted, htaken, hanswered⟩ hs => by
        obtain ⟨hdead', ha, ht, hn⟩ := stillborn_step hdead hs
        exact ⟨hdead', ha.trans haccepted, ht.trans htaken, hn.trans hanswered⟩
    exact settles_of_stillborn hdead haccepted htaken hanswered
  · rw [he] at h
    obtain ⟨⟨past, hu⟩, hk⟩ := h.invariant
      (P := fun l => (∃ past, Underway settings.inboundCapacity l past) ∧ Kept writer.output l)
      ⟨⟨{}, Run.reachable_launched, Run.tracks_launched hc, ⟨nofun, nofun⟩, rfl, rfl⟩,
        rfl, nofun, .nil, rfl⟩
      fun m l l' ⟨⟨past, hu⟩, hk⟩ hs => ⟨hu.step hs, hk.step hs⟩
    exact hu.settles hk

end Runs

/-- A run over three lines. The second call of its writer fails, and its output cannot be made final
in the end. -/
def brokenOutput : Ledger where
  run := .start {} Buffer.defaultRegistry
    { coming := [[111, 110, 101, 10, 116, 119, 111, 10, 120, 10]] }
    { accept := fun n => if n = 1 then .failure "no space" else .everything
      flushFailure := some "disk gone" }

/-- Two lines come through, and the producer has a slot for the third one when the signal comes. The
loop closes inbound and confirms, and the run returns. -/
def upToFlush : List Move :=
  Transcript.bothLines ++ [.produce, .produce, .signal, .consume .close] ++
    List.replicate 9 (.loop .channel) ++ [.consume .channel, .consume .channel]

/-- The first line is rejected, the second one acknowledged, and the run returns with the failure of
its output. The third line goes into its slot after that, and the loop answers it late. -/
theorem settles_under_any_writer_when_flush_fails : ∃ l l', Reached step brokenOutput l ∧
    l.run.result? = some (.error (.flush "disk gone")) ∧ l.accepted.length = 2 ∧
    Reached step l l' ∧ l'.answered.map (·.writes) = [[none, some "no space"], [none, none]] ∧
    l'.accepted.map l'.outcome =
      [some (.rejected "no space"), some .delivered, some .stageClosed] ∧ Settles [] l' := by
  obtain ⟨l, l', hl, hs, ha, hl', hw, ho⟩ : ∃ l l',
      upToFlush.foldlM (fun l m => step m l) brokenOutput = some l ∧
      l.run.result? = some (.error (.flush "disk gone")) ∧ l.accepted.length = 2 ∧
      (.produce :: List.replicate 3 (.loop .channel)).foldlM (fun l m => step m l) l = some l' ∧
      l'.answered.map (·.writes) = [[none, some "no space"], [none, none]] ∧
      l'.accepted.map l'.outcome =
        [some (.rejected "no space"), some .delivered, some .stageClosed] :=
    ⟨_, _, rfl, rfl, rfl, rfl, rfl, rfl⟩
  have hb : (Buffer.defaultRegistry.construct {}).1 = .ok Buffer.passThrough := rfl
  have hfirst := Reached.of_moves hl
  have hlater := Reached.of_moves hl'
  exact ⟨l, l', hfirst, hs, ha, hlater, hw, ho,
    settles_under_any_writer hb rfl (hfirst.trans hlater)⟩

end Ledger
end Handoff.Pipeline
