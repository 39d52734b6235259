import Handoff.Proofs.Feed
import Handoff.Proofs.Following

/-!
# The producer sends the lines of its input

A run issues one transaction for each line it reads, so serial numbers count lines. What inbound
accepted, what the producer has in hand and what the feed still gives are together the lines of the
whole input. A producer that is done has sent all of them, was asked to go away, or found inbound
closed.
-/
namespace Handoff.Pipeline

/-- The transactions that carry these lines, numbered from here on. -/
def numbered (n : Nat) : List Bytes → List Transaction
  | [] => []
  | text :: lines => ⟨n, .ofBytes text⟩ :: numbered (n + 1) lines

theorem length_numbered (n : Nat) (lines : List Bytes) :
    (numbered n lines).length = lines.length := by
  induction lines generalizing n with
  | nil => rfl
  | cons text lines ih => simp only [numbered, List.length_cons, ih]

theorem take_numbered (n k : Nat) (lines : List Bytes) :
    (numbered n lines).take k = numbered n (lines.take k) := by
  induction lines generalizing n k with
  | nil => simp [numbered]
  | cons text lines ih =>
    cases k with
    | zero => rfl
    | succ k => simp only [numbered, List.take_succ_cons, ih]

/-- Written out, every line is followed by a line feed. -/
theorem written_numbered (n : Nat) (lines : List Bytes) :
    (numbered n lines).flatMap (·.payload.written) =
      lines.flatMap (· ++ [Text.Lines.lineFeed]) := by
  induction lines generalizing n with
  | nil => rfl
  | cons text lines ih =>
    simp only [numbered, List.flatMap_cons, ih]
    simp [Message.written, Message.ofBytes, Text.Lines.lineFeed]

namespace Producer

/-- What the producer has read and not seen accepted. -/
def offers (p : Producer) : List Transaction := p.unsent ++ p.inLine

end Producer

namespace Run

/-- How far the producer has come in the lines of its input. -/
structure Reads (lines : List Bytes) (r : Run) (accepted : List Transaction) : Prop where
  orderly : r.feed.Orderly
  sent : accepted <+: numbered 0 lines
  ahead : r.producer ≠ .done → numbered 0 lines =
    accepted ++ r.producer.offers ++ numbered r.hub.replies.next r.feed.lines
  done : r.producer = .done →
    accepted = numbered 0 lines ∨ r.cancelRequested = true ∨ r.inbound.accepting = false

variable {r r' : Run} {past : Past} {lines : List Bytes}
  {accepted : List Transaction}

namespace Reads

/-- Nothing new was accepted. -/
theorem of_still (hq : r'.inbound.queue.length ≤ r.inbound.queue.length)
    (h : Reads lines r' accepted) :
    Reads lines r' (accepted ++ r'.inbound.queue.drop r.inbound.queue.length) := by
  rwa [List.drop_eq_nil_of_le hq, List.append_nil]

/-- The producer goes away for one of the three reasons. -/
theorem endProducer {r₀ : Run} (hr : Reads lines r accepted) (hi : r₀.feed = r.feed)
    (hq : r₀.inbound.queue = r.inbound.queue)
    (h : accepted = numbered 0 lines ∨ r₀.cancelRequested = true ∨ r₀.inbound.accepting = false) :
    Reads lines r₀.endProducer
      (accepted ++ r₀.endProducer.inbound.queue.drop r.inbound.queue.length) := by
  refine of_still (hq ▸ Channel.length_queue_sweep_le r₀.inbound.leave) ?_
  exact
    { orderly := by
        show r₀.feed.Orderly
        rw [hi]
        exact hr.orderly
      sent := hr.sent
      ahead := fun hd => absurd rfl hd
      done := fun _ => h.imp_right (Or.imp_right (Channel.accepting_sweep _).trans) }

/-- The input has ended, or what is left of it cannot be read. -/
theorem all_of_lines_nil (hr : Reads lines r accepted) (hp : r.producer = .reading)
    (hl : r.feed.lines = []) : accepted = numbered 0 lines := by
  have ha := hr.ahead (by rw [hp]; nofun)
  rw [hp, hl] at ha
  simpa only [Producer.offers, Producer.unsent, Producer.inLine, numbered, List.append_nil] using
    ha.symm

/-- The producer goes on towards sending what it has. -/
theorem of_offers {p : Producer} {c : Channel Transaction} (hr : Reads lines r accepted)
    (hd : r.producer ≠ .done) (hp : p ≠ .done) (ho : p.offers = r.producer.offers)
    (hq : c.queue = r.inbound.queue) :
    Reads lines { r.setInbound c with producer := p }
      (accepted ++ c.queue.drop r.inbound.queue.length) := by
  rw [hq, List.drop_length, List.append_nil]
  refine
    { orderly := hr.orderly
      sent := hr.sent
      ahead := fun _ => ?_
      done := fun h => absurd h hp }
  show numbered 0 lines = accepted ++ p.offers ++ numbered r.hub.replies.next r.feed.lines
  rw [ho]
  exact hr.ahead hd

/-- The transaction that the producer has a slot for is accepted. -/
theorem push {t : Transaction} (hr : Reads lines r accepted) (hp : r.producer = .sending t) :
    Reads lines (r.push t) (accepted ++ [t]) := by
  have ho : (Producer.sending t).offers = [t] := rfl
  have ha := hr.ahead (by rw [hp]; nofun)
  rw [hp, ho] at ha
  exact
    { orderly := hr.orderly
      sent := ⟨_, ha.symm⟩
      ahead := fun _ => ha.trans (by rw [List.append_assoc _ (Producer.offers _)]; rfl)
      done := nofun }

theorem produce (hr : Reads lines r accepted) (ht : Tracks r past)
    (hw : (r.exchange past).Steady) (hs : Produces r r') :
    Reads lines r' (accepted ++ r'.inbound.queue.drop r.inbound.queue.length) := by
  cases hs with
  | @read text feed hp hn =>
    have ha := hr.ahead (by simp [hp])
    obtain ⟨hlines, horderly⟩ := Feed.lines_of_line hr.orderly hn
    rw [hp, hlines] at ha
    refine of_still (Nat.le_refl _)
      { orderly := horderly, sent := hr.sent, ahead := fun _ => ?_, done := fun hd => by cases hd }
    rw [ha]
    simp [Producer.offers, Producer.unsent, Producer.inLine, numbered, Hub.issue]
  | endInput hp hn =>
    have hlines := (Feed.lines_of_finished hr.orderly hn).1
    exact hr.endProducer rfl rfl (.inl (hr.all_of_lines_nil hp hlines))
  | failInput hp hn =>
    have hlines := (Feed.lines_of_failed hr.orderly hn).1
    exact hr.endProducer rfl rfl (.inl (hr.all_of_lines_nil hp hlines))
  | reserve hp hc =>
    obtain ⟨-, -, rfl⟩ := Channel.reserve_eq_accepted (Channel.request_eq_accepted hc)
    exact hr.of_offers (by simp [hp]) (by simp) (by rw [hp]; rfl) rfl
  | lineUp hp hc =>
    obtain ⟨-, -, rfl⟩ := Channel.send_eq_waits (Channel.request_eq_waits hc)
    exact hr.of_offers (by simp [hp]) (by simp) (by rw [hp]; rfl) rfl
  | refuse hp hc => exact hr.endProducer rfl rfl (.inr (.inr hc))
  | claim hp hd =>
    obtain ⟨-, -, hc⟩ := ht.claim_cases hp hd
    exact hr.of_offers (by simp [hp]) (by simp) (by rw [hp]; rfl) (by rw [hc])
  | turnAway hp ha => exact hr.endProducer rfl rfl (.inr (.inr (ht.turned_away hp ha).2.1))
  | @push t hp =>
    have hq : (r.push t).inbound.queue.drop r.inbound.queue.length = [t] := List.drop_left
    rw [hq]
    exact hr.push hp
  | cancel hp hc => exact hr.endProducer rfl rfl (.inr (.inl hc))
  | cancelOffer hp hc => exact hr.endProducer rfl rfl (.inr (.inl hc))
  | cancelWait hp hc => exact hr.endProducer rfl rfl (.inr (.inl hc))
  | @cancelSend t hp hc =>
    have hq := ht.queue_cancelSend hw hp
    have hdrop : (r.inbound.queue ++ [t]).drop (r.push t).inbound.queue.length = [] :=
      List.drop_length
    have hend := (hr.push hp).endProducer rfl rfl (.inr (.inl hc))
    rw [hq, hdrop, List.append_nil] at hend
    rw [hq, List.drop_left]
    exact hend

/-- Every move of a run keeps the lines in order. -/
theorem step (hr : Reads lines r accepted) (ht : Tracks r past)
    (hw : (r.exchange past).Steady) (hs : Step r r') :
    Reads lines r' (accepted ++ r'.inbound.queue.drop r.inbound.queue.length) := by
  cases hs with
  | arrive =>
    refine of_still (Nat.le_refl _)
      { hr with
        orderly := Feed.orderly_arrive hr.orderly
        ahead := ?_ }
    rw [Feed.lines_arrive]
    exact hr.ahead
  | signal | learn | report => exact of_still (Nat.le_refl _) { hr with }
  | loop hs =>
    have hl := (Loop.step_cases hs).leaves
    refine of_still hl.queue { hr with ahead := ?_, done := ?_ }
    · rw [hl.replies.next]
      exact hr.ahead
    · exact fun hd => (hr.done hd).imp_right (Or.imp_right hl.closed)
  | produce hs => exact hr.produce ht hw hs
  | consume hs =>
    obtain ⟨hp, hl, hi, hn, hc, -⟩ := hs.leaves
    refine of_still (by rw [inbound, hl]; exact Nat.le_refl _)
      { orderly := by rw [hi]; exact hr.orderly
        sent := hr.sent
        ahead := by rw [hp, hn, hi]; exact hr.ahead
        done := ?_ }
    rw [hp, inbound, hl]
    exact fun hd => (hr.done hd).imp_right (Or.imp_left hc)

end Reads
end Run
end Handoff.Pipeline
