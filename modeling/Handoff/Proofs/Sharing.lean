import Handoff.Proofs.Inlet
import Handoff.Proofs.Outlet
import Handoff.Proofs.Reached

/-!
# Readers that share a channel

Any number of readers call for the next transaction of one channel. A call lines up for the channel,
and the one that holds it waits for a transaction or the end. It may be cancelled wherever it
waits. A call that does not wait looks at the channel once. Senders send, wait for slots and go away
in between. Beside the channel stands what was sent so far, and what calls came to, in this order.

What comes out of the channel, over all readers, is what was sent, from the first on. Who gets which
transaction is up to the line, so a reader that leaves it, even one that holds the channel already,
leaves everything to those behind it.
-/
namespace Handoff

/-- The transaction that a reader got. -/
def Reading.transaction? : Reading → Option Transaction
  | .message t => some t
  | _ => none

/-- Senders and readers of one channel. -/
structure Sharing where
  outlet : Outlet
  replies : Replies := {}
  /-- Issued and not handed to the channel. -/
  unsent : List Transaction := []
  sent : List Transaction := []
  /-- What each call came to, with its reader. A cancelled call comes to nothing. -/
  answers : List (Nat × Reading) := []
deriving Repr

namespace Sharing

/-- One act of one party. A reader makes one call at a time. -/
inductive Move
  | sending (s : Sending)
  /-- a call begins, and lines up -/
  | call (i : Nat)
  /-- a call that holds the channel looks at it -/
  | poll (i : Nat)
  /-- a call is cancelled -/
  | cancel (i : Nat)
  /-- a call that does not wait -/
  | tryCall (i : Nat)
  | clone
  /-- a handle goes away, and is not the last one -/
  | dropClone
deriving Repr

/-- A channel that nobody has used, with so many slots. -/
def start (slots : Nat) : Sharing := { outlet := { channel := { capacity := slots } } }

/-- What the senders see. -/
def inlet (s : Sharing) : Inlet := ⟨s.outlet.channel, s.replies, s.unsent⟩

/-- An act of a sender. -/
def afterSending (s : Sharing) (i : Inlet) : Sharing :=
  { s with
    outlet := { s.outlet with channel := i.channel }
    replies := i.replies
    unsent := i.unsent
    sent := s.sent ++ s.inlet.admits i }

/-- A call comes to something, and leaves the outlet like this. -/
def answer (s : Sharing) (i : Nat) (found : Reading) (outlet : Outlet) : Sharing :=
  { s with outlet, answers := s.answers ++ [(i, found)] }

/-- What calls returned, in this order. -/
def returned (s : Sharing) : List Transaction := s.answers.filterMap (·.2.transaction?)

/-- One move, if its party can make it. -/
def step (m : Move) (s : Sharing) : Option Sharing :=
  match m with
  | .sending a => (s.inlet.act a).map s.afterSending
  | .call i => if i ∈ s.outlet.readers then none else some { s with outlet := s.outlet.join i }
  | .poll i =>
    if s.outlet.holder = some i then
      match s.outlet.read with
      | (.nothing, _) => none
      | (found, outlet) => some (s.answer i found (outlet.depart i))
    else none
  | .cancel i =>
    if i ∈ s.outlet.readers then some { s with outlet := s.outlet.depart i } else none
  | .tryCall i =>
    if i ∈ s.outlet.readers then none
    else some (s.answer i s.outlet.tryRead.1 s.outlet.tryRead.2)
  | .clone => some { s with outlet := s.outlet.addHandle }
  | .dropClone =>
    if 1 < s.outlet.handles then some { s with outlet := s.outlet.dropHandle.2.2 } else none

/-- The oldest transaction is gone from the channel. -/
def dequeued (s : Sharing) (rest : List Transaction) : Outlet :=
  { s.outlet with channel := { s.outlet.channel with queue := rest }.grant }

/-- The moves that can be made, each with its condition and all that it changes. -/
inductive Step (s : Sharing) : Move → Sharing → Prop
  | sending {a i} : s.inlet.Step i → Step s (.sending a) (s.afterSending i)
  | call {i} : i ∉ s.outlet.readers → Step s (.call i) { s with outlet := s.outlet.join i }
  | receive {i t rest} : s.outlet.holder = some i → s.outlet.channel.queue = t :: rest →
      Step s (.poll i) (s.answer i (.message t) ((s.dequeued rest).depart i))
  | findEnd {i} : s.outlet.holder = some i → s.outlet.channel.ended = true →
      Step s (.poll i) (s.answer i .ended (s.outlet.depart i))
  | cancel {i} : i ∈ s.outlet.readers →
      Step s (.cancel i) { s with outlet := s.outlet.depart i }
  | tryHeld {i j} : i ∉ s.outlet.readers → s.outlet.holder = some j →
      Step s (.tryCall i) (s.answer i .nothing s.outlet)
  | tryReceive {i t rest} : s.outlet.holder = none → s.outlet.channel.queue = t :: rest →
      Step s (.tryCall i) (s.answer i (.message t) (s.dequeued rest))
  | tryNothing {i} : s.outlet.holder = none → s.outlet.channel.queue = [] →
      Step s (.tryCall i) (s.answer i .nothing s.outlet)
  | tryEnd {i} : s.outlet.holder = none → s.outlet.channel.ended = true →
      Step s (.tryCall i) (s.answer i .ended s.outlet)
  | clone : Step s .clone { s with outlet := s.outlet.addHandle }
  | dropClone : 1 < s.outlet.handles →
      Step s .dropClone { s with outlet := { s.outlet with handles := s.outlet.handles - 1 } }

variable {s s' : Sharing} {m : Move} {i : Nat} {t : Transaction} {rest : List Transaction}

theorem step_cases (hs : step m s = some s') : Step s m s' := by
  cases m with
  | sending a =>
    simp only [step, Option.map_eq_some_iff] at hs
    obtain ⟨i, hi, rfl⟩ := hs
    exact .sending (Inlet.act_cases hi)
  | call i =>
    simp only [step, Option.ite_none_left_eq_some, Option.some.injEq] at hs
    obtain ⟨hi, rfl⟩ := hs
    exact .call hi
  | poll i =>
    simp only [step, Option.ite_none_right_eq_some] at hs
    obtain ⟨hi, hs⟩ := hs
    rcases s.outlet.read_cases with ⟨t, rest, hq, hread⟩ | ⟨-, he, hread⟩ | ⟨-, -, hread⟩
    · rw [hread] at hs
      cases hs
      exact .receive hi hq
    · rw [hread] at hs
      cases hs
      exact .findEnd hi he
    · rw [hread] at hs
      cases hs
  | cancel i =>
    simp only [step, Option.ite_none_right_eq_some, Option.some.injEq] at hs
    obtain ⟨hi, rfl⟩ := hs
    exact .cancel hi
  | tryCall i =>
    simp only [step, Option.ite_none_left_eq_some, Option.some.injEq] at hs
    obtain ⟨hi, rfl⟩ := hs
    unfold Outlet.tryRead
    cases hh : s.outlet.holder with
    | some j => exact .tryHeld hi hh
    | none =>
      rcases s.outlet.read_cases with ⟨t, rest, hq, hread⟩ | ⟨-, he, hread⟩ | ⟨hq, -, hread⟩
      · rw [hread]
        exact .tryReceive hh hq
      · rw [hread]
        exact .tryEnd hh he
      · rw [hread]
        exact .tryNothing hh hq
  | clone =>
    cases hs
    exact .clone
  | dropClone =>
    simp only [step, Option.ite_none_right_eq_some, Option.some.injEq] at hs
    obtain ⟨hn, rfl⟩ := hs
    rw [Outlet.dropHandle_more hn]
    exact .dropClone hn

/-- Who has which transaction. Readers keep what they got. -/
def custody (s : Sharing) : Custody where
  senders := s.unsent ++ s.outlet.channel.line
  queue := s.outlet.channel.queue
  hand := []
  slot := []
  held := s.returned
  refused := []
  lost := []
  returned := []
  accepted := s.sent
  placed := s.returned
  taken := s.returned
  next := s.replies.next
  outcome := s.replies.outcome

/-- What every move keeps. The channel has a reader's side and is never closed from there. -/
structure Shared (s : Sharing) : Prop where
  sound : s.custody.Sound
  guarded : s.outlet.channel.Guarded
  accepting : s.outlet.channel.accepting = true
  orderly : s.outlet.Orderly
  ended : ∀ i, (i, .ended) ∈ s.answers → s.outlet.channel.ended = true

theorem returned_answer (s : Sharing) (i : Nat) (found : Reading) (o : Outlet) :
    (s.answer i found o).returned = s.returned ++ found.transaction?.toList := by
  simp only [returned, answer, List.filterMap_append, List.filterMap_cons, List.filterMap_nil]
  cases found.transaction? <;> rfl

theorem custody_answer (s : Sharing) (i : Nat) (found : Reading) (o : Outlet) :
    (s.answer i found o).custody =
      { s.custody with
        senders := s.unsent ++ o.channel.line
        queue := o.channel.queue
        held := s.returned ++ found.transaction?.toList
        placed := s.returned ++ found.transaction?.toList
        taken := s.returned ++ found.transaction?.toList } := by
  simp only [custody, returned_answer]
  rfl

namespace Shared

variable {o : Outlet} {found : Reading}

theorem start (slots : Nat) : (Sharing.start slots).Shared where
  sound := by
    constructor <;> simp [Sharing.start, custody, returned, Custody.pending, Custody.settled,
      Channel.line]
  guarded := .of_accepting (Nat.zero_le _) rfl rfl
  accepting := rfl
  orderly := ⟨fun _ => rfl, .nil⟩
  ended := by simp [Sharing.start]

theorem receiver (hw : s.Shared) : s.outlet.channel.receiver = true :=
  hw.guarded.receiver_of_accepting hw.accepting

/-- Only what the channel holds matters to its senders. -/
theorem relink (hw : s.Shared) (hc : o.channel = s.outlet.channel) (ho : o.Orderly) :
    Shared { s with outlet := o } where
  sound := by
    simp only [custody, returned, hc]
    exact hw.sound
  guarded := hc ▸ hw.guarded
  accepting := hc ▸ hw.accepting
  orderly := ho
  ended i hi := hc ▸ hw.ended i hi

theorem sending {i : Inlet} (hw : s.Shared) (hs : s.inlet.Step i) : (s.afterSending i).Shared where
  sound := hs.sound (c := s.custody) hw.guarded hw.sound
  guarded := hs.guarded hw.guarded
  accepting := hs.accepting_eq.trans hw.accepting
  orderly := ⟨hw.orderly.free, hw.orderly.distinct⟩
  ended j hj := hs.ended hw.guarded (hw.ended j hj)

/-- A call gets the oldest transaction. -/
theorem receive (hw : s.Shared) (hq : s.outlet.channel.queue = t :: rest)
    (hc : o.channel = (s.dequeued rest).channel) (ho : o.Orderly) :
    (s.answer i (.message t) o).Shared where
  sound := by
    have hs := ((hw.sound.pick hq rfl).place (t := t) rfl rfl).take (t := t) rfl rfl
    rw [custody_answer, hc]
    simpa only [custody, dequeued, Channel.line_taken, Channel.queue_grant, Reading.transaction?,
      Option.toList_some] using hs
  guarded := by
    rw [answer, hc]
    exact hw.guarded.take hw.receiver hq
  accepting := by
    rw [answer, hc]
    exact hw.accepting
  orderly := ho
  ended j hj := by
    -- no call has come to the end of a channel that still holds something
    rcases List.mem_append.mp hj with hj | hj
    · have hempty := (Channel.ended_iff.mp (hw.ended j hj)).1
      rw [hq] at hempty
      cases hempty
    · cases List.mem_singleton.mp hj

/-- A call comes to nothing, or to the end. -/
theorem conclude (hw : s.Shared) (hc : o.channel = s.outlet.channel) (ho : o.Orderly)
    (hf : found = .nothing ∨ found = .ended ∧ s.outlet.channel.ended = true) :
    (s.answer i found o).Shared where
  sound := by
    have hnone : found.transaction? = none := by rcases hf with rfl | ⟨rfl, -⟩ <;> rfl
    simp only [custody_answer, hnone, Option.toList_none, List.append_nil, hc]
    exact hw.sound
  guarded := hc ▸ hw.guarded
  accepting := hc ▸ hw.accepting
  orderly := ho
  ended j hj := by
    show o.channel.ended = true
    rw [hc]
    rcases List.mem_append.mp hj with hj | hj
    · exact hw.ended j hj
    · rcases hf with rfl | ⟨-, he⟩
      · cases List.mem_singleton.mp hj
      · exact he

theorem step (hw : s.Shared) (hs : Step s m s') : s'.Shared := by
  have ho := hw.orderly
  cases hs with
  | sending hi => exact hw.sending hi
  | call hi => exact hw.relink (Outlet.channel_join ..) (ho.join hi)
  | cancel => exact hw.relink (Outlet.channel_depart ..) (ho.depart _)
  | receive hi hq =>
    refine hw.receive hq (Outlet.channel_depart ..) ?_
    exact Outlet.Orderly.depart (o := s.dequeued _) ⟨ho.free, ho.distinct⟩ _
  | findEnd hi he =>
    exact hw.conclude (Outlet.channel_depart ..) (ho.depart _) (.inr ⟨rfl, he⟩)
  | tryReceive hh hq => exact hw.receive hq rfl ⟨ho.free, ho.distinct⟩
  | tryHeld | tryNothing => exact hw.conclude rfl ho (.inl rfl)
  | tryEnd hh he => exact hw.conclude rfl ho (.inr ⟨rfl, he⟩)
  | clone | dropClone => exact hw.relink rfl ⟨ho.free, ho.distinct⟩

end Shared

/-- A call that misses a transaction has found the channel with another reader. -/
theorem Step.holder_of_missed (hs : Step s (.tryCall i) s')
    (ha : s'.answers = s.answers ++ [(i, .nothing)]) (hq : s.outlet.channel.queue ≠ []) :
    ∃ j, j ≠ i ∧ s.outlet.holder = some j := by
  cases hs with
  | @tryHeld _ j hi hh =>
    refine ⟨j, fun he => hi ?_, hh⟩
    rw [Outlet.readers, hh, he]
    exact List.mem_cons_self
  | tryNothing hh hnone => exact absurd hnone hq
  | tryReceive | tryEnd => simp [answer] at ha

/-- What readers may rely on, whatever the other readers and the senders do. -/
structure Partition (s : Sharing) : Prop where
  /-- Calls returned the first transactions that were sent, in their order, and the channel holds
  the others. -/
  order : s.sent = s.returned ++ s.outlet.channel.queue
  once : s.sent.Nodup
  /-- If a call came to the end, then no one is left who could send, and all that was sent was
  returned. -/
  ended : ∀ i, (i, .ended) ∈ s.answers →
    s.outlet.channel.deserted = true ∧ s.returned = s.sent
  /-- A call that is cancelled has taken nothing, and leaves the others in line as they are. -/
  cancelled : ∀ i s', step (.cancel i) s = some s' →
    s'.answers = s.answers ∧ s'.outlet.channel = s.outlet.channel ∧
      s'.outlet.readers = s.outlet.readers.filter (· ≠ i)
  /-- A call that does not wait misses a transaction only for another reader that holds the
  channel. -/
  missed : ∀ i s', step (.tryCall i) s = some s' → s'.answers = s.answers ++ [(i, .nothing)] →
    s.outlet.channel.queue ≠ [] → ∃ j, j ≠ i ∧ s.outlet.holder = some j
  free : s.outlet.holder = none → s.outlet.line = []
  /-- The reader that holds the channel can have the oldest transaction at once, or the end. -/
  ready : ∀ i, s.outlet.holder = some i →
    (∀ t rest, s.outlet.channel.queue = t :: rest → ∃ s', step (.poll i) s = some s' ∧
      s'.answers = s.answers ++ [(i, .message t)]) ∧
    (s.outlet.channel.queue = [] → s.outlet.channel.deserted = true →
      ∃ s', step (.poll i) s = some s' ∧ s'.answers = s.answers ++ [(i, .ended)])

namespace Shared

/-- A channel that readers did not close has ended when its senders are gone and it is empty. -/
theorem ended_iff (hw : s.Shared) : s.outlet.channel.ended = true ↔
    s.outlet.channel.queue = [] ∧ s.outlet.channel.deserted = true := by
  rw [hw.guarded.ended_iff, Channel.deserted_iff, hw.accepting]
  constructor
  · rintro ⟨hq, hl, hp, hs | ha⟩
    · exact ⟨hq, hs, hp, hl⟩
    · cases ha
  · rintro ⟨hq, hs, hp, hl⟩
    exact ⟨hq, hl, hp, .inl hs⟩

theorem order (hw : s.Shared) : s.sent = s.returned ++ s.outlet.channel.queue := by
  have ho := hw.sound.order
  simpa only [custody, List.append_nil] using ho

theorem ready (hw : s.Shared) (hi : s.outlet.holder = some i) :
    (∀ t rest, s.outlet.channel.queue = t :: rest → ∃ s', Sharing.step (.poll i) s = some s' ∧
      s'.answers = s.answers ++ [(i, .message t)]) ∧
    (s.outlet.channel.queue = [] → s.outlet.channel.deserted = true →
      ∃ s', Sharing.step (.poll i) s = some s' ∧ s'.answers = s.answers ++ [(i, .ended)]) := by
  simp only [Sharing.step, if_pos hi]
  rcases s.outlet.read_cases with ⟨u, rest, hq, hread⟩ | ⟨hq, -, hread⟩ | ⟨hq, hn, hread⟩
  · rw [hread]
    refine ⟨fun t rest' ht => ?_, fun hnone => ?_⟩
    · rw [hq, List.cons.injEq] at ht
      exact ⟨_, rfl, by rw [ht.1]; rfl⟩
    · rw [hq] at hnone
      cases hnone
  · rw [hread]
    refine ⟨fun t rest ht => ?_, fun _ _ => ⟨_, rfl, rfl⟩⟩
    rw [hq] at ht
    cases ht
  · refine ⟨fun t rest ht => ?_, fun _ hd => ?_⟩
    · rw [hq] at ht
      cases ht
    · rw [hw.ended_iff.mpr ⟨hq, hd⟩] at hn
      cases hn

theorem partition (hw : s.Shared) : s.Partition where
  order := hw.order
  once := hw.sound.nodup_accepted
  ended i hi := by
    obtain ⟨hq, hd⟩ := hw.ended_iff.mp (hw.ended i hi)
    refine ⟨hd, ?_⟩
    rw [hw.order, hq, List.append_nil]
  cancelled i s' hs := by
    cases step_cases hs with
    | cancel =>
      exact ⟨rfl, Outlet.channel_depart .., hw.orderly.readers_depart i⟩
  missed i s' hs := (step_cases hs).holder_of_missed
  free := hw.orderly.free
  ready i := hw.ready

end Shared

/-- Readers share out among them what is sent, each transaction to one of them, none of them lost or
out of turn, whatever calls are cancelled on the way. -/
theorem readers_partition {slots : Nat} (h : Reached step (start slots) s) : s.Partition :=
  (h.invariant (P := Shared) (.start slots) fun _ _ _ hw hs =>
    hw.step (step_cases hs)).partition

/-- A call is cancelled when it holds the channel and a transaction is there. The next one in line
has the channel from then on, so a third one misses the transaction, which goes to the second. -/
theorem readers_partition_when_cancelled : ∃ s, Reached step (start 1) s ∧ s.Partition ∧
    s.sent = [⟨0, ⟨[]⟩⟩] ∧
      s.answers = [(2, .nothing), (1, .message ⟨0, ⟨[]⟩⟩), (2, .nothing), (0, .ended)] := by
  obtain ⟨s, hs, hsent, hanswers⟩ : ∃ s, [Move.call 0, .call 1, .sending (.issue ⟨[]⟩),
      .sending (.send ⟨0, ⟨[]⟩⟩), .cancel 0, .tryCall 2, .poll 1, .tryCall 2, .call 0,
      .sending .leave, .poll 0].foldlM (fun s m => step m s) (start 1) = some s ∧
        s.sent = [⟨0, ⟨[]⟩⟩] ∧
        s.answers = [(2, .nothing), (1, .message ⟨0, ⟨[]⟩⟩), (2, .nothing), (0, .ended)] :=
    ⟨_, rfl, rfl, rfl⟩
  have hreached := Reached.of_moves hs
  exact ⟨s, hreached, readers_partition hreached, hsent, hanswers⟩

end Sharing
end Handoff
