import Handoff.Proofs.Accountability
import Handoff.Proofs.Overlay

/-!
# Inbound channels that the stage does not have

A call that starts a stage brings an inbound channel. Until the stage takes it the channel and its
senders are on their own, and if the stage refuses it the receiving side goes away: what is queued
is let go, and what a slot set aside still delivers is let go with the last sender.

Here is what becomes of such a channel by itself. Transactions go back and forth between its
senders and the channel, or are let go and answered `dropped`.
-/
namespace Handoff

namespace Channel

variable {α : Type} {c : Channel α} {x : α}

/-- What is in the channel, accepted or waiting for a slot. -/
def contents (c : Channel α) : List α := c.queue ++ c.line

/-- The orphans are what a channel loses when it is swept. -/
theorem perm_sweep (c : Channel α) : c.contents.Perm (c.orphans ++ c.sweep.contents) := by
  unfold contents
  rw [line_sweep]
  unfold orphans sweep
  split
  · rfl
  · rfl

theorem mem_sweep (hx : x ∈ c.queue) : x ∈ c.orphans ∨ x ∈ c.sweep.queue := by
  unfold orphans sweep
  split
  · exact .inl hx
  · exact .inr hx

/-- Nothing is left where nobody reads and nobody can send. -/
theorem queue_sweep_of_deserted (hr : c.receiver = false) (hd : c.sweep.deserted = true) :
    c.sweep.queue = [] := by
  rw [deserted_iff, senders_sweep, permits_sweep, line_sweep, ← deserted_iff] at hd
  simp [sweep, hr, hd]

/-- The receiving side is gone, for good. -/
structure Gone (c : Channel α) : Prop where
  receiver : c.receiver = false
  accepting : c.accepting = false
  line : c.line = []

theorem gone_detach (c : Channel α) : c.detach.2.2.Gone := ⟨rfl, rfl, rfl⟩

namespace Gone

theorem sweep (h : c.Gone) : c.sweep.Gone :=
  ⟨(receiver_sweep c).trans h.receiver, (accepting_sweep c).trans h.accepting,
    (line_sweep c).trans h.line⟩

/-- Senders find the channel closed, whichever way they try. -/
theorem closed (h : c.Gone) (x : α) :
    c.send x = (.closed, c) ∧ c.trySend x = (.closed, c) ∧ c.reserve = (.closed, c) := by
  simp [send, trySend, reserve, h.accepting]

end Gone
end Channel

/-- Every outcome found in the one ledger is found in the other. -/
def Replies.Remembers (before after : Replies) : Prop :=
  ∀ serial o, before.outcome serial = some o → after.outcome serial = some o

namespace Custody.Sound

variable {c : Custody} {gone rest : List Transaction} {R : Replies}

/-- Senders let go of transactions that were not accepted, in this ledger. -/
theorem letGo (h : c.Sound) (hs : c.senders.Perm (gone ++ rest)) (hn : c.next = R.next)
    (ho : c.outcome = R.outcome) :
    ({ c with senders := rest, outcome := (R.releaseAll gone).outcome } : Custody).Sound ∧
      ∀ t ∈ gone, (R.releaseAll gone).outcome t.serial = some .dropped := by
  have hpending : ∀ t ∈ gone, t ∈ c.pending := by
    intro t ht
    have hm : t ∈ c.senders := hs.mem_iff.mpr (List.mem_append_left _ ht)
    simp [pending, hm]
  have hdistinct : (gone.map (·.serial)).Nodup := by
    have hd := (List.nodup_append.mp (List.map_append ▸ h.distinct)).1
    simp only [pending, List.append_assoc, List.map_append] at hd
    have hsenders := (hs.map (·.serial)).nodup_iff.mp (List.nodup_append.mp hd).1
    rw [List.map_append] at hsenders
    exact (List.nodup_append.mp hsenders).1
  have hw : Writes R.outcome (R.releaseAll gone).outcome gone .dropped :=
    Replies.writes_releaseAll
      (fun t ht => hn ▸ h.issued t (List.mem_append_left _ (hpending t ht)))
      (fun t ht => ho ▸ h.unanswered t (hpending t ht)) hdistinct
  exact ⟨h.turnAway hs (ho ▸ hw), hw.written⟩

/-- What senders have was not accepted. -/
theorem not_accepted (h : c.Sound) {t : Transaction} (ht : t ∈ c.senders) : t ∉ c.accepted := by
  intro ha
  have hd := h.nodup
  simp only [pending, List.append_assoc, List.nodup_append] at hd
  have hp := h.accepted_perm.mem_iff.mp ha
  simp only [List.append_assoc] at hp
  exact hd.2.2 t ht t hp rfl

end Custody.Sound

namespace Inlet

variable {i i' : Inlet}

/-- What nobody will read any more is let go once nobody can follow it. -/
def settle (i : Inlet) : Inlet :=
  { i with channel := i.channel.sweep, replies := i.replies.releaseAll i.channel.orphans }

/-- Whose transactions senders and the channel have. -/
def pool (i : Inlet) : List Transaction := i.unsent ++ i.channel.contents

theorem settle_of_receiver (hr : i.channel.receiver = true) : i.settle = i := by
  obtain ⟨hs, ho⟩ := Channel.sweep_of_receiver hr
  unfold settle
  rw [hs, ho]
  rfl

theorem perm_settle (i : Inlet) : i.pool.Perm (i.channel.orphans ++ i.settle.pool) := by
  refine (i.channel.perm_sweep.append_left i.unsent).trans ?_
  simp only [pool, settle]
  exact List.perm_append_comm_assoc ..

private theorem pool_of_count (hr : i'.replies = i.replies)
    (hc : ∀ a, i.pool.count a = i'.pool.count a) :
    ∃ gone, i'.replies = i.replies.releaseAll gone ∧ i.pool.Perm (gone ++ i'.pool) :=
  ⟨[], hr, List.perm_iff_count.mpr hc⟩

/-- A sender issues a transaction, or some are let go. Apart from that they stay among the senders
and the channel. -/
theorem Step.pool_cases (hd : i.channel.line.Nodup) (hs : Step i i') :
    (∃ payload, i' = { i with
      replies := i.replies.issue, unsent := i.unsent ++ [⟨i.replies.next, payload⟩] }) ∨
      ∃ gone, i'.replies = i.replies.releaseAll gone ∧ i.pool.Perm (gone ++ i'.pool) := by
  cases hs with
  | issue payload => exact .inl ⟨payload, rfl⟩
  | @discard t ht => exact .inr ⟨[t], rfl, (List.perm_cons_erase ht).append_right _⟩
  | leave =>
    exact .inr ⟨i.channel.leave.orphans, rfl, perm_settle { i with channel := i.channel.leave }⟩
  | @send t ht | @lineUp t ht | @spend t ht =>
    refine .inr (pool_of_count rfl fun a => ?_)
    have he := (List.perm_cons_erase ht).count_eq a
    simp only [pool, Channel.contents, Channel.line, Channel.spend, List.count_append,
      List.count_cons, List.count_nil] at he ⊢
    omega
  | deliver hp =>
    refine .inr (pool_of_count rfl fun a => ?_)
    simp only [pool, Channel.contents, Channel.line, hp, List.count_append, List.count_cons,
      List.count_nil]
    omega
  | @keep t hp =>
    refine .inr (pool_of_count rfl fun a => ?_)
    have he := (List.perm_cons_erase hp).count_eq a
    simp only [pool, Channel.contents, Channel.line, List.count_append, List.count_cons,
      List.count_nil] at he ⊢
    omega
  | @withdraw t hl =>
    refine .inr (pool_of_count rfl fun a => ?_)
    have hf : i.channel.line.filter (fun u => !decide (u = t)) = i.channel.line.erase t := by
      rw [hd.erase_eq_filter]
      rfl
    have hq : (i.channel.withdraw fun u => decide (u = t)).queue = i.channel.queue := rfl
    have he := (List.perm_cons_erase hl).count_eq a
    simp only [pool, Channel.contents, Channel.line_withdraw, hf, hq, List.count_append,
      List.count_cons, List.count_nil] at he ⊢
    omega
  | reserve | join => exact .inr (pool_of_count rfl fun _ => rfl)
  | forfeit =>
    refine .inr (pool_of_count rfl fun a => ?_)
    simp only [pool, Channel.contents, Channel.forfeit, Channel.line_grant, Channel.queue_grant]
    rfl

theorem nodup_line {c : Custody} {rest : List Transaction} (h : c.Sound)
    (hc : c.senders.Perm (i.pool ++ rest)) : i.channel.line.Nodup := by
  have hd := (h.reorder hc.symm).nodup
  simp only [Custody.pending, pool, Channel.contents, List.append_assoc, List.nodup_append] at hd
  exact hd.2.1.2.1.1

/-- Custody stays sound whatever a sender of such a channel does. -/
theorem Step.sound_pool {c : Custody} {rest ts : List Transaction} (h : c.Sound)
    (hc : c.senders.Perm (i.pool ++ rest)) (hn : c.next = i.replies.next)
    (ho : c.outcome = i.replies.outcome) (hs : Step i i') (ht : ts.Perm (i'.pool ++ rest)) :
    ({ c with senders := ts, next := i'.replies.next, outcome := i'.replies.outcome } :
      Custody).Sound := by
  rcases hs.pool_cases (nodup_line h hc) with ⟨payload, rfl⟩ | ⟨gone, hr, hp⟩
  · have ho' : i.replies.issue.outcome = i.replies.outcome := funext (Replies.outcome_issue _)
    have hi := h.issue (t := ⟨i.replies.next, payload⟩) hn.symm
      (ho ▸ Replies.outcome_of_next_le (Nat.le_refl _))
    rw [hn, ho] at hi
    simp only [ho', Replies.next_issue]
    refine hi.reorder (ht.trans ?_)
    rw [List.perm_iff_count]
    intro a
    have ha := hc.count_eq a
    simp only [pool, List.count_append] at ha ⊢
    omega
  · have hgone : c.senders.Perm (gone ++ (i'.pool ++ rest)) := by
      rw [← List.append_assoc]
      exact hc.trans (hp.append_right rest)
    have hs := (h.letGo hgone hn ho).1
    rw [← hr] at hs
    have hnext : i'.replies.next = c.next := by rw [hr, Replies.next_releaseAll, hn]
    rw [hnext]
    exact hs.reorder ht

/-- It stays sound when nobody reads, and what is let go for that is answered `dropped`. -/
theorem sound_settle {c : Custody} {rest ts : List Transaction} (h : c.Sound)
    (hc : c.senders.Perm (i.pool ++ rest)) (hn : c.next = i.replies.next)
    (ho : c.outcome = i.replies.outcome) (ht : ts.Perm (i.settle.pool ++ rest)) :
    ({ c with
      senders := ts, next := i.settle.replies.next, outcome := i.settle.replies.outcome } :
        Custody).Sound ∧
      ∀ t ∈ i.channel.orphans, i.settle.replies.outcome t.serial = some .dropped := by
  have hgone : c.senders.Perm (i.channel.orphans ++ (i.settle.pool ++ rest)) := by
    rw [← List.append_assoc]
    exact hc.trans (i.perm_settle.append_right rest)
  obtain ⟨hs, hdropped⟩ := h.letGo hgone hn ho
  have hnext : i.settle.replies.next = c.next := (Replies.next_releaseAll ..).trans hn.symm
  rw [hnext]
  exact ⟨hs.reorder ht, hdropped⟩

/-- What is in the queue after an act was with the senders or in the channel before. -/
theorem Step.mem_pool {t : Transaction} (hd : i.channel.line.Nodup) (hs : Step i i')
    (ht : t ∈ i'.channel.queue) : t ∈ i.pool := by
  rcases hs.pool_cases hd with ⟨payload, rfl⟩ | ⟨gone, -, hp⟩
  · exact List.mem_append_right _ (List.mem_append_left _ ht)
  · exact hp.mem_iff.mpr (List.mem_append_right _ (List.mem_append_right _
      (List.mem_append_left _ ht)))

theorem Step.remembers (hs : Step i i') : i.replies.Remembers i'.replies := by
  cases hs with
  | issue => exact fun serial o ho => (Replies.outcome_issue i.replies serial).trans ho
  | discard => exact (Replies.Keeps.answer ..).outcome
  | leave => exact (Replies.Keeps.releaseAll ..).outcome
  | send | lineUp | deliver | keep | withdraw | reserve | spend | forfeit | join =>
    exact fun _ _ => id

/-- What a sender leaves in a channel that is read is behind what was there. -/
theorem Step.queue_eq (hr : i.channel.receiver = true) (hs : Step i i') :
    i'.channel.queue = i.channel.queue ++ i.admits i' := by
  have hentry : ∀ t, i'.channel.queue = i.channel.queue ++ [t] →
      i'.channel.queue = i.channel.queue ++ i.admits i' := by
    intro t hq
    rw [admits, hq, List.drop_left]
  have hstill : i'.channel.queue = i.channel.queue →
      i'.channel.queue = i.channel.queue ++ i.admits i' := by
    intro hq
    rw [admits, hq, List.drop_length, List.append_nil]
  cases hs with
  | send | spend | deliver => exact hentry _ rfl
  | issue | discard | lineUp | keep | withdraw | reserve | forfeit | join => exact hstill rfl
  | leave => exact hstill (by rw [(Channel.sweep_of_receiver (c := i.channel.leave) hr).1]; rfl)

section Gone

variable {c : Custody} {rest : List Transaction}

/-- What is in the queue stays there when nobody reads, or is let go. -/
theorem mem_settle (h : c.Sound) (hc : c.senders.Perm (i.pool ++ rest))
    (hn : c.next = i.replies.next) (ho : c.outcome = i.replies.outcome) {t : Transaction}
    (ht : t ∈ i.channel.queue) :
    t ∈ i.settle.channel.queue ∨ i.settle.replies.outcome t.serial = some .dropped := by
  rcases Channel.mem_sweep ht with hg | hq
  · exact .inr ((sound_settle h hc hn ho (.refl _)).2 t hg)
  · exact .inl hq

/-- A sender of a channel that nobody reads can use slots set aside, and leave. -/
theorem Step.gone (hg : i.channel.Gone) (h : c.Sound) (hc : c.senders.Perm (i.pool ++ rest))
    (hn : c.next = i.replies.next) (ho : c.outcome = i.replies.outcome) (hs : Step i i') :
    i'.channel.Gone ∧ ∀ t ∈ i.channel.queue ++ i.admits i',
      t ∈ i'.channel.queue ∨ i'.replies.outcome t.serial = some .dropped := by
  have hline : ∀ t, t ∉ i.channel.line := by
    rw [hg.line]
    exact fun _ => List.not_mem_nil
  have hstill : i'.channel.queue = i.channel.queue → ∀ t ∈ i.channel.queue ++ i.admits i',
      t ∈ i'.channel.queue ∨ i'.replies.outcome t.serial = some .dropped := by
    intro hq t ht
    rw [admits, hq, List.drop_length, List.append_nil] at ht
    exact .inl (hq ▸ ht)
  cases hs with
  | send _ _ ha | lineUp _ _ ha | reserve _ ha => cases ha.symm.trans hg.accepting
  | @deliver t rest hp =>
    refine absurd (List.mem_append_left _ ?_) (hline t)
    rw [hp]
    exact List.mem_cons_self
  | @keep t hp => exact absurd (List.mem_append_left _ hp) (hline t)
  | @withdraw t hl => exact absurd hl (hline t)
  | issue | discard | join => exact ⟨⟨hg.receiver, hg.accepting, hg.line⟩, hstill rfl⟩
  | forfeit =>
    exact ⟨⟨hg.receiver, hg.accepting, (Channel.line_grant _).trans hg.line⟩, hstill rfl⟩
  | @spend t ht hp =>
    refine ⟨⟨hg.receiver, hg.accepting, hg.line⟩, fun u hu => .inl ?_⟩
    have hq : (i.channel.spend t).queue = i.channel.queue ++ [t] := rfl
    simpa only [admits, hq, List.drop_left] using hu
  | leave =>
    have hleave : i.channel.leave.Gone := ⟨hg.receiver, hg.accepting, hg.line⟩
    refine ⟨hleave.sweep, fun t ht => ?_⟩
    have hq : i.channel.leave.sweep.queue.drop i.channel.queue.length = [] :=
      List.drop_eq_nil_of_le (Channel.length_queue_sweep_le i.channel.leave)
    simp only [admits, hq, List.append_nil] at ht
    exact mem_settle (i := { i with channel := i.channel.leave }) h hc hn ho ht

end Gone
end Inlet
end Handoff
