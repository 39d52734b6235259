import Handoff.Channel

/-!
# What the channel operations do

For every operation: the case in which it succeeds and the channel it leaves. `line` holds the
senders that wait, with or without a slot. Granting slots only moves the border inside the line,
so no later proof needs to know which sender was promised what. `Fits` is the one bound that every
operation keeps: no more slots are taken than there are. `Guarded` is what a channel keeps whatever
its senders do.
-/
namespace Handoff.Channel

variable {α : Type} {c c' : Channel α} {x : α}

/-- Waiting senders, those with a promised slot first. -/
def line (c : Channel α) : List α := c.promised ++ c.waiting

def Fits (c : Channel α) : Prop := c.used ≤ c.capacity

@[simp] theorem queue_grant (c : Channel α) : c.grant.queue = c.queue := rfl

@[simp] theorem line_grant (c : Channel α) : c.grant.line = c.line := by
  simp only [line, grant, List.append_assoc, List.take_append_drop]

theorem line_taken (c : Channel α) (rest : List α) :
    (grant { c with queue := rest }).line = c.line := line_grant _

@[simp] theorem line_detach (c : Channel α) : c.detach.2.2.line = [] := rfl

@[simp] theorem queue_detach (c : Channel α) : c.detach.2.2.queue = [] := rfl

theorem line_eq_nil : c.line = [] ↔ c.promised = [] ∧ c.waiting = [] := List.append_eq_nil_iff

theorem grant_of_line_nil (h : c.line = []) : c.grant = c := by
  obtain ⟨hp, hw⟩ := line_eq_nil.mp h
  simp [grant, hp, hw]
  cases c
  simp_all

theorem fits_grant (h : c.Fits) : c.grant.Fits := by
  simp only [Fits, used, grant, free, List.length_append, List.length_take] at h ⊢
  omega

theorem take?_eq_some (h : c.take? = some (x, c')) :
    ∃ rest, c.queue = x :: rest ∧ c' = { c with queue := rest }.grant := by
  unfold take? at h
  split at h
  · cases h
  · rename_i y rest hq
    cases h
    exact ⟨rest, hq, rfl⟩

theorem take?_eq_none (h : c.take? = none) : c.queue = [] := by
  unfold take? at h
  split at h
  · assumption
  · cases h

theorem send_eq_accepted (h : c.send x = (.accepted, c')) :
    c.accepting = true ∧ 0 < c.free ∧ c' = { c with queue := c.queue ++ [x] } := by
  unfold send at h
  split at h
  · cases h
  · split at h
    · cases h
      exact ⟨by simp_all, ‹_›, rfl⟩
    · cases h

theorem send_eq_waits (h : c.send x = (.waits, c')) :
    c.accepting = true ∧ c.free = 0 ∧ c' = { c with waiting := c.waiting ++ [x] } := by
  unfold send at h
  split at h
  · cases h
  · split at h
    · cases h
    · cases h
      exact ⟨by simp_all, by omega, rfl⟩

theorem reserve_eq_accepted (h : c.reserve = (.accepted, c')) :
    c.accepting = true ∧ 0 < c.free ∧ c' = { c with permits := c.permits + 1 } := by
  unfold reserve at h
  split at h
  · cases h
  · split at h
    · cases h
      exact ⟨by simp_all, ‹_›, rfl⟩
    · cases h

theorem reserve_eq_closed (h : c.reserve = (.closed, c')) : c.accepting = false := by
  unfold reserve at h
  split at h
  · simp_all
  · split at h <;> cases h

/-- Who finds a slot sets it aside. -/
theorem request_eq_accepted (h : c.request x = (.accepted, c')) : c.reserve = (.accepted, c') := by
  unfold request at h
  unfold reserve
  split at h
  · cases h
  · split at h
    · rw [if_neg ‹_›, if_pos ‹_›]
      exact h
    · cases h

/-- A sender that does not pause before it uses its slot sends at once. -/
theorem send_eq_of_request (h : c.request x = (.accepted, c')) :
    c.send x = (.accepted, c'.spend x) := by
  unfold request at h
  unfold send
  split at h
  · cases h
  · split at h
    · cases h
      rw [if_neg ‹_›, if_pos ‹_›]
      rfl
    · cases h

/-- Who finds none waits as a sender that sends at once does. -/
theorem request_eq_waits (h : c.request x = (.waits, c')) : c.send x = (.waits, c') := by
  unfold request at h
  unfold send
  split at h
  · cases h
  · split at h
    · cases h
    · rw [if_neg ‹_›, if_neg ‹_›]
      exact h

theorem request_ne_full : c.request x ≠ (.full, c') := by
  unfold request
  split
  · simp
  · split <;> simp

theorem request_eq_closed (h : c.request x = (.closed, c')) : c.accepting = false := by
  unfold request at h
  split at h
  · simp_all
  · split at h <;> cases h

theorem deliver?_eq_some (h : c.deliver? = some (x, c')) :
    ∃ rest, c.promised = x :: rest ∧ c' = { c with promised := rest, queue := c.queue ++ [x] } := by
  unfold deliver? at h
  split at h
  · cases h
  · rename_i y rest hp
    cases h
    exact ⟨rest, hp, rfl⟩

theorem claim?_eq_some (h : c.claim? = some (x, c')) :
    ∃ rest, c.promised = x :: rest ∧
      c' = { c with promised := rest, permits := c.permits + 1 } := by
  unfold claim? at h
  split at h
  · cases h
  · rename_i y rest hp
    cases h
    exact ⟨rest, hp, rfl⟩

@[simp] theorem accepting_sweep (c : Channel α) : c.sweep.accepting = c.accepting := by
  unfold sweep
  split <;> rfl

@[simp] theorem receiver_sweep (c : Channel α) : c.sweep.receiver = c.receiver := by
  unfold sweep
  split <;> rfl

@[simp] theorem capacity_sweep (c : Channel α) : c.sweep.capacity = c.capacity := by
  unfold sweep
  split <;> rfl

@[simp] theorem permits_sweep (c : Channel α) : c.sweep.permits = c.permits := by
  unfold sweep
  split <;> rfl

@[simp] theorem senders_sweep (c : Channel α) : c.sweep.senders = c.senders := by
  unfold sweep
  split <;> rfl

@[simp] theorem line_sweep (c : Channel α) : c.sweep.line = c.line := by
  unfold sweep
  split <;> rfl

theorem queue_sweep (c : Channel α) : c.sweep.queue = [] ∨ c.sweep.queue = c.queue := by
  unfold sweep
  split
  · exact .inl rfl
  · exact .inr rfl

theorem length_queue_sweep_le (c : Channel α) : c.sweep.queue.length ≤ c.queue.length := by
  rcases queue_sweep c with hq | hq
  · rw [hq]
    exact Nat.zero_le _
  · exact Nat.le_of_eq (congrArg List.length hq)

theorem sweep_of_receiver (h : c.receiver = true) : c.sweep = c ∧ c.orphans = [] := by
  simp [sweep, orphans, h]

theorem sweep_of_queue_nil (h : c.queue = []) : c.sweep = c ∧ c.orphans = [] := by
  unfold sweep orphans
  split
  · exact ⟨by rw [← h], h⟩
  · exact ⟨rfl, rfl⟩

@[simp] theorem line_withdraw (c : Channel α) (leaves : α → Bool) :
    (c.withdraw leaves).line = c.line.filter (!leaves ·) := by
  rw [withdraw, line_grant]
  exact (List.filter_append ..).symm

theorem fits_withdraw (h : c.Fits) (leaves : α → Bool) : (c.withdraw leaves).Fits := by
  refine fits_grant ?_
  have hle := List.length_filter_le (!leaves ·) c.promised
  simp only [Fits, used] at h ⊢
  omega

theorem awaits_eq_any_line (c : Channel α) (is : α → Bool) : c.awaits is = c.line.any is :=
  List.any_append.symm

theorem withdraw_of_line_nil (h : c.line = []) (leaves : α → Bool) : c.withdraw leaves = c := by
  obtain ⟨hp, hw⟩ := line_eq_nil.mp h
  rw [withdraw, grant_of_line_nil]
  · simp only [hp, hw, List.filter_nil]
    cases c
    simp_all
  · rw [line_eq_nil, hp, hw]
    exact ⟨rfl, rfl⟩

/-- A channel that has ended holds nothing, and whoever could still send is gone or turned away. -/
theorem ended_iff : c.ended = true ↔
    c.queue = [] ∧ (c.deserted = true ∨ (c.accepting = false ∧ c.free = c.capacity)) := by
  simp [ended]

theorem deserted_iff : c.deserted = true ↔
    c.senders = 0 ∧ c.permits = 0 ∧ c.line = [] := by
  simp [deserted, line_eq_nil, and_assoc]

theorem used_eq_zero (hf : c.Fits) (h : c.free = c.capacity) : c.used = 0 := by
  simp only [Fits, free] at hf h
  omega

/-- A channel that does not accept has no one in line, and without a receiving side it is empty for
good. -/
structure Guarded (c : Channel α) : Prop where
  fits : c.Fits
  closed : c.accepting = false → c.line = []
  gone : c.receiver = false → c.accepting = false ∧ c.queue = [] ∧ c.permits = 0

namespace Guarded

theorem accepting_of_mem_line (h : c.Guarded) (hx : x ∈ c.line) : c.accepting = true := by
  cases ha : c.accepting with
  | true => rfl
  | false =>
    rw [h.closed ha] at hx
    exact absurd hx List.not_mem_nil

theorem receiver_of_accepting (h : c.Guarded) (ha : c.accepting = true) : c.receiver = true := by
  cases hr : c.receiver with
  | true => rfl
  | false => simp [(h.gone hr).1] at ha

theorem receiver_of_permits (h : c.Guarded) (hp : 0 < c.permits) : c.receiver = true := by
  cases hr : c.receiver with
  | true => rfl
  | false => exact absurd (h.gone hr).2.2 (by omega)

/-- When a sending handle goes away, nothing is left that nobody can read. -/
theorem leave_still (h : c.Guarded) : c.leave.sweep = c.leave ∧ c.leave.orphans = [] := by
  cases hr : c.receiver with
  | true => exact sweep_of_receiver (c := c.leave) hr
  | false => exact sweep_of_queue_nil (c := c.leave) (h.gone hr).2.1

theorem of_receiver (hf : c.Fits) (hc : c.accepting = false → c.line = [])
    (hr : c.receiver = true) : c.Guarded := ⟨hf, hc, by simp [hr]⟩

theorem of_accepting (hf : c.Fits) (ha : c.accepting = true) (hr : c.receiver = true) :
    c.Guarded := ⟨hf, by simp [ha], by simp [hr]⟩

/-- A guarded channel has ended when it is empty and no sender can put anything in any more. -/
theorem ended_iff (h : c.Guarded) : c.ended = true ↔
    c.queue = [] ∧ c.line = [] ∧ c.permits = 0 ∧ (c.senders = 0 ∨ c.accepting = false) := by
  rw [Channel.ended_iff, deserted_iff]
  constructor
  · rintro ⟨hq, ⟨hs, hp, hl⟩ | ⟨ha, hf⟩⟩
    · exact ⟨hq, hl, hp, .inl hs⟩
    · have hu := used_eq_zero h.fits hf
      simp only [used] at hu
      exact ⟨hq, h.closed ha, by omega, .inr ha⟩
  · rintro ⟨hq, hl, hp, hs | ha⟩
    · exact ⟨hq, .inl ⟨hs, hp, hl⟩⟩
    · refine ⟨hq, .inr ⟨ha, ?_⟩⟩
      simp [free, used, hq, hp, (line_eq_nil.mp hl).1]

theorem take {rest : List α} (h : c.Guarded) (hr : c.receiver = true) (hq : c.queue = x :: rest) :
    (grant { c with queue := rest }).Guarded := by
  have hfits := h.fits
  refine of_receiver (fits_grant ?_) (fun ha => ?_) hr
  · simp only [Fits, used, hq, List.length_cons] at hfits ⊢
    omega
  · rw [line_grant]
    exact h.closed ha

theorem close (h : c.Guarded) (hr : c.receiver = true) : c.close.2.Guarded := by
  have hfits := h.fits
  refine of_receiver ?_ (fun _ => rfl) hr
  simp only [Fits, used, Channel.close, List.length_nil] at hfits ⊢
  omega

theorem detach (h : c.Guarded) (he : c.ended = true) : c.detach.2.2.Guarded := by
  have hp := (h.ended_iff.mp he).2.2.1
  refine ⟨?_, fun _ => rfl, fun _ => ⟨rfl, rfl, hp⟩⟩
  simp [Fits, used, Channel.detach, Channel.close, hp]

end Guarded

/-- Nothing is in the channel, and no one is left who could send. -/
structure Vacant (c : Channel α) : Prop where
  queue : c.queue = []
  deserted : c.deserted = true

namespace Vacant

theorem detach (h : c.Vacant) : c.detach.2.2.Vacant := by
  obtain ⟨hsenders, hpermits, -⟩ := deserted_iff.mp h.deserted
  exact ⟨rfl, deserted_iff.mpr ⟨hsenders, hpermits, rfl⟩⟩

end Vacant

end Handoff.Channel
