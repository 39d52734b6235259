import Handoff.Hub
import Handoff.Proofs.Channel
import Handoff.Proofs.Replies

/-!
# What readers do to the outbound side

A reader takes the oldest item, and with the last handle the receiving side goes away. Both leave
known outcomes alone, as a close request does. Readers come and go in the line for the channel: the
first one holds it, and no one is in line for a channel that is free.
-/
namespace Handoff

namespace Outlet

variable {o o' : Outlet} {t : Transaction}

theorem read_eq_message (h : o.read = (.message t, o')) :
    ∃ rest, o.channel.queue = t :: rest ∧
      o' = { o with channel := { o.channel with queue := rest }.grant } := by
  unfold read at h
  split at h
  · cases h
    obtain ⟨rest, hq, rfl⟩ := Channel.take?_eq_some ‹_›
    exact ⟨rest, hq, rfl⟩
  · split at h <;> cases h

/-- What a reader finds, and when. Only an item changes anything. -/
theorem read_cases (o : Outlet) :
    (∃ t rest, o.channel.queue = t :: rest ∧
      o.read = (.message t, { o with channel := { o.channel with queue := rest }.grant })) ∨
    (o.channel.queue = [] ∧ o.channel.ended = true ∧ o.read = (.ended, o)) ∨
    (o.channel.queue = [] ∧ o.channel.ended = false ∧ o.read = (.nothing, o)) := by
  unfold read Channel.take?
  cases hq : o.channel.queue with
  | nil =>
    cases he : o.channel.ended with
    | true => exact .inr (.inl ⟨rfl, rfl, rfl⟩)
    | false => exact .inr (.inr ⟨rfl, rfl, rfl⟩)
  | cons t rest => exact .inl ⟨t, rest, rfl, rfl⟩

/-- Readers find the end of a vacant channel at once. -/
theorem read_of_vacant (h : o.channel.Vacant) : o.read = (.ended, o) := by
  have hended : o.channel.ended = true := Channel.ended_iff.mpr ⟨h.queue, .inl h.deserted⟩
  rw [read, Channel.take?, h.queue]
  simp only [hended, if_true]

/-- Those who hold the channel or wait for it, in the order in which they get it. -/
def readers (o : Outlet) : List Nat := o.holder.toList ++ o.line

@[simp] theorem channel_join (o : Outlet) (i : Nat) : (o.join i).channel = o.channel := by
  unfold join
  split <;> rfl

@[simp] theorem channel_depart (o : Outlet) (i : Nat) : (o.depart i).channel = o.channel := by
  unfold depart
  split <;> rfl

/-- No one waits for a channel that is free, and no one is in line twice. -/
structure Orderly (o : Outlet) : Prop where
  free : o.holder = none → o.line = []
  distinct : o.readers.Nodup

namespace Orderly

variable {i : Nat}

theorem readers_join (h : o.Orderly) (i : Nat) : (o.join i).readers = o.readers ++ [i] := by
  unfold join readers
  cases hh : o.holder with
  | none => simp [h.free hh]
  | some j => simp

theorem readers_depart (h : o.Orderly) (i : Nat) :
    (o.depart i).readers = o.readers.filter (· ≠ i) := by
  have hd := h.distinct
  unfold depart readers at *
  by_cases hi : o.holder = some i
  · rw [hi, Option.toList_some, List.singleton_append, List.nodup_cons] at hd
    rw [if_pos hi, hi]
    have hline : o.line.filter (· ≠ i) = o.line :=
      List.filter_eq_self.mpr fun j hj => by simpa using ne_of_mem_of_not_mem hj hd.1
    have hnext : o.line.head?.toList ++ o.line.tail = o.line := by cases o.line <;> rfl
    simp only [Option.toList_some, List.singleton_append]
    rw [List.filter_cons_of_neg (by simp), hline, hnext]
  · rw [if_neg hi]
    cases hh : o.holder with
    | none => simp
    | some j =>
      have hj : j ≠ i := fun he => hi (by rw [hh, he])
      simp [hj]

theorem join (h : o.Orderly) (hi : i ∉ o.readers) : (o.join i).Orderly where
  free hn := by
    unfold Outlet.join at hn
    split at hn
    · cases hn
    · rename_i hh
      rw [hh] at hn
      cases hn
  distinct := by
    rw [h.readers_join]
    exact List.perm_append_comm.nodup_iff.mpr (List.nodup_cons.mpr ⟨hi, h.distinct⟩)

theorem depart (h : o.Orderly) (i : Nat) : (o.depart i).Orderly where
  free hn := by
    unfold Outlet.depart at hn ⊢
    split at hn
    · rename_i hi
      rw [if_pos hi, List.head?_eq_none_iff.mp hn]
      rfl
    · rename_i hi
      rw [if_neg hi, h.free hn]
      rfl
  distinct := by
    rw [h.readers_depart]
    exact h.distinct.filter _

end Orderly

theorem dropHandle_last (h : o.handles ≤ 1) :
    o.dropHandle = (o.channel.line, o.channel.queue,
      { o with handles := 0, channel := o.channel.detach.2.2 }) := by
  rw [dropHandle, if_pos h]
  rfl

theorem dropHandle_more (h : 1 < o.handles) :
    o.dropHandle = ([], [], { o with handles := o.handles - 1 }) := by
  rw [dropHandle, if_neg (by omega)]

/-- With nothing left to read, a handle goes away without a loss. -/
theorem dropHandle_of_queue_nil (h : o.channel.queue = []) :
    o.dropHandle.2.2.channel.queue = [] ∧ o.dropHandle.2.1 = [] := by
  by_cases hl : o.handles ≤ 1
  · rw [dropHandle_last hl]
    exact ⟨rfl, h⟩
  · rw [dropHandle_more (by omega)]
    exact ⟨h, rfl⟩

end Outlet

namespace Hub

variable {h : Hub} {t : Transaction}

/-- A close request does nothing to the outbound side. -/
theorem outlet_requestClose (h : Hub) : h.requestClose.2.outlet = h.outlet := by
  unfold requestClose
  split <;> rfl

/-- A close request is not taken back. -/
theorem closeRequested_requestClose (hc : h.lifecycle.closeRequested = true) :
    h.requestClose.2.lifecycle.closeRequested = true := by
  unfold requestClose Lifecycle.requestClose Lifecycle.claimStop
  cases h.lifecycle.state with
  | stopped => exact hc
  | created | running => rfl

theorem replies_requestClose (h : Hub) : h.requestClose.2.replies = h.replies := by
  unfold requestClose
  split <;> rfl

theorem replies_dropOutboundHandle (h : Hub) : h.replies.Keeps h.dropOutboundHandle.replies :=
  .releaseAll ..

theorem handles_dropOutboundHandle (h : Hub) :
    h.dropOutboundHandle.outlet.handles = h.outlet.handles - 1 := by
  rw [dropOutboundHandle]
  by_cases hl : h.outlet.handles ≤ 1
  · rw [Outlet.dropHandle_last hl]
    show 0 = h.outlet.handles - 1
    omega
  · rw [Outlet.dropHandle_more (by omega)]
    rfl

/-- With nothing left to read, a sender goes away without a loss. -/
theorem dropOutboundSender_of_queue_nil (hq : h.outlet.channel.queue = []) :
    h.dropOutboundSender.outlet.channel.queue = [] ∧ h.outlet.channel.leave.orphans = [] := by
  obtain ⟨hsweep, horphans⟩ := Channel.sweep_of_queue_nil (c := h.outlet.channel.leave) hq
  refine ⟨?_, horphans⟩
  show h.outlet.channel.leave.sweep.queue = []
  rw [hsweep]
  exact hq

/-- What has an outcome is let go without effect. -/
theorem release_of_settled (ho : (h.replies.outcome t.serial).isSome) : h.release [t] = h := by
  have hr : h.replies.releaseAll [t] = h.replies := Replies.answer_of_settled ho .dropped
  rw [release, hr]

end Hub

end Handoff
