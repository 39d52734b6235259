import Handoff.Proofs.Channel
import Handoff.Proofs.Custody
import Handoff.Proofs.Reached

/-!
# The sending side of the inbound channel

Any number of senders share the inbound channel. A sender sends directly, through a slot it set
aside earlier, or after waiting for one; a sender that waited may also keep the slot it got and use
it later, so that promised slots are used in any order. Sending handles come and go, and whoever
has a transaction that was not accepted may let go of it.

`Inlet.Step` lists the transitions of a sender. They keep a channel guarded and ended, and
`Inlet.Step.sound` says that a sender changes the custody of transactions only by issuing one, by
letting go of one that was not accepted, or by having one accepted.
-/
namespace Handoff

/-- What senders act on: the inbound channel, the ledger of replies, and the transactions that
were issued and are not handed to the channel. -/
structure Inlet where
  channel : Channel Transaction
  replies : Replies
  unsent : List Transaction
deriving Repr

/-- What a sender may do. -/
inductive Sending
  | issue (payload : Message)
  | discard (t : Transaction)
  /-- sends, or gets in line -/
  | send (t : Transaction)
  /-- the first sender with a promised slot uses it -/
  | deliver
  /-- a sender with a promised slot sets it aside instead -/
  | keep (t : Transaction)
  /-- a sender leaves the line -/
  | withdraw (t : Transaction)
  | reserve
  /-- sends through a slot set aside -/
  | spend (t : Transaction)
  | forfeit
  | join
  | leave
deriving Repr

namespace Inlet

/-- One act of a sender, if it is possible now. -/
def act (s : Sending) (i : Inlet) : Option Inlet :=
  match s with
  | .issue payload =>
    some { i with
      replies := i.replies.issue
      unsent := i.unsent ++ [⟨i.replies.next, payload⟩] }
  | .discard t =>
    if t ∈ i.unsent then
      some { i with replies := i.replies.release t.serial, unsent := i.unsent.erase t }
    else none
  | .send t =>
    if t ∈ i.unsent ∧ 0 < i.channel.senders then
      match i.channel.send t with
      | (.accepted, c) => some { i with channel := c, unsent := i.unsent.erase t }
      | (.waits, c) => some { i with channel := c, unsent := i.unsent.erase t }
      | _ => none
    else none
  | .deliver => i.channel.deliver?.map fun (_, c) => { i with channel := c }
  | .keep t =>
    if t ∈ i.channel.promised then
      some { i with
        channel := { i.channel with
          promised := i.channel.promised.erase t, permits := i.channel.permits + 1 }
        unsent := i.unsent ++ [t] }
    else none
  | .withdraw t =>
    if t ∈ i.channel.line then
      some { i with channel := i.channel.withdraw (· = t), unsent := i.unsent ++ [t] }
    else none
  | .reserve =>
    if 0 < i.channel.senders then
      match i.channel.reserve with
      | (.accepted, c) => some { i with channel := c }
      | _ => none
    else none
  | .spend t =>
    if t ∈ i.unsent ∧ 0 < i.channel.permits then
      some { i with channel := i.channel.spend t, unsent := i.unsent.erase t }
    else none
  | .forfeit =>
    if 0 < i.channel.permits then some { i with channel := i.channel.forfeit } else none
  | .join =>
    if 0 < i.channel.senders then
      some { i with channel := { i.channel with senders := i.channel.senders + 1 } }
    else none
  | .leave =>
    if 0 < i.channel.senders then
      let c := i.channel.leave
      some { i with channel := c.sweep, replies := i.replies.releaseAll c.orphans }
    else none

variable {i i' : Inlet} {s : Sending}

/-- The transitions of a sender that change the inbound channel, with the condition of each. -/
inductive Step (i : Inlet) : Inlet → Prop
  | issue (payload) : Step i { i with
      replies := i.replies.issue, unsent := i.unsent ++ [⟨i.replies.next, payload⟩] }
  | discard {t} : t ∈ i.unsent → Step i { i with
      replies := i.replies.release t.serial, unsent := i.unsent.erase t }
  | send {t} : t ∈ i.unsent → 0 < i.channel.senders → i.channel.accepting = true →
      0 < i.channel.free → Step i { i with
        channel := { i.channel with queue := i.channel.queue ++ [t] }, unsent := i.unsent.erase t }
  | lineUp {t} : t ∈ i.unsent → 0 < i.channel.senders → i.channel.accepting = true →
      Step i { i with
        channel := { i.channel with waiting := i.channel.waiting ++ [t] }
        unsent := i.unsent.erase t }
  | deliver {t rest} : i.channel.promised = t :: rest → Step i { i with
      channel := { i.channel with promised := rest, queue := i.channel.queue ++ [t] } }
  | keep {t} : t ∈ i.channel.promised → Step i { i with
      channel := { i.channel with
        promised := i.channel.promised.erase t, permits := i.channel.permits + 1 }
      unsent := i.unsent ++ [t] }
  | withdraw {t} : t ∈ i.channel.line → Step i { i with
      channel := i.channel.withdraw (· = t), unsent := i.unsent ++ [t] }
  | reserve : 0 < i.channel.senders → i.channel.accepting = true → 0 < i.channel.free →
      Step i { i with channel := { i.channel with permits := i.channel.permits + 1 } }
  | spend {t} : t ∈ i.unsent → 0 < i.channel.permits → Step i { i with
      channel := i.channel.spend t, unsent := i.unsent.erase t }
  | forfeit : 0 < i.channel.permits → Step i { i with channel := i.channel.forfeit }
  | join : 0 < i.channel.senders →
      Step i { i with channel := { i.channel with senders := i.channel.senders + 1 } }
  | leave : 0 < i.channel.senders → Step i { i with
      channel := i.channel.leave.sweep
      replies := i.replies.releaseAll i.channel.leave.orphans }

theorem act_cases (hs : i.act s = some i') : Step i i' := by
  cases s with
  | issue payload => cases hs; exact .issue payload
  | discard t =>
    simp only [act, Option.ite_none_right_eq_some, Option.some.injEq] at hs
    obtain ⟨ht, rfl⟩ := hs
    exact .discard ht
  | send t =>
    simp only [act, Option.ite_none_right_eq_some] at hs
    obtain ⟨⟨ht, hn⟩, hs⟩ := hs
    split at hs
    · cases hs
      obtain ⟨ha, hf, rfl⟩ := Channel.send_eq_accepted ‹_›
      exact .send ht hn ha hf
    · cases hs
      obtain ⟨ha, -, rfl⟩ := Channel.send_eq_waits ‹_›
      exact .lineUp ht hn ha
    · cases hs
  | deliver =>
    simp only [act, Option.map_eq_some_iff] at hs
    obtain ⟨⟨t, c⟩, hd, rfl⟩ := hs
    obtain ⟨rest, hp, rfl⟩ := Channel.deliver?_eq_some hd
    exact .deliver hp
  | keep t =>
    simp only [act, Option.ite_none_right_eq_some, Option.some.injEq] at hs
    obtain ⟨ht, rfl⟩ := hs
    exact .keep ht
  | withdraw t =>
    simp only [act, Option.ite_none_right_eq_some, Option.some.injEq] at hs
    obtain ⟨ht, rfl⟩ := hs
    exact .withdraw ht
  | reserve =>
    simp only [act, Option.ite_none_right_eq_some] at hs
    obtain ⟨hn, hs⟩ := hs
    split at hs
    · cases hs
      obtain ⟨ha, hf, rfl⟩ := Channel.reserve_eq_accepted ‹_›
      exact .reserve hn ha hf
    · cases hs
  | spend t =>
    simp only [act, Option.ite_none_right_eq_some, Option.some.injEq] at hs
    obtain ⟨⟨ht, hp⟩, rfl⟩ := hs
    exact .spend ht hp
  | forfeit =>
    simp only [act, Option.ite_none_right_eq_some, Option.some.injEq] at hs
    obtain ⟨hp, rfl⟩ := hs
    exact .forfeit hp
  | join =>
    simp only [act, Option.ite_none_right_eq_some, Option.some.injEq] at hs
    obtain ⟨hn, rfl⟩ := hs
    exact .join hn
  | leave =>
    simp only [act, Option.ite_none_right_eq_some, Option.some.injEq] at hs
    obtain ⟨hn, rfl⟩ := hs
    exact .leave hn

/-- Whoever is in line can leave it with its transaction. So those who are still there when the
channel is closed are those who let go of what they have. -/
theorem reached_withdrawn {ts : List Transaction} (hd : ts.Nodup)
    (hl : ∀ t ∈ ts, t ∈ i.channel.line) :
    ∃ i', Reached act i i' ∧ i'.channel.line = i.channel.line.filter (· ∉ ts) ∧
      i'.unsent = i.unsent ++ ts ∧ i'.replies = i.replies ∧
        i'.channel.close.2 = i.channel.close.2 := by
  induction ts generalizing i with
  | nil =>
    have hall : i.channel.line.filter (fun u => u ∉ []) = i.channel.line :=
      List.filter_eq_self.mpr fun _ _ => by simp
    exact ⟨i, .start, hall.symm, (List.append_nil _).symm, rfl, rfl⟩
  | cons t ts ih =>
    obtain ⟨ht, hd⟩ := List.nodup_cons.mp hd
    have hact : act (.withdraw t) i = some
        ⟨i.channel.withdraw (· = t), i.replies, i.unsent ++ [t]⟩ :=
      if_pos (hl t List.mem_cons_self)
    have hstill : ∀ u ∈ ts, u ∈ (i.channel.withdraw (· = t)).line := by
      intro u hu
      have hne : u ≠ t := fun he => ht (he ▸ hu)
      simp [Channel.line_withdraw, hl u (List.mem_cons_of_mem _ hu), hne]
    obtain ⟨i', hr, hline, hunsent, hreplies, hclose⟩ :=
      ih (i := ⟨i.channel.withdraw (· = t), i.replies, i.unsent ++ [t]⟩) hd hstill
    refine ⟨i', (Reached.single _ hact).trans hr, hline.trans ?_, by simp [hunsent],
      hreplies, hclose⟩
    simp only [Channel.line_withdraw, List.filter_filter, List.mem_cons, not_or]
    exact List.filter_congr fun u _ => by simp [Bool.and_comm]

namespace Step

theorem accepting_eq (hs : Step i i') : i'.channel.accepting = i.channel.accepting := by
  cases hs <;> first | rfl | exact Channel.accepting_sweep _

theorem receiver_eq (hs : Step i i') : i'.channel.receiver = i.channel.receiver := by
  cases hs <;> first | rfl | exact Channel.receiver_sweep _

theorem guarded (h : i.channel.Guarded) (hs : Step i i') : i'.channel.Guarded := by
  have hfits := h.fits
  cases hs with
  | issue | discard | join => exact ⟨h.fits, h.closed, h.gone⟩
  | send ht hn ha hf =>
    refine .of_accepting ?_ ha (h.receiver_of_accepting ha)
    simp only [Channel.Fits, Channel.free, Channel.used, List.length_append,
      List.length_singleton] at hf hfits ⊢
    omega
  | lineUp ht hn ha => exact .of_accepting h.fits ha (h.receiver_of_accepting ha)
  | deliver hp =>
    have ha := h.accepting_of_mem_line (by rw [Channel.line, hp]; exact List.mem_cons_self)
    refine .of_accepting ?_ ha (h.receiver_of_accepting ha)
    simp only [Channel.Fits, Channel.used, hp, List.length_append, List.length_cons,
      List.length_nil] at hfits ⊢
    omega
  | keep hp =>
    have ha := h.accepting_of_mem_line (List.mem_append_left _ hp)
    refine .of_accepting ?_ ha (h.receiver_of_accepting ha)
    have hlen := List.length_erase_of_mem hp
    have hpos := List.length_pos_of_mem hp
    simp only [Channel.Fits, Channel.used] at hfits ⊢
    omega
  | withdraw hl =>
    have ha := h.accepting_of_mem_line hl
    exact .of_accepting (Channel.fits_withdraw h.fits _) ha (h.receiver_of_accepting ha)
  | reserve hn ha hf =>
    refine .of_accepting ?_ ha (h.receiver_of_accepting ha)
    simp only [Channel.Fits, Channel.free, Channel.used] at hf hfits ⊢
    omega
  | spend ht hp =>
    refine .of_receiver ?_ h.closed (h.receiver_of_permits hp)
    simp only [Channel.Fits, Channel.used, Channel.spend, List.length_append,
      List.length_singleton] at hfits ⊢
    omega
  | forfeit hp =>
    refine .of_receiver (Channel.fits_grant ?_) (fun hc => ?_) (h.receiver_of_permits hp)
    · simp only [Channel.Fits, Channel.used] at hfits ⊢
      omega
    · rw [Channel.forfeit, Channel.line_grant]
      exact h.closed hc
  | leave hn =>
    rw [h.leave_still.1]
    exact ⟨h.fits, h.closed, h.gone⟩

/-- Once the channel has ended, no sender can revive it. -/
theorem ended (h : i.channel.Guarded) (he : i.channel.ended = true) (hs : Step i i') :
    i'.channel.ended = true := by
  obtain ⟨hq, hl, hp, ho⟩ := h.ended_iff.mp he
  have hclosed : 0 < i.channel.senders → i.channel.accepting = false := fun hn =>
    ho.resolve_left (by omega)
  rw [(hs.guarded h).ended_iff]
  cases hs with
  | issue | discard => exact ⟨hq, hl, hp, ho⟩
  | send ht hn ha => simp [hclosed hn] at ha
  | lineUp ht hn ha => simp [hclosed hn] at ha
  | deliver hd => simp [(Channel.line_eq_nil.mp hl).1] at hd
  | keep hd => simp [(Channel.line_eq_nil.mp hl).1] at hd
  | withdraw hw => simp [hl] at hw
  | reserve hn ha => simp [hclosed hn] at ha
  | spend ht hn => omega
  | forfeit hn => omega
  | join hn => exact ⟨hq, hl, hp, .inr (hclosed hn)⟩
  | leave hn =>
    rw [h.leave_still.1]
    exact ⟨hq, hl, hp, .inr (hclosed hn)⟩

end Step

def custody (i : Inlet) (c : Custody) : Custody :=
  { c with
    senders := i.unsent ++ i.channel.line
    queue := i.channel.queue
    next := i.replies.next
    outcome := i.replies.outcome }

/-- What an act puts into the queue. -/
def admits (i i' : Inlet) : List Transaction := i'.channel.queue.drop i.channel.queue.length

private theorem sound_of_still {c : Custody} (hq : i'.channel.queue = i.channel.queue)
    (h : (i'.custody c).Sound) :
    (i'.custody { c with accepted := c.accepted ++ i.admits i' }).Sound := by
  rw [admits, hq, List.drop_length, List.append_nil]
  exact h

private theorem sound_of_entry {c : Custody} {t : Transaction}
    (hq : i'.channel.queue = i.channel.queue ++ [t])
    (h : (i'.custody { c with accepted := c.accepted ++ [t] }).Sound) :
    (i'.custody { c with accepted := c.accepted ++ i.admits i' }).Sound := by
  rw [admits, hq, List.drop_left]
  exact h

/-- A sender issues a transaction, lets go of one that was not accepted, has one accepted, or
changes nothing about them. -/
theorem Step.sound {c : Custody} (hg : i.channel.Guarded) (h : (i.custody c).Sound)
    (hs : Step i i') :
    (i'.custody { c with accepted := c.accepted ++ i.admits i' }).Sound := by
  cases hs with
  | issue payload =>
    refine sound_of_still rfl ?_
    have ho : i.replies.issue.outcome = i.replies.outcome := funext (Replies.outcome_issue _)
    have hi := h.issue (t := ⟨i.replies.next, payload⟩) rfl
      (Replies.outcome_of_next_le (Nat.le_refl _))
    simp only [custody, ho, Replies.next_issue]
    refine hi.reorder ?_
    simp only [custody, List.append_assoc]
    exact List.perm_append_comm.append_left _
  | @discard t ht =>
    refine sound_of_still rfl ?_
    have hp : (i.custody c).senders.Perm ([t] ++ (i.unsent.erase t ++ i.channel.line)) :=
      (List.perm_cons_erase ht).append_right _
    have hmem : t ∈ (i.custody c).pending := by simp [Custody.pending, custody, ht]
    have hw : Writes _ (i.replies.release t.serial).outcome [t] .dropped :=
      Replies.writes_answer (h.issued t (List.mem_append_left _ hmem)) (h.unanswered t hmem) _
    have hs := h.turnAway hp hw
    simpa only [custody, Replies.next_release] using hs
  | @send t ht hn ha hf =>
    refine sound_of_entry rfl ?_
    exact h.accept ((List.perm_cons_erase ht).append_right _)
  | @lineUp t ht hn ha =>
    refine sound_of_still rfl (h.reorder ?_)
    rw [List.perm_iff_count]
    intro a
    have he := (List.perm_cons_erase ht).count_eq a
    simp only [custody, Channel.line, List.count_append, List.count_cons, List.count_nil] at he ⊢
    omega
  | @deliver t rest hp =>
    refine sound_of_entry rfl (h.accept ?_)
    simp only [custody, Channel.line, hp]
    exact List.perm_middle
  | @keep t hp =>
    refine sound_of_still rfl (h.reorder ?_)
    rw [List.perm_iff_count]
    intro a
    have he := (List.perm_cons_erase hp).count_eq a
    simp only [custody, Channel.line, List.count_append, List.count_cons, List.count_nil] at he ⊢
    omega
  | @withdraw t hl =>
    refine sound_of_still rfl (h.reorder ?_)
    have hd : i.channel.line.Nodup := by
      have hd := h.nodup
      simp only [Custody.pending, custody, List.append_assoc, List.nodup_append] at hd
      exact hd.2.1.1
    have hf : i.channel.line.filter (fun u => !decide (u = t)) = i.channel.line.erase t := by
      rw [hd.erase_eq_filter]
      rfl
    rw [List.perm_iff_count]
    intro a
    have he := (List.perm_cons_erase hl).count_eq a
    simp only [custody, Channel.line_withdraw, hf, List.count_append, List.count_cons,
      List.count_nil] at he ⊢
    omega
  | reserve | join => exact sound_of_still rfl h
  | forfeit =>
    refine sound_of_still rfl ?_
    simp only [custody, Channel.forfeit, Channel.line_grant]
    exact h
  | @spend t ht hp =>
    refine sound_of_entry rfl ?_
    exact h.accept ((List.perm_cons_erase ht).append_right _)
  | leave hn =>
    obtain ⟨hsweep, horphans⟩ := hg.leave_still
    rw [hsweep, horphans]
    exact sound_of_still rfl h

end Inlet
end Handoff
