import Handoff.Proofs.Steady
import Mathlib.Logic.ExistsUnique

/-!
# No transaction is lost in silence

Whatever the parties of an exchange do, an accepted transaction is in one place, and what is placed
in the outbound slot leaves it to one reader, or is let go with the last of them. The loop answers
only what it has not placed, and once it is finished it has placed or answered everything.
-/
namespace Handoff.Exchange

/-- Where an accepted transaction can be. -/
inductive Place
  | inbound
  | hand
  | slot
  | reader
  | settled
deriving DecidableEq, Repr

def contents (w : Exchange) : Place → List Transaction
  | .inbound => w.loop.inbound.queue
  | .hand => w.loop.position.hand
  | .slot => w.slot
  | .reader => w.held
  | .settled => w.refused ++ w.lost ++ w.returned.map (·.1)

/-- What became of a transaction, as far as that is known. -/
def outcome (w : Exchange) (t : Transaction) : Option Outcome := w.hub.replies.outcome t.serial

variable {w w' : Exchange} {m : Move} {t : Transaction}

/-- No move takes back what was placed, and only a reader that takes adds to what was taken. -/
theorem step_histories (hs : step m w = some w') : w.placed <+: w'.placed ∧
    (w'.taken = w.taken ∨
      ∃ t, m = .take ∧ w'.taken = w.taken ++ [t] ∧ w'.held = w.held ++ [t]) := by
  cases step_cases hs with
  | loop => exact ⟨List.prefix_append .., .inl rfl⟩
  | take => exact ⟨List.prefix_refl _, .inr ⟨_, rfl, rfl, rfl⟩⟩
  | sending | shut | answer | addHandle | dropHandle | cloneSpare | dropSpare | markRunning
  | claimStop | publish | note => exact ⟨List.prefix_refl _, .inl rfl⟩

namespace Steady

theorem accepted_perm (hw : w.Steady) : w.accepted.Perm
    (w.contents .inbound ++ w.contents .hand ++ w.contents .slot ++ w.contents .reader ++
      w.contents .settled) := hw.sound.accepted_perm

theorem nodup_places (hw : w.Steady) :
    (w.contents .inbound ++ w.contents .hand ++ w.contents .slot ++ w.contents .reader ++
      w.contents .settled).Nodup := hw.sound.nodup_places

theorem exists_unique_place (hw : w.Steady) (ht : t ∈ w.accepted) :
    ∃! p, t ∈ w.contents p := by
  have hcount := List.nodup_iff_count.mp hw.nodup_places t
  simp only [List.count_append] at hcount
  have hmem := hw.accepted_perm.mem_iff.mp ht
  simp only [List.mem_append] at hmem
  have hunique : ∀ p q, t ∈ w.contents p → t ∈ w.contents q → p = q := by
    intro p q hp hq
    have hp := List.count_pos_iff.mpr hp
    have hq := List.count_pos_iff.mpr hq
    cases p <;> cases q <;> first | rfl | omega
  rcases hmem with (((h | h) | h) | h) | h <;> exact ⟨_, h, fun q hq => hunique _ _ hq h⟩

theorem mem_settled_iff (hw : w.Steady) (ht : t ∈ w.accepted) :
    t ∈ w.contents .settled ↔ (w.outcome t).isSome := by
  constructor
  · intro hs
    rcases List.mem_append.mp hs with hs | hs
    · rcases List.mem_append.mp hs with hs | hs
      · have ho : w.outcome t = _ := hw.sound.refusedClosed t hs
        rw [ho]
        rfl
      · have ho : w.outcome t = _ := hw.sound.lostDropped t hs
        rw [ho]
        rfl
    · obtain ⟨p, hp, rfl⟩ := List.mem_map.mp hs
      have ho : w.outcome p.1 = _ := hw.sound.returnedAnswer p hp
      rw [ho]
      rfl
  · intro ho
    refine (List.mem_append.mp (hw.accepted_perm.mem_iff.mp ht)).resolve_left fun hp => ?_
    have hn : w.outcome t = none := by
      refine hw.sound.unanswered t ?_
      simp only [contents, List.mem_append] at hp
      simp only [Custody.pending, custody, List.mem_append]
      rcases hp with ((h | h) | h) | h <;> simp [h]
    rw [hn] at ho
    cases ho

theorem mem_placed_iff (hw : w.Steady) :
    t ∈ w.placed ↔ (t ∈ w.held ∨ ∃ o, (t, o) ∈ w.returned) ∨ t ∈ w.lost ∨ t ∈ w.slot := by
  have hreaders := hw.sound.readers.mem_iff (a := t)
  simp only [custody, List.mem_append, List.mem_map, Prod.exists, exists_and_right,
    exists_eq_right] at hreaders
  rw [hw.passage, List.mem_append, List.mem_append, hreaders, or_assoc]

theorem handles_eq_zero (hw : w.Steady) (ht : t ∈ w.lost) : w.hub.outlet.handles = 0 := by
  refine Nat.eq_zero_of_not_pos fun hn => ?_
  rw [hw.outflow.intact hn] at ht
  exact List.not_mem_nil ht

theorem nodup_placed (hw : w.Steady) : (w.placed ++ w.refused).Nodup := hw.sound.nodup_placed

/-- No transaction is taken twice. -/
theorem nodup_taken (hw : w.Steady) : w.taken.Nodup := by
  have hd := (List.nodup_append.mp hw.nodup_placed).1
  rw [hw.passage, List.append_assoc] at hd
  exact (List.nodup_append.mp hd).1

/-- As long as nothing is lost in the slot, only a reader can drop what was accepted. -/
theorem not_dropped (hw : w.Steady) (hl : w.lost = [])
    (hr : ∀ p ∈ w.returned, p.2 ≠ .dropped) (ht : t ∈ w.accepted) :
    w.outcome t ≠ some .dropped := by
  intro ho
  have hsettled := (hw.mem_settled_iff ht).mpr (by rw [ho]; rfl)
  rw [contents, hl, List.append_nil] at hsettled
  rcases List.mem_append.mp hsettled with hs | hs
  · have hc : w.outcome t = _ := hw.sound.refusedClosed t hs
    cases ho.symm.trans hc
  · obtain ⟨p, hp, rfl⟩ := List.mem_map.mp hs
    have hc : w.outcome p.1 = _ := hw.sound.returnedAnswer p hp
    exact hr p hp (Option.some.inj (hc.symm.trans ho))

/-- Whatever is placed can only be taken, or be lost with the last reader. -/
theorem leaves_slot (hw : w.Steady) (hs : Exchange.step m w = some w') (ht : t ∈ w.slot) :
    t ∈ w'.slot ∨ (m = .take ∧ w'.taken = w.taken ++ [t] ∧ w'.held = w.held ++ [t]) ∨
      (w'.hub.outlet.handles = 0 ∧ w'.outcome t = some .dropped) := by
  have hw' := hw.step _ hs
  obtain ⟨hfirst, htaken⟩ := step_histories hs
  have hnot : t ∉ w.taken := by
    intro hm
    have hd := (List.nodup_append.mp hw.nodup_placed).1
    rw [hw.passage, List.append_assoc] at hd
    exact (List.nodup_append.mp hd).2.2 t hm t (List.mem_append_right _ ht) rfl
  have hplaced : t ∈ w'.placed := by
    refine hfirst.mem ?_
    rw [hw.passage]
    exact List.mem_append_right _ ht
  -- what was placed is taken, lost or in the slot, after the move as before it
  rw [hw'.passage, List.mem_append, List.mem_append] at hplaced
  rcases hplaced with (hm | hm) | hm
  · rcases htaken with he | ⟨u, rfl, he, hh⟩
    · exact absurd (he ▸ hm) hnot
    · rw [he, List.mem_append] at hm
      obtain rfl := List.mem_singleton.mp (hm.resolve_left hnot)
      exact .inr (.inl ⟨rfl, he, hh⟩)
  · exact .inr (.inr ⟨hw'.handles_eq_zero hm, hw'.sound.lostDropped t hm⟩)
  · exact .inl hm

/-- Placed transactions keep their outcome through every step of the loop, unless the last reader
is gone. -/
theorem outcome_of_placed {b : Branch} (hw : w.Steady) (hs : Exchange.step (.loop b) w = some w')
    (ht : t ∈ w.placed) :
    w'.outcome t = w.outcome t ∨ w'.hub.outlet.handles = 0 ∧ w'.outcome t = some .dropped := by
  have hw' := hw.step _ hs
  have hleaves := hw.leaves_slot (t := t) hs
  -- a step of the loop leaves what readers hold or returned, and only adds to what is lost
  obtain ⟨hheld', hreturned', hlost'⟩ : w'.held = w.held ∧ w'.returned = w.returned ∧
      ∀ t ∈ w.lost, t ∈ w'.lost := by
    cases step_cases hs
    exact ⟨rfl, rfl, fun _ => List.mem_append_left _⟩
  rcases hw.mem_placed_iff.mp ht with (hheld | ⟨o, hret⟩) | hlost | hslot
  · refine .inl ((hw'.sound.unanswered t ?_).trans (hw.sound.unanswered t ?_).symm)
    · exact List.mem_append_right _ (hheld'.symm ▸ hheld : t ∈ w'.held)
    · exact List.mem_append_right _ hheld
  · have hret' : (t, o) ∈ w'.returned := hreturned' ▸ hret
    exact .inl ((hw'.sound.returnedAnswer _ hret').trans (hw.sound.returnedAnswer _ hret).symm)
  · have hlost' := hlost' t hlost
    exact .inr ⟨hw'.handles_eq_zero hlost', hw'.sound.lostDropped t hlost'⟩
  · rcases hleaves hslot with hslot' | ⟨hm, -⟩ | hdropped
    · refine .inl ((hw'.sound.unanswered t ?_).trans (hw.sound.unanswered t ?_).symm)
      · exact List.mem_append_left _ (List.mem_append_right _ hslot')
      · exact List.mem_append_left _ (List.mem_append_right _ hslot)
    · cases hm
    · exact .inr hdropped

end Steady

/-- What becomes of the transactions of an exchange. -/
structure Accountable (w : Exchange) : Prop where
  place : ∀ t ∈ w.accepted, ∃! p, t ∈ w.contents p
  once : ∀ p, (w.contents p).Nodup
  settled : ∀ t ∈ w.accepted, t ∈ w.contents .settled ↔ (w.outcome t).isSome
  /-- The loop never answers what it has placed. -/
  placed : ∀ b w', step (.loop b) w = some w' → ∀ t ∈ w.placed, t ∉ w'.refused ∧
    (w'.outcome t = w.outcome t ∨ w'.hub.outlet.handles = 0 ∧ w'.outcome t = some .dropped)
  /-- What leaves the slot goes to a reader, or is let go when there is none. -/
  slot : ∀ m w', step m w = some w' → ∀ t ∈ w.slot, t ∈ w'.slot ∨
    (m = .take ∧ w'.taken = w.taken ++ [t] ∧ w'.held = w.held ++ [t]) ∨
      (w'.hub.outlet.handles = 0 ∧ w'.outcome t = some .dropped)
  taken : w.taken.Nodup
  /-- In the end everything was placed or answered, and nothing was both. -/
  finished : w.loop.position = .finished → ∀ t ∈ w.accepted,
    (t ∈ w.placed ∧ t ∉ w.refused) ∨
      (t ∉ w.placed ∧ t ∈ w.refused ∧ w.outcome t = some .stageClosed)

theorem accountable {label : String} {slots spare : Nat} (h : Reachable label slots spare w) :
    w.Accountable := by
  have hw := h.steady
  have hpass := (List.nodup_append.mp hw.nodup_placed).1
  refine ⟨fun t => hw.exists_unique_place, fun p => ?_, fun t => hw.mem_settled_iff,
    fun b w' hs t ht => ⟨?_, hw.outcome_of_placed hs ht⟩, fun m w' hs t => hw.leaves_slot hs, ?_,
    fun hp t ht => ?_⟩
  · have hd := hw.nodup_places
    simp only [List.nodup_append] at hd
    cases p
    · exact hd.1.1.1.1
    · exact hd.1.1.1.2.1
    · exact hd.1.1.2.1
    · exact hd.1.2.1
    · exact hd.2.1
  · intro hr
    have hplaced := (step_histories hs).1.mem ht
    exact (List.nodup_append.mp (hw.step _ hs).nodup_placed).2.2 t hplaced t hr rfl
  · rw [hw.passage, List.append_assoc] at hpass
    exact (List.nodup_append.mp hpass).1
  · have hdisjoint := (List.nodup_append.mp hw.nodup_placed).2.2
    rw [hw.accepted_of_finished hp] at ht
    rcases List.mem_append.mp ht with ht | ht
    · exact .inl ⟨ht, fun hr => hdisjoint t ht t hr rfl⟩
    · exact .inr ⟨fun hr => hdisjoint t hr t ht rfl, ht, hw.sound.refusedClosed t ht⟩

/-- One of two transactions is placed and taken, then a stop ends the loop with the other one in
its inbound channel. -/
theorem accountable_after_stop : ∃ w, Reachable "none" 2 0 w ∧ w.loop.position = .finished ∧
    w.taken.length = 1 ∧ w.refused.length = 1 ∧ w.Accountable := by
  obtain ⟨w, hw, hp, ht, hr⟩ : ∃ w, [Move.sending (.issue ⟨[]⟩), .sending (.issue ⟨[]⟩),
      .sending (.send ⟨0, ⟨[]⟩⟩), .sending (.send ⟨1, ⟨[]⟩⟩), .loop .channel, .loop .channel,
      .loop .channel, .loop .channel, .loop .channel, .loop .channel, .take, .claimStop, .publish,
      .loop .close, .loop .channel, .loop .channel, .loop .channel, .loop .channel, .loop .channel,
      .loop .channel, .loop .channel, .loop .channel, .loop .channel].foldlM (fun w m => step m w)
        (start "none" 2 0) = some w ∧ w.loop.position = .finished ∧ w.taken.length = 1 ∧
          w.refused.length = 1 := ⟨_, rfl, rfl, rfl, rfl⟩
  have hreached := Reached.of_moves hw
  exact ⟨w, hreached, hp, ht, hr, accountable hreached⟩

end Handoff.Exchange
