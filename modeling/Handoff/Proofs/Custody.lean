import Handoff.Proofs.Replies

/-!
# Custody of transactions

Who has which transaction: senders, the inbound queue, the hand of the loop, the outbound channel or
a reader. What is settled was refused by the loop, lost in the outbound channel with its last
reader, or returned by a reader with an answer. Three histories stand beside this: what was accepted
inbound, what was placed outbound, and what was taken from there.

`Sound` says how all these fit together. The lemmas below are the ways in which a transaction may
change hands, whoever does it; a system keeps its transactions sound if each of its steps is one of
them. Nothing here says when a step may happen.
-/
namespace Handoff

structure Custody where
  /-- Issued and not accepted. -/
  senders : List Transaction
  queue : List Transaction
  hand : List Transaction
  slot : List Transaction
  /-- With a reader, unanswered. -/
  held : List Transaction
  /-- Answered by the loop. -/
  refused : List Transaction
  /-- Placed and let go unread. -/
  lost : List Transaction
  /-- Answered by a reader. -/
  returned : List (Transaction × Outcome)
  accepted : List Transaction
  placed : List Transaction
  taken : List Transaction
  next : Nat
  outcome : Nat → Option Outcome

namespace Custody

def pending (c : Custody) : List Transaction := c.senders ++ c.queue ++ c.hand ++ c.slot ++ c.held

def settled (c : Custody) : List Transaction := c.refused ++ c.lost ++ c.returned.map (·.1)

structure Sound (c : Custody) : Prop where
  distinct : ((c.pending ++ c.settled).map (·.serial)).Nodup
  issued : ∀ t ∈ c.pending ++ c.settled, t.serial < c.next
  unanswered : ∀ t ∈ c.pending, c.outcome t.serial = none
  refusedClosed : ∀ t ∈ c.refused, c.outcome t.serial = some .stageClosed
  lostDropped : ∀ t ∈ c.lost, c.outcome t.serial = some .dropped
  returnedAnswer : ∀ p ∈ c.returned, c.outcome p.1.serial = some p.2
  /-- The loop works in the order of acceptance and gives nothing up before it stops placing. -/
  order : c.accepted = c.placed ++ c.refused ++ c.hand ++ c.queue
  passage : c.placed = c.taken ++ c.lost ++ c.slot
  readers : c.taken.Perm (c.held ++ c.returned.map (·.1))

namespace Sound

variable {c : Custody} {t : Transaction} {rest ts : List Transaction} {o : Outcome}
  {f : Nat → Option Outcome}

theorem distinct_of_perm (h : c.Sound) (hp : ts.Perm (c.pending ++ c.settled)) :
    (ts.map (·.serial)).Nodup := (hp.map _).nodup_iff.mpr h.distinct

theorem issued_of_perm (h : c.Sound) (hp : ts.Perm (c.pending ++ c.settled)) :
    ∀ u ∈ ts, u.serial < c.next := fun u hu => h.issued u (hp.mem_iff.mp hu)

/-- No transaction is in two places. -/
theorem nodup (h : c.Sound) : (c.pending ++ c.settled).Nodup :=
  (List.pairwise_map.mp h.distinct).imp fun hne he => hne (congrArg (·.serial) he)

/-- What was accepted is queued, in hand, placed and not taken, with a reader, or settled. -/
theorem accepted_perm (h : c.Sound) :
    c.accepted.Perm (c.queue ++ c.hand ++ c.slot ++ c.held ++ c.settled) := by
  rw [List.perm_iff_count]
  intro a
  have hreaders := h.readers.count_eq a
  rw [h.order, h.passage]
  simp only [settled, List.count_append] at hreaders ⊢
  omega

theorem nodup_places (h : c.Sound) :
    (c.queue ++ c.hand ++ c.slot ++ c.held ++ c.settled).Nodup := by
  have hd := h.nodup
  simp only [pending, List.append_assoc] at hd ⊢
  exact (List.nodup_append.mp hd).2.1

theorem nodup_accepted (h : c.Sound) : c.accepted.Nodup :=
  h.accepted_perm.nodup_iff.mpr h.nodup_places

/-- Nothing is placed twice, answered twice, or both placed and answered. -/
theorem nodup_placed (h : c.Sound) : (c.placed ++ c.refused).Nodup := by
  have hd := h.nodup_accepted
  rw [h.order, List.append_assoc] at hd
  exact (List.nodup_append.mp hd).1

/-- Readers answer only what was placed. -/
theorem placed_of_returned (h : c.Sound) {p : Transaction × Outcome} (hp : p ∈ c.returned) :
    p.1 ∈ c.placed := by
  have ht : p.1 ∈ c.taken :=
    h.readers.mem_iff.mpr (List.mem_append_right _ (List.mem_map_of_mem hp))
  rw [h.passage, List.append_assoc]
  exact List.mem_append_left _ ht

/-- Writing the outcome of some pending transactions leaves the other pending ones unanswered and
every settled one as it was. -/
theorem of_writes (h : c.Sound) (hp : c.pending.Perm (ts ++ rest)) (hw : Writes c.outcome f ts o) :
    (∀ u ∈ rest, f u.serial = none) ∧ (∀ u ∈ c.refused, f u.serial = some .stageClosed) ∧
      (∀ u ∈ c.lost, f u.serial = some .dropped) ∧
        ∀ p ∈ c.returned, f p.1.serial = some p.2 := by
  have hkept : ∀ u ∈ rest ++ c.settled, f u.serial = c.outcome u.serial := by
    intro u hu
    apply hw.others
    intro t ht he
    have hall : (ts ++ (rest ++ c.settled)).Perm (c.pending ++ c.settled) := by
      rw [← List.append_assoc]
      exact hp.symm.append_right _
    have hd := h.distinct_of_perm hall
    rw [List.map_append, List.nodup_append] at hd
    exact hd.2.2 _ (List.mem_map_of_mem ht) _ (List.mem_map_of_mem hu) he
  refine ⟨fun u hu => ?_, fun u hu => ?_, fun u hu => ?_, fun p hp => ?_⟩
  · rw [hkept u (List.mem_append_left _ hu)]
    exact h.unanswered u (hp.mem_iff.mpr (List.mem_append_right _ hu))
  · rw [hkept u (by simp [settled, hu])]
    exact h.refusedClosed u hu
  · rw [hkept u (by simp [settled, hu])]
    exact h.lostDropped u hu
  · rw [hkept p.1 (List.mem_append_right _ (List.mem_append_right _ (List.mem_map_of_mem hp)))]
    exact h.returnedAnswer p hp

/-- Senders pass transactions among themselves. -/
theorem reorder (h : c.Sound) (hs : ts.Perm c.senders) :
    ({ c with senders := ts } : Custody).Sound :=
  have hp : (Custody.pending { c with senders := ts }).Perm c.pending := by
    simp only [pending, List.append_assoc]
    exact hs.append_right _
  { h with
    distinct := h.distinct_of_perm (hp.append_right _)
    issued := h.issued_of_perm (hp.append_right _)
    unanswered := fun u hu => h.unanswered u (hp.mem_iff.mp hu) }

theorem issue (h : c.Sound) (hn : t.serial = c.next) (ho : c.outcome t.serial = none) :
    ({ c with senders := c.senders ++ [t], next := c.next + 1 } : Custody).Sound := by
  have hp : (Custody.pending { c with senders := c.senders ++ [t] }).Perm (t :: c.pending) := by
    simp only [pending, List.append_assoc, List.singleton_append]
    exact List.perm_middle
  have hp' := hp.append_right c.settled
  exact
    { h with
      distinct := by
        refine (hp'.map _).nodup_iff.mpr (List.nodup_cons.mpr ⟨?_, h.distinct⟩)
        intro hm
        obtain ⟨u, hu, he⟩ := List.mem_map.mp hm
        have hlt := h.issued u hu
        simp only at he
        omega
      issued := by
        intro u hu
        rcases List.mem_cons.mp (hp'.mem_iff.mp hu) with rfl | hu
        · exact hn ▸ Nat.lt_succ_self _
        · exact Nat.lt_succ_of_lt (h.issued u hu)
      unanswered := by
        intro u hu
        rcases List.mem_cons.mp (hp.mem_iff.mp hu) with rfl | hu
        · exact ho
        · exact h.unanswered u hu }

theorem accept (h : c.Sound) (hs : c.senders.Perm (t :: rest)) :
    ({ c with senders := rest, queue := c.queue ++ [t], accepted := c.accepted ++ [t] } :
      Custody).Sound := by
  have hp : (Custody.pending { c with senders := rest, queue := c.queue ++ [t] }).Perm
      c.pending := by
    rw [List.perm_iff_count]
    intro a
    have ha := hs.count_eq a
    simp only [pending, List.count_append, List.count_cons, List.count_nil] at ha ⊢
    omega
  exact
    { h with
      distinct := h.distinct_of_perm (hp.append_right _)
      issued := h.issued_of_perm (hp.append_right _)
      unanswered := fun u hu => h.unanswered u (hp.mem_iff.mp hu)
      order := by
        rw [h.order]
        simp only [List.append_assoc] }

theorem pick (h : c.Sound) (hq : c.queue = t :: rest) (hh : c.hand = []) :
    ({ c with queue := rest, hand := [t] } : Custody).Sound := by
  have hp : (Custody.pending { c with queue := rest, hand := [t] }).Perm c.pending := by
    rw [List.perm_iff_count]
    intro a
    simp only [pending, hq, hh, List.count_append, List.count_cons, List.count_nil]
    omega
  exact
    { h with
      distinct := h.distinct_of_perm (hp.append_right _)
      issued := h.issued_of_perm (hp.append_right _)
      unanswered := fun u hu => h.unanswered u (hp.mem_iff.mp hu)
      order := by
        rw [h.order, hq, hh]
        simp only [List.append_assoc, List.nil_append, List.singleton_append] }

/-- The loop places what it has in hand. It has given up nothing yet. -/
theorem place (h : c.Sound) (hh : c.hand = [t]) (hr : c.refused = []) :
    ({ c with hand := [], slot := c.slot ++ [t], placed := c.placed ++ [t] } : Custody).Sound := by
  have hp : (Custody.pending { c with hand := [], slot := c.slot ++ [t] }).Perm c.pending := by
    rw [List.perm_iff_count]
    intro a
    simp only [pending, hh, List.count_append, List.count_cons, List.count_nil]
    omega
  exact
    { h with
      distinct := h.distinct_of_perm (hp.append_right _)
      issued := h.issued_of_perm (hp.append_right _)
      unanswered := fun u hu => h.unanswered u (hp.mem_iff.mp hu)
      order := by
        rw [h.order, hh, hr]
        simp only [List.append_assoc, List.append_nil]
      passage := by
        rw [h.passage]
        simp only [List.append_assoc] }

theorem refuse (h : c.Sound) (hh : c.hand = [t]) (hw : Writes c.outcome f [t] .stageClosed) :
    ({ c with hand := [], refused := c.refused ++ [t], outcome := f } : Custody).Sound := by
  have hp : c.pending.Perm ([t] ++ Custody.pending { c with hand := [] }) := by
    rw [List.perm_iff_count]
    intro a
    simp only [pending, hh, List.count_append, List.count_cons, List.count_nil]
    omega
  have hall : (Custody.pending { c with hand := [] } ++
      Custody.settled { c with refused := c.refused ++ [t] }).Perm (c.pending ++ c.settled) := by
    rw [List.perm_iff_count]
    intro a
    have ha := hp.count_eq a
    simp only [settled, List.count_append] at ha ⊢
    omega
  obtain ⟨hopen, hrefused, hlost, hreturned⟩ := h.of_writes hp hw
  exact
    { h with
      distinct := h.distinct_of_perm hall
      issued := h.issued_of_perm hall
      unanswered := hopen
      refusedClosed := fun u hu => (List.mem_append.mp hu).elim (hrefused u) (hw.written u)
      lostDropped := hlost
      returnedAnswer := hreturned
      order := by
        rw [h.order, hh]
        simp only [List.append_assoc, List.nil_append] }

/-- A reader takes the oldest placed transaction. Nothing was lost before. -/
theorem take (h : c.Sound) (hs : c.slot = t :: rest) (hl : c.lost = []) :
    ({ c with slot := rest, held := c.held ++ [t], taken := c.taken ++ [t] } : Custody).Sound := by
  have hp : (Custody.pending { c with slot := rest, held := c.held ++ [t] }).Perm c.pending := by
    rw [List.perm_iff_count]
    intro a
    simp only [pending, hs, List.count_append, List.count_cons, List.count_nil]
    omega
  exact
    { h with
      distinct := h.distinct_of_perm (hp.append_right _)
      issued := h.issued_of_perm (hp.append_right _)
      unanswered := fun u hu => h.unanswered u (hp.mem_iff.mp hu)
      passage := by
        rw [h.passage, hs, hl]
        simp only [List.append_assoc, List.nil_append, List.singleton_append]
      readers := by
        have hr := h.readers
        rw [List.perm_iff_count] at hr ⊢
        intro a
        have ha := hr a
        simp only [List.count_append] at ha ⊢
        omega }

/-- A reader answers, or lets go of, what it has. -/
theorem answer (h : c.Sound) (hs : c.held.Perm (t :: rest)) (hw : Writes c.outcome f [t] o) :
    ({ c with held := rest, returned := c.returned ++ [(t, o)], outcome := f } :
      Custody).Sound := by
  have hp : c.pending.Perm ([t] ++ Custody.pending { c with held := rest }) := by
    rw [List.perm_iff_count]
    intro a
    have ha := hs.count_eq a
    simp only [pending, List.count_append, List.count_cons, List.count_nil] at ha ⊢
    omega
  have hall : (Custody.pending { c with held := rest } ++
      Custody.settled { c with returned := c.returned ++ [(t, o)] }).Perm
        (c.pending ++ c.settled) := by
    rw [List.perm_iff_count]
    intro a
    have ha := hp.count_eq a
    simp only [settled, List.count_append, List.map_append, List.map_cons, List.map_nil] at ha ⊢
    omega
  obtain ⟨hopen, hrefused, hlost, hreturned⟩ := h.of_writes hp hw
  exact
    { h with
      distinct := h.distinct_of_perm hall
      issued := h.issued_of_perm hall
      unanswered := hopen
      refusedClosed := hrefused
      lostDropped := hlost
      returnedAnswer := by
        intro p hp
        rcases List.mem_append.mp hp with hp | hp
        · exact hreturned p hp
        · obtain rfl := List.mem_singleton.mp hp
          exact hw.written t (List.mem_singleton_self t)
      readers := by
        have hr := h.readers
        rw [List.perm_iff_count] at hr ⊢
        intro a
        have ha := hr a
        have ha' := hs.count_eq a
        simp only [List.count_append, List.count_cons, List.count_nil, List.map_append,
          List.map_cons, List.map_nil] at ha ha' ⊢
        omega }

/-- What nobody can read any more is let go. -/
theorem lose (h : c.Sound) (hw : Writes c.outcome f c.slot .dropped) :
    ({ c with slot := [], lost := c.lost ++ c.slot, outcome := f } : Custody).Sound := by
  have hp : c.pending.Perm (c.slot ++ Custody.pending { c with slot := [] }) := by
    rw [List.perm_iff_count]
    intro a
    simp only [pending, List.count_append, List.count_nil]
    omega
  have hall : (Custody.pending { c with slot := [] } ++
      Custody.settled { c with lost := c.lost ++ c.slot }).Perm (c.pending ++ c.settled) := by
    rw [List.perm_iff_count]
    intro a
    have ha := hp.count_eq a
    simp only [settled, List.count_append] at ha ⊢
    omega
  obtain ⟨hopen, hrefused, hlost, hreturned⟩ := h.of_writes hp hw
  exact
    { h with
      distinct := h.distinct_of_perm hall
      issued := h.issued_of_perm hall
      unanswered := hopen
      refusedClosed := hrefused
      lostDropped := fun u hu => (List.mem_append.mp hu).elim (hlost u) (hw.written u)
      returnedAnswer := hreturned
      passage := by
        rw [h.passage]
        simp only [List.append_assoc, List.append_nil] }

/-- Senders let go of transactions that were not accepted. -/
theorem turnAway (h : c.Sound) (hs : c.senders.Perm (ts ++ rest))
    (hw : Writes c.outcome f ts .dropped) :
    ({ c with senders := rest, outcome := f } : Custody).Sound := by
  have hp : c.pending.Perm (ts ++ Custody.pending { c with senders := rest }) := by
    rw [List.perm_iff_count]
    intro a
    have ha := hs.count_eq a
    simp only [pending, List.count_append] at ha ⊢
    omega
  have hsub : (Custody.pending { c with senders := rest } ++ c.settled).Sublist
      (ts ++ Custody.pending { c with senders := rest } ++ c.settled) :=
    (List.sublist_append_right ..).append_right _
  have hall := hp.symm.append_right c.settled
  obtain ⟨hopen, hrefused, hlost, hreturned⟩ := h.of_writes hp hw
  exact
    { h with
      distinct := (hsub.map _).nodup (h.distinct_of_perm hall)
      issued := fun u hu => h.issued_of_perm hall u (hsub.mem hu)
      unanswered := hopen
      refusedClosed := hrefused
      lostDropped := hlost
      returnedAnswer := hreturned }

end Sound
end Custody
end Handoff
