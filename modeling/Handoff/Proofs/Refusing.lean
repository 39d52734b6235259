import Handoff.Proofs.Attaching

/-!
# What calls that start a stage keep

While a call has its receiver the channel is whole. The channel that the stage takes becomes that of
the loop, with all that is queued there. A channel that it refuses is gone: nobody can send there,
and what was queued is let go, and so is what came through slots set aside once the last sender has
left. What was let go in this way was never accepted by the loop.

All that is in channels the stage does not have counts as with senders. So what the stage keeps of
its transactions it keeps of all of them, and none is in two channels.
-/
namespace Handoff

namespace Custody.Sound

variable {c : Custody} {ts rest : List Transaction}

/-- Some of what senders have is accepted, all at once. -/
theorem acceptAll (h : c.Sound) (hs : c.senders.Perm (ts ++ rest)) :
    ({ c with senders := rest, queue := c.queue ++ ts, accepted := c.accepted ++ ts } :
      Custody).Sound := by
  induction ts generalizing c with
  | nil => simpa using h.reorder hs.symm
  | cons t ts ih => simpa using ih (h.accept hs) (.refl _)

end Custody.Sound

namespace Exchange

variable {w w' : Exchange} {m : Move} {t : Transaction}

/-- The transaction was let go and never accepted. -/
def LetGo (w : Exchange) (t : Transaction) : Prop :=
  w.outcome t = some .dropped ∧ t ∉ w.accepted

theorem Step.remembers (hs : Step w m w') : w.hub.replies.Remembers w'.hub.replies := by
  cases hs with
  | sending hi => exact hi.remembers
  | loop hl => exact hl.leaves.replies.outcome
  | answer => exact (Replies.Keeps.answer ..).outcome
  | shut | dropHandle | dropSpare => exact (Replies.Keeps.releaseAll ..).outcome
  | take | addHandle | cloneSpare | markRunning | claimStop | publish | note =>
    exact fun _ _ => id

/-- What was let go is not accepted later: it has an outcome, and what senders have has none. -/
theorem LetGo.step (hw : w.Steady) (h : w.LetGo t) (hs : Exchange.step m w = some w') :
    w'.LetGo t := by
  have hw' := hw.step m hs
  have ho : w'.outcome t = some .dropped := (step_cases hs).remembers _ _ h.1
  refine ⟨ho, fun ha => h.2 ?_⟩
  cases step_cases hs with
  | sending =>
    have hplace := hw'.sound.accepted_perm.mem_iff.mp ha
    rcases List.mem_append.mp hplace with hp | hsettled
    · have hnone := hw'.sound.unanswered t (by
        simp only [Custody.pending, List.append_assoc] at hp ⊢
        exact List.mem_append_right _ hp)
      cases ho.symm.trans hnone
    · exact hw.sound.accepted_perm.mem_iff.mpr (List.mem_append_right _ hsettled)
  | loop | shut | take | answer | addHandle | dropHandle | cloneSpare | dropSpare | markRunning
  | claimStop | publish | note => exact ha

theorem LetGo.later (hw : w.Steady) (h : w.LetGo t) (hl : Reached Exchange.step w w') :
    w'.LetGo t :=
  (hl.invariant (P := fun v => v.Steady ∧ v.LetGo t) ⟨hw, h⟩
    fun m _ _ hv hs => ⟨hv.1.step m hs, hv.2.step hv.1 hs⟩).2

end Exchange

namespace Stopping

variable {w : Stopping} {T : Tidings} {U : List Transaction} {c : Channel Transaction}

namespace Sane

/-- Tidings and transactions of senders matter only for custody. -/
theorem told (hw : w.Sane) (hs : (w.exchange.told T U).custody.Sound) : (w.told T U).Sane :=
  ⟨⟨⟨hs, hw.staging.steady.inflow, { hw.staging.steady.outflow with }⟩, hw.staging.spare,
    hw.staging.hasLoop, hw.staging.unspawned⟩, hw.agrees⟩

/-- A stage takes a channel that is whole. -/
theorem adopt (hw : w.Sane) (hp : w.exchange.loop.position = .wired) (hg : c.Guarded)
    (hr : c.receiver = true) (hs : ((w.adopt c).exchange.told T U).custody.Sound) :
    ((w.adopt c).told T U).Sane := by
  refine ⟨⟨⟨hs, ⟨hg, ?_, ?_⟩, { hw.staging.steady.outflow with }⟩, hw.staging.spare,
    hw.staging.hasLoop, fun hn => ?_⟩, hw.agrees⟩
  · refine hr.trans ?_
    show true = !w.exchange.loop.position.isFinished
    rw [hp]
    rfl
  · intro ha
    have ha' : w.exchange.loop.position.accepts = false := ha
    rw [hp] at ha'
    cases ha'
  · have hloop := hw.staging.unspawned hn
    show { w.staging.exchange.loop with inbound := c } = _
    rw [hloop]
    rfl

end Sane
end Stopping

/-- How a call stands whose channel the stage has, has not or has refused. -/
inductive Starter.Standing (e : Exchange) : Starter → Prop
  | taken {call queued} : call = .inside ∨ call = .returned (.ok ()) → queued <+: e.accepted →
      Standing e ⟨none, call, queued, []⟩
  | whole {c call} : (∀ r, call ≠ .returned r) → c.Guarded → c.receiver = true →
      Standing e ⟨some c, call, c.queue, []⟩
  | gone {c queued late} : c.Gone → (c.deserted = true → c.queue = []) →
      (∀ t ∈ queued, e.LetGo t) → (∀ t ∈ late, t ∈ c.queue ∨ e.LetGo t) →
      Standing e ⟨some c, .returned (.error .alreadyStarted), queued, late⟩

theorem Starter.Standing.mono {e e' : Exchange} {st : Starter} (h : st.Standing e)
    (ha : e.accepted <+: e'.accepted) (hl : ∀ t, e.LetGo t → e'.LetGo t) : st.Standing e' := by
  cases h with
  | taken hc hq => exact .taken hc (hq.trans ha)
  | whole hc hg hr => exact .whole hc hg hr
  | gone hg hd hq hlate =>
    exact .gone hg hd (fun t ht => hl t (hq t ht)) fun t ht => (hlate t ht).imp id (hl t)

theorem Starter.offered_some {st : Starter} {c : Channel Transaction} (hi : st.inbound = some c) :
    st.offered = c.contents := by
  simp [offered, hi]

/-- A call that has its receiver has a channel that is whole. -/
theorem Starter.Standing.whole_of {e : Exchange} {st : Starter} {c : Channel Transaction}
    (h : st.Standing e) (hi : st.inbound = some c) (hc : ∀ r, st.call ≠ .returned r) :
    c.Guarded ∧ c.receiver = true ∧ st = ⟨some c, st.call, c.queue, []⟩ := by
  cases h with
  | taken => cases hi
  | whole _ hg hr =>
    cases hi
    exact ⟨hg, hr, rfl⟩
  | gone => exact absurd rfl (hc _)

/-- What other parties leave alone while the stage has no loop. -/
theorem Stopping.inbound_of_step {w w' : Stopping} {m : Move} (hs : step m w = some w')
    (hm : Attaching.reserved m = false) (ha : w.staging.hasLoop = false) :
    w'.exchange.loop.inbound = w.exchange.loop.inbound ∧
      w'.exchange.accepted = w.exchange.accepted := by
  cases m with
  | claim i =>
    simp only [step, Option.ite_none_right_eq_some, Option.map_eq_some_iff] at hs
    obtain ⟨-, s, hs, rfl⟩ := hs
    obtain ⟨-, e, he, rfl⟩ := Staging.step_other_cases hs
    cases Exchange.step_cases he
    exact ⟨rfl, rfl⟩
  | publish i =>
    simp only [step, Option.ite_none_right_eq_some, Option.bind_eq_some_iff,
      Option.map_eq_some_iff] at hs
    obtain ⟨-, s, hs, s', hs', rfl⟩ := hs
    obtain ⟨-, e, he, rfl⟩ := Staging.step_other_cases hs
    obtain ⟨-, e', he', rfl⟩ := Staging.step_other_cases hs'
    cases Exchange.step_cases he
    cases Exchange.step_cases he'
    exact ⟨rfl, rfl⟩
  | other k =>
    simp only [step, Option.ite_none_left_eq_some, Option.map_eq_some_iff] at hs
    obtain ⟨-, s, hs, rfl⟩ := hs
    cases k with
    | cloneSender | markRunning | spawnLoop | attach => cases hm
    | other k =>
      obtain ⟨hp, e, he, rfl⟩ := Staging.step_other_cases hs
      cases Exchange.step_cases he with
      | sending | shut => cases hm
      | loop => cases hp.symm.trans ha
      | take | answer | addHandle | dropHandle | cloneSpare | dropSpare | markRunning | claimStop
      | publish | note => exact ⟨rfl, rfl⟩

namespace Attaching

variable {w w' : Attaching} {m : Move}

/-- What is in channels that the stage does not have. -/
def offered (w : Attaching) : List Transaction := w.starters.flatMap Starter.offered

/-- The stage, with all that in the hands of senders. -/
def whole (w : Attaching) : Stopping :=
  w.stopping.told w.stopping.tidings (w.offered ++ w.exchange.unsent)

/-- The channel of one call, and those of the others. -/
theorem offered_perm {i : Nat} {st : Starter} (hst : w.starters[i]? = some st) :
    ∃ others, w.offered.Perm (st.offered ++ others) ∧
      ∀ st', (w.put i st').offered.Perm (st'.offered ++ others) := by
  obtain ⟨hi, hget⟩ := List.getElem?_eq_some_iff.mp hst
  have hput : ∀ st', (w.put i st').offered.Perm
      (st'.offered ++ (w.starters.take i ++ w.starters.drop (i + 1)).flatMap Starter.offered) := by
    intro st'
    simp only [offered, put, List.set_eq_take_append_cons_drop, if_pos hi, List.flatMap_append,
      List.flatMap_cons]
    exact List.perm_append_comm_assoc ..
  refine ⟨_, ?_, hput⟩
  have hself : w.put i st = w := by
    rw [put, ← hget, List.set_getElem_self]
  have hp := hput st
  rwa [hself] at hp

/-- A call that has gone on and not touched its channel. -/
theorem offered_put {i : Nat} {st st' : Starter} (hst : w.starters[i]? = some st)
    (ho : st'.offered = st.offered) : (w.put i st').offered = w.offered := by
  obtain ⟨hi, hget⟩ := List.getElem?_eq_some_iff.mp hst
  simp only [offered, put, List.flatMap_def, List.map_set, ho, ← hget]
  rw [← List.getElem_map Starter.offered (h := by simpa using hi), List.set_getElem_self]

/-- Senders and the channel of one call have what they have, and the others the rest. That stays so
when something changes with them. -/
theorem senders_perm {i : Nat} {st : Starter} (hst : w.starters[i]? = some st) :
    ∃ rest, w.whole.exchange.custody.senders.Perm ((w.exchange.unsent ++ st.offered) ++ rest) ∧
      ∀ st' U, (((w.put i st').offered ++ U) ++ w.exchange.loop.inbound.line).Perm
        ((U ++ st'.offered) ++ rest) := by
  obtain ⟨others, hbefore, hafter⟩ := offered_perm hst
  have hmove : ∀ {all own : List Transaction} (U : List Transaction), all.Perm (own ++ others) →
      ((all ++ U) ++ w.exchange.loop.inbound.line).Perm
        ((U ++ own) ++ (others ++ w.exchange.loop.inbound.line)) := by
    intro all own U hp
    rw [List.perm_iff_count]
    intro a
    have ha := hp.count_eq a
    simp only [List.count_append] at ha ⊢
    omega
  exact ⟨_, hmove _ hbefore, fun st' U => hmove U (hafter st')⟩

/-- What ties the calls that start a stage, their channels and the stage. -/
structure Sane (w : Attaching) : Prop where
  ordered : w.Ordered
  whole : w.whole.Sane
  standing : ∀ (i : Nat) (st : Starter), w.starters[i]? = some st → st.Standing w.exchange
  untaken : w.entered = [] →
    w.exchange.loop.inbound = { capacity := 0 } ∧ w.exchange.accepted = []

theorem sane_start (slots : List Nat) : (start slots).Sane := by
  have hoffered : (start slots).offered = [] := by
    simp [offered, start, Starter.offered, Channel.contents, Channel.line]
  refine ⟨ordered_start slots, ?_, fun i st h => ?_, fun _ => ⟨rfl, rfl⟩⟩
  · rw [Attaching.whole, hoffered]
    exact Stopping.sane_start 0
  · simp only [start, List.getElem?_map, Option.map_eq_some_iff] at h
    obtain ⟨n, -, rfl⟩ := h
    exact .whole (by simp) ⟨Nat.zero_le _, by simp, by simp⟩ rfl

namespace Sane

/-- A step of the stage or of someone around it. -/
theorem of_stopping {k : Stopping.Move} {s : Stopping} (hw : w.Sane)
    (hs : w.stopping.step k = some s) :
    ({ w with stopping := s } : Attaching).whole.Sane ∧
      Reached Exchange.step w.whole.exchange
        ({ w with stopping := s } : Attaching).whole.exchange := by
  obtain ⟨f, hf⟩ := Stopping.step_told hs
  have hapart : ∀ t ∈ w.exchange.unsent, t ∉ w.offered := by
    intro t hunsent hoffered
    have hd := hw.whole.staging.steady.sound.nodup
    simp only [Custody.pending, List.append_assoc, Exchange.custody] at hd
    have hsenders : (w.offered ++ w.exchange.unsent).Nodup := (List.nodup_append.mp hd).1
    exact (List.nodup_append.mp hsenders).2.2 t hoffered t hunsent rfl
  obtain ⟨hstep, -⟩ := hf w.stopping.tidings w.offered rfl hapart
  have htidings : s.tidings = f w.stopping.tidings := by
    obtain ⟨hstep', -⟩ := hf w.stopping.tidings [] rfl fun _ _ => List.not_mem_nil
    have he := hs.symm.trans hstep'
    rw [Option.some.inj he]
    rfl
  rw [← htidings] at hstep
  have hsane := Stopping.sane_step hw.whole hstep
  refine ⟨hsane, ?_⟩
  have hr := Stopping.reached_of_step hstep
  exact (hw.whole.staging.later hr).2

/-- Something has changed with one call, its channel and what senders have. -/
theorem of_put {i : Nat} {st st' : Starter} {holder : Option Nat} {entered : List Nat} {T : Tidings}
    {U : List Transaction} (hw : w.Sane) (hst : w.starters[i]? = some st)
    (ho : (({ w with holder, entered }.put i st').tell T U).Ordered)
    (he : entered = [] → w.entered = []) (hr : w.exchange.hub.replies.Remembers T.replies)
    (hsound : ∀ ts rest, w.whole.exchange.custody.senders.Perm
      ((w.exchange.unsent ++ st.offered) ++ rest) → ts.Perm ((U ++ st'.offered) ++ rest) →
        ({ w.whole.exchange.custody with
          senders := ts, next := T.next, outcome := T.replies.outcome } : Custody).Sound)
    (hstanding : st'.Standing (w.exchange.told T U)) :
    (({ w with holder, entered }.put i st').tell T U).Sane := by
  obtain ⟨rest, hbefore, hafter⟩ := senders_perm hst
  refine ⟨ho, ?_, fun j st₁ h => ?_, fun hnone => hw.untaken (he hnone)⟩
  · exact hw.whole.told (T := T) (U := (w.put i st').offered ++ U)
      (hsound _ rest hbefore (hafter st' U))
  · rcases get_put h with ⟨rfl, rfl⟩ | ⟨-, h⟩
    · exact hstanding
    · exact (hw.standing j st₁ h).mono (List.prefix_refl _) fun t ht => ⟨hr _ _ ht.1, ht.2⟩

theorem sound (hw : w.Sane) : w.whole.exchange.custody.Sound := hw.whole.staging.steady.sound

/-- Some of what is in the channel of a call is let go. -/
theorem of_release {i : Nat} {st st' : Starter} {gone : List Transaction} (hw : w.Sane)
    (hst : w.starters[i]? = some st) (hgone : st.offered.Perm (gone ++ st'.offered))
    (ho : ((w.put i st').tell (w.exchange.tidings.release gone) w.exchange.unsent).Ordered)
    (hstanding : (∀ t ∈ gone,
      (w.exchange.told (w.exchange.tidings.release gone) w.exchange.unsent).LetGo t) →
        st'.Standing (w.exchange.told (w.exchange.tidings.release gone) w.exchange.unsent)) :
    ((w.put i st').tell (w.exchange.tidings.release gone) w.exchange.unsent).Sane := by
  have hsenders : ∀ rest, w.whole.exchange.custody.senders.Perm
      ((w.exchange.unsent ++ st.offered) ++ rest) →
        w.whole.exchange.custody.senders.Perm
          (gone ++ ((w.exchange.unsent ++ st'.offered) ++ rest)) := by
    intro rest hp
    refine hp.trans ?_
    rw [List.perm_iff_count]
    intro a
    have ha := hgone.count_eq a
    simp only [List.count_append] at ha ⊢
    omega
  have hnext : (w.exchange.tidings.release gone).next = w.whole.exchange.custody.next :=
    Tidings.next_release _
  refine hw.of_put hst ho id (Replies.Keeps.releaseAll ..).outcome
    (fun ts rest hbefore hafter => ?_) (hstanding fun t ht => ?_)
  · rw [hnext]
    exact (hw.sound.letGo (hsenders rest hbefore) rfl rfl).1.reorder hafter
  · obtain ⟨rest, hbefore, -⟩ := senders_perm hst
    have hp := hsenders rest hbefore
    refine ⟨(hw.sound.letGo hp rfl rfl).2 t ht, hw.sound.not_accepted (hp.mem_iff.mpr ?_)⟩
    exact List.mem_append_left _ ht

/-- A refused call lets go of its receiver, and of what is queued there. -/
theorem letGo {i : Nat} {st : Starter} {c : Channel Transaction} (hw : w.Sane)
    (hst : w.starters[i]? = some st) (hc : st.call = .refused) (hi : st.inbound = some c)
    (ho : ((w.put i
      { st with inbound := some c.detach.2.2, call := .returned (.error .alreadyStarted) }).tell
        (w.exchange.tidings.release (c.line ++ c.queue)) w.exchange.unsent).Ordered) :
    ((w.put i
      { st with inbound := some c.detach.2.2, call := .returned (.error .alreadyStarted) }).tell
        (w.exchange.tidings.release (c.line ++ c.queue)) w.exchange.unsent).Sane := by
  obtain ⟨-, -, hst'⟩ := (hw.standing i st hst).whole_of hi (by simp [hc])
  refine hw.of_release hst ?_ ho fun hgone => ?_
  · have hdetached : c.detach.2.2.contents = [] := rfl
    rw [Starter.offered_some hi, Starter.offered_some rfl, hdetached, List.append_nil]
    exact List.perm_append_comm
  · rw [hst']
    refine .gone c.gone_detach (fun _ => rfl) (fun t ht => ?_) (by simp)
    exact hgone t (List.mem_append_right _ ht)

/-- A sender does something with a channel that the stage does not have. -/
theorem serve {i : Nat} {s : Sending} {st : Starter} {c : Channel Transaction} {j : Inlet}
    (hw : w.Sane) (hst : w.starters[i]? = some st) (hi : st.inbound = some c)
    (hj : (w.inlet c).act s = some j)
    (ho : ((w.put i (st.served (w.inlet c) j)).tell ⟨j.settle.replies, w.exchange.hub.log⟩
      j.unsent).Ordered) :
    ((w.put i (st.served (w.inlet c) j)).tell ⟨j.settle.replies, w.exchange.hub.log⟩
      j.unsent).Sane := by
  have hs := Inlet.act_cases hj
  have hpool : w.exchange.unsent ++ st.offered = (w.inlet c).pool := by
    rw [Starter.offered_some hi]
    rfl
  have hserved : (st.served (w.inlet c) j).offered = j.settle.channel.contents :=
    Starter.offered_some (Starter.inbound_served ..)
  have hremembers : w.exchange.hub.replies.Remembers j.settle.replies := fun serial o h =>
    (Replies.Keeps.releaseAll ..).outcome _ _ (hs.remembers serial o h)
  refine hw.of_put hst ho id hremembers (fun ts rest hbefore hafter => ?_) ?_
  · rw [hpool] at hbefore
    rw [hserved] at hafter
    have hact := hs.sound_pool hw.sound hbefore rfl rfl (.refl _)
    exact (Inlet.sound_settle hact (.refl _) rfl rfl hafter).1
  · obtain ⟨rest, hsenders, -⟩ := senders_perm hst
    rw [hpool] at hsenders
    have hact := hs.sound_pool hw.sound hsenders rfl rfl (.refl _)
    have hkept : ∀ t, w.exchange.LetGo t →
        (w.exchange.told ⟨j.settle.replies, w.exchange.hub.log⟩ j.unsent).LetGo t :=
      fun t ht => ⟨hremembers _ _ ht.1, ht.2⟩
    have hstanding := hw.standing i st hst
    cases hstanding with
    | taken => cases hi
    | whole hc hg hr =>
      cases hi
      have hr' : j.channel.receiver = true := hs.receiver_eq.trans hr
      have hq : c.queue ++ (w.inlet c).admits j = j.channel.queue := (hs.queue_eq hr).symm
      have hr'' : (w.inlet c).channel.receiver = true := hr
      simp only [Starter.served, hr'', if_true, Inlet.settle_of_receiver hr', hq]
      exact .whole hc (hs.guarded hg) hr'
    | @gone _ queued late hg hd hqueued hlate =>
      cases hi
      have hr : (w.inlet c).channel.receiver = false := hg.receiver
      obtain ⟨hg', hmem⟩ := hs.gone hg hw.sound hsenders rfl rfl
      simp only [Starter.served, hr, Bool.false_eq_true, if_false]
      refine .gone hg'.sweep (Channel.queue_sweep_of_deserted hg'.receiver)
        (fun t ht => hkept t (hqueued t ht)) fun t ht => ?_
      have hcases : t ∈ c.queue ++ (w.inlet c).admits j ∨ w.exchange.LetGo t := by
        rcases List.mem_append.mp ht with ht | ht
        · exact (hlate t ht).imp (List.mem_append_left _) id
        · exact .inl (List.mem_append_right _ ht)
      rcases hcases with ht | ht
      · have hnot : t ∉ w.exchange.accepted := by
          have hin : t ∈ (w.inlet c).pool := by
            rcases List.mem_append.mp ht with ht | ht
            · exact List.mem_append_right _ (List.mem_append_left _ ht)
            · exact hs.mem_pool (Inlet.nodup_line hw.sound hsenders) (List.mem_of_mem_drop ht)
          exact hw.sound.not_accepted (hsenders.mem_iff.mpr (List.mem_append_left _ hin))
        rcases hmem t ht with ht | hdropped
        · refine (Inlet.mem_settle hact (.refl _) rfl rfl ht).imp id fun hdropped => ⟨?_, hnot⟩
          exact hdropped
        · exact .inr ⟨(Replies.Keeps.releaseAll ..).outcome _ _ hdropped, hnot⟩
      · exact .inr (hkept t ht)

/-- The stage takes the receiver of the first call, and with it what is queued there. -/
theorem take {i : Nat} {st : Starter} {c : Channel Transaction} (hw : w.Sane)
    (hst : w.starters[i]? = some st) (hc : st.call = .idle) (hi : st.inbound = some c)
    (hh : w.holder = none) (ha : w.attachment.steps = 0)
    (ho : ({ w with
      holder := some i, entered := w.entered ++ [i], stopping := w.stopping.adopt c }.put i
        { st with inbound := none, call := .inside }).Ordered) :
    ({ w with
      holder := some i, entered := w.entered ++ [i], stopping := w.stopping.adopt c }.put i
        { st with inbound := none, call := .inside }).Sane := by
  obtain ⟨hg, hr, hst'⟩ := (hw.standing i st hst).whole_of hi (by simp [hc])
  have hentered : w.entered = [] := by
    rcases hw.ordered.of_vacant hh with ⟨-, he⟩ | ⟨hz, -⟩
    · exact he
    · omega
  obtain ⟨hinbound, haccepted⟩ := hw.untaken hentered
  have hunspawned : w.attachment.isSpawned = false := by simp [Attachment.isSpawned_eq, ha]
  have hwired : w.exchange.loop.position = .wired := by
    have hloop := hw.whole.staging.unspawned hunspawned
    exact congrArg Loop.position hloop
  obtain ⟨others, hbefore, hafter⟩ := offered_perm hst
  rw [Starter.offered_some hi] at hbefore
  have hunanswered : ∀ t ∈ c.queue, w.exchange.outcome t = none := by
    intro t ht
    refine hw.sound.unanswered t ?_
    have hin : t ∈ w.offered := hbefore.mem_iff.mpr
      (List.mem_append_left _ (List.mem_append_left _ ht))
    have hin' : t ∈ w.whole.exchange.unsent := List.mem_append_left _ hin
    simp [Custody.pending, Exchange.custody, hin']
  refine ⟨ho, ?_, fun k st₁ h => ?_, by simp [put]⟩
  · refine hw.whole.adopt (T := w.stopping.tidings)
      (U := (w.put i { st with inbound := none, call := .inside }).offered ++ w.exchange.unsent)
      hwired hg hr ?_
    have hline : w.exchange.loop.inbound.line = [] := by rw [hinbound]; rfl
    have hqueue : w.whole.exchange.custody.queue = [] := by
      show w.exchange.loop.inbound.queue = []
      rw [hinbound]
    have hsenders : w.whole.exchange.custody.senders.Perm (c.queue ++
        (((w.put i { st with inbound := none, call := .inside }).offered ++ w.exchange.unsent) ++
          c.line)) := by
      show ((w.offered ++ w.exchange.unsent) ++ w.exchange.loop.inbound.line).Perm _
      rw [hline, List.perm_iff_count]
      intro a
      have ha := hbefore.count_eq a
      have ha' := (hafter { st with inbound := none, call := .inside }).count_eq a
      simp only [Starter.offered, Channel.contents, Option.toList_none, List.flatMap_nil,
        List.count_append, List.count_nil] at ha ha' ⊢
      omega
    have haccept := hw.sound.acceptAll hsenders
    rw [hqueue, List.nil_append] at haccept
    exact haccept
  · rcases get_put h with ⟨rfl, rfl⟩ | ⟨-, h⟩
    · rw [hst']
      refine .taken (.inl rfl) ?_
      show c.queue <+: w.exchange.accepted ++ c.queue
      rw [haccepted]
      exact List.prefix_refl _
    · refine (hw.standing k st₁ h).mono (List.prefix_append ..) fun t ht => ⟨ht.1, fun ha => ?_⟩
      rcases List.mem_append.mp ha with ha | ha
      · exact ht.2 ha
      · cases ht.1.symm.trans (hunanswered t ha)

/-- A step of the stage or of someone around it, with all that the calls have. -/
theorem run {k : Stopping.Move} {s : Stopping} {holder : Option Nat} {spawned : List Nat}
    {starters : List Starter} (hw : w.Sane) (hs : w.stopping.step k = some s)
    (ho : ({ w with stopping := s, holder, spawned, starters } : Attaching).Ordered)
    (hoffered : starters.flatMap Starter.offered = w.offered)
    (hstanding : ∀ e : Exchange, w.exchange.accepted <+: e.accepted →
      (∀ t, w.exchange.LetGo t → e.LetGo t) →
        ∀ (i : Nat) (st : Starter), starters[i]? = some st → st.Standing e)
    (huntaken : w.entered = [] → s.exchange.loop.inbound = w.exchange.loop.inbound ∧
      s.exchange.accepted = w.exchange.accepted) :
    ({ w with stopping := s, holder, spawned, starters } : Attaching).Sane := by
  obtain ⟨hwhole, hl⟩ := hw.of_stopping hs
  have haccepted := Exchange.accepted_later hl
  refine ⟨ho, ?_, hstanding _ haccepted fun t ht => ?_, fun he => ?_⟩
  · rw [Attaching.whole, offered, hoffered]
    exact hwhole
  · have hlater := Exchange.LetGo.later (w := w.whole.exchange) hw.whole.staging.steady ht hl
    exact hlater
  · obtain ⟨hi, ha⟩ := huntaken he
    obtain ⟨hi', ha'⟩ := hw.untaken he
    exact ⟨hi.trans hi', ha.trans ha'⟩

theorem step (hw : w.Sane) (hs : Step w m w') : w'.Sane := by
  have ho := hw.ordered.step hs
  cases hs with
  | take hst hc hi hh ha => exact hw.take hst hc hi hh ha ho
  | @find i st c hst hc hi hh ha =>
    obtain ⟨hg, hr, hst'⟩ := (hw.standing i st hst).whole_of hi (by simp [hc])
    refine hw.of_put (T := w.stopping.tidings) (U := w.exchange.unsent) hst ho (by simp)
      (fun _ _ => id)
      (fun ts rest hbefore hafter => hw.sound.reorder (hafter.trans hbefore.symm)) ?_
    rw [hst']
    exact .whole (by simp) hg hr
  | @advance i st m s hst hc hi hm hs =>
    have hne := hw.ordered.entered_ne hst hi
    have hkept : ∀ e : Exchange, w.exchange.accepted <+: e.accepted →
        (∀ t, w.exchange.LetGo t → e.LetGo t) →
          ∀ (j : Nat) (st₁ : Starter), w.starters[j]? = some st₁ → st₁.Standing e :=
      fun e ha hl j st₁ h => (hw.standing j st₁ h).mono ha hl
    cases m with
    | cloneSender | markRunning | spawnLoop =>
      exact hw.run hs ho rfl hkept fun he => absurd he hne
    | attach =>
      refine hw.run hs ho ?_ (fun e ha hl j st₁ h => ?_) fun he => absurd he hne
      · have hmark : (w.put i { st with call := .returned (.ok ()) }).offered = w.offered :=
          offered_put hst rfl
        exact hmark
      · rcases get_put (w := w) h with ⟨rfl, rfl⟩ | ⟨-, h⟩
        · have hst' := hkept e ha hl j st hst
          cases hst' with
          | taken _ hq => exact .taken (.inr rfl) hq
          | whole => cases hi
          | gone => cases hi
        · exact hkept e ha hl j st₁ h
    | other => cases ha : w.attachment <;> rw [ha] at hm <;> cases hm
  | @refuse i st c hst hc hi =>
    obtain ⟨hg, hr, hst'⟩ := (hw.standing i st hst).whole_of hi (by simp [hc])
    refine hw.of_put hst ho id (fun _ _ => id)
      (fun ts rest hbefore hafter => hw.sound.reorder (hafter.trans hbefore.symm)) ?_
    rw [hst']
    exact .whole (by simp) hg hr
  | letGo hst hc hi => exact hw.letGo hst hc hi ho
  | serve hst hi hj => exact hw.serve hst hi hj ho
  | @supply i s st s' hst hi hs =>
    have hne := hw.ordered.entered_ne hst hi
    exact hw.run hs ho rfl (fun e ha hl j st₁ h => (hw.standing j st₁ h).mono ha hl)
      fun he => absurd he hne
  | @shut i st c hst hc hi =>
    obtain ⟨hg, hr, hst'⟩ := (hw.standing i st hst).whole_of hi (by simp [hc])
    refine hw.of_release hst ?_ ho fun _ => ?_
    · have hclosed : c.close.2.contents = c.queue := List.append_nil _
      rw [Starter.offered_some hi, Starter.offered_some rfl, hclosed]
      exact List.perm_append_comm
    · rw [hst']
      exact .whole (by simp [hc]) (hg.close hr) hr
  | @within m s hm hs =>
    refine hw.run hs ho rfl (fun e ha hl j st₁ h => (hw.standing j st₁ h).mono ha hl) fun he => ?_
    refine Stopping.inbound_of_step hs hm ?_
    have hsteps : ¬0 < w.attachment.steps := fun h => hw.ordered.started h he
    refine hw.whole.staging.hasLoop.trans ((Attachment.isSpawned_eq _).trans ?_)
    exact decide_eq_false fun h => hsteps (Nat.lt_of_lt_of_le (by decide) h)

end Sane
end Attaching
end Handoff
