import Handoff.Proofs.Refusing

/-!
# A run without a refused call

A call that starts a stage and is not the first to get the lock can be taken out of a run. What is
left can be done just as well, and it comes to the same stage: only the log and what the senders of
the refused channel know are different. In the run without the call its channel stays with the
caller, so fewer of its senders are turned away.
-/
namespace Handoff

/-- A sender of a channel that is gone does nothing that it could not do if it were not. -/
theorem Inlet.act_of_gone {i i' : Inlet} {s : Sending} {c : Channel Transaction} {R : Replies}
    (hg : i.channel.Gone) (hs : i.act s = some i') (hp : c.permits = i.channel.permits)
    (hsenders : c.senders = i.channel.senders) (hn : R.next = i.replies.next) :
    i'.channel.Gone ∧ ∃ j, act s ⟨c, R, i.unsent⟩ = some j ∧
      j.channel.permits = i'.channel.permits ∧ j.channel.senders = i'.channel.senders ∧
        j.unsent = i'.unsent ∧ j.replies.next = i'.replies.next := by
  have hline : ∀ t, t ∉ i.channel.line := by
    rw [hg.line]
    exact fun _ => List.not_mem_nil
  cases s with
  | issue payload =>
    cases hs
    exact ⟨hg, _, rfl, hp, hsenders, by rw [hn], by simp [hn]⟩
  | discard t =>
    simp only [act, Option.ite_none_right_eq_some, Option.some.injEq] at hs
    obtain ⟨ht, rfl⟩ := hs
    exact ⟨hg, _, if_pos ht, hp, hsenders, rfl, by simp [hn]⟩
  | send t =>
    simp only [act, (hg.closed t).1, Option.ite_none_right_eq_some] at hs
    cases hs.2
  | deliver =>
    have hnone : i.channel.promised = [] := (Channel.line_eq_nil.mp hg.line).1
    simp [act, Channel.deliver?, hnone] at hs
  | keep t =>
    simp only [act, Option.ite_none_right_eq_some] at hs
    exact absurd (List.mem_append_left _ hs.1) (hline t)
  | withdraw t =>
    simp only [act, Option.ite_none_right_eq_some] at hs
    exact absurd hs.1 (hline t)
  | reserve =>
    simp only [act, Channel.reserve, hg.accepting, Option.ite_none_right_eq_some] at hs
    cases hs.2
  | spend t =>
    simp only [act, Option.ite_none_right_eq_some, Option.some.injEq] at hs
    obtain ⟨ht, rfl⟩ := hs
    refine ⟨⟨hg.receiver, hg.accepting, hg.line⟩, _, if_pos ⟨ht.1, hp ▸ ht.2⟩, ?_, hsenders, rfl,
      hn⟩
    simp [Channel.spend, hp]
  | forfeit =>
    simp only [act, Option.ite_none_right_eq_some, Option.some.injEq] at hs
    obtain ⟨ht, rfl⟩ := hs
    refine ⟨⟨hg.receiver, hg.accepting, (Channel.line_grant _).trans hg.line⟩, _,
      if_pos (hp ▸ ht), ?_, hsenders, rfl, hn⟩
    simp [Channel.forfeit, Channel.grant, hp]
  | join =>
    simp only [act, Option.ite_none_right_eq_some, Option.some.injEq] at hs
    obtain ⟨ht, rfl⟩ := hs
    refine ⟨⟨hg.receiver, hg.accepting, hg.line⟩, _, if_pos (hsenders ▸ ht), hp, ?_, rfl, hn⟩
    simp [hsenders]
  | leave =>
    simp only [act, Option.ite_none_right_eq_some, Option.some.injEq] at hs
    obtain ⟨ht, rfl⟩ := hs
    have hleave : i.channel.leave.Gone := ⟨hg.receiver, hg.accepting, hg.line⟩
    refine ⟨hleave.sweep, _, if_pos (hsenders ▸ ht), ?_, ?_, rfl, by simp [hn]⟩
    · simp [Channel.leave, hp]
    · simp [Channel.leave, hsenders]

/-- Two stages with everyone around, the same but for tidings. -/
def Stopping.Alike (v w : Stopping) : Prop :=
  ∃ T, v = w.told T w.exchange.unsent ∧ T.next = w.tidings.next

namespace Stopping.Alike

variable {v w w' : Stopping} {m : Stopping.Move}

theorem refl (w : Stopping) : w.Alike w := ⟨w.tidings, rfl, rfl⟩

theorem attachment (h : v.Alike w) : v.staging.attachment = w.staging.attachment := by
  obtain ⟨T, rfl, -⟩ := h
  rfl

theorem unsent (h : v.Alike w) : v.exchange.unsent = w.exchange.unsent := by
  obtain ⟨T, rfl, -⟩ := h
  rfl

theorem next (h : v.Alike w) : v.tidings.next = w.tidings.next := by
  obtain ⟨T, rfl, hn⟩ := h
  exact hn

/-- Whatever happens to the tidings, and the same to what senders have. -/
theorem told {T T' : Tidings} (h : v.Alike w) (hn : T.next = T'.next) (U : List Transaction) :
    (v.told T U).Alike (w.told T' U) := by
  obtain ⟨T₀, rfl, -⟩ := h
  exact ⟨T, rfl, hn⟩

theorem told_right {T : Tidings} (h : v.Alike w) (hn : T.next = w.tidings.next) :
    v.Alike (w.told T w.exchange.unsent) := by
  obtain ⟨T₀, rfl, hn₀⟩ := h
  exact ⟨T₀, rfl, hn₀.trans hn.symm⟩

theorem adopt (h : v.Alike w) (c : Channel Transaction) : (v.adopt c).Alike (w.adopt c) := by
  obtain ⟨T, rfl, hn⟩ := h
  exact ⟨T, rfl, hn⟩

theorem step (h : v.Alike w) (hs : Stopping.step m w = some w') :
    ∃ v', Stopping.step m v = some v' ∧ v'.Alike w' := by
  obtain ⟨T, rfl, hn⟩ := h
  obtain ⟨f, hf⟩ := step_told hs
  obtain ⟨hstep, hnext⟩ := hf T [] hn fun _ _ => List.not_mem_nil
  exact ⟨_, hstep, f T, rfl, hnext⟩

end Stopping.Alike

/-- A call in a run without it, where it has not been made, and in a run with it. -/
inductive Starter.Apart : Starter → Starter → Prop
  | same {sv st : Starter} {c} : st.inbound = some c → (∀ r, st.call ≠ .returned r) →
      sv = { st with call := .idle } → Apart sv st
  | gone {sv st : Starter} {c c' r} : sv.call = .idle → sv.inbound = some c →
      st.call = .returned r → st.inbound = some c' → c'.Gone →
      c.permits = c'.permits → c.senders = c'.senders → Apart sv st

namespace Attaching

/-- The calls in a run without this one, and in a run with it. -/
def Paired (i : Nat) (vs ws : List Starter) : Prop :=
  ∀ (j : Nat) (st : Starter), ws[j]? = some st →
    ∃ sv, vs[j]? = some sv ∧ (j ≠ i → sv = st) ∧ (j = i → sv.Apart st)

namespace Paired

variable {vs ws : List Starter} {i j : Nat} {st st' sv sv' : Starter}

theorem set (h : Paired i vs ws) (hsv : vs[j]? = some sv) (hother : j ≠ i → sv' = st')
    (hown : j = i → sv'.Apart st') : Paired i (vs.set j sv') (ws.set j st') := by
  intro k st₁ hk
  rw [List.getElem?_set] at hk
  by_cases hjk : j = k
  · subst hjk
    have hj : j < vs.length := (List.getElem?_eq_some_iff.mp hsv).1
    have hst₁ : st₁ = st' := by
      split at hk <;> simp_all
    exact ⟨sv', by simp [hj], fun hne => hst₁ ▸ hother hne, fun he => hst₁ ▸ hown he⟩
  · rw [if_neg hjk] at hk
    obtain ⟨sv₁, hsv₁, hrest⟩ := h k st₁ hk
    exact ⟨sv₁, by rw [List.getElem?_set_ne hjk, hsv₁], hrest⟩

/-- Any other call is the same in both. -/
theorem get_ne (h : Paired i vs ws) (hji : j ≠ i) (hst : ws[j]? = some st) : vs[j]? = some st := by
  obtain ⟨sv, hsv, hother, -⟩ := h j st hst
  rw [hsv, hother hji]

theorem set_ne (h : Paired i vs ws) (hji : j ≠ i) (hst : ws[j]? = some st) :
    Paired i (vs.set j st') (ws.set j st') :=
  h.set (h.get_ne hji hst) (fun _ => rfl) fun he => absurd he hji

theorem set_own (h : Paired i vs ws) (hsv : vs[i]? = some sv) (hown : sv.Apart st') :
    Paired i vs (ws.set i st') := by
  have hset : Paired i (vs.set i sv) (ws.set i st') :=
    h.set hsv (fun hne => absurd rfl hne) fun _ => hown
  have hself : vs.set i sv = vs := by
    obtain ⟨hi, rfl⟩ := List.getElem?_eq_some_iff.mp hsv
    exact List.set_getElem_self hi
  rwa [hself] at hset

end Paired

/-- The move is one of this call. -/
def Move.isOf (i : Nat) : Move → Bool
  | .enter j | .proceed j => j = i
  | _ => false

variable {v w w' : Attaching} {m : Move} {i : Nat}

/-- A run without this call and the one with it. -/
structure Alike (i : Nat) (v w : Attaching) : Prop where
  stopping : v.stopping.Alike w.stopping
  starters : Paired i v.starters w.starters
  holder : v.holder = if w.holder = some i then none else w.holder
  spawned : v.spawned = w.spawned

/-- Who has had the lock has had it. -/
theorem entered_step (hs : Step w m w') : w.entered <+: w'.entered := by
  cases hs with
  | take | find => exact List.prefix_append ..
  | @advance i st m => cases m <;> exact List.prefix_refl _
  | refuse | letGo | serve | supply | shut | within => exact List.prefix_refl _

theorem entered_later (h : Reached step w w') : w.entered <+: w'.entered :=
  h.invariant (P := fun u => w.entered <+: u.entered) (List.prefix_refl _)
    fun _ _ _ hu hs => hu.trans (entered_step (step_cases hs))

namespace Alike

theorem start (i : Nat) (slots : List Nat) : Alike i (start slots) (start slots) := by
  refine ⟨.refl _, fun j st h => ⟨st, h, fun _ => rfl, fun _ => ?_⟩, rfl, rfl⟩
  simp only [Attaching.start, List.getElem?_map, Option.map_eq_some_iff] at h
  obtain ⟨n, -, rfl⟩ := h
  exact .same rfl (by simp) rfl

/-- What the call does leaves the run without it where it is. -/
theorem own (hw : w.Sane) (ha : Alike i v w) (hfirst : w'.entered.head? ≠ some i)
    (hm : m.isOf i = true) (hs : Step w m w') : Alike i v w' := by
  cases hs with
  | @take j st c hst hc hi hh hsteps =>
    obtain rfl : j = i := by simpa [Move.isOf] using hm
    have he : w.entered = [] := by
      rcases hw.ordered.of_vacant hh with ⟨-, he⟩ | ⟨hz, -⟩
      · exact he
      · omega
    simp [put, he] at hfirst
  | @find j st c hst hc hi hh hsteps =>
    obtain rfl : j = i := by simpa [Move.isOf] using hm
    obtain ⟨sv, hsv, -, hown⟩ := ha.starters j st hst
    refine ⟨ha.stopping, ha.starters.set_own hsv ?_, ?_, ha.spawned⟩
    · cases hown rfl with
      | same _ _ he => exact .same hi (by simp) he
      | gone _ _ hr => cases hc.symm.trans hr
    · rw [ha.holder, hh]
      simp [put]
  | @advance j st m s hst hc hi hm' hs =>
    obtain rfl : j = i := by simpa [Move.isOf] using hm
    obtain ⟨sv, -, -, hown⟩ := ha.starters j st hst
    cases hown rfl with
    | same hi' => cases hi.symm.trans hi'
    | gone _ _ _ hi' => cases hi.symm.trans hi'
  | @refuse j st c hst hc hi =>
    obtain rfl : j = i := by simpa [Move.isOf] using hm
    obtain ⟨sv, hsv, -, hown⟩ := ha.starters j st hst
    refine ⟨ha.stopping.told_right rfl, ha.starters.set_own hsv ?_, ?_, ha.spawned⟩
    · cases hown rfl with
      | same _ _ he => exact .same hi (by simp) he
      | gone _ _ hr => cases hc.symm.trans hr
    · rw [ha.holder, if_pos ((hw.ordered.placed j st hst).inside.mp hc)]
      rfl
  | @letGo j st c hst hc hi =>
    obtain rfl : j = i := by simpa [Move.isOf] using hm
    obtain ⟨sv, hsv, -, hown⟩ := ha.starters j st hst
    refine ⟨ha.stopping.told_right (Tidings.next_release _), ha.starters.set_own hsv ?_, ha.holder,
      ha.spawned⟩
    cases hown rfl with
    | same _ _ he =>
      exact .gone (congrArg Starter.call he) ((congrArg Starter.inbound he).trans hi) rfl rfl
        c.gone_detach rfl rfl
    | gone _ _ hr => cases hc.symm.trans hr
  | serve | supply | shut | within => cases hm

/-- A sender does the same with a channel that is the same. -/
theorem serve {j : Nat} {s : Sending} {st sv : Starter} {c : Channel Transaction} {k : Inlet}
    (ha : Alike i v w) (hsv : v.starters[j]? = some sv) (hi : sv.inbound = some c)
    (hk : (w.inlet c).act s = some k) (hother : j ≠ i → sv = st)
    (hown : j = i → (sv.served (w.inlet c) k).Apart (st.served (w.inlet c) k)) :
    ∃ v', step (.sending j s) v = some v' ∧
      Alike i v' ((w.put j (st.served (w.inlet c) k)).tell ⟨k.settle.replies, w.exchange.hub.log⟩
        k.unsent) := by
  obtain ⟨f, hf⟩ := Inlet.act_told hk
  obtain ⟨hact, hnext⟩ := hf v.exchange.hub.replies [] ha.stopping.next fun _ _ =>
    List.not_mem_nil
  have hinlet : v.inlet c = (w.inlet c).told v.exchange.hub.replies (w.inlet c).unsent := by
    have hunsent : v.exchange.unsent = w.exchange.unsent := ha.stopping.unsent
    rw [inlet, hunsent]
    rfl
  rw [List.nil_append, ← hinlet] at hact
  refine ⟨_, (Step.serve hsv hi hact).eq_some, ha.stopping.told ?_ _, ?_, ha.holder, ha.spawned⟩
  · simpa [Tidings.next, Inlet.settle, Inlet.told] using hnext
  · rw [hinlet, Starter.served_told]
    exact ha.starters.set hsv (fun hne => by rw [hother hne]) hown

/-- What a sender still does with a channel that is gone it does as well when the call has not been
made. -/
theorem serve_gone {j : Nat} {s : Sending} {st sv : Starter} {c c' : Channel Transaction}
    {r : Except StageError Unit} {k : Inlet} (ha : Alike i v w) (hji : j = i)
    (hsv : v.starters[j]? = some sv) (hidle : sv.call = .idle) (hi : sv.inbound = some c)
    (hr : st.call = .returned r) (hg : c'.Gone) (hp : c.permits = c'.permits)
    (hsenders : c.senders = c'.senders) (hk : (w.inlet c').act s = some k) :
    ∃ v', step (.sending j s) v = some v' ∧
      Alike i v' ((w.put j (st.served (w.inlet c') k)).tell ⟨k.settle.replies, w.exchange.hub.log⟩
        k.unsent) := by
  obtain ⟨hg', k', hact, hp', hsenders', hunsent', hnext⟩ :=
    Inlet.act_of_gone (i := w.inlet c') hg hk hp hsenders ha.stopping.next
  have hinlet : v.inlet c = ⟨c, v.exchange.hub.replies, w.exchange.unsent⟩ := by
    have hunsent : v.exchange.unsent = w.exchange.unsent := ha.stopping.unsent
    rw [inlet, hunsent]
  have hact' : (v.inlet c).act s = some k' := by
    rw [hinlet]
    exact hact
  refine ⟨_, (Step.serve hsv hi hact').eq_some, ?_, ha.starters.set hsv (absurd hji) fun _ => ?_,
    ha.holder, ha.spawned⟩
  · rw [hunsent']
    refine ha.stopping.told ?_ _
    simpa [Tidings.next, Inlet.settle] using hnext
  · exact .gone ((Starter.call_served ..).trans hidle) (Starter.inbound_served ..)
      ((Starter.call_served ..).trans hr) (Starter.inbound_served ..) hg'.sweep
      (by simpa [Inlet.settle] using hp') (by simpa [Inlet.settle] using hsenders')

/-- What others do they do without the call. -/
theorem others (ha : Alike i v w) (hfirst : w.entered.head? ≠ some i) (hw : w.Sane)
    (hm : m.isOf i = false) (hs : Step w m w') : ∃ v', step m v = some v' ∧ Alike i v' w' := by
  have hattachment : v.attachment = w.attachment := ha.stopping.attachment
  have hunsent : v.exchange.unsent = w.exchange.unsent := ha.stopping.unsent
  have hnext : v.exchange.tidings.next = w.exchange.tidings.next := ha.stopping.next
  cases hs with
  | @take j st c hst hc hi hh hsteps =>
    have hji : j ≠ i := by simpa [Move.isOf] using hm
    have hsv := ha.starters.get_ne hji hst
    have hholder : v.holder = none := by rw [ha.holder, hh]; rfl
    refine ⟨_, (Step.take hsv hc hi hholder (hattachment ▸ hsteps)).eq_some, ha.stopping.adopt c,
      ha.starters.set_ne hji hst, ?_, ha.spawned⟩
    simp [put, hji]
  | @find j st c hst hc hi hh hsteps =>
    have hji : j ≠ i := by simpa [Move.isOf] using hm
    have hsv := ha.starters.get_ne hji hst
    have hholder : v.holder = none := by rw [ha.holder, hh]; rfl
    refine ⟨_, (Step.find hsv hc hi hholder (hattachment ▸ hsteps)).eq_some, ha.stopping,
      ha.starters.set_ne hji hst, ?_, ha.spawned⟩
    simp [put, hji]
  | @advance j st m s hst hc hi hm' hs =>
    have hji : j ≠ i := by simpa [Move.isOf] using hm
    have hsv := ha.starters.get_ne hji hst
    obtain ⟨s', hs', halike⟩ := ha.stopping.step hs
    refine ⟨_, (Step.advance hsv hc hi (hattachment ▸ hm') hs').eq_some, ?_⟩
    have hspawned := ha.spawned
    cases m with
    | cloneSender | markRunning | other => exact ⟨halike, ha.starters, ha.holder, hspawned⟩
    | spawnLoop => exact ⟨halike, ha.starters, ha.holder, by simp [mark, hspawned]⟩
    | attach =>
      exact ⟨halike, ha.starters.set_ne hji hst, rfl, hspawned⟩
  | @refuse j st c hst hc hi =>
    have hji : j ≠ i := by simpa [Move.isOf] using hm
    have hsv := ha.starters.get_ne hji hst
    refine ⟨_, (Step.refuse hsv hc hi).eq_some, ?_,
      ha.starters.set_ne hji hst, rfl, ha.spawned⟩
    rw [hunsent]
    exact ha.stopping.told (by simpa using hnext) _
  | @letGo j st c hst hc hi =>
    have hji : j ≠ i := by simpa [Move.isOf] using hm
    have hsv := ha.starters.get_ne hji hst
    refine ⟨_, (Step.letGo hsv hc hi).eq_some, ?_,
      ha.starters.set_ne hji hst, ha.holder, ha.spawned⟩
    rw [hunsent]
    exact ha.stopping.told (by simpa using hnext) _
  | @serve j s st c k hst hi hk =>
    obtain ⟨sv, hsv, hother, hown⟩ := ha.starters j st hst
    by_cases hji : j = i
    · cases hown hji with
      | same _ hr he =>
        have hsame : sv.inbound = some c := (congrArg Starter.inbound he).trans hi
        refine ha.serve hsv hsame hk (fun hne => absurd hji hne) fun _ => ?_
        refine .same (Starter.inbound_served ..) (by simpa using hr) ?_
        rw [he, Starter.served_call]
      | gone hidle hsome hr hsome' hg hp hsenders =>
        obtain rfl := Option.some.inj (hi.symm.trans hsome')
        exact ha.serve_gone hji hsv hidle hsome hr hg hp hsenders hk
    · obtain rfl := hother hji
      exact ha.serve hsv hi hk (fun _ => rfl) fun he => absurd he hji
  | @supply j s st s' hst hi hs =>
    have hji : j ≠ i := by
      rintro rfl
      exact hfirst ((hw.ordered.placed j st hst).taken.mp hi)
    have hsv := ha.starters.get_ne hji hst
    obtain ⟨s'', hs'', halike⟩ := ha.stopping.step hs
    exact ⟨_, (Step.supply hsv hi hs'').eq_some, halike, ha.starters, ha.holder, ha.spawned⟩
  | @shut j st c hst hc hi =>
    obtain ⟨sv, hsv, hother, hown⟩ := ha.starters j st hst
    have hsame : sv = st := by
      by_cases hji : j = i
      · cases hown hji with
        | same _ _ he => rw [he, ← hc]
        | gone _ _ hr => cases hc.symm.trans hr
      · exact hother hji
    obtain rfl := hsame
    refine ⟨_, (Step.shut hsv hc hi).eq_some, ?_,
      ha.starters.set hsv (fun _ => rfl) (fun he => ?_), ha.holder, ha.spawned⟩
    · rw [hunsent]
      exact ha.stopping.told (by simpa using hnext) _
    · exact .same rfl (by simp [hc]) (by rw [hc])
  | within hm' hs =>
    obtain ⟨s', hs', halike⟩ := ha.stopping.step hs
    exact ⟨_, (Step.within hm' hs').eq_some, halike, ha.starters, ha.holder, ha.spawned⟩

/-- A run goes as well without the call, from where the two are alike. -/
theorem run {moves : List Move} (ha : Alike i v w) (hw : w.Sane)
    (h : moves.foldlM (fun w m => Attaching.step m w) w = some w')
    (hfirst : w'.entered.head? ≠ some i) :
    ∃ v', (moves.filter fun m => !m.isOf i).foldlM (fun w m => Attaching.step m w) v = some v' ∧
      Alike i v' w' := by
  -- whoever is first at some time is first in the end
  have hbefore : ∀ {u : Attaching}, u.entered <+: w'.entered → u.entered.head? ≠ some i := by
    rintro u ⟨more, hmore⟩ hu
    rw [← hmore, List.head?_append, hu] at hfirst
    exact hfirst rfl
  have hown : ∀ m u u₁ v, Alike i v u ∧ u.Sane → m.isOf i = true →
      Attaching.step m u = some u₁ → Reached Attaching.step u₁ w' → Alike i v u₁ ∧ u₁.Sane := by
    rintro m u u₁ v ⟨ha, hu⟩ hm hstep hrest
    have hs := step_cases hstep
    exact ⟨ha.own hu (hbefore (entered_later hrest)) hm hs, hu.step hs⟩
  have hothers : ∀ m u u₁ v, Alike i v u ∧ u.Sane → m.isOf i = false →
      Attaching.step m u = some u₁ → Reached Attaching.step u₁ w' →
        ∃ v₁, Attaching.step m v = some v₁ ∧ Alike i v₁ u₁ ∧ u₁.Sane := by
    rintro m u u₁ v ⟨ha, hu⟩ hm hstep hrest
    have hs := step_cases hstep
    have hentered := (entered_step hs).trans (entered_later hrest)
    obtain ⟨v₁, hv₁, halike⟩ := ha.others (hbefore hentered) hu hm hs
    exact ⟨v₁, hv₁, halike, hu.step hs⟩
  obtain ⟨v', hv', halike, -⟩ :=
    run_without (Move.isOf i) (fun u v => Alike i v u ∧ u.Sane) hown hothers ⟨ha, hw⟩ h
  exact ⟨v', hv', halike⟩

end Alike
end Attaching
end Handoff
