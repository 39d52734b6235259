import Handoff.Proofs.Comparing

/-!
# The first call that starts a stage

The results on calls that start a stage, for any number of them and in any order with everyone else.
The first one to get the lock succeeds and every other is refused, each within a few steps of its
own. What a refused call does to the stage is nothing: without it the same run comes to the same
stage at every moment. One loop is spawned, and it has nothing but what was queued in the channel of
the first call.
-/
namespace Handoff

/-- A loop does not start anything. -/
theorem Loop.Step.running {l l' : Loop} {h h' : Hub} (hs : Loop.Step l h l' h')
    (hr : h'.lifecycle.state = .running) : h.lifecycle.state = .running := by
  cases hs with
  | settle => cases hr
  | @finish n =>
    revert hr
    show (Hub.lifecycle (if 0 < n then _ else _)).state = _ → _
    split <;> exact id
  | begin | seeClose | seeNone | stop | pick | exhaust | giveUp | reserve | findGone | place | count
  | stopAwaiting | seeTaken | loseReaders | abandon | countAbandoned | closeInbound | drain
  | endDrain | countDrained | release | confirm | report | takeLate | countLate | answerLate =>
    exact hr

/-- Only a start makes the run state running. -/
theorem Staging.running_of_step {w w' : Staging} {m : Move} (hs : step m w = some w')
    (hm : m ≠ .markRunning) (hr : w'.exchange.hub.lifecycle.state = .running) :
    w.exchange.hub.lifecycle.state = .running := by
  obtain ⟨a, has, e⟩ := w
  cases m with
  | markRunning => exact absurd rfl hm
  | cloneSender | spawnLoop | attach =>
    cases a <;> cases hs
    exact hr
  | other m =>
    obtain ⟨hp, e', he, rfl⟩ := step_other_cases hs
    cases Exchange.step_cases he with
    | loop hl => exact hl.running hr
    | claimStop =>
      rcases e.hub.lifecycle.claimStop_cases with ⟨-, hc⟩ | ⟨-, hc⟩
      · simpa [hc] using hr
      · simp [hc] at hr
    | markRunning => cases hp
    | sending | shut | take | answer | addHandle | dropHandle | cloneSpare | dropSpare | publish
    | note => exact hr

theorem Stopping.running_of_step {w w' : Stopping} {m : Move} (hs : step m w = some w')
    (hm : m ≠ .other .markRunning) (hr : w'.lifecycle.state = .running) :
    w.lifecycle.state = .running := by
  cases m with
  | claim i =>
    simp only [step, Option.ite_none_right_eq_some, Option.map_eq_some_iff] at hs
    obtain ⟨-, s, hs, rfl⟩ := hs
    exact Staging.running_of_step hs (by simp) hr
  | publish i =>
    simp only [step, Option.ite_none_right_eq_some, Option.bind_eq_some_iff,
      Option.map_eq_some_iff] at hs
    obtain ⟨-, s, hs, s', hs', rfl⟩ := hs
    exact Staging.running_of_step hs (by simp) (Staging.running_of_step hs' (by simp) hr)
  | other m =>
    simp only [step, Option.ite_none_left_eq_some, Option.map_eq_some_iff] at hs
    obtain ⟨-, s, hs, rfl⟩ := hs
    exact Staging.running_of_step hs (fun he => hm (congrArg _ he)) hr

/-- What is left of a start can go on. -/
theorem Stopping.exists_start_step {w : Stopping} (hne : w.staging.attachment.steps ≠ 4) :
    ∃ m s, w.staging.attachment.next? = some m ∧ step (.other m) w = some s := by
  obtain ⟨⟨a, has, e⟩, calls⟩ := w
  cases a with
  | detached => exact ⟨.cloneSender, _, rfl, rfl⟩
  | cloned => exact ⟨.markRunning, _, rfl, rfl⟩
  | marked => exact ⟨.spawnLoop, _, rfl, rfl⟩
  | spawned => exact ⟨.attach, _, rfl, rfl⟩
  | attached => exact absurd rfl hne

namespace Attaching

variable {w w' : Attaching} {m : Move} {i : Nat} {slots : List Nat}

theorem sane_of_reached (h : Reached step (start slots) w) : w.Sane :=
  h.invariant (sane_start slots) fun _ _ _ hw hs => hw.step (step_cases hs)

/-- The run state is running from the second step of the start on, at the earliest. -/
theorem marked_of_running (h : Reached step (start slots) w)
    (hr : w.stopping.lifecycle.state = .running) : 2 ≤ w.attachment.steps := by
  revert hr
  refine h.invariant (P := fun w => w.stopping.lifecycle.state = .running →
    2 ≤ w.attachment.steps) nofun fun m w w' hi hs hr => ?_
  cases step_cases hs with
  | take | find | refuse | letGo | serve | shut => exact hi hr
  | @advance i st m s hst hc hn hm hstep =>
    have hsteps := Stopping.steps_of_step hm hstep
    show 2 ≤ s.staging.attachment.steps
    rw [hsteps]
    by_cases hmark : m = .markRunning
    · subst hmark
      have ha : w.attachment.next? = some .markRunning := hm
      show 2 ≤ w.attachment.steps + 1
      cases hatt : w.attachment <;> rw [hatt] at ha <;> cases ha
      simp
    · have hbefore := hi (Stopping.running_of_step hstep (by simpa using hmark) hr)
      exact Nat.le_succ_of_le hbefore
  | supply hst hn hstep =>
    have ha := Stopping.attachment_of_step hstep fun k hk => ⟨_, (Stopping.Move.other.inj hk).symm⟩
    simp only [attachment, ha]
    exact hi (Stopping.running_of_step hstep (by simp) hr)
  | @within m s hm hstep =>
    have ha := attachment_of_within hm hstep
    simp only [attachment, ha]
    refine hi (Stopping.running_of_step hstep ?_ hr)
    rintro rfl
    cases hm

end Attaching

/-- How many steps of its own a call has before it returns, once it has had the lock. -/
def Starter.left (st : Starter) (a : Attachment) : Nat :=
  match st.call with
  | .inside => if st.inbound.isNone then 4 - a.steps else 2
  | .refused => 1
  | .idle | .returned _ => 0

namespace Starter

variable {st : Starter} {a : Attachment}

theorem left_le (st : Starter) (a : Attachment) : st.left a ≤ 4 := by
  unfold left
  split
  · split <;> omega
  all_goals omega

/-- What has no part in it. -/
theorem left_congr {st' : Starter} {a' : Attachment} (hc : st'.call = st.call)
    (hi : st'.inbound.isNone = st.inbound.isNone) (ha : st.call = .inside → a'.steps = a.steps) :
    st'.left a' = st.left a := by
  unfold left
  rw [hc, hi]
  split
  · rename_i h
    rw [ha h]
  all_goals rfl

end Starter

namespace Attaching

variable {w w' : Attaching} {m : Move} {i : Nat} {slots : List Nat}

def left (w : Attaching) (i : Nat) : Nat := w.starters[i]?.elim 0 (·.left w.attachment)

def Returned (w : Attaching) (i : Nat) : Prop :=
  ∃ st r, w.starters[i]? = some st ∧ st.call = .returned r

theorem left_eq {st : Starter} (hst : w.starters[i]? = some st) :
    w.left i = st.left w.attachment := by
  rw [left, hst]
  rfl

theorem getElem?_put_self {st : Starter} (hst : w.starters[i]? = some st) (st' : Starter) :
    (w.put i st').starters[i]? = some st' := by
  have hi := (List.getElem?_eq_some_iff.mp hst).1
  simp [put, hi]

theorem getElem?_put_ne {j : Nat} {st' : Starter} (h : j ≠ i) :
    (w.put j st').starters[i]? = w.starters[i]? := List.getElem?_set_ne h

/-- What is not a move of a call leaves it where it is. -/
theorem Step.frame {st₀ : Starter} (ho : w.Ordered) (hst₀ : w.starters[i]? = some st₀)
    (hm : m.isOf i = false) (hs : Step w m w') :
    ∃ st, w'.starters[i]? = some st ∧ st.call = st₀.call ∧
      st.inbound.isNone = st₀.inbound.isNone ∧
        (st₀.call = .inside → w'.attachment.steps = w.attachment.steps) := by
  cases hs with
  | take | find | refuse | letGo =>
    have hji := by simpa [Move.isOf] using hm
    exact ⟨st₀, (getElem?_put_ne hji).trans hst₀, rfl, rfl, fun _ => rfl⟩
  | @advance j st m s hst hc hn hm' hstep =>
    have hji : j ≠ i := by simpa [Move.isOf] using hm
    refine ⟨st₀, ?_, rfl, rfl, fun hc₀ => ?_⟩
    · cases m with
      | attach => exact (getElem?_put_ne hji).trans hst₀
      | cloneSender | markRunning | spawnLoop | other => exact hst₀
    · -- two calls would have the lock
      have hholder := (ho.placed j st hst).inside.mp hc
      rw [(ho.placed i st₀ hst₀).inside.mp hc₀] at hholder
      exact absurd (Option.some.inj hholder).symm hji
  | @serve j s st c k hst hn hk =>
    by_cases hji : j = i
    · subst hji
      obtain rfl := Option.some.inj (hst.symm.trans hst₀)
      exact ⟨_, getElem?_put_self hst _, Starter.call_served .., by simp [hn], fun _ => rfl⟩
    · exact ⟨st₀, (getElem?_put_ne hji).trans hst₀, rfl, rfl, fun _ => rfl⟩
  | @shut j st c hst hc hn =>
    by_cases hji : j = i
    · subst hji
      obtain rfl := Option.some.inj (hst.symm.trans hst₀)
      exact ⟨_, getElem?_put_self hst _, rfl, by simp [hn], fun _ => rfl⟩
    · exact ⟨st₀, (getElem?_put_ne hji).trans hst₀, rfl, rfl, fun _ => rfl⟩
  | supply hst hn hstep =>
    have ha := Stopping.attachment_of_step hstep fun k hk => ⟨_, (Stopping.Move.other.inj hk).symm⟩
    exact ⟨st₀, hst₀, rfl, rfl, fun _ => congrArg _ ha⟩
  | within hm' hstep =>
    exact ⟨st₀, hst₀, rfl, rfl, fun _ => congrArg _ (attachment_of_within hm' hstep)⟩

/-- A call that has had the lock gets on with each step of its own, and nobody sets it back. -/
theorem left_step (hw : w.Sane) (hi : i ∈ w.entered) (hs : Step w m w') :
    w'.left i + (m.isOf i).toNat ≤ w.left i := by
  obtain ⟨st₀, hst₀⟩ := hw.ordered.known i hi
  cases hm : m.isOf i with
  | false =>
    obtain ⟨st, hst, hc, hn, ha⟩ := hs.frame hw.ordered hst₀ hm
    rw [left_eq hst, left_eq hst₀, Starter.left_congr hc hn ha]
    exact Nat.le_refl _
  | true =>
    have hentered : ∀ {st}, w.starters[i]? = some st → st.call ≠ .idle := fun hst hc =>
      (hw.ordered.placed i _ hst).idle.mp hc hi
    cases hs with
    | take hst hc | find hst hc =>
      obtain rfl := by simpa [Move.isOf] using hm
      exact absurd hc (hentered hst)
    | @advance j st m s hst hc hn hm' hstep =>
      obtain rfl : j = i := by simpa [Move.isOf] using hm
      have hsteps : s.staging.attachment.steps = w.attachment.steps + 1 :=
        Stopping.steps_of_step hm' hstep
      have hlt : w.attachment.steps < 4 := by
        cases ha : w.attachment <;> rw [ha] at hm' <;> cases hm' <;> simp
      have hleft : st.left s.staging.attachment + 1 ≤ st.left w.attachment := by
        simp only [Starter.left, hc, hn, Option.isNone_none, if_true, hsteps]
        omega
      rw [left_eq hst]
      cases m with
      | attach =>
        rw [left_eq (w := { w.mark j st _ with stopping := s }) (getElem?_put_self hst _)]
        exact Nat.le_trans (Nat.le_add_left ..) hleft
      | cloneSender | markRunning | spawnLoop | other =>
        rw [left_eq (w := { w.mark j st _ with stopping := s }) hst]
        exact hleft
    | @refuse j st c hst hc hn | @letGo j st c hst hc hn =>
      obtain rfl : j = i := by simpa [Move.isOf] using hm
      rw [left_eq hst, left_eq (w := tell _ _ _) (getElem?_put_self hst _)]
      simp [Starter.left, hc, hn]
    | serve | supply | shut | within => cases hm

/-- A call that has had the lock and not returned can make its next step. -/
theorem exists_proceed (hw : w.Sane) (hi : i ∈ w.entered) (hn : ¬w.Returned i) :
    (step (.proceed i) w).isSome := by
  obtain ⟨st, hst⟩ := hw.ordered.known i hi
  have hplaced := hw.ordered.placed i st hst
  cases hc : st.call with
  | idle => exact absurd hi (hplaced.idle.mp hc)
  | returned r => exact absurd ⟨st, r, hst, hc⟩ hn
  | refused =>
    have hstanding := hw.standing i st hst
    cases hstanding with
    | taken hc' => rcases hc' with rfl | rfl <;> cases hc
    | whole => exact Option.isSome_of_eq_some (Step.letGo hst hc rfl).eq_some
    | gone => cases hc
  | inside =>
    cases hs : st.inbound with
    | some c => exact Option.isSome_of_eq_some (Step.refuse hst hc hs).eq_some
    | none =>
      -- nobody else has made the start, for the first call has the lock
      have hne : w.attachment.steps ≠ 4 := by
        intro h4
        refine hw.ordered.attached h4 ?_
        rw [hplaced.inside.mp hc, hplaced.taken.mp hs]
      obtain ⟨m, s, hm, hstep⟩ := Stopping.exists_start_step (w := w.stopping) hne
      exact Option.isSome_of_eq_some (Step.advance hst hc hs hm hstep).eq_some

/-- A call that has had the lock returns after at most four steps of its own, whatever else
happens. -/
theorem returned_of_run {moves : List Move} (hw : w.Sane) (hi : i ∈ w.entered)
    (h : moves.foldlM (fun w m => step m w) w = some w') (hm : 4 ≤ moves.countP (·.isOf i)) :
    w'.Returned i := by
  obtain ⟨⟨hw', hi'⟩, hleft, -⟩ := goal_or_work_left (·.isOf i) (·.left i)
    (fun w => w.Sane ∧ i ∈ w.entered) (fun _ => False)
    (fun m s s' hs hstep =>
      ⟨hs.1.step (step_cases hstep), (entered_step (step_cases hstep)).subset hs.2⟩)
    (fun _ _ _ _ => False.elim)
    (fun m s s' hs hstep => .inr (left_step hs.1 hs.2 (step_cases hstep))) ⟨hw, hi⟩ h
  by_cases hr : w'.Returned i
  · exact hr
  · -- there would be another step to make
    obtain ⟨w'', hstep⟩ := Option.isSome_iff_exists.mp (exists_proceed hw' hi' hr)
    have hnext := left_step hw' hi' (step_cases hstep)
    have hfour : w.left i ≤ 4 := by
      obtain ⟨st, hst⟩ := hw.ordered.known i hi
      rw [left_eq hst]
      exact st.left_le _
    have hone : (Move.isOf i (.proceed i)).toNat = 1 := by simp [Move.isOf]
    have hspent := hleft.resolve_left id
    omega

/-- A refused call that nothing comes between does to the stage what the stage does itself when it
is started a second time. -/
theorem refusal_eq_start {st : Starter} {c : Channel Transaction} {w₁ w₂ w₃ : Attaching}
    (hst : w.starters[i]? = some st) (hi : st.inbound = some c) (ha : 0 < w.attachment.steps)
    (h₁ : step (.enter i) w = some w₁) (h₂ : step (.proceed i) w₁ = some w₂)
    (h₃ : step (.proceed i) w₂ = some w₃) :
    w₃.stopping.staging.stage = (w.stopping.staging.stage.start c).2 ∧
      ∃ st₃, w₃.starters[i]? = some st₃ ∧ st₃.inbound = some c.detach.2.2 ∧
        st₃.call = .returned (.error .alreadyStarted) ∧
          (w.stopping.staging.stage.start c).1 = .error (.alreadyStarted, c.detach.2.2) := by
  have hstart : w.stopping.staging.stage.start c =
      (.error (.alreadyStarted, c.detach.2.2), { w.stopping.staging.stage with
        hub := (w.exchange.hub.note (.alreadyAttached Stage.typeName)).release
          (c.line ++ c.queue) }) := by
    have hne : w.stopping.staging.stage.attachment ≠ .detached := by
      intro hd
      have hd' : w.attachment = .detached := hd
      simp [hd'] at ha
    unfold Stage.start
    split
    · exact absurd ‹_› hne
    · rfl
  cases step_cases h₁ with
  | take _ _ _ _ hz => omega
  | @find _ st₁ c₁ hst₁ hc hi₁ hh =>
    obtain rfl := Option.some.inj (hst.symm.trans hst₁)
    have hget := getElem?_put_self (w := { w with holder := some i, entered := w.entered ++ [i] })
      hst { st with call := .inside }
    cases step_cases h₂ with
    | advance hst₂ _ hn =>
      obtain rfl := Option.some.inj (hget.symm.trans hst₂)
      cases hi.symm.trans hn
    | letGo hst₂ hr =>
      obtain rfl := Option.some.inj (hget.symm.trans hst₂)
      cases hr
    | refuse hst₂ hc₂ hi₂ =>
      obtain rfl := Option.some.inj (hget.symm.trans hst₂)
      have hget₂ := getElem?_put_self hget { st with call := .refused }
      cases step_cases h₃ with
      | advance hst₃ hc₃ =>
        obtain rfl := Option.some.inj (hget₂.symm.trans hst₃)
        cases hc₃
      | refuse hst₃ hc₃ =>
        obtain rfl := Option.some.inj (hget₂.symm.trans hst₃)
        cases hc₃
      | letGo hst₃ hc₃ hi₃ =>
        obtain rfl := Option.some.inj (hget₂.symm.trans hst₃)
        obtain rfl := Option.some.inj (hi.symm.trans hi₃)
        rw [hstart]
        exact ⟨rfl, _, getElem?_put_self hget₂ _, rfl, rfl, rfl⟩

/-- What a stage shows to its callers and readers, and the loop with its inbound channel. -/
structure Face where
  lifecycle : Lifecycle
  attachment : Attachment
  outlet : Outlet
  forwarded : Nat
  abandoned : Nat
  loop : Loop

def face (w : Attaching) : Face where
  lifecycle := w.exchange.hub.lifecycle
  attachment := w.attachment
  outlet := w.exchange.hub.outlet
  forwarded := w.exchange.hub.forwarded
  abandoned := w.exchange.hub.abandoned
  loop := w.exchange.loop

theorem Alike.face_eq {v : Attaching} (h : Alike i v w) : v.face = w.face := by
  obtain ⟨T, ht, -⟩ := h.stopping
  simp only [face, exchange, attachment, ht]
  rfl

namespace Sane

variable {st : Starter}

/-- The first call to get the lock is at its start, or has succeeded. -/
theorem first (hw : w.Sane) (hst : w.starters[i]? = some st) (hi : w.entered.head? = some i) :
    w.holder = some i ∧ st.call = .inside ∨ st.call = .returned (.ok ()) := by
  have hplaced := hw.ordered.placed i st hst
  have hnone := hplaced.taken.mpr hi
  have hstanding := hw.standing i st hst
  cases hstanding with
  | taken hc =>
    rcases hc with rfl | rfl
    · exact .inl ⟨hplaced.inside.mp rfl, rfl⟩
    · exact .inr rfl
  | whole => cases hnone
  | gone => cases hnone

/-- Every later one is on its way to be refused, or was. -/
theorem later (hw : w.Sane) (hst : w.starters[i]? = some st) (hi : i ∈ w.entered)
    (hne : w.entered.head? ≠ some i) :
    w.holder = some i ∧ st.call = .inside ∨ st.call = .refused ∨
      st.call = .returned (.error .alreadyStarted) := by
  have hplaced := hw.ordered.placed i st hst
  have hstanding := hw.standing i st hst
  cases hstanding with
  | taken => exact absurd (hplaced.taken.mp rfl) hne
  | @whole c call hc =>
    cases call with
    | idle => exact absurd hi (hplaced.idle.mp rfl)
    | inside => exact .inl ⟨hplaced.inside.mp rfl, rfl⟩
    | refused => exact .inr (.inl rfl)
    | returned r => exact absurd rfl (hc r)
  | gone => exact .inr (.inr rfl)

/-- What is in a channel that the stage does not have was not accepted. -/
theorem not_accepted (hw : w.Sane) {c : Channel Transaction} {t : Transaction}
    (hst : w.starters[i]? = some st) (hi : st.inbound = some c) (ht : t ∈ c.queue) :
    t ∉ w.exchange.accepted := by
  obtain ⟨rest, hsenders, -⟩ := senders_perm hst
  refine hw.sound.not_accepted (hsenders.mem_iff.mpr ?_)
  rw [Starter.offered_some hi]
  exact List.mem_append_left _ (List.mem_append_right _ (List.mem_append_left _ ht))

/-- The loop accepted what was queued for the first call, and nothing that was queued for
another. -/
theorem fed (hw : w.Sane) (hst : w.starters[i]? = some st) :
    (w.entered.head? = some i → st.queued <+: w.exchange.accepted) ∧
      (w.entered.head? ≠ some i → ∀ t ∈ st.queued ++ st.late, t ∉ w.exchange.accepted) := by
  have htaken := (hw.ordered.placed i st hst).taken
  have hstanding := hw.standing i st hst
  cases hstanding with
  | taken _ hq => exact ⟨fun _ => hq, fun hne => absurd (htaken.mp rfl) hne⟩
  | whole =>
    refine ⟨fun hi => absurd (htaken.mpr hi) nofun, fun _ t ht => hw.not_accepted hst rfl ?_⟩
    simpa using ht
  | gone _ _ hqueued hlate =>
    refine ⟨fun hi => absurd (htaken.mpr hi) nofun, fun _ t ht => ?_⟩
    rcases List.mem_append.mp ht with ht | ht
    · exact (hqueued t ht).2
    · exact (hlate t ht).elim (hw.not_accepted hst rfl) (·.2)

/-- The channel of a refused call is closed, and what is queued there is let go: at once, or with
the last sender. -/
theorem refused {e : StageError} (hw : w.Sane) (hst : w.starters[i]? = some st)
    (hr : st.call = .returned (.error e)) :
    ∃ c, st.inbound = some c ∧
      (∀ t, c.send t = (.closed, c) ∧ c.trySend t = (.closed, c) ∧ c.reserve = (.closed, c)) ∧
        (∀ t ∈ st.queued, w.exchange.outcome t = some .dropped) ∧
          (∀ t ∈ st.late, t ∈ c.queue ∨ w.exchange.outcome t = some .dropped) ∧
            (c.deserted = true → c.queue = []) := by
  have hstanding := hw.standing i st hst
  cases hstanding with
  | taken hc => rcases hc with rfl | rfl <;> cases hr
  | whole hc => exact absurd hr (hc _)
  | gone hg hd hqueued hlate =>
    exact ⟨_, rfl, hg.closed, fun t ht => (hqueued t ht).1, fun t ht => (hlate t ht).imp id (·.1),
      hd⟩

end Sane

/-- The run state is running only while the first call is at its start, or on an attached stage. -/
theorem starting_or_attached (h : Reached step (start slots) w)
    (hr : w.stopping.lifecycle.state = .running) :
    w.stopping.staging.stage.isAttached = true ∨ ∃ i, w.holder = some i ∧ w.entered = [i] := by
  have ho := (sane_of_reached h).ordered
  have hmarked := marked_of_running h hr
  by_cases h4 : w.attachment.steps = 4
  · refine .inl ?_
    have hatt : w.attachment = .attached := by
      cases ha : w.attachment <;> rw [ha] at h4 <;> first | rfl | cases h4
    show Stage.isAttached ⟨_, w.attachment, _⟩ = true
    rw [hatt]
    rfl
  · have hle := w.attachment.steps_le
    have hbusy := ho.busy (by omega)
    have hne := ho.started (by omega)
    cases hh : w.holder with
    | none => exact absurd (by rw [hbusy, hh]; rfl) hne
    | some i => exact .inr ⟨i, rfl, by rw [hbusy, hh]; rfl⟩

/-- What holds of a run of a stage and of all calls that start it. -/
structure SingleStart (slots : List Nat) (moves : List Move) (w : Attaching) : Prop where
  waiting : ∀ (i : Nat) (st : Starter), w.starters[i]? = some st → i ∉ w.entered → st.call = .idle
  /-- The first call to get the lock is at its start, or has succeeded. -/
  first : ∀ (i : Nat) (st : Starter), w.starters[i]? = some st → w.entered.head? = some i →
    w.holder = some i ∧ st.call = .inside ∨ st.call = .returned (.ok ())
  /-- Every later one is on its way to be refused, or was. -/
  later : ∀ (i : Nat) (st : Starter), w.starters[i]? = some st → i ∈ w.entered →
    w.entered.head? ≠ some i →
      w.holder = some i ∧ st.call = .inside ∨ st.call = .refused ∨
        st.call = .returned (.error .alreadyStarted)
  /-- They all return, the one that has the lock by steps that nobody can keep it from. -/
  returns : ∀ i ∈ w.entered, (¬w.Returned i → (step (.proceed i) w).isSome) ∧
    ∀ (more : List Move) (w' : Attaching), more.foldlM (fun w m => step m w) w = some w' →
      4 ≤ more.countP (·.isOf i) → w'.Returned i
  /-- Without a call that is not the first the run comes to the same stage, and every other call to
  where it is. -/
  unchanged : ∀ i, w.entered.head? ≠ some i →
    ∃ v, (moves.filter fun m => !m.isOf i).foldlM (fun w m => step m w) (start slots) = some v ∧
      v.face = w.face ∧ ∀ (j : Nat) (st : Starter), j ≠ i → w.starters[j]? = some st →
        v.starters[j]? = some st
  /-- One loop is spawned, by the first call. -/
  spawned : w.spawned = if w.attachment.isSpawned then w.entered.head?.toList else []
  /-- From then on the stage has it. -/
  loop : w.stopping.staging.stage.loop =
    if w.attachment.isSpawned then some w.exchange.loop else none
  /-- The loop has only what it accepted, and takes it in that order. -/
  reads : w.exchange.accepted = w.exchange.placed ++ w.exchange.refused ++
    w.exchange.loop.position.hand ++ w.exchange.loop.inbound.queue
  /-- It accepted what was queued for the first call, and nothing that was queued for another. -/
  fed : ∀ (i : Nat) (st : Starter), w.starters[i]? = some st →
    (w.entered.head? = some i → st.queued <+: w.exchange.accepted) ∧
      (w.entered.head? ≠ some i → ∀ t ∈ st.queued ++ st.late, t ∉ w.exchange.accepted)
  /-- The channel of a refused call is closed. What was queued there is let go at once, and what
  comes through slots set aside is let go with the last sender. -/
  refused : ∀ (i : Nat) (st : Starter) (e : StageError), w.starters[i]? = some st →
    st.call = .returned (.error e) →
      ∃ c, st.inbound = some c ∧
        (∀ t, c.send t = (.closed, c) ∧ c.trySend t = (.closed, c) ∧ c.reserve = (.closed, c)) ∧
          (∀ t ∈ st.queued, w.exchange.outcome t = some .dropped) ∧
            (∀ t ∈ st.late, t ∈ c.queue ∨ w.exchange.outcome t = some .dropped) ∧
              (c.deserted = true → c.queue = [])
  running : w.stopping.lifecycle.state = .running →
    w.stopping.staging.stage.isAttached = true ∨ ∃ i, w.holder = some i ∧ w.entered = [i]

/-- Of all the calls that start a stage the first one to get the lock succeeds, and the others are
refused without any effect on the stage. -/
theorem single_start {moves : List Move}
    (h : moves.foldlM (fun w m => step m w) (start slots) = some w) :
    SingleStart slots moves w := by
  have hw := sane_of_reached (Reached.of_moves h)
  exact
    { waiting := fun i st hst => (hw.ordered.placed i st hst).idle.mpr
      first := fun i st => hw.first
      later := fun i st => hw.later
      returns := fun i hi => ⟨exists_proceed hw hi, fun more w' => returned_of_run hw hi⟩
      unchanged := by
        intro i hi
        obtain ⟨v, hv, halike⟩ := (Alike.start i slots).run (sane_start slots) h hi
        exact ⟨v, hv, halike.face_eq, fun j st hji hst => halike.starters.get_ne hji hst⟩
      spawned := by
        rw [hw.ordered.spawned, Attachment.isSpawned_eq]
        simp
      loop := by
        have hhas : w.stopping.staging.hasLoop = w.attachment.isSpawned :=
          hw.whole.staging.hasLoop
        rw [Staging.stage, hhas]
        rfl
      reads := hw.sound.order
      fed := fun i st => hw.fed
      refused := fun i st e => hw.refused
      running := starting_or_attached (Reached.of_moves h) }

/-- A first call starts a stage that is then asked to close, and a second one comes while the loop
drains. -/
def drainingStart : List Move :=
  [.sending 0 (.issue ⟨[]⟩), .sending 0 (.send ⟨0, ⟨[]⟩⟩), .sending 1 (.issue ⟨[]⟩),
    .sending 1 (.send ⟨1, ⟨[]⟩⟩), .enter 0, .proceed 0, .proceed 0, .proceed 0, .proceed 0,
    .other (.claim 0), .other (.publish 0), .other (.other (.other (.loop .channel))),
    .other (.other (.other (.loop .channel))), .other (.other (.other (.loop .channel))),
    .enter 1, .proceed 1, .proceed 1]

/-- A second call is refused while the loop of the first one drains its channel. The transaction
that waited with it is let go, and without the call the stage is the same. -/
theorem single_start_while_draining : ∃ w,
    drainingStart.foldlM (fun w m => step m w) (start [1, 1]) = some w ∧
      w.exchange.loop.position = .draining .closeRequested 0 ∧ w.entered = [0, 1] ∧
        w.starters[1]?.map (·.call) = some (.returned (.error .alreadyStarted)) ∧
          w.exchange.outcome ⟨1, ⟨[]⟩⟩ = some .dropped ∧
            ∃ v, (drainingStart.filter fun m => !m.isOf 1).foldlM (fun w m => step m w)
              (start [1, 1]) = some v ∧ v.face = w.face := by
  obtain ⟨w, hw, hp, he, hc, ho⟩ : ∃ w,
      drainingStart.foldlM (fun w m => step m w) (start [1, 1]) = some w ∧
        w.exchange.loop.position = .draining .closeRequested 0 ∧ w.entered = [0, 1] ∧
          w.starters[1]?.map (·.call) = some (.returned (.error .alreadyStarted)) ∧
            w.exchange.outcome ⟨1, ⟨[]⟩⟩ = some .dropped := ⟨_, rfl, rfl, rfl, rfl, rfl⟩
  obtain ⟨v, hv, hface, -⟩ := (single_start hw).unchanged 1 (by simp [he])
  exact ⟨w, hw, hp, he, hc, ho, v, hv, hface⟩

end Attaching
end Handoff
