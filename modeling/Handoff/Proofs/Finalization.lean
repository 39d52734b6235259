import Handoff.Proofs.Stopping

/-!
# The order in which a loop closes

A loop that stops forwarding settles the run state, gives up its outbound sender and confirms the
close. `Finalization` writes down these three acts beside an exchange as the loop does them, for a
loop that owns the only outbound sender and alone settles and confirms. Whatever made the loop leave
and whoever moves between its steps, the list is a beginning of these three, and each act is seen by
others as what it is: a run state that stays stopped, a channel without a sender, a confirmed close.

The hub that the loop is wired to may be any other than that, and have any number of outbound slots.
-/
namespace Handoff

/-- An act of a loop that ends. -/
inductive Finishing
  /-- sets the run state to stopped -/
  | settle
  /-- gives up the outbound sender -/
  | release
  /-- confirms the close -/
  | confirm
deriving DecidableEq, Repr

namespace Position

/-- What a loop has done to end, when it is here. -/
def done : Position → List Finishing
  | .releasing .. => [.settle]
  | .confirming .. => [.settle, .release]
  | .reporting .. | .late _ | .countingLate .. | .answeringLate .. | .finished =>
    [.settle, .release, .confirm]
  | _ => []

theorem done_grows (p : Position) : p.done <+: [.settle, .release, .confirm] := by
  cases p <;> simp [done]

theorem done_of_confirmed {p : Position} (h : p.confirmed = true) :
    p.done = [.settle, .release, .confirm] := by
  cases p <;> first | rfl | cases h

theorem done_of_not_sends {p : Position} (h : p.sends = false) : p.done ≠ [] := by
  cases p <;> first | exact List.cons_ne_nil _ _ | cases h

theorem sends_of_confirmed {p : Position} (h : p.confirmed = true) : p.sends = false := by
  cases p <;> first | rfl | cases h

theorem accepts_of_not_sends {p : Position} (h : p.sends = false) : p.accepts = false := by
  cases p <;> first | rfl | cases h

end Position

namespace Loop

/-- What the next step does to end the loop. -/
def finishes (l : Loop) : List Finishing :=
  match l.position with
  | .settling .. => [.settle]
  | .releasing .. => [.release]
  | .confirming .. => [.confirm]
  | _ => []

variable {l l' : Loop} {h h' : Hub}

theorem places_of_not_sends (hp : l.position.sends = false) : l.places = [] := by
  unfold places
  split
  · rename_i hq
    rw [hq] at hp
    cases hp
  · rfl

/-- What a step does to the end of the loop: one of the acts, or nothing that concerns them. -/
inductive Ends (l : Loop) (h : Hub) (l' : Loop) (h' : Hub) : Prop
  | still : l.finishes = [] → l'.position.done = l.position.done →
      l'.position.sends = l.position.sends → h'.lifecycle = h.lifecycle →
      h'.outlet.channel.senders = h.outlet.channel.senders → Ends l h l' h'
  | settle {e n} : l.position = .settling e n → l' = l.goto (.releasing e n) →
      h' = { h with lifecycle := h.lifecycle.settle } → Ends l h l' h'
  | release {e n} : l.position = .releasing e n → l' = l.goto (.confirming e n) →
      h' = h.dropOutboundSender → Ends l h l' h'
  | confirm {e n} : l.position = .confirming e n → l' = l.goto (.reporting e n) →
      h' = { h with lifecycle := h.lifecycle.confirm.2 } → Ends l h l' h'

theorem Step.ends (hs : Step l h l' h') : Ends l h l' h' := by
  cases hs with
  | settle hp => exact .settle hp rfl rfl
  | release hp => exact .release hp rfl rfl
  | confirm hp => exact .confirm hp rfl rfl
  | @finish n hp =>
    refine .still (by rw [finishes, hp]) (by rw [hp]; rfl) (by rw [hp]; rfl) ?_ ?_
    · show Hub.lifecycle (if 0 < n then _ else _) = _
      split <;> rfl
    · show (Hub.outlet (if 0 < n then _ else _)).channel.senders = _
      split <;> rfl
  | begin hp | seeClose hp | seeNone hp | stop hp | pick hp | exhaust hp | giveUp hp | reserve hp
  | findGone hp | place hp | count hp | stopAwaiting hp | seeTaken hp | loseReaders hp | abandon hp
  | countAbandoned hp | closeInbound hp | drain hp | endDrain hp | countDrained hp | report hp
  | takeLate hp | countLate hp | answerLate hp =>
    exact .still (by rw [finishes, hp]) (by rw [hp]; rfl) (by rw [hp]; rfl) rfl rfl

end Loop

namespace Exchange

variable {w w' : Exchange} {m : Move}

/-- The run state does not leave stopped. -/
theorem Step.stopped (hs : Step w m w') (hstopped : w.hub.lifecycle.state = .stopped) :
    w'.hub.lifecycle.state = .stopped := by
  cases hm : m.isStop with
  | false => exact (hs.keeps_lifecycle hm).stopped hstopped
  | true =>
    cases hs with
    | claimStop =>
      rcases w.hub.lifecycle.claimStop_cases with ⟨-, hc⟩ | ⟨-, hc⟩
      · rw [hc]
        exact hstopped
      · rw [hc]
    | publish => exact hstopped
    | _ => cases hm

/-- While the loop places nothing, what stands in the outbound channel can only be taken or lost. -/
theorem Step.slot_suffix (hs : Step w m w') (hp : w.loop.places = []) : w'.slot <:+ w.slot := by
  have hsweep : w.hub.outlet.channel.leave.sweep.queue <:+ w.slot := by
    rcases Channel.queue_sweep w.hub.outlet.channel.leave with hq | hq
    · exact hq ▸ List.nil_suffix
    · exact hq ▸ List.suffix_refl _
  cases hs with
  | @loop b l h hl =>
    cases hl with
    | place hq => rw [Loop.places, hq] at hp; cases hp
    | release => exact hsweep
    | @finish n =>
      show (Hub.outlet (if 0 < n then _ else _)).channel.queue <:+ _
      split <;> exact List.suffix_refl _
    | begin | seeClose | seeNone | stop | pick | exhaust | giveUp | reserve | findGone | count
    | stopAwaiting | seeTaken | loseReaders | abandon | countAbandoned | closeInbound | drain
    | endDrain | countDrained | settle | confirm | report | takeLate | countLate | answerLate =>
      exact List.suffix_refl _
  | take _ hq => exact hq ▸ List.suffix_cons ..
  | dropSpare => exact hsweep
  | dropHandle =>
    show w.hub.outlet.dropHandle.2.2.channel.queue <:+ w.slot
    by_cases hl : w.hub.outlet.handles ≤ 1
    · rw [Outlet.dropHandle_last hl]
      exact List.nil_suffix
    · rw [Outlet.dropHandle_more (by omega)]
      exact List.suffix_refl _
  | sending | shut | answer | addHandle | cloneSpare | markRunning | claimStop | publish | note =>
    exact List.suffix_refl _

/-- Another outbound sender comes. -/
def Move.isClone : Move → Bool
  | .cloneSpare => true
  | _ => false

/-- Others come and go without the outbound sender of the loop, which is the only one. -/
theorem Step.senders_eq (hs : Step w m w') (hl : m.isLoop = false) (hc : m.isClone = false)
    (hspare : w.spare = 0) :
    w'.spare = 0 ∧ w'.hub.outlet.channel.senders = w.hub.outlet.channel.senders := by
  cases hs with
  | loop => cases hl
  | cloneSpare => cases hc
  | dropSpare hn => exact absurd hn (by omega)
  | dropHandle =>
    refine ⟨hspare, ?_⟩
    show w.hub.outlet.dropHandle.2.2.channel.senders = _
    by_cases hlast : w.hub.outlet.handles ≤ 1
    · rw [Outlet.dropHandle_last hlast]
      rfl
    · rw [Outlet.dropHandle_more (by omega)]
  | sending | shut | take | answer | addHandle | markRunning | claimStop | publish | note =>
    exact ⟨hspare, rfl⟩

end Exchange

/-- An exchange with what its loop has done to end, in the order of doing. -/
structure Finalization where
  exchange : Exchange
  done : List Finishing

namespace Finalization

open Exchange (Move)

/-- One move. Nobody else gets an outbound sender. -/
def step (m : Move) (s : Finalization) : Option Finalization :=
  if m.isClone then none
  else (s.exchange.step m).map fun w =>
    { exchange := w, done := s.done ++ if m.isLoop then s.exchange.loop.finishes else [] }

/-- A loop that has not run, wired to any hub. -/
def start (label : String) (slots : Nat) (hub : Hub) : Finalization :=
  { exchange := .wire label slots hub, done := [] }

def state (s : Finalization) : RunState := s.exchange.hub.lifecycle.state

/-- The close is confirmed. -/
def closed (s : Finalization) : Bool := s.exchange.hub.lifecycle.closed

/-- Senders of the outbound channel. -/
def senders (s : Finalization) : Nat := s.exchange.hub.outlet.channel.senders

def run (moves : List Move) (s : Finalization) : Option Finalization :=
  moves.foldlM (fun s m => step m s) s

/-- What a move does to end the loop, as others see it. -/
inductive Effect (s s' : Finalization) : Prop
  | other : s'.done = s.done → s'.senders = s.senders → s'.closed = s.closed → Effect s s'
  | settle : s'.done = s.done ++ [.settle] → s'.state = .stopped → s'.senders = s.senders →
      s'.closed = s.closed → Effect s s'
  | release : s'.done = s.done ++ [.release] → s.senders = 1 → s'.senders = 0 →
      s'.closed = s.closed → Effect s s'
  | confirm : s'.done = s.done ++ [.confirm] → s.closed = false → s'.closed = true →
      s'.senders = s.senders → Effect s s'

variable {s s' : Finalization} {m : Move} {label : String} {slots : Nat} {hub : Hub}

theorem step_cases (hs : step m s = some s') : m.isClone = false ∧
    Exchange.step m s.exchange = some s'.exchange ∧
      s'.done = s.done ++ if m.isLoop then s.exchange.loop.finishes else [] := by
  simp only [step, Option.ite_none_left_eq_some, Option.map_eq_some_iff] at hs
  obtain ⟨hc, w, hw, rfl⟩ := hs
  exact ⟨Bool.eq_false_iff.mpr hc, hw, rfl⟩

/-- What ties the acts that are written down to the loop and to its hub. -/
structure Tied (s : Finalization) : Prop where
  done : s.done = s.exchange.loop.position.done
  spare : s.exchange.spare = 0
  senders : s.senders = s.exchange.loop.position.sends.toNat
  stopped : s.done ≠ [] → s.state = .stopped
  closed : s.closed = s.exchange.loop.position.confirmed

namespace Tied

theorem start (hsole : hub.outlet.channel.senders = 1) (hopen : hub.lifecycle.closed = false) :
    (Finalization.start label slots hub).Tied where
  done := rfl
  spare := by simp [Finalization.start, Exchange.wire, hsole]
  senders := hsole
  stopped := absurd rfl
  closed := hopen

theorem loop {l : Loop} {h : Hub} (hw : s.Tied)
    (hl : s.exchange.loop.Step s.exchange.hub l h) :
    Tied ⟨s.exchange.afterLoop l h, s.done ++ s.exchange.loop.finishes⟩ ∧
      s.Effect ⟨s.exchange.afterLoop l h, s.done ++ s.exchange.loop.finishes⟩ := by
  have hclosed : h.lifecycle.closed = l.position.confirmed := hl.closed_eq hw.closed
  have hdone := hw.done
  have hsenders := hw.senders
  cases hl.ends with
  | still hf hd hsends hlifecycle hchannel =>
    rw [hf, List.append_nil]
    refine ⟨⟨hdone.trans hd.symm, hw.spare, ?_, ?_, hclosed⟩, .other rfl hchannel ?_⟩
    · show h.outlet.channel.senders = l.position.sends.toNat
      rw [hchannel, hsends]
      exact hsenders
    · show _ → h.lifecycle.state = .stopped
      rw [hlifecycle]
      exact hw.stopped
    · show h.lifecycle.closed = _
      rw [hlifecycle]
      rfl
  | settle hp hl' hh =>
    subst hl' hh
    rw [hp] at hdone hsenders
    have hf : s.exchange.loop.finishes = [.settle] := by rw [Loop.finishes, hp]
    rw [hf]
    exact ⟨⟨by rw [hdone]; rfl, hw.spare, hsenders, fun _ => rfl, hclosed⟩, .settle rfl rfl rfl rfl⟩
  | release hp hl' hh =>
    subst hl' hh
    rw [hp] at hdone hsenders
    have hf : s.exchange.loop.finishes = [.release] := by rw [Loop.finishes, hp]
    have hgone : (s.exchange.hub.dropOutboundSender).outlet.channel.senders = 0 := by
      refine (Channel.senders_sweep _).trans ?_
      show s.senders - 1 = 0
      rw [hsenders]
      rfl
    rw [hf]
    exact ⟨⟨by rw [hdone]; rfl, hw.spare, hgone,
      fun _ => hw.stopped (by rw [hdone]; exact List.cons_ne_nil _ _), hclosed⟩,
      .release rfl hsenders hgone rfl⟩
  | confirm hp hl' hh =>
    subst hl' hh
    have hopen := hw.closed
    rw [hp] at hdone hsenders hopen
    have hf : s.exchange.loop.finishes = [.confirm] := by rw [Loop.finishes, hp]
    rw [hf]
    exact ⟨⟨by rw [hdone]; rfl, hw.spare, hsenders,
      fun _ => hw.stopped (by rw [hdone]; exact List.cons_ne_nil _ _), hclosed⟩,
      .confirm rfl hopen rfl rfl⟩

/-- A step keeps the tie, and is one of the acts or does nothing about them. -/
theorem step (hw : s.Tied) (hs : Finalization.step m s = some s') : s'.Tied ∧ s.Effect s' := by
  obtain ⟨w', done'⟩ := s'
  obtain ⟨hclone, hstep, hdone⟩ := step_cases hs
  obtain rfl : done' = _ := hdone
  have hmove : s.exchange.Step m w' := Exchange.step_cases hstep
  cases hm : m.isLoop with
  | true =>
    cases hmove with
    | loop hl => exact hw.loop hl
    | _ => cases hm
  | false =>
    simp only [Bool.false_eq_true, if_false, List.append_nil]
    obtain ⟨hspare, hsenders⟩ := hmove.senders_eq hm hclone hw.spare
    obtain ⟨hp, hclosed⟩ : w'.loop.position = s.exchange.loop.position ∧
        w'.hub.lifecycle.closed = s.exchange.hub.lifecycle.closed := by
      refine hmove.position_cases.resolve_left ?_
      rintro ⟨b, rfl⟩
      cases hm
    refine ⟨⟨?_, hspare, ?_, fun hne => hmove.stopped (hw.stopped hne), ?_⟩,
      .other rfl hsenders hclosed⟩
    · exact hw.done.trans (congrArg Position.done hp.symm)
    · exact hsenders.trans (hw.senders.trans (by rw [hp]))
    · exact hclosed.trans (hw.closed.trans (by rw [hp]))

theorem later (hw : s.Tied) (hl : Reached Finalization.step s s') : s'.Tied :=
  hl.invariant hw fun _ _ _ hw hs => (hw.step hs).1

theorem sends_eq_false (hw : s.Tied) (h0 : s.senders = 0) :
    s.exchange.loop.position.sends = false := by
  have hsenders := hw.senders
  cases hp : s.exchange.loop.position.sends with
  | false => rfl
  | true =>
    rw [hp, h0] at hsenders
    cases hsenders

end Tied

/-- Moves here are moves of the exchange. -/
theorem reached_exchange (h : Reached step s s') :
    Reached Exchange.step s.exchange s'.exchange :=
  h.project exchange fun m _ _ hs => .single m (step_cases hs).2.1

theorem run_exchange {moves : List Move} (hr : run moves s = some s') :
    Exchange.run moves s.exchange = some s'.exchange := by
  induction moves generalizing s with
  | nil =>
    cases hr
    rfl
  | cons m moves ih =>
    simp only [run, List.foldlM_cons, Option.bind_eq_bind, Option.bind_eq_some_iff] at hr
    obtain ⟨s₁, hs, hr⟩ := hr
    simp only [Exchange.run, List.foldlM_cons, Option.bind_eq_bind, (step_cases hs).2.1]
    exact ih hr

theorem stopped_later (hstopped : s.state = .stopped) (hl : Reached step s s') :
    s'.state = .stopped :=
  hl.invariant (P := fun v => v.state = .stopped) hstopped
    fun _ _ _ hv hs => (Exchange.step_cases (step_cases hs).2.1).stopped hv

/-- A loop without its outbound sender places nothing. -/
theorem placed_later (hw : s.Tied) (h0 : s.senders = 0) (hl : Reached step s s') :
    s'.exchange.placed = s.exchange.placed ∧ s'.exchange.slot <:+ s.exchange.slot := by
  refine (Reached.invariant (P := fun v => v.Tied ∧ v.senders = 0 ∧
    v.exchange.placed = s.exchange.placed ∧ v.exchange.slot <:+ s.exchange.slot) hl
      ⟨hw, h0, rfl, List.suffix_refl _⟩ ?_).2.2
  rintro m v v' ⟨hv, hv0, hplaced, hslot⟩ hs
  have hmove := Exchange.step_cases (step_cases hs).2.1
  have hnone := Loop.places_of_not_sends (hv.sends_eq_false hv0)
  obtain ⟨hv', heffect⟩ := hv.step hs
  refine ⟨hv', ?_, ?_, (hmove.slot_suffix hnone).trans hslot⟩
  · cases heffect with
    | release _ _ hgone => exact hgone
    | other _ hsame | settle _ _ hsame | confirm _ _ _ hsame => exact hsame.trans hv0
  · rcases hmove.placed_cases with ⟨l, h, -, he⟩ | ⟨hsame, -⟩
    · rw [he]
      simp only [Exchange.afterLoop, hnone, List.append_nil]
      exact hplaced
    · exact hsame.trans hplaced

/-- How a loop ends. -/
structure Ordered (slots : Nat) (s : Finalization) : Prop where
  /-- A close is confirmed without the outbound sender. -/
  confirmed : s.closed = true → s.senders = 0
  /-- The outbound sender goes when the run state is stopped and inbound refuses all that is new,
  and nothing is placed after that. -/
  released : s.senders = 0 → s.state = .stopped ∧
    (∀ t, s.exchange.loop.inbound.send t = (.closed, s.exchange.loop.inbound) ∧
      s.exchange.loop.inbound.trySend t = (.closed, s.exchange.loop.inbound)) ∧
    s.exchange.loop.inbound.reserve = (.closed, s.exchange.loop.inbound) ∧
    s.exchange.loop.inbound.line = [] ∧
    ∀ s', Reached step s s' →
      s'.exchange.placed = s.exchange.placed ∧ s'.exchange.slot <:+ s.exchange.slot
  stopped : s.state = .stopped → ∀ s', Reached step s s' → s'.state = .stopped
  order : s.done <+: [.settle, .release, .confirm]
  /-- What is written down is what happens. -/
  effect : ∀ m s', step m s = some s' → s.Effect s'
  all : s.closed = true → s.done = [.settle, .release, .confirm]
  finished : s.exchange.loop.position = .finished → s.closed = true
  /-- A loop that has left, for whatever exit, gets through all three. -/
  ends : s.exchange.loop.position.stays = false → ∀ moves s', run moves s = some s' →
    (s'.closed = false → ∃ b, (step (.loop b) s').isSome) ∧
    (12 + slots ≤ moves.countP Move.isLoop → s'.done = [.settle, .release, .confirm])

/-- A loop that owns the only outbound sender and gives the only confirmation settles the run state,
gives up its sender and confirms the close, each once and in this order, whatever made it leave and
whatever callers, senders and readers do between these steps. -/
theorem ends_in_order (hsole : hub.outlet.channel.senders = 1)
    (hopen : hub.lifecycle.closed = false) (h : Reached step (start label slots hub) s) :
    s.Ordered slots := by
  have hw : s.Tied := (Tied.start hsole hopen).later h
  have hattentive : s.exchange.Attentive slots := Exchange.attentive_of_reached (reached_exchange h)
  have hinflow := hattentive.inflow
  refine ⟨fun hc => ?_, fun h0 => ?_, fun hstopped s' => stopped_later hstopped, ?_,
    fun m s' hs => (hw.step hs).2, fun hc => ?_, fun hp => ?_, fun hstays moves s' hr => ?_⟩
  · rw [hw.closed] at hc
    rw [hw.senders, Position.sends_of_confirmed hc]
    rfl
  · have hsends := hw.sends_eq_false h0
    have hdone : s.done ≠ [] := by
      rw [hw.done]
      exact Position.done_of_not_sends hsends
    have hshut : s.exchange.loop.inbound.accepting = false :=
      hinflow.closed (Position.accepts_of_not_sends hsends)
    refine ⟨hw.stopped hdone, fun t => ⟨?_, ?_⟩, ?_, hinflow.guarded.closed hshut,
      fun s' => placed_later hw h0⟩
    · simp [Channel.send, hshut]
    · simp [Channel.trySend, hshut]
    · simp [Channel.reserve, hshut]
  · rw [hw.done]
    exact Position.done_grows _
  · rw [hw.closed] at hc
    rw [hw.done, Position.done_of_confirmed hc]
  · rw [hw.closed, hp]
    rfl
  · have hlater : s'.Tied := hw.later (Reached.of_moves hr)
    obtain ⟨-, hclosing, hbound⟩ := Exchange.closing_run hattentive (.inr hstays) (run_exchange hr)
    refine ⟨fun hc => ?_, fun hcount => ?_⟩
    · rw [hlater.closed] at hc
      obtain ⟨b, hb⟩ := Exchange.exists_loop_step hclosing hc
      refine ⟨b, ?_⟩
      simpa [step, Exchange.Move.isClone] using hb
    · rw [hlater.done, Position.done_of_confirmed (hbound hcount)]

/-- The last reader goes while the loop holds a transaction, and a close is requested while the loop
is on its way out for that. -/
theorem ends_in_order_when_stopped_late : ∃ s,
    Reached step (start "none" 1 { outlet := { channel := { capacity := 3 } } }) s ∧
      s.exchange.loop.position.exit? = some .outboundGone ∧
      s.exchange.hub.lifecycle.closeRequested = true ∧ s.closed = true ∧
      s.done = [.settle, .release, .confirm] ∧ s.Ordered 1 := by
  obtain ⟨s, hs, hexit, hrequested, hclosed⟩ : ∃ s, [Move.sending (.issue ⟨[]⟩),
      .sending (.send ⟨0, ⟨[]⟩⟩), .loop .channel, .loop .channel, .loop .channel, .dropHandle,
      .loop .channel, .loop .channel, .loop .channel, .loop .channel, .claimStop, .loop .channel,
      .loop .channel, .loop .channel, .publish, .loop .channel, .loop .channel].foldlM
        (fun s m => step m s) (start "none" 1 { outlet := { channel := { capacity := 3 } } }) =
          some s ∧ s.exchange.loop.position.exit? = some .outboundGone ∧
            s.exchange.hub.lifecycle.closeRequested = true ∧ s.closed = true :=
    ⟨_, rfl, rfl, rfl, rfl⟩
  have hreached := Reached.of_moves hs
  have hordered := ends_in_order rfl rfl hreached
  exact ⟨s, hreached, hexit, hrequested, hclosed, hordered.all hclosed, hordered⟩

end Finalization
end Handoff
