import Handoff.Proofs.Stopping

/-!
# Waits for the close confirmation

Any number of callers wait for a stage to confirm its close, each up to a limit of its own. A wait
begins at any moment, before the stage is started, while it runs or when it has long closed. It
looks at the confirmation and at its deadline whenever it is woken, and how time passes is left
open: the deadline of a wait is reached at some moment after it began, or never. In between are the
start of the stage, callers that stop it, senders, readers and the loop.

A wait reads the confirmation and writes nothing. So whatever holds of a stage and its other waits
holds as if it had never been made.
-/
namespace Handoff

/-- A wait that is over has found the confirmation, or only its deadline. -/
theorem Lifecycle.await_cases {l : Lifecycle} {limit : Duration} {due : Bool}
    {result : Except StageError Unit} (h : l.await limit due = some result) :
    l.closed = true ∧ result = .ok () ∨
      l.closed = false ∧ due = true ∧ result = .error (.timedOut limit) := by
  unfold Lifecycle.await at h
  cases hc : l.closed <;> cases hd : due <;> simp_all

/-- A wait that has begun. -/
structure WaitCall where
  limit : Duration
  /-- Its deadline is reached. -/
  due : Bool := false
  result : Option (Except StageError Unit) := none

namespace WaitCall

/-- What a wait can do. -/
inductive Act
  | begin (limit : Duration)
  /-- its deadline is reached -/
  | expire
  /-- it is woken and looks -/
  | look
deriving Repr

/-- What becomes of a wait, if it can do this now. -/
def act (a : Act) (l : Lifecycle) (c : Option WaitCall) : Option WaitCall :=
  match a, c with
  | .begin limit, none => some { limit }
  | .expire, some c => if c.result.isNone then some { c with due := true } else none
  | .look, some c =>
    if c.result.isNone then
      (l.await c.limit c.due).map fun result => { c with result := some result }
    else none
  | _, _ => none

/-- What the result of a wait says. -/
structure Holds (l : Lifecycle) (c : WaitCall) : Prop where
  confirmed : c.result = some (.ok ()) → l.closed = true
  /-- It fails with its own limit, and for its own deadline. -/
  expired : ∀ e, c.result = some (.error e) → e = .timedOut c.limit ∧ c.due = true

/-- A wait that is not over says nothing. -/
theorem Holds.of_pending {l : Lifecycle} {c : WaitCall} (hr : c.result = none) : c.Holds l := by
  constructor
  · intro h
    rw [hr] at h
    cases h
  · intro e h
    rw [hr] at h
    cases h

/-- How a wait goes on. What is over does not change. -/
structure Later (c c' : WaitCall) : Prop where
  limit : c'.limit = c.limit
  due : c.due = true → c'.due = true
  settled : c.result ≠ none → c' = c

namespace Later

variable {c c' c'' : WaitCall}

theorem refl (c : WaitCall) : c.Later c := ⟨rfl, id, fun _ => rfl⟩

/-- A wait that is not over may come to anything. -/
theorem of_pending {due : Bool} {result : Option (Except StageError Unit)} (hr : c.result = none)
    (hd : c.due = true → due = true) : c.Later { limit := c.limit, due, result } :=
  ⟨rfl, hd, fun h => absurd hr h⟩

theorem trans (h : c.Later c') (h' : c'.Later c'') : c.Later c'' where
  limit := h'.limit.trans h.limit
  due hd := h'.due (h.due hd)
  settled hr := by
    have he := h.settled hr
    subst he
    exact h'.settled hr

end Later

end WaitCall

/-- A stage and everyone around, with the waits for its close told apart. -/
structure Waiting where
  stopping : Stopping
  waits : Nat → Option WaitCall

namespace Waiting

inductive Move
  | wait (i : Nat) (a : WaitCall.Act)
  /-- anything else that can happen -/
  | other (m : Stopping.Move)
deriving Repr

/-- A stage to be started with an inbound channel of so many slots. Nobody waits for it. -/
def start (slots : Nat) : Waiting := { stopping := .start slots, waits := fun _ => none }

def lifecycle (w : Waiting) : Lifecycle := w.stopping.lifecycle

/-- The wait of this caller has come to this. -/
def put (w : Waiting) (i : Nat) (c : WaitCall) : Waiting :=
  { w with waits := fun j => if j = i then some c else w.waits j }

/-- One move, if its party can make it. -/
def step (m : Move) (w : Waiting) : Option Waiting :=
  match m with
  | .wait i a => (WaitCall.act a w.lifecycle (w.waits i)).map (w.put i)
  | .other m => (w.stopping.step m).map fun stopping => { w with stopping }

/-- The moves that can be made, each with its condition and all that it changes. -/
inductive Step (w : Waiting) : Move → Waiting → Prop
  | begin {i limit} : w.waits i = none → Step w (.wait i (.begin limit)) (w.put i { limit })
  | expire {i c} : w.waits i = some c → c.result = none →
      Step w (.wait i .expire) (w.put i { c with due := true })
  | confirm {i c} : w.waits i = some c → c.result = none → w.lifecycle.closed = true →
      Step w (.wait i .look) (w.put i { c with result := some (.ok ()) })
  | fail {i c} : w.waits i = some c → c.result = none → w.lifecycle.closed = false →
      c.due = true →
      Step w (.wait i .look) (w.put i { c with result := some (.error (.timedOut c.limit)) })
  | other {m s} : w.stopping.step m = some s → Step w (.other m) { w with stopping := s }

variable {w w' : Waiting} {m : Move} {i j : Nat} {c : WaitCall} {slots : Nat}

theorem step_cases (hs : step m w = some w') : Step w m w' := by
  cases m with
  | other m =>
    simp only [step, Option.map_eq_some_iff] at hs
    obtain ⟨s, hs, rfl⟩ := hs
    exact .other hs
  | wait i a =>
    simp only [step, Option.map_eq_some_iff] at hs
    obtain ⟨c', hs, rfl⟩ := hs
    unfold WaitCall.act at hs
    split at hs
    · rename_i hw
      cases hs
      exact .begin hw
    · rename_i c hw
      simp only [Option.ite_none_right_eq_some, Option.isNone_iff_eq_none, Option.some.injEq] at hs
      obtain ⟨hr, rfl⟩ := hs
      exact .expire hw hr
    · rename_i c hw
      simp only [Option.ite_none_right_eq_some, Option.isNone_iff_eq_none,
        Option.map_eq_some_iff] at hs
      obtain ⟨hr, result, ha, rfl⟩ := hs
      rcases Lifecycle.await_cases ha with ⟨hc, rfl⟩ | ⟨hc, hd, rfl⟩
      · exact .confirm hw hr hc
      · exact .fail hw hr hc hd
    · cases hs

theorem waits_put_self (w : Waiting) (i : Nat) (c : WaitCall) : (w.put i c).waits i = some c :=
  if_pos rfl

theorem waits_put_ne (hj : j ≠ i) : (w.put i c).waits j = w.waits j := if_neg hj

theorem waits_put_cases {d : WaitCall} (hd : (w.put i c).waits j = some d) :
    j = i ∧ d = c ∨ j ≠ i ∧ w.waits j = some d := by
  by_cases hj : j = i
  · subst hj
    rw [waits_put_self, Option.some.injEq] at hd
    exact .inl ⟨rfl, hd.symm⟩
  · rw [waits_put_ne hj] at hd
    exact .inr ⟨hj, hd⟩

/-- A move leaves the stage alone, or the waits. -/
theorem Step.stopping_cases (hs : Step w m w') : w'.stopping = w.stopping ∨
    w'.waits = w.waits ∧ ∃ m', w.stopping.step m' = some w'.stopping := by
  cases hs with
  | begin | expire | confirm | fail => exact .inl rfl
  | other hs => exact .inr ⟨rfl, _, hs⟩

theorem reached_stopping (h : Reached step w w') :
    Reached Stopping.step w.stopping w'.stopping := by
  refine h.project stopping fun m v v' hs => ?_
  rcases (step_cases hs).stopping_cases with he | ⟨-, m', hm⟩
  · rw [he]
    exact .start
  · exact .single m' hm

/-- A confirmation that is given stays given. -/
theorem closed_later (hw : w.stopping.Sane) (hc : w.lifecycle.closed = true)
    (hl : Reached step w w') : w'.lifecycle.closed = true :=
  have hstaging := Stopping.reached_staging (reached_stopping hl)
  Exchange.closed_later hc (hw.staging.later hstaging).2

/-- Every wait says what is so. -/
def Truthful (w : Waiting) : Prop := ∀ i c, w.waits i = some c → c.Holds w.lifecycle

theorem Truthful.put (ht : w.Truthful) (hc : c.Holds w.lifecycle) : (w.put i c).Truthful := by
  intro j d hd
  rcases waits_put_cases hd with ⟨-, rfl⟩ | ⟨-, hd⟩
  · exact hc
  · exact ht j d hd

theorem Truthful.step (hw : w.stopping.Sane) (ht : w.Truthful) (hs : Waiting.step m w = some w') :
    w'.Truthful := by
  have hlater := Reached.single m hs
  cases step_cases hs with
  | begin => exact ht.put (.of_pending rfl)
  | expire _ hr => exact ht.put (.of_pending hr)
  | confirm _ _ hc => exact ht.put ⟨fun _ => hc, by simp⟩
  | fail _ _ _ hd =>
    refine ht.put ⟨by simp, fun e h => ?_⟩
    cases h
    exact ⟨rfl, hd⟩
  | other =>
    intro i c hc
    have hholds := ht i c hc
    exact ⟨fun hr => closed_later hw (hholds.confirmed hr) hlater, hholds.expired⟩

theorem put_later {d : WaitCall} (hc : w.waits i = some c) (hd : c.Later d) (j : Nat) (e : WaitCall)
    (he : w.waits j = some e) : ∃ e', (w.put i d).waits j = some e' ∧ e.Later e' := by
  by_cases hj : j = i
  · subst hj
    rw [hc] at he
    cases he
    exact ⟨d, waits_put_self .., hd⟩
  · exact ⟨e, (waits_put_ne hj).trans he, .refl e⟩

/-- A move begins a wait, or takes one on that is not over. -/
theorem Step.later (hs : Step w m w') (hc : w.waits i = some c) :
    ∃ c', w'.waits i = some c' ∧ c.Later c' := by
  cases hs with
  | @begin j limit hnone =>
    refine ⟨c, (waits_put_ne ?_).trans hc, .refl c⟩
    rintro rfl
    rw [hnone] at hc
    cases hc
  | expire hw hr =>
    refine put_later hw ?_ i c hc
    exact .of_pending hr fun _ => rfl
  | confirm hw hr | fail hw hr =>
    refine put_later hw ?_ i c hc
    exact .of_pending hr id
  | other => exact ⟨c, hc, .refl c⟩

theorem later_of_reached (hl : Reached step w w') (hc : w.waits i = some c) :
    ∃ c', w'.waits i = some c' ∧ c.Later c' := by
  refine hl.invariant (P := fun v => ∃ c', v.waits i = some c' ∧ c.Later c') ⟨c, hc, .refl c⟩ ?_
  rintro m v v' ⟨c', hv, hlater⟩ hs
  obtain ⟨c'', hv', hlater'⟩ := (step_cases hs).later hv
  exact ⟨c'', hv', hlater.trans hlater'⟩

/-- A wait that is looked at comes to what the lifecycle says. -/
theorem step_look (hc : w.waits i = some c) (hr : c.result = none) :
    step (.wait i .look) w =
      (w.lifecycle.await c.limit c.due).map fun r => w.put i { c with result := some r } := by
  simp only [step, hc, WaitCall.act, hr, Option.isNone_none, if_true, Option.map_map]
  rfl

/-- The wait of this caller has not failed. -/
def Unfailed (w : Waiting) (i : Nat) : Prop :=
  ∀ c, w.waits i = some c → ∀ e, c.result ≠ some (.error e)

theorem Unfailed.put (hu : w.Unfailed i) (hc : ∀ e, c.result ≠ some (.error e)) :
    (w.put j c).Unfailed i := by
  intro d hd
  rcases waits_put_cases hd with ⟨-, rfl⟩ | ⟨-, hd⟩
  · exact hc
  · exact hu d hd

/-- Under a confirmation no wait fails. -/
theorem Unfailed.step (hc : w.lifecycle.closed = true) (hu : w.Unfailed i) (hs : Step w m w') :
    w'.Unfailed i := by
  cases hs with
  | begin | confirm => exact hu.put fun e => by simp
  | expire _ hr =>
    refine hu.put fun e => ?_
    rw [hr]
    simp
  | fail _ _ hn =>
    rw [hc] at hn
    cases hn
  | other => exact hu

/-- The confirmation is given before this wait is over: whatever its limit and its deadline, it
returns in order, as soon as it looks. -/
theorem confirmed_of_closed (hw : w.stopping.Sane) (hc : w.lifecycle.closed = true)
    (hu : w.Unfailed i) (hl : Reached step w w') (hi : w'.waits i = some c) :
    c.result = some (.ok ()) ∨ c.result = none ∧ ∃ v, step (.wait i .look) w' = some v ∧
      v.waits i = some { c with result := some (.ok ()) } := by
  have hc' := closed_later hw hc hl
  have hu' : w'.Unfailed i := by
    refine (hl.invariant (P := fun v => Reached step w v ∧ v.Unfailed i) ⟨.start, hu⟩ ?_).2
    rintro m v v' ⟨hv, hu⟩ hs
    exact ⟨.move m hv hs, hu.step (closed_later hw hc hv) (step_cases hs)⟩
  cases hr : c.result with
  | none =>
    refine .inr ⟨rfl, ?_⟩
    rw [step_look hi hr, Lifecycle.await, if_pos hc']
    exact ⟨_, rfl, waits_put_self ..⟩
  | some result =>
    cases result with
    | ok => exact .inl rfl
    | error e => exact absurd hr (hu' c hi e)

section Frame

variable {who : Nat → Bool} {v : Waiting}

/-- The moves of the waits of some callers. -/
def Move.isWaitOf (who : Nat → Bool) : Move → Bool
  | .wait i _ => who i
  | .other _ => false

/-- What a list of moves leads to, if all of them can be made. -/
def run (moves : List Move) (w : Waiting) : Option Waiting :=
  moves.foldlM (fun w m => step m w) w

/-- Two states that differ only in the waits of these callers. -/
structure Apart (who : Nat → Bool) (w v : Waiting) : Prop where
  stopping : v.stopping = w.stopping
  waits : ∀ j, who j = false → v.waits j = w.waits j

/-- A wait of one of these callers touches nothing else. -/
theorem Apart.own (h : Apart who w v) (hm : m.isWaitOf who = true) (hs : step m w = some w') :
    Apart who w' v := by
  cases m with
  | other => cases hm
  | wait i a =>
    simp only [step, Option.map_eq_some_iff] at hs
    obtain ⟨c, -, rfl⟩ := hs
    refine ⟨h.stopping, fun j hj => ?_⟩
    have hne : j ≠ i := by
      rintro rfl
      exact absurd (hm.symm.trans hj) (by decide)
    rw [waits_put_ne hne]
    exact h.waits j hj

/-- What others can do, they can do without these waits, and it comes to the same. -/
theorem Apart.others (h : Apart who w v) (hm : m.isWaitOf who = false) (hs : step m w = some w') :
    ∃ v', step m v = some v' ∧ Apart who w' v' := by
  cases m with
  | other m =>
    simp only [step, Option.map_eq_some_iff] at hs
    obtain ⟨s, hs, rfl⟩ := hs
    exact ⟨{ v with stopping := s }, by simp [step, h.stopping, hs], rfl, h.waits⟩
  | wait i a =>
    simp only [step, Option.map_eq_some_iff] at hs
    obtain ⟨c, hc, rfl⟩ := hs
    refine ⟨v.put i c, ?_, h.stopping, fun j hj => ?_⟩
    · simp only [step, lifecycle, h.stopping, h.waits i hm]
      simp only [lifecycle] at hc
      rw [hc]
      rfl
    · by_cases hji : j = i
      · subst hji
        rw [waits_put_self, waits_put_self]
      · rw [waits_put_ne hji, waits_put_ne hji]
        exact h.waits j hj

/-- Taking the waits of some callers out of a schedule leaves everything else as it was. -/
theorem Apart.run {moves : List Move} (h : Apart who w v) (hr : Waiting.run moves w = some w') :
    ∃ v', Waiting.run (moves.filter (!·.isWaitOf who)) v = some v' ∧ Apart who w' v' :=
  run_without (Move.isWaitOf who) (Apart who) (fun _ _ _ _ h hm hs _ => h.own hm hs)
    (fun _ _ _ _ h hm hs _ => h.others hm hs) h hr

end Frame

/-- What those who wait for the close of a stage may rely on. -/
structure Sound (w : Waiting) : Prop where
  /-- A wait returned in order only if the confirmation is given, and failed only with its own
  limit and after its own deadline. -/
  holds : ∀ i c, w.waits i = some c → c.Holds w.lifecycle
  /-- What a wait has come to does not change. -/
  lasting : ∀ w', Reached step w w' → ∀ i c, w.waits i = some c →
    ∃ c', w'.waits i = some c' ∧ c.Later c'
  /-- A wait that looks under a confirmation returns in order, and otherwise fails after its
  deadline. -/
  looks : ∀ i c, w.waits i = some c → c.result = none → step (.wait i .look) w =
    if w.lifecycle.closed then some (w.put i { c with result := some (.ok ()) })
    else if c.due then some (w.put i { c with result := some (.error (.timedOut c.limit)) })
    else none
  /-- Once the confirmation is given, a wait that has not failed by then, or has not begun, returns
  in order as soon as it looks, whatever its limit and its deadline. -/
  confirmed : w.lifecycle.closed = true → ∀ w', Reached step w w' → ∀ i c, w.Unfailed i →
    w'.waits i = some c → c.result = some (.ok ()) ∨ c.result = none ∧
      ∃ v, step (.wait i .look) w' = some v ∧
        v.waits i = some { c with result := some (.ok ()) }
  /-- Without the waits of some callers, everything else comes to the same. -/
  apart : ∀ who moves w', run moves w = some w' →
    ∃ v, run (moves.filter (!·.isWaitOf who)) w = some v ∧ v.stopping = w'.stopping ∧
      ∀ i, who i = false → v.waits i = w'.waits i

/-- However waits, their deadlines, the start and the stops of a stage, its loop and everyone around
come in each other's way, a wait tells what is so, and leaves everything else alone. -/
theorem waits_soundly (h : Reached step (start slots) w) : w.Sound := by
  have hsane : w.stopping.Sane := Stopping.sane_of_reached (reached_stopping h)
  refine ⟨?_, fun w' hl i c hc => later_of_reached hl hc, fun i c hc hr => ?_, ?_, ?_⟩
  · refine (h.invariant (P := fun v => Reached step (start slots) v ∧ v.Truthful)
      ⟨.start, fun i c hc => by cases hc⟩ ?_).2
    rintro m v v' ⟨hv, ht⟩ hs
    exact ⟨.move m hv hs, ht.step (Stopping.sane_of_reached (reached_stopping hv)) hs⟩
  · rw [step_look hc hr, Lifecycle.await]
    cases w.lifecycle.closed <;> cases c.due <;> rfl
  · intro hc w' hl i c hu hi
    exact confirmed_of_closed hsane hc hu hl hi
  · intro who moves w' hr
    obtain ⟨v, hv, hapart⟩ := Apart.run ⟨rfl, fun _ _ => rfl⟩ hr
    exact ⟨v, hv, hapart.stopping, hapart.waits⟩

/-- A wait without any time fails before the stage has closed, one that has time enough returns when
it has, and one without any time that begins after that returns, too. -/
theorem waits_soundly_before_and_after : ∃ w, Reached step (start 4) w ∧ w.Sound ∧
    w.lifecycle.closed = true ∧
      w.waits 0 = some ⟨.ofMilliseconds 0, true, some (.error (.timedOut (.ofMilliseconds 0)))⟩ ∧
      w.waits 1 = some ⟨.ofMilliseconds 5000, false, some (.ok ())⟩ ∧
      w.waits 2 = some ⟨.ofMilliseconds 0, true, some (.ok ())⟩ := by
  obtain ⟨w, hw, hc, h0, h1, h2⟩ : ∃ w,
      ([Move.wait 0 (.begin (.ofMilliseconds 0)), .wait 1 (.begin (.ofMilliseconds 5000)),
        .wait 0 .expire, .wait 0 .look, .other (.claim 0), .other (.publish 0),
        .other (.other .cloneSender), .other (.other .markRunning), .other (.other .spawnLoop),
        .other (.other .attach)] ++
        List.replicate 8 (Move.other (.other (.other (.loop .channel)))) ++
        [Move.wait 2 (.begin (.ofMilliseconds 0)), .wait 2 .expire, .wait 1 .look,
          .wait 2 .look]).foldlM (fun w m => step m w) (start 4) = some w ∧
      w.lifecycle.closed = true ∧
      w.waits 0 = some ⟨.ofMilliseconds 0, true, some (.error (.timedOut (.ofMilliseconds 0)))⟩ ∧
      w.waits 1 = some ⟨.ofMilliseconds 5000, false, some (.ok ())⟩ ∧
      w.waits 2 = some ⟨.ofMilliseconds 0, true, some (.ok ())⟩ :=
    ⟨_, rfl, rfl, rfl, rfl, rfl⟩
  have hreached := Reached.of_moves hw
  exact ⟨w, hreached, waits_soundly hreached, hc, h0, h1, h2⟩

end Waiting
end Handoff
