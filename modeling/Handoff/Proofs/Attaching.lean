import Handoff.Proofs.Offering

/-!
# Starts by many callers

Any number of calls start one stage, each with an inbound channel of its own. The lock of the
attachment lets them in one at a time. The first one finds the stage detached and takes it through
the four steps of a start. Every later one finds that, gives the lock back and lets its receiver go,
also when the loop has long ended. In between are the senders of all these channels, readers,
callers that stop the stage, and the loop.
-/
namespace Handoff

/-- How far a call that starts a stage has come. -/
inductive StartCall
  | idle
  /-- has the lock of the attachment -/
  | inside
  /-- has found the stage started and given the lock back, and still has its receiver -/
  | refused
  | returned (result : Except StageError Unit)

/-- A call that starts a stage. -/
structure Starter where
  /-- The inbound channel it brings, until the stage takes it. -/
  inbound : Option (Channel Transaction)
  call : StartCall := .idle
  /-- What was queued in that channel while the call had its receiver. -/
  queued : List Transaction := []
  /-- What was queued there after that, through slots set aside. -/
  late : List Transaction := []

namespace Starter

/-- What is in the channel of the call. -/
def offered (st : Starter) : List Transaction := st.inbound.toList.flatMap Channel.contents

/-- A sender has done something with the channel, and what nobody can read is let go. -/
def served (st : Starter) (i j : Inlet) : Starter :=
  if i.channel.receiver then
    { st with inbound := some j.settle.channel, queued := st.queued ++ i.admits j }
  else { st with inbound := some j.settle.channel, late := st.late ++ i.admits j }

theorem served_call (st : Starter) (call : StartCall) (i j : Inlet) :
    ({ st with call } : Starter).served i j = { st.served i j with call } := by
  by_cases h : i.channel.receiver = true <;> simp [served, h]

/-- Only the channel matters. -/
theorem served_told (st : Starter) (i j : Inlet) (R R' : Replies) (U U' : List Transaction) :
    st.served (i.told R U) (j.told R' U') = st.served i j := rfl

@[simp] theorem call_served (st : Starter) (i j : Inlet) : (st.served i j).call = st.call := by
  unfold served
  split <;> rfl

@[simp] theorem inbound_served (st : Starter) (i j : Inlet) :
    (st.served i j).inbound = some j.settle.channel := by
  unfold served
  split <;> rfl

end Starter

/-- The next step of a start that has come so far. -/
def Attachment.next? : Attachment → Option Staging.Move
  | .detached => some .cloneSender
  | .cloned _ => some .markRunning
  | .marked _ => some .spawnLoop
  | .spawned => some .attach
  | .attached => none

/-- How many steps of its start have been made. -/
def Attachment.steps : Attachment → Nat
  | .detached => 0
  | .cloned _ => 1
  | .marked _ => 2
  | .spawned => 3
  | .attached => 4

namespace Attachment

@[simp] theorem steps_detached : detached.steps = 0 := rfl

@[simp] theorem steps_cloned (c : Channel Transaction) : (cloned c).steps = 1 := rfl

@[simp] theorem steps_marked (c : Channel Transaction) : (marked c).steps = 2 := rfl

@[simp] theorem steps_spawned : spawned.steps = 3 := rfl

@[simp] theorem steps_attached : attached.steps = 4 := rfl

theorem isSpawned_eq (a : Attachment) : a.isSpawned = decide (3 ≤ a.steps) := by
  cases a <;> rfl

theorem steps_le (a : Attachment) : a.steps ≤ 4 := by
  cases a <;> simp

end Attachment

/-- The stage takes this inbound channel. Its queue counts as accepted from now on. -/
def Stopping.adopt (w : Stopping) (c : Channel Transaction) : Stopping :=
  { w with
    staging :=
      { w.staging with
        exchange :=
          { w.staging.exchange with
            loop := { w.staging.exchange.loop with inbound := c }
            accepted := w.staging.exchange.accepted ++ c.queue } } }

/-- A stage, its calls and everyone around, with the calls that start it told apart. -/
structure Attaching where
  stopping : Stopping
  starters : List Starter
  /-- The call that has the lock. -/
  holder : Option Nat := none
  /-- The calls that have had the lock, the first one first. -/
  entered : List Nat := []
  /-- The calls that have spawned a loop. -/
  spawned : List Nat := []

namespace Attaching

inductive Move
  /-- a call takes the lock -/
  | enter (i : Nat)
  /-- the next step of a call that has taken the lock -/
  | proceed (i : Nat)
  /-- a sender of the channel of a call -/
  | sending (i : Nat) (s : Sending)
  /-- a receiver is closed before it is handed over -/
  | shut (i : Nat)
  /-- anyone else -/
  | other (m : Stopping.Move)

/-- What is not for anyone else to do: the steps of a start, and what concerns an inbound
channel. -/
def reserved : Stopping.Move → Bool
  | .claim _ | .publish _ => false
  | .other (.other (.sending _)) | .other (.other .shut) => true
  | .other (.other _) => false
  | .other _ => true

/-- A stage to be started, and for each number a call with an inbound channel of so many slots. The
channel that the stage has until then has no slot, and nobody can send there. -/
def start (slots : List Nat) : Attaching where
  stopping := .start 0
  starters := slots.map fun n => { inbound := some { capacity := n } }

def exchange (w : Attaching) : Exchange := w.stopping.staging.exchange

def attachment (w : Attaching) : Attachment := w.stopping.staging.attachment

/-- What senders of a channel see that the stage does not have. -/
def inlet (w : Attaching) (c : Channel Transaction) : Inlet :=
  ⟨c, w.exchange.hub.replies, w.exchange.unsent⟩

def put (w : Attaching) (i : Nat) (st : Starter) : Attaching :=
  { w with starters := w.starters.set i st }

/-- The stage with other tidings, and with other transactions in the hands of senders. -/
def tell (w : Attaching) (T : Tidings) (U : List Transaction) : Attaching :=
  { w with stopping := w.stopping.told T U }

/-- A step of the stage or of someone around it. -/
def within (w : Attaching) (m : Stopping.Move) : Option Attaching :=
  (w.stopping.step m).map fun s => { w with stopping := s }

/-- The call takes the lock. Only a detached stage takes the receiver. -/
def enter (w : Attaching) (i : Nat) (st : Starter) : Option Attaching :=
  match st.call, st.inbound, w.holder with
  | .idle, some c, none =>
    let w' := { w with holder := some i, entered := w.entered ++ [i] }
    if w.attachment.steps = 0 then
      some ({ w' with stopping := w.stopping.adopt c }.put i
        { st with inbound := none, call := .inside })
    else some (w'.put i { st with call := .inside })
  | _, _, _ => none

/-- The record of a call, along with this step of its start. -/
def mark (w : Attaching) (i : Nat) (st : Starter) : Staging.Move → Attaching
  | .spawnLoop => { w with spawned := w.spawned ++ [i] }
  | .attach => { w with holder := none }.put i { st with call := .returned (.ok ()) }
  | _ => w

/-- The next step of a call that has taken the lock. A refused one gives the lock back first, and
lets go of its receiver after that. -/
def proceed (w : Attaching) (i : Nat) (st : Starter) : Option Attaching :=
  match st.call, st.inbound with
  | .inside, none => w.attachment.next?.bind fun m => (w.mark i st m).within (.other m)
  | .inside, some _ =>
    some (({ w with holder := none }.put i { st with call := .refused }).tell
      (w.exchange.tidings.note (.alreadyAttached Stage.typeName)) w.exchange.unsent)
  | .refused, some c =>
    let (waiting, unread, c') := c.detach
    some ((w.put i
      { st with inbound := some c', call := .returned (.error .alreadyStarted) }).tell
        (w.exchange.tidings.release (waiting ++ unread)) w.exchange.unsent)
  | _, _ => none

/-- A sender of the channel that the call brings. If the stage has that channel, it is a sender of
the loop. -/
def serve (w : Attaching) (i : Nat) (s : Sending) (st : Starter) : Option Attaching :=
  match st.inbound with
  | some c => ((w.inlet c).act s).map fun j =>
    (w.put i (st.served (w.inlet c) j)).tell ⟨j.settle.replies, w.exchange.hub.log⟩ j.unsent
  | none => w.within (.other (.other (.sending s)))

/-- The receiver of a call is closed before the call is made. Senders in line are turned away. -/
def shut (w : Attaching) (i : Nat) (st : Starter) : Option Attaching :=
  match st.call, st.inbound with
  | .idle, some c =>
    some ((w.put i { st with inbound := some c.close.2 }).tell
      (w.exchange.tidings.release c.close.1) w.exchange.unsent)
  | _, _ => none

def step (m : Move) (w : Attaching) : Option Attaching :=
  match m with
  | .enter i => w.starters[i]?.bind (w.enter i)
  | .proceed i => w.starters[i]?.bind (w.proceed i)
  | .sending i s => w.starters[i]?.bind (w.serve i s)
  | .shut i => w.starters[i]?.bind (w.shut i)
  | .other m => if reserved m then none else w.within m

/-- The steps, each with its condition and all that it changes. -/
inductive Step (w : Attaching) : Move → Attaching → Prop
  | take {i st c} : w.starters[i]? = some st → st.call = .idle → st.inbound = some c →
      w.holder = none → w.attachment.steps = 0 →
      Step w (.enter i)
        ({ w with
          holder := some i, entered := w.entered ++ [i], stopping := w.stopping.adopt c }.put i
            { st with inbound := none, call := .inside })
  | find {i st c} : w.starters[i]? = some st → st.call = .idle → st.inbound = some c →
      w.holder = none → 0 < w.attachment.steps →
      Step w (.enter i) ({ w with holder := some i, entered := w.entered ++ [i] }.put i
        { st with call := .inside })
  | advance {i st m s} : w.starters[i]? = some st → st.call = .inside → st.inbound = none →
      w.attachment.next? = some m → w.stopping.step (.other m) = some s →
      Step w (.proceed i) { w.mark i st m with stopping := s }
  | refuse {i st c} : w.starters[i]? = some st → st.call = .inside → st.inbound = some c →
      Step w (.proceed i) (({ w with holder := none }.put i { st with call := .refused }).tell
        (w.exchange.tidings.note (.alreadyAttached Stage.typeName)) w.exchange.unsent)
  | letGo {i st c} : w.starters[i]? = some st → st.call = .refused → st.inbound = some c →
      Step w (.proceed i) ((w.put i
        { st with inbound := some c.detach.2.2, call := .returned (.error .alreadyStarted) }).tell
          (w.exchange.tidings.release (c.line ++ c.queue)) w.exchange.unsent)
  | serve {i s st c j} : w.starters[i]? = some st → st.inbound = some c →
      (w.inlet c).act s = some j →
      Step w (.sending i s) ((w.put i (st.served (w.inlet c) j)).tell
        ⟨j.settle.replies, w.exchange.hub.log⟩ j.unsent)
  | supply {i s st s'} : w.starters[i]? = some st → st.inbound = none →
      w.stopping.step (.other (.other (.sending s))) = some s' →
      Step w (.sending i s) { w with stopping := s' }
  | shut {i st c} : w.starters[i]? = some st → st.call = .idle → st.inbound = some c →
      Step w (.shut i) ((w.put i { st with inbound := some c.close.2 }).tell
        (w.exchange.tidings.release c.line) w.exchange.unsent)
  | within {m s} : reserved m = false → w.stopping.step m = some s →
      Step w (.other m) { w with stopping := s }

variable {w w' : Attaching} {m : Move}

@[simp] theorem stopping_mark (w : Attaching) (i : Nat) (st : Starter) (m : Staging.Move) :
    (w.mark i st m).stopping = w.stopping := by
  cases m <;> rfl

theorem step_cases (hs : step m w = some w') : Step w m w' := by
  cases m with
  | enter i =>
    simp only [step, Option.bind_eq_some_iff] at hs
    obtain ⟨st, hst, hs⟩ := hs
    unfold enter at hs
    split at hs
    · rename_i c hc hi hh
      split at hs <;> cases hs
      · exact .take hst hc hi hh ‹_›
      · exact .find hst hc hi hh (by omega)
    · cases hs
  | proceed i =>
    simp only [step, Option.bind_eq_some_iff] at hs
    obtain ⟨st, hst, hs⟩ := hs
    unfold proceed at hs
    split at hs
    · rename_i hc hi
      simp only [within, stopping_mark, Option.bind_eq_some_iff, Option.map_eq_some_iff] at hs
      obtain ⟨m, hm, s, hs, rfl⟩ := hs
      exact .advance hst hc hi hm hs
    · cases hs
      exact .refuse hst ‹_› ‹_›
    · cases hs
      exact .letGo hst ‹_› ‹_›
    · cases hs
  | sending i s =>
    simp only [step, Option.bind_eq_some_iff] at hs
    obtain ⟨st, hst, hs⟩ := hs
    unfold serve at hs
    split at hs
    · simp only [Option.map_eq_some_iff] at hs
      obtain ⟨j, hj, rfl⟩ := hs
      exact .serve hst ‹_› hj
    · simp only [within, Option.map_eq_some_iff] at hs
      obtain ⟨s', hs', rfl⟩ := hs
      exact .supply hst ‹_› hs'
  | shut i =>
    simp only [step, Option.bind_eq_some_iff] at hs
    obtain ⟨st, hst, hs⟩ := hs
    unfold shut at hs
    split at hs
    · cases hs
      exact .shut hst ‹_› ‹_›
    · cases hs
  | other m =>
    simp only [step, Option.ite_none_left_eq_some, within, Option.map_eq_some_iff] at hs
    obtain ⟨hm, s, hs, rfl⟩ := hs
    exact .within (by simpa using hm) hs

/-- Each of them can be made. -/
theorem Step.eq_some (hs : Step w m w') : step m w = some w' := by
  cases hs with
  | take hst hc hi hh ha => simp [step, hst, enter, hc, hi, hh, ha]
  | find hst hc hi hh ha =>
    have hne : w.attachment.steps ≠ 0 := by omega
    simp [step, hst, enter, hc, hi, hh, hne]
  | advance hst hc hi hm hs => simp [step, hst, proceed, hc, hi, hm, Attaching.within, hs]
  | refuse hst hc hi => simp [step, hst, proceed, hc, hi]
  | letGo hst hc hi =>
    simp only [step, hst, Option.bind_some, proceed, hc, hi]
    rfl
  | serve hst hi hj => simp [step, hst, Attaching.serve, hi, hj]
  | supply hst hi hs => simp [step, hst, Attaching.serve, hi, Attaching.within, hs]
  | shut hst hc hi =>
    simp only [step, hst, Option.bind_some, Attaching.shut, hc, hi]
    rfl
  | within hm hs => simp [step, hm, Attaching.within, hs]

/-! ### The order of the calls -/

/-- Where a call is, by its number among those that have had the lock. -/
structure Placed (w : Attaching) (i : Nat) (st : Starter) : Prop where
  idle : st.call = .idle ↔ i ∉ w.entered
  inside : st.call = .inside ↔ w.holder = some i
  taken : st.inbound = none ↔ w.entered.head? = some i

/-- The lock lets in one call at a time. Until the first one has attached its receiver there is no
other. -/
structure Ordered (w : Attaching) : Prop where
  placed : ∀ i st, w.starters[i]? = some st → w.Placed i st
  known : ∀ i ∈ w.entered, ∃ st, w.starters[i]? = some st
  busy : w.attachment.steps < 4 → w.entered = w.holder.toList
  started : 0 < w.attachment.steps → w.entered ≠ []
  attached : w.attachment.steps = 4 → w.holder ≠ w.entered.head?
  spawned : w.spawned = if 3 ≤ w.attachment.steps then w.entered.head?.toList else []

theorem get_put {i j : Nat} {st st' : Starter} (h : (w.put i st').starters[j]? = some st) :
    j = i ∧ st = st' ∨ j ≠ i ∧ w.starters[j]? = some st := by
  rw [put, List.getElem?_set] at h
  split at h
  · subst_vars
    split at h <;> simp_all
  · exact .inr ⟨fun he => ‹¬_› he.symm, h⟩

theorem exists_get_put {i j : Nat} {st' : Starter} (h : ∃ st, w.starters[j]? = some st) :
    ∃ st, (w.put i st').starters[j]? = some st := by
  obtain ⟨st, h⟩ := h
  have hj : j < w.starters.length := (List.getElem?_eq_some_iff.mp h).1
  exact ⟨_, List.getElem?_eq_getElem (by simpa [put] using hj)⟩

end Attaching

/-- Only a start attaches anything. -/
theorem Stopping.attachment_of_step {w w' : Stopping} {m : Move} (hs : step m w = some w')
    (hm : ∀ k, m = .other k → ∃ e, k = .other e) :
    w'.staging.attachment = w.staging.attachment := by
  cases m with
  | claim i =>
    simp only [step, Option.ite_none_right_eq_some, Option.map_eq_some_iff] at hs
    obtain ⟨-, s, hs, rfl⟩ := hs
    obtain ⟨-, e, -, rfl⟩ := Staging.step_other_cases hs
    rfl
  | publish i =>
    simp only [step, Option.ite_none_right_eq_some, Option.bind_eq_some_iff,
      Option.map_eq_some_iff] at hs
    obtain ⟨-, s, hs, s', hs', rfl⟩ := hs
    obtain ⟨-, e, -, rfl⟩ := Staging.step_other_cases hs
    obtain ⟨-, e', -, rfl⟩ := Staging.step_other_cases hs'
    rfl
  | other m =>
    simp only [step, Option.ite_none_left_eq_some, Option.map_eq_some_iff] at hs
    obtain ⟨-, s, hs, rfl⟩ := hs
    obtain ⟨e, rfl⟩ := hm m rfl
    obtain ⟨-, e', -, rfl⟩ := Staging.step_other_cases hs
    rfl

/-- A step of a start is one step. -/
theorem Stopping.steps_of_step {w w' : Stopping} {m : Staging.Move}
    (hm : w.staging.attachment.next? = some m) (hs : step (.other m) w = some w') :
    w'.staging.attachment.steps = w.staging.attachment.steps + 1 := by
  simp only [step, Option.ite_none_left_eq_some, Option.map_eq_some_iff] at hs
  obtain ⟨-, s, hs, rfl⟩ := hs
  cases ha : w.staging.attachment <;> rw [ha] at hm <;> cases hm <;>
    simp only [Staging.step, ha, Option.some.injEq] at hs <;> subst hs
  · rfl
  · simp only [Staging.follow, Staging.stage, Stage.markRunning]
    split <;> rfl
  · rfl
  · rfl

namespace Attaching

variable {w w' : Attaching} {m : Move}

theorem attachment_of_within {k : Stopping.Move} {s : Stopping} (hk : reserved k = false)
    (hs : w.stopping.step k = some s) :
    s.staging.attachment = w.stopping.staging.attachment := by
  refine Stopping.attachment_of_step hs fun k' hk' => ?_
  subst hk'
  cases k' with
  | other e => exact ⟨e, rfl⟩
  | cloneSender | markRunning | spawnLoop | attach => cases hk

theorem ordered_start (slots : List Nat) : (start slots).Ordered where
  placed i st h := by
    simp only [start, List.getElem?_map, Option.map_eq_some_iff] at h
    obtain ⟨n, -, rfl⟩ := h
    exact ⟨by simp [start], by simp [start], by simp [start]⟩
  known := by simp [start]
  busy _ := rfl
  started := nofun
  attached := nofun
  spawned := rfl

namespace Ordered

/-- Nothing has changed but inside the channels of the calls. -/
theorem of_put {i : Nat} {st st' : Starter} (ho : w.Ordered) (hst : w.starters[i]? = some st)
    (hc : st'.call = .idle ↔ st.call = .idle) (hi : st'.call = .inside ↔ st.call = .inside)
    (hn : st'.inbound = none ↔ st.inbound = none) : (w.put i st').Ordered where
  placed j st₁ h := by
    rcases get_put h with ⟨rfl, rfl⟩ | ⟨-, h⟩
    · have hp := ho.placed j st hst
      exact ⟨hc.trans hp.idle, hi.trans hp.inside, hn.trans hp.taken⟩
    · exact ⟨(ho.placed j st₁ h).idle, (ho.placed j st₁ h).inside, (ho.placed j st₁ h).taken⟩
  known j hj := exists_get_put (ho.known j hj)
  busy := ho.busy
  started := ho.started
  attached := ho.attached
  spawned := ho.spawned

/-- Nothing has changed but inside the stage. -/
theorem of_stopping {s : Stopping} (ho : w.Ordered)
    (ha : s.staging.attachment = w.stopping.staging.attachment) :
    ({ w with stopping := s } : Attaching).Ordered where
  placed i st h := ⟨(ho.placed i st h).idle, (ho.placed i st h).inside, (ho.placed i st h).taken⟩
  known := ho.known
  busy h := ho.busy (by simpa only [attachment, ha] using h)
  started h := ho.started (by simpa only [attachment, ha] using h)
  attached h := ho.attached (by simpa only [attachment, ha] using h)
  spawned := by
    show w.spawned = if 3 ≤ s.staging.attachment.steps then w.entered.head?.toList else []
    rw [ha]
    exact ho.spawned

theorem tell {T : Tidings} {U : List Transaction} (ho : w.Ordered) : (w.tell T U).Ordered :=
  ho.of_stopping rfl

/-- The stage has the channel of a call, so some call has had the lock. -/
theorem entered_ne {i : Nat} {st : Starter} (ho : w.Ordered) (hst : w.starters[i]? = some st)
    (hi : st.inbound = none) : w.entered ≠ [] := by
  intro he
  have hhead := (ho.placed i st hst).taken.mp hi
  simp [he] at hhead

/-- Nobody has had the lock, or the stage is attached. -/
theorem of_vacant (ho : w.Ordered) (hh : w.holder = none) :
    w.attachment.steps = 0 ∧ w.entered = [] ∨ w.attachment.steps = 4 ∧ w.entered ≠ [] := by
  have hbusy := ho.busy
  have hle := w.attachment.steps_le
  rw [hh] at hbusy
  by_cases hz : w.attachment.steps = 0
  · exact .inl ⟨hz, hbusy (by omega)⟩
  · have hne := ho.started (by omega)
    have hlt : ¬w.attachment.steps < 4 := fun hlt => hne (hbusy hlt)
    exact .inr ⟨by omega, hne⟩

/-- A call takes the lock. The stage takes the receiver of the first one. -/
theorem enter {i : Nat} {st st' : Starter} (ho : w.Ordered) (hst : w.starters[i]? = some st)
    (hc : st.call = .idle) (hh : w.holder = none) (hc' : st'.call = .inside)
    (hn : st'.inbound = none ↔ w.attachment.steps = 0) :
    ({ w with holder := some i, entered := w.entered ++ [i] }.put i st').Ordered := by
  have hnew : i ∉ w.entered := (ho.placed i st hst).idle.mp hc
  have hhead : ∀ j, (w.entered ++ [i]).head? = some j ↔
      w.entered.head? = some j ∨ w.entered = [] ∧ i = j := by
    intro j
    cases w.entered <;> simp
  have hvacant := ho.of_vacant hh
  constructor
  · intro j st₁ h
    rcases get_put h with ⟨rfl, rfl⟩ | ⟨hne, h⟩
    · refine ⟨?_, ?_, ?_⟩
      · simp [put, hc']
      · simp [put, hc']
      · rw [hn]
        refine Iff.trans ?_ (hhead j).symm
        rcases hvacant with ⟨hz, he⟩ | ⟨hz, he⟩
        · simp [hz, he]
        · have hother : w.entered.head? ≠ some j := fun he => hnew (List.mem_of_head? he)
          simp [hz, he, hother]
    · have hp := ho.placed j st₁ h
      refine ⟨?_, ?_, ?_⟩
      · rw [hp.idle]
        simp [put, hne]
      · rw [hp.inside, hh]
        simp [put, Ne.symm hne]
      · refine hp.taken.trans (Iff.trans ?_ (hhead j).symm)
        simp [Ne.symm hne]
  · intro j hj
    rcases List.mem_append.mp hj with hj | hj
    · exact exists_get_put (ho.known j hj)
    · exact exists_get_put ⟨st, List.mem_singleton.mp hj ▸ hst⟩
  · intro hlt
    rcases hvacant with ⟨-, he⟩ | ⟨hz, -⟩
    · simp [put, he]
    · exact absurd hlt (by simp [attachment, put] at hz ⊢; omega)
  · exact fun _ => List.append_ne_nil_of_right_ne_nil _ (by simp)
  · intro hz
    rcases hvacant with ⟨hz', -⟩ | ⟨-, he⟩
    · exact absurd (hz'.symm.trans hz) (by decide)
    · obtain ⟨a, l, he⟩ := List.exists_cons_of_ne_nil he
      have hne : i ≠ a := fun h => hnew (by simp [he, h])
      simp [put, he, hne]
  · rw [put]
    show w.spawned = if 3 ≤ w.attachment.steps then (w.entered ++ [i]).head?.toList else []
    rw [ho.spawned]
    rcases hvacant with ⟨hz, -⟩ | ⟨-, he⟩
    · simp [hz]
    · obtain ⟨a, l, he⟩ := List.exists_cons_of_ne_nil he
      simp [he]

/-- A call gives the lock back, after the stage is attached. -/
theorem giveBack {i : Nat} {st st' : Starter} {s : Stopping} (ho : w.Ordered)
    (hst : w.starters[i]? = some st) (hc : st.call = .inside) (hidle : st'.call ≠ .idle)
    (hinside : st'.call ≠ .inside) (hn : st'.inbound = none ↔ st.inbound = none)
    (hs : s.staging.attachment.steps = 4) (ha : 3 ≤ w.attachment.steps) :
    ({ w with stopping := s, holder := none }.put i st').Ordered := by
  have hp := ho.placed i st hst
  have hholder := hp.inside.mp hc
  have hne := ho.started (by omega)
  constructor
  · intro j st₁ h
    rcases get_put h with ⟨rfl, rfl⟩ | ⟨hji, h⟩
    · refine ⟨?_, ?_, hn.trans hp.taken⟩
      · have hidle' := hp.idle
        rw [hc] at hidle'
        simpa [put, hidle] using hidle'
      · simp [put, hinside]
    · have hj := ho.placed j st₁ h
      refine ⟨hj.idle, ?_, hj.taken⟩
      rw [hj.inside, hholder]
      simp [put, Ne.symm hji]
  · exact fun j hj => exists_get_put (ho.known j hj)
  · exact fun hlt => absurd hs (Nat.ne_of_lt hlt)
  · exact fun _ => hne
  · intro _ he
    exact hne (List.head?_eq_none_iff.mp he.symm)
  · show w.spawned = if 3 ≤ s.staging.attachment.steps then w.entered.head?.toList else []
    rw [ho.spawned, if_pos ha, if_pos (by omega)]

/-- The first call makes a step of its start. -/
theorem advance {i : Nat} {st : Starter} {m : Staging.Move} {s : Stopping} (ho : w.Ordered)
    (hst : w.starters[i]? = some st) (hc : st.call = .inside) (hi : st.inbound = none)
    (hm : w.attachment.next? = some m) (hs : w.stopping.step (.other m) = some s) :
    ({ w.mark i st m with stopping := s } : Attaching).Ordered := by
  have hp := ho.placed i st hst
  have hhead := hp.taken.mp hi
  have hne := ho.entered_ne hst hi
  have hsteps : s.staging.attachment.steps = w.attachment.steps + 1 := Stopping.steps_of_step hm hs
  have hplaced : ∀ spawned, ∀ j st, w.starters[j]? = some st →
      ({ w with stopping := s, spawned } : Attaching).Placed j st := fun spawned j st h =>
    ⟨(ho.placed j st h).idle, (ho.placed j st h).inside, (ho.placed j st h).taken⟩
  have hbusy := ho.busy
  have hspawned := ho.spawned
  cases ha : w.attachment with
  | detached | cloned =>
    rw [ha] at hm hsteps hbusy hspawned
    cases hm
    refine ⟨hplaced w.spawned, ho.known, fun _ => hbusy (by simp), fun _ => hne, ?_, ?_⟩
    · simp [attachment, mark, hsteps]
    · simpa [attachment, mark, hsteps] using hspawned
  | marked =>
    rw [ha] at hm hsteps hbusy hspawned
    cases hm
    refine ⟨hplaced (w.spawned ++ [i]), ho.known, fun _ => hbusy (by simp), fun _ => hne, ?_, ?_⟩
    · simp [attachment, mark, hsteps]
    · simpa [attachment, mark, hsteps, hhead] using hspawned
  | spawned =>
    rw [ha] at hm hsteps
    cases hm
    exact ho.giveBack hst hc nofun nofun .rfl hsteps (by simp [ha])
  | attached =>
    rw [ha] at hm
    cases hm

theorem step (ho : w.Ordered) (hs : Step w m w') : w'.Ordered := by
  cases hs with
  | @take i st c hst hc hi hh ha =>
    have hentered : ({ w with holder := some i, entered := w.entered ++ [i] }.put i
        { st with inbound := none, call := .inside }).Ordered :=
      ho.enter hst hc hh rfl (by simp [ha])
    exact hentered.of_stopping rfl
  | find hst hc hi hh ha =>
    refine ho.enter hst hc hh rfl ?_
    simp only [hi]
    constructor
    · nofun
    · omega
  | advance hst hc hi hm hs => exact ho.advance hst hc hi hm hs
  | @refuse i st c hst hc hi =>
    have hp := ho.placed i st hst
    have hfour : w.attachment.steps = 4 := by
      have hle := w.attachment.steps_le
      have hlt : ¬w.attachment.steps < 4 := by
        intro hlt
        have he := ho.busy hlt
        rw [hp.inside.mp hc] at he
        have hn := hp.taken.mpr (by rw [he]; rfl)
        rw [hi] at hn
        cases hn
      omega
    have hback : ({ w with holder := none }.put i { st with call := .refused }).Ordered :=
      ho.giveBack hst hc nofun nofun .rfl hfour (by omega)
    exact hback.tell
  | letGo hst hc hi => exact (ho.of_put hst (by simp [hc]) (by simp [hc]) (by simp [hi])).tell
  | @serve i s st c j hst hi hj =>
    exact (ho.of_put hst (by simp) (by simp) (by simp [hi])).tell
  | supply hst hi hs =>
    exact ho.of_stopping
      (Stopping.attachment_of_step hs fun k hk => ⟨_, (Stopping.Move.other.inj hk).symm⟩)
  | @shut i st c hst hc hi =>
    have hput : (w.put i { st with inbound := some c.close.2 }).Ordered :=
      ho.of_put hst .rfl .rfl (by simp [hi])
    exact hput.tell
  | within hm hs => exact ho.of_stopping (attachment_of_within hm hs)

end Ordered

end Attaching
end Handoff
