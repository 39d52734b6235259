import Handoff.Proofs.Stopping

/-!
# What no move looks at

No party decides anything by the outcomes in the ledger of replies, nor by the log, nor by
transactions that other senders have. So a move that can be made can be made just as well with
other outcomes, with another log and with more transactions in the hands of senders, and it comes
to the same apart from these three. `Stopping.step_told` says so of a stage with everyone around.
-/
namespace Handoff

/-- What a hub tells and nobody acts on. -/
structure Tidings where
  replies : Replies
  log : List Event

namespace Tidings

def next (T : Tidings) : Nat := T.replies.next

def note (e : Event) (T : Tidings) : Tidings := { T with log := e :: T.log }

def answer (t : Transaction) (o : Outcome) (T : Tidings) : Tidings :=
  { T with replies := T.replies.answer t.serial o }

def release (ts : List Transaction) (T : Tidings) : Tidings :=
  { T with replies := T.replies.releaseAll ts }

variable {T : Tidings}

@[simp] theorem next_note (e : Event) : (T.note e).next = T.next := rfl

@[simp] theorem next_answer (t : Transaction) (o : Outcome) : (T.answer t o).next = T.next :=
  Replies.next_answer ..

@[simp] theorem next_release (ts : List Transaction) : (T.release ts).next = T.next :=
  Replies.next_releaseAll ..

end Tidings

namespace Hub

def tidings (h : Hub) : Tidings := ⟨h.replies, h.log⟩

/-- The hub with other tidings. -/
def told (h : Hub) (T : Tidings) : Hub := { h with replies := T.replies, log := T.log }

variable {h : Hub} {T : Tidings}

@[simp] theorem outlet_told : (h.told T).outlet = h.outlet := rfl

@[simp] theorem lifecycle_told : (h.told T).lifecycle = h.lifecycle := rfl

end Hub

namespace Loop

variable {l l' : Loop} {h h' : Hub} {b : Branch}

private theorem onClose_told {p : Position} (hs : l.onClose h p = some (l', h')) (T : Tidings) :
    l.onClose (h.told T) p = some (l', h'.told T) := by
  unfold onClose at hs ⊢
  split at hs
  · cases hs
    exact if_pos ‹_›
  · cases hs

/-- The step of a loop, whatever the tidings. -/
theorem step_told (hs : l.step b h = some (l', h')) :
    ∃ f : Tidings → Tidings, ∀ T, l.step b (h.told T) = some (l', h'.told (f T)) ∧
      (f T).next = T.next := by
  unfold step at hs ⊢
  cases hp : l.position <;> simp only [hp, Hub.outlet_told, Hub.lifecycle_told] at hs ⊢
  -- the log
  case wired | counting | reporting =>
    cases hs
    exact ⟨.note _, fun T => ⟨rfl, rfl⟩⟩
  -- neither the log nor an outcome
  case placing | countingAbandoned | countingDrained | settling | confirming | countingLate =>
    cases hs
    exact ⟨id, fun T => ⟨rfl, rfl⟩⟩
  case checking =>
    refine ⟨id, fun T => ⟨?_, rfl⟩⟩
    split at hs <;> cases hs
    · exact if_pos ‹_›
    · exact if_neg ‹_›
  case receiving =>
    refine ⟨id, fun T => ⟨?_, rfl⟩⟩
    split at hs
    · exact onClose_told hs T
    · split at hs
      · cases hs
        rfl
      · split at hs <;> cases hs
        exact if_pos ‹_›
  case holding | awaitingTake =>
    refine ⟨id, fun T => ⟨?_, rfl⟩⟩
    split at hs
    · exact onClose_told hs T
    · split at hs <;> cases hs <;> rfl
  -- outcomes
  case abandoning | answeringLate =>
    cases hs
    exact ⟨.answer _ .stageClosed, fun T => ⟨rfl, Tidings.next_answer ..⟩⟩
  case closingInbound =>
    cases hs
    exact ⟨.release _, fun T => ⟨rfl, Tidings.next_release _⟩⟩
  case releasing =>
    cases hs
    exact ⟨.release h.outlet.channel.leave.orphans, fun T => ⟨rfl, Tidings.next_release _⟩⟩
  case draining =>
    split at hs <;> cases hs
    · exact ⟨.answer _ .stageClosed, fun T => ⟨rfl, Tidings.next_answer ..⟩⟩
    · exact ⟨id, fun T => ⟨rfl, rfl⟩⟩
  case late n =>
    split at hs
    · cases hs
      exact ⟨id, fun T => ⟨rfl, rfl⟩⟩
    · split at hs <;> cases hs
      rename_i he
      by_cases hn : 0 < n <;> simp only [hn, he, if_true, if_false]
      · exact ⟨fun T => (T.note _).release _, fun T => ⟨rfl, Tidings.next_release _⟩⟩
      · exact ⟨.release _, fun T => ⟨rfl, Tidings.next_release _⟩⟩
  case finished => cases hs

end Loop

namespace Inlet

variable {i i' : Inlet} {s : Sending}

/-- The sending side with other outcomes and with other transactions in the hands of senders. -/
def told (i : Inlet) (R : Replies) (U : List Transaction) : Inlet :=
  { i with replies := R, unsent := U }

/-- An act of a sender, whatever the outcomes and whoever else has transactions. -/
theorem act_told (hs : i.act s = some i') :
    ∃ f : Replies → Replies, ∀ R X, R.next = i.replies.next → (∀ t ∈ i.unsent, t ∉ X) →
      (i.told R (X ++ i.unsent)).act s = some (i'.told (f R) (X ++ i'.unsent)) ∧
        (f R).next = i'.replies.next := by
  cases s with
  | issue payload =>
    cases hs
    refine ⟨.issue, fun R X hn _ => ⟨?_, ?_⟩⟩
    · simp [act, told, hn, List.append_assoc]
    · simp [hn]
  | discard t =>
    simp only [act, Option.ite_none_right_eq_some, Option.some.injEq] at hs
    obtain ⟨ht, rfl⟩ := hs
    refine ⟨(·.release t.serial), fun R X hn hX => ⟨?_, by simp [hn]⟩⟩
    simp [act, told, ht, List.erase_append_right _ (hX t ht)]
  | send t =>
    simp only [act, Option.ite_none_right_eq_some] at hs
    obtain ⟨⟨ht, hsenders⟩, hs⟩ := hs
    refine ⟨id, fun R X hn hX => ?_⟩
    split at hs <;> rename_i hc <;> cases hs
    all_goals
      refine ⟨?_, hn⟩
      simp [act, told, ht, hsenders, hc, List.erase_append_right _ (hX t ht)]
  | deliver =>
    simp only [act, Option.map_eq_some_iff] at hs
    obtain ⟨⟨t, c⟩, hd, rfl⟩ := hs
    exact ⟨id, fun R X hn _ => ⟨by simp [act, told, hd], hn⟩⟩
  | keep t | withdraw t =>
    simp only [act, Option.ite_none_right_eq_some, Option.some.injEq] at hs
    obtain ⟨ht, rfl⟩ := hs
    exact ⟨id, fun R X hn _ => ⟨by simp [act, told, ht, List.append_assoc], hn⟩⟩
  | reserve =>
    simp only [act, Option.ite_none_right_eq_some] at hs
    obtain ⟨hsenders, hs⟩ := hs
    refine ⟨id, fun R X hn _ => ?_⟩
    split at hs <;> rename_i hc <;> cases hs
    exact ⟨by simp [act, told, hsenders, hc], hn⟩
  | spend t =>
    simp only [act, Option.ite_none_right_eq_some, Option.some.injEq] at hs
    obtain ⟨⟨ht, hp⟩, rfl⟩ := hs
    refine ⟨id, fun R X hn hX => ⟨?_, hn⟩⟩
    simp [act, told, ht, hp, List.erase_append_right _ (hX t ht)]
  | forfeit | join =>
    simp only [act, Option.ite_none_right_eq_some, Option.some.injEq] at hs
    obtain ⟨hp, rfl⟩ := hs
    exact ⟨id, fun R X hn _ => ⟨by simp [act, told, hp], hn⟩⟩
  | leave =>
    simp only [act, Option.ite_none_right_eq_some, Option.some.injEq] at hs
    obtain ⟨hp, rfl⟩ := hs
    exact ⟨(·.releaseAll i.channel.leave.orphans),
      fun R X hn _ => ⟨by simp [act, told, hp], by simp [hn]⟩⟩

end Inlet

namespace Exchange

variable {w w' : Exchange} {m : Move}

/-- The exchange with other tidings and with other transactions in the hands of senders. -/
def told (w : Exchange) (T : Tidings) (U : List Transaction) : Exchange :=
  { w with hub := w.hub.told T, unsent := U }

def tidings (w : Exchange) : Tidings := w.hub.tidings

theorem step_told (hs : step m w = some w') :
    ∃ f : Tidings → Tidings, ∀ T X, T.next = w.tidings.next → (∀ t ∈ w.unsent, t ∉ X) →
      step m (w.told T (X ++ w.unsent)) = some (w'.told (f T) (X ++ w'.unsent)) ∧
        (f T).next = w'.tidings.next := by
  cases m with
  | sending s =>
    simp only [step, Option.map_eq_some_iff] at hs
    obtain ⟨i, hi, rfl⟩ := hs
    obtain ⟨f, hf⟩ := Inlet.act_told hi
    refine ⟨fun T => { T with replies := f T.replies }, fun T X hn hX => ?_⟩
    obtain ⟨hact, hnext⟩ := hf T.replies X hn hX
    refine ⟨?_, hnext⟩
    have hinlet : (w.told T (X ++ w.unsent)).inlet =
        w.inlet.told T.replies (X ++ w.inlet.unsent) := rfl
    rw [step, hinlet, hact]
    rfl
  | shut =>
    simp only [step, Option.ite_none_right_eq_some, Option.some.injEq] at hs
    obtain ⟨hp, rfl⟩ := hs
    refine ⟨.release w.loop.inbound.close.1, fun T X hn _ => ⟨if_pos hp, ?_⟩⟩
    exact (Tidings.next_release _).trans (hn.trans (Replies.next_releaseAll ..).symm)
  | loop b =>
    simp only [step, Option.map_eq_some_iff] at hs
    obtain ⟨⟨l, h⟩, hl, rfl⟩ := hs
    obtain ⟨f, hf⟩ := Loop.step_told hl
    refine ⟨f, fun T X hn _ => ?_⟩
    obtain ⟨hstep, hnext⟩ := hf T
    have hkept : h.replies.next = w.hub.replies.next := (Loop.step_cases hl).leaves.replies.next
    refine ⟨?_, hnext.trans (hn.trans hkept.symm)⟩
    have hloop : (w.told T (X ++ w.unsent)).loop.step b (w.told T (X ++ w.unsent)).hub =
        some (l, h.told (f T)) := hstep
    rw [step, hloop]
    rfl
  | take =>
    simp only [step, Option.ite_none_right_eq_some] at hs
    obtain ⟨hhandles, hs⟩ := hs
    refine ⟨id, fun T X hn _ => ?_⟩
    split at hs <;> rename_i hr <;> cases hs
    exact ⟨by simp [step, told, hhandles, hr, Hub.told], hn⟩
  | answer t o =>
    simp only [step, Option.ite_none_right_eq_some, Option.some.injEq] at hs
    obtain ⟨ht, rfl⟩ := hs
    refine ⟨.answer t o, fun T X hn _ => ⟨if_pos ht, ?_⟩⟩
    exact (Tidings.next_answer ..).trans (hn.trans (Replies.next_answer ..).symm)
  | dropHandle =>
    simp only [step, Option.ite_none_right_eq_some, Option.some.injEq] at hs
    obtain ⟨hhandles, rfl⟩ := hs
    refine ⟨.release (w.hub.outlet.dropHandle.1 ++ w.hub.outlet.dropHandle.2.1),
      fun T X hn _ => ⟨if_pos hhandles, ?_⟩⟩
    exact (Tidings.next_release _).trans (hn.trans (Replies.next_releaseAll ..).symm)
  | dropSpare =>
    simp only [step, Option.ite_none_right_eq_some, Option.some.injEq] at hs
    obtain ⟨hspare, rfl⟩ := hs
    refine ⟨.release w.hub.outlet.channel.leave.orphans, fun T X hn _ => ⟨if_pos hspare, ?_⟩⟩
    exact (Tidings.next_release _).trans (hn.trans (Replies.next_releaseAll ..).symm)
  | addHandle | cloneSpare | publish =>
    simp only [step, Option.ite_none_right_eq_some, Option.some.injEq] at hs
    obtain ⟨hguard, rfl⟩ := hs
    exact ⟨id, fun T X hn _ => ⟨if_pos hguard, hn⟩⟩
  | markRunning | claimStop =>
    cases hs
    exact ⟨id, fun T X hn _ => ⟨rfl, hn⟩⟩
  | note e =>
    cases hs
    exact ⟨.note e, fun T X hn _ => ⟨rfl, hn⟩⟩

end Exchange

namespace Staging

variable {w w' : Staging} {m : Move}

def told (w : Staging) (T : Tidings) (U : List Transaction) : Staging :=
  { w with exchange := w.exchange.told T U }

def tidings (w : Staging) : Tidings := w.exchange.tidings

theorem step_told (hs : step m w = some w') :
    ∃ f : Tidings → Tidings, ∀ T X, T.next = w.tidings.next →
      (∀ t ∈ w.exchange.unsent, t ∉ X) →
        step m (w.told T (X ++ w.exchange.unsent)) =
          some (w'.told (f T) (X ++ w'.exchange.unsent)) ∧ (f T).next = w'.tidings.next := by
  obtain ⟨a, has, e⟩ := w
  cases m with
  | cloneSender =>
    cases a <;> cases hs
    exact ⟨id, fun T X hn _ => ⟨rfl, hn⟩⟩
  | markRunning =>
    cases a <;> cases hs
    cases hm : e.hub.lifecycle.markRunning with
    | mk won l =>
      cases won with
      | true =>
        refine ⟨id, fun T X hn _ => ⟨?_, hn.trans ?_⟩⟩ <;> cases has <;>
          simp [step, told, Exchange.told, follow, stage, Stage.markRunning, hm, tidings,
            Exchange.tidings, Hub.told, Hub.tidings]
      | false =>
        refine ⟨.note (.stoppedBeforeStart Stage.typeName), fun T X hn _ => ⟨?_, hn.trans ?_⟩⟩ <;>
          cases has <;> simp [step, told, Exchange.told, follow, stage, Stage.markRunning, hm,
            tidings, Exchange.tidings, Hub.told, Hub.tidings, Hub.note, Tidings.note, Tidings.next]
  | spawnLoop =>
    cases a <;> cases hs
    exact ⟨id, fun T X hn _ => ⟨rfl, hn⟩⟩
  | attach =>
    cases a <;> cases hs
    refine ⟨.release e.hub.outlet.channel.leave.orphans, fun T X hn _ => ⟨rfl, ?_⟩⟩
    exact (Tidings.next_release _).trans (hn.trans (Replies.next_releaseAll ..).symm)
  | other m =>
    obtain ⟨hp, e', he, rfl⟩ := step_other_cases hs
    obtain ⟨f, hf⟩ := Exchange.step_told he
    refine ⟨f, fun T X hn hX => ?_⟩
    obtain ⟨hstep, hnext⟩ := hf T X hn hX
    have hp' : permits (told ⟨a, has, e⟩ T (X ++ e.unsent)) m = true := hp
    refine ⟨?_, hnext⟩
    simp only [step, hp', if_true]
    show Option.map _ (Exchange.step m (e.told T (X ++ e.unsent))) = _
    rw [hstep]
    rfl

end Staging

namespace Stopping

variable {w w' : Stopping} {m : Move}

def told (w : Stopping) (T : Tidings) (U : List Transaction) : Stopping :=
  { w with staging := w.staging.told T U }

def tidings (w : Stopping) : Tidings := w.staging.tidings

/-- A step of a stage or of anyone around it, whatever the tidings and whoever else has
transactions. What becomes of the tidings does not depend on them. -/
theorem step_told (hs : step m w = some w') :
    ∃ f : Tidings → Tidings, ∀ T X, T.next = w.tidings.next →
      (∀ t ∈ w.exchange.unsent, t ∉ X) →
        step m (w.told T (X ++ w.exchange.unsent)) =
          some (w'.told (f T) (X ++ w'.exchange.unsent)) ∧ (f T).next = w'.tidings.next := by
  cases m with
  | claim i =>
    simp only [step, Option.ite_none_right_eq_some, Option.map_eq_some_iff] at hs
    obtain ⟨hi, s, hs, rfl⟩ := hs
    obtain ⟨f, hf⟩ := Staging.step_told hs
    refine ⟨f, fun T X hn hX => ?_⟩
    obtain ⟨hstep, hnext⟩ := hf T X hn hX
    refine ⟨?_, hnext⟩
    have hi' : (w.told T (X ++ w.exchange.unsent)).calls i = .idle := hi
    rw [step, if_pos hi']
    exact congrArg (Option.map _) hstep
  | publish i =>
    simp only [step, Option.ite_none_right_eq_some, Option.bind_eq_some_iff,
      Option.map_eq_some_iff] at hs
    obtain ⟨hi, s, hs, s', hs', rfl⟩ := hs
    obtain ⟨f, hf⟩ := Staging.step_told hs
    obtain ⟨g, hg⟩ := Staging.step_told hs'
    refine ⟨g ∘ f, fun T X hn hX => ?_⟩
    obtain ⟨hstep, hnext⟩ := hf T X hn hX
    have hunsent : s.exchange.unsent = w.exchange.unsent := by
      obtain ⟨-, e, he, rfl⟩ := Staging.step_other_cases hs
      cases Exchange.step_cases he
      rfl
    obtain ⟨hstep', hnext'⟩ := hg (f T) X hnext (by rwa [hunsent])
    refine ⟨?_, hnext'⟩
    have hi' : (w.told T (X ++ w.exchange.unsent)).calls i = .publishing := hi
    rw [step, if_pos hi']
    refine (congrArg (Option.bind · _) hstep).trans ?_
    rw [Option.bind_some]
    exact congrArg (Option.map _) hstep'
  | other m =>
    simp only [step, Option.ite_none_left_eq_some, Option.map_eq_some_iff] at hs
    obtain ⟨hm, s, hs, rfl⟩ := hs
    obtain ⟨f, hf⟩ := Staging.step_told hs
    refine ⟨f, fun T X hn hX => ?_⟩
    obtain ⟨hstep, hnext⟩ := hf T X hn hX
    refine ⟨?_, hnext⟩
    rw [step, if_neg hm]
    exact congrArg (Option.map _) hstep

end Stopping
end Handoff
