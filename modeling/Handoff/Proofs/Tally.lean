import Handoff.Metrics.Sink
import Handoff.Proofs.Accountability
import Handoff.Proofs.Closing
import Handoff.Proofs.Ending

/-!
# What the counters say

The loop reports to a sink what it has placed and what it has answered. It counts a transaction that
it placed or gave up after the act, the answers of a drain together after the last of them, and a
late transaction before its answer. So between two reports the counters may lag behind until the
close is confirmed, agree with what happened when it is confirmed, and are never behind after it.

`Tallied` says how far the counter of answers is from the answers at each position of the loop, and
`Metered` puts the sink beside the exchange. Nothing here depends on the number of outbound slots.
-/
namespace Handoff

namespace Metrics

/-- What a sink shows of all that was reported to it under one name. -/
def Kind.shown (kind : Kind) (total : Nat) : Nat :=
  match kind with
  | .localOnly => total
  | .exported => total % Text.wordLimit
  | .silent => 0

/-- A sink that keeps counters shows a total that does not overflow. -/
theorem Kind.shown_eq {kind : Kind} {total : Nat} (hk : kind ≠ .silent)
    (ht : total < Text.wordLimit) : kind.shown total = total := by
  cases kind with
  | localOnly => rfl
  | exported => exact Nat.mod_eq_of_lt ht
  | silent => exact absurd rfl hk

/-- What a report adds to the count under a name. -/
def added (report? : Option (String × Nat)) (name : String) : Nat :=
  match report? with
  | some (counter, value) => if name = counter then value else 0
  | none => 0

namespace Sink

variable {s : Sink} {total total' : String → Nat}

/-- The sink after a report, if there is one. -/
def take (s : Sink) (report? : Option (String × Nat)) : Sink :=
  match report? with
  | some (name, value) => s.incr name value
  | none => s

/-- A sink shows these totals. -/
def Shows (s : Sink) (total : String → Nat) : Prop :=
  ∀ name, s.countOf name = s.kind.shown (total name)

theorem Shows.fresh (kind : Kind) : Shows { kind } fun _ => 0 := by
  intro name
  cases kind <;> rfl

@[simp] theorem kind_take (s : Sink) (report? : Option (String × Nat)) :
    (s.take report?).kind = s.kind := by
  unfold take incr
  split
  · split <;> rfl
  · rfl

/-- A sink that is told whatever is added to the totals goes on showing them. -/
theorem Shows.take (hs : s.Shows total) {report? : Option (String × Nat)}
    (ht : ∀ name, total' name = total name + added report? name) :
    (s.take report?).Shows total' := by
  intro other
  have hother := hs other
  rw [kind_take, ht]
  cases report? with
  | none => exact hother
  | some report =>
    obtain ⟨name, value⟩ := report
    have hname := hs name
    cases hk : s.kind with
    | silent => simpa only [Sink.take, incr, hk, Kind.shown] using hother
    | localOnly | exported =>
      rw [hk] at hname hother
      simp only [Sink.take, incr, hk, countOf, Named.get?_put, Kind.shown, added]
        at hname hother ⊢
      by_cases he : other = name
      · subst he
        simp only [if_true, Option.getD_some, hname, Nat.mod_add_mod]
      · simp only [he, if_false, hother, Nat.add_zero]

end Sink
end Metrics

open Metrics (Kind Sink added)

/-- What the hub has counted under a name. -/
def Hub.total (h : Hub) (name : String) : Nat :=
  if name = forwardedCounter then h.forwarded
  else if name = abandonedCounter then h.abandoned
  else 0

namespace Position

/-- Answers given and not yet counted. -/
def owed : Position → Nat
  | .countingAbandoned _ => 1
  | .draining _ n | .countingDrained _ n => n
  | _ => 0

/-- Answers counted and not yet given. -/
def ahead : Position → Nat
  | .answeringLate .. => 1
  | _ => 0

theorem ahead_le (p : Position) : p.ahead ≤ 1 := by cases p <;> simp [ahead]

/-- After the confirmation the loop counts before it answers. -/
theorem owed_of_confirmed {p : Position} (h : p.confirmed = true) : p.owed = 0 := by
  cases p <;> first | rfl | cases h

theorem counts_of_confirmed {p : Position} (h : p.confirmed = true) : p.counts = false := by
  cases p <;> first | rfl | cases h

end Position

namespace Loop

/-- What the next step reports, if it reports something. -/
def report? (l : Loop) : Option (String × Nat) :=
  match l.position with
  | .counting => some (forwardedCounter, 1)
  | .countingAbandoned _ | .countingLate .. => some (abandonedCounter, 1)
  | .countingDrained _ n => if 0 < n then some (abandonedCounter, n) else none
  | _ => none

variable {l l' : Loop} {h h' : Hub}

/-- The hub counts what the loop reports. -/
theorem Step.total_eq (hs : Step l h l' h') (name : String) :
    h'.total name = h.total name + added l.report? name := by
  have hne : forwardedCounter ≠ abandonedCounter := by decide
  cases hs with
  | count hp =>
    simp only [report?, hp, added, Hub.total, Hub.note]
    by_cases hf : name = forwardedCounter
    · simp only [hf, if_true]
    · simp only [hf, if_false, Nat.add_zero]
  | countAbandoned hp | countLate hp =>
    simp only [report?, hp, added, Hub.total]
    by_cases hf : name = forwardedCounter
    · simp only [hf, hne, if_true, if_false, Nat.add_zero]
    · simp only [hf, if_false]
      split <;> rfl
  | @countDrained e n hp =>
    simp only [report?, hp, Hub.total]
    by_cases hn : 0 < n
    · simp only [hn, if_true, added]
      by_cases hf : name = forwardedCounter
      · simp only [hf, hne, if_true, if_false, Nat.add_zero]
      · simp only [hf, if_false]
        split <;> rfl
    · obtain rfl := Nat.eq_zero_of_not_pos hn
      rfl
  | @finish n hp =>
    simp only [report?, hp]
    show Hub.total (if 0 < n then _ else _) name = _
    split <;> rfl
  | begin hp | seeClose hp | seeNone hp | stop hp | pick hp | exhaust hp | giveUp hp | reserve hp
  | findGone hp | place hp | stopAwaiting hp | seeTaken hp | loseReaders hp | abandon hp
  | closeInbound hp | drain hp | endDrain hp | settle hp | release hp | confirm hp | report hp
  | takeLate hp | answerLate hp =>
    simp only [report?, hp]
    rfl

/-- Whatever outcome is found after a step was there before, was answered by the step, or was let
go. -/
theorem Step.outcome_cases (hs : Step l h l' h') {serial : Nat} {o : Outcome}
    (ho : h'.replies.outcome serial = some o) : h.replies.outcome serial = some o ∨ o = .dropped ∨
      o = .stageClosed ∧ ∃ t ∈ l.answers, t.serial = serial := by
  cases hs with
  | @abandon t e hp | @answerLate t n hp =>
    refine (Replies.outcome_answer_cases ho).imp id fun hsame => .inr ⟨hsame.2, t, ?_, hsame.1⟩
    simp [answers, hp]
  | @drain e n t c rest hp hq hc =>
    refine (Replies.outcome_answer_cases ho).imp id fun hsame => .inr ⟨hsame.2, t, ?_, hsame.1⟩
    simp [answers, hp, hq]
  | closeInbound | release => exact (Replies.outcome_releaseAll_cases ho).imp id .inl
  | @finish n =>
    refine (Replies.outcome_releaseAll_cases ho).imp (fun hr => ?_) .inl
    revert hr
    split <;> exact id
  | begin | seeClose | seeNone | stop | pick | exhaust | giveUp | reserve | findGone | place
  | count | stopAwaiting | seeTaken | loseReaders | countAbandoned | endDrain | countDrained
  | settle | confirm | report | takeLate | countLate => exact .inl ho

end Loop

namespace Inlet

/-- Senders give no answers. -/
theorem Step.outcome_cases {i i' : Inlet} (hs : Step i i') {serial : Nat} {o : Outcome}
    (ho : i'.replies.outcome serial = some o) :
    i.replies.outcome serial = some o ∨ o = .dropped := by
  cases hs with
  | issue => exact .inl (by rwa [Replies.outcome_issue] at ho)
  | discard => exact (Replies.outcome_answer_cases ho).imp id (·.2)
  | leave => exact Replies.outcome_releaseAll_cases ho
  | send | lineUp | deliver | keep | withdraw | reserve | spend | forfeit | join => exact .inl ho

end Inlet

namespace Exchange

variable {w w' : Exchange} {m : Move} {l : Loop} {h : Hub}

/-- The counter of answers is behind by what the loop owes it, or ahead by the answer it is about
to give. -/
def Tallied (w : Exchange) : Prop :=
  w.hub.abandoned + w.loop.position.owed = w.refused.length + w.loop.position.ahead

/-- Who is told that the stage has closed was told so by the loop, or by a reader. -/
def Attributed (w : Exchange) : Prop :=
  ∀ serial, w.hub.replies.outcome serial = some .stageClosed →
    (∃ t ∈ w.refused, t.serial = serial) ∨
      ∃ t, (t, Outcome.stageClosed) ∈ w.returned ∧ t.serial = serial

namespace Tallied

theorem afterLoop (hw : w.Tallied) (hs : w.loop.Step w.hub l h) : (w.afterLoop l h).Tallied := by
  unfold Tallied at hw ⊢
  cases hs with
  | abandon hp | answerLate hp | countAbandoned hp | countDrained hp | countLate hp
  | closeInbound hp =>
    simp only [hp, Position.owed, Position.ahead] at hw
    simp only [Exchange.afterLoop, Loop.answers, hp, Loop.goto, Hub.answer, Hub.release,
      Position.owed, Position.ahead, List.length_append, List.length_singleton, List.length_nil]
    omega
  | drain hp hq hc =>
    simp only [hp, Position.owed, Position.ahead] at hw
    simp only [Exchange.afterLoop, Loop.answers, hp, hq, Hub.answer, Position.owed,
      Position.ahead, List.length_append, List.take_succ_cons, List.take_zero,
      List.length_singleton]
    omega
  | endDrain hp hq =>
    rw [hp] at hw
    simp only [Exchange.afterLoop, Loop.answers, hp, hq, List.take_nil, List.append_nil]
    exact hw
  | @finish n hp =>
    rw [hp] at hw
    simp only [Exchange.afterLoop, Loop.answers, hp, List.append_nil]
    show (Hub.abandoned (if 0 < n then _ else _)) + 0 = _
    split <;> exact hw
  | begin hp | seeClose hp | seeNone hp | stop hp | pick hp | exhaust hp | giveUp hp | reserve hp
  | findGone hp | place hp | count hp | stopAwaiting hp | seeTaken hp | loseReaders hp | settle hp
  | release hp | confirm hp | report hp | takeLate hp =>
    rw [hp] at hw
    simp only [Exchange.afterLoop, Loop.answers, hp, List.append_nil]
    exact hw

theorem step (hw : w.Tallied) (hs : Step w m w') : w'.Tallied := by
  cases hs with
  | loop hl => exact hw.afterLoop hl
  | sending | shut | take | answer | addHandle | dropHandle | cloneSpare | dropSpare | markRunning
  | claimStop | publish | note => exact hw

end Tallied

theorem Attributed.step (hw : w.Attributed) (hs : Step w m w') : w'.Attributed := by
  intro serial ho
  cases hs with
  | loop hl =>
    rcases hl.outcome_cases ho with ho | ho | ⟨-, t, ht, he⟩
    · exact (hw serial ho).imp (fun ⟨t, ht, he⟩ => ⟨t, List.mem_append_left _ ht, he⟩) id
    · cases ho
    · exact .inl ⟨t, List.mem_append_right _ ht, he⟩
  | answer =>
    rcases Replies.outcome_answer_cases ho with ho | ⟨he, rfl⟩
    · exact (hw serial ho).imp id fun ⟨t, ht, he⟩ => ⟨t, List.mem_append_left _ ht, he⟩
    · exact .inr ⟨_, List.mem_append_right _ (List.mem_singleton_self _), he⟩
  | sending hi => exact hw serial ((hi.outcome_cases ho).resolve_right nofun)
  | shut | dropHandle | dropSpare =>
    exact hw serial ((Replies.outcome_releaseAll_cases ho).resolve_right nofun)
  | take | addHandle | cloneSpare | markRunning | claimStop | publish | note =>
    exact hw serial ho

/-- What a move reports: only the loop does. -/
def report? (w : Exchange) (m : Move) : Option (String × Nat) :=
  if m.isLoop then w.loop.report? else none

theorem Step.total_eq (hs : Step w m w') (name : String) :
    w'.hub.total name = w.hub.total name + added (w.report? m) name := by
  cases hs with
  | loop hl => exact hl.total_eq name
  | sending | shut | take | answer | addHandle | dropHandle | cloneSpare | dropSpare | markRunning
  | claimStop | publish | note => rfl

end Exchange

/-- An exchange whose loop has a sink to itself. -/
structure Metered where
  exchange : Exchange
  sink : Sink

namespace Metered

open Exchange (Move)

/-- One move. A report goes to the sink in the step of the loop that makes it. -/
def step (m : Move) (w : Metered) : Option Metered :=
  (w.exchange.step m).map fun x => ⟨x, w.sink.take (w.exchange.report? m)⟩

/-- A loop that has not run, with a sink that nobody has reported to. -/
def start (label : String) (slots width spare : Nat) (kind : Kind) : Metered :=
  ⟨.wide label slots width spare, { kind }⟩

/-- Placed transactions, as the sink counts them. -/
def forwarded (w : Metered) : Nat := w.sink.countOf forwardedCounter

/-- Answers of the loop, as the sink counts them. -/
def abandoned (w : Metered) : Nat := w.sink.countOf abandonedCounter

/-- The close is confirmed. -/
def closed (w : Metered) : Bool := w.exchange.hub.lifecycle.closed

variable {w w' : Metered} {m : Move} {kind : Kind}

theorem step_cases (hs : step m w = some w') : Exchange.Step w.exchange m w'.exchange ∧
    w'.sink = w.sink.take (w.exchange.report? m) := by
  simp only [step, Option.map_eq_some_iff] at hs
  obtain ⟨x, hx, rfl⟩ := hs
  exact ⟨Exchange.step_cases hx, rfl⟩

/-- What every move of a metered exchange keeps. -/
structure Accurate (kind : Kind) (w : Metered) : Prop where
  kept : w.exchange.Kept
  counted : w.exchange.Counted
  tallied : w.exchange.Tallied
  attributed : w.exchange.Attributed
  closed : w.closed = w.exchange.loop.position.confirmed
  kind : w.sink.kind = kind
  shows : w.sink.Shows w.exchange.hub.total

namespace Accurate

theorem start (label : String) (slots width spare : Nat) (kind : Kind) :
    (Metered.start label slots width spare kind).Accurate kind where
  kept := .wide label slots width spare
  counted := rfl
  tallied := rfl
  attributed := by
    intro serial ho
    cases ho
  closed := rfl
  kind := rfl
  shows := by
    intro name
    have ht : (Metered.start label slots width spare kind).exchange.hub.total name = 0 := by
      unfold Hub.total
      split
      · rfl
      · split <;> rfl
    rw [ht]
    exact Sink.Shows.fresh kind name

theorem step (hw : w.Accurate kind) (hs : Metered.step m w = some w') : w'.Accurate kind := by
  obtain ⟨hs, hsink⟩ := step_cases hs
  exact
    { kept := hw.kept.step hs
      counted := hw.counted.step hs
      tallied := hw.tallied.step hs
      attributed := hw.attributed.step hs
      closed := hs.closed_eq hw.closed
      kind := by rw [hsink, Sink.kind_take, hw.kind]
      shows := hsink ▸ hw.shows.take hs.total_eq }

/-- Without an overflow the sink shows what the hub has counted. -/
theorem countOf_eq (hw : w.Accurate kind) (hk : kind ≠ .silent) {name : String}
    (ht : w.exchange.hub.total name < Text.wordLimit) :
    w.sink.countOf name = w.exchange.hub.total name := by
  rw [hw.shows name, hw.kind]
  exact Kind.shown_eq hk ht

end Accurate

/-- How the counters agree with what happened. -/
structure Agrees (w : Metered) : Prop where
  /-- The confirmation finds everything counted. -/
  confirming : ∀ m w', step m w = some w' → w.closed = false → w'.closed = true →
    w'.forwarded = w'.exchange.placed.length ∧ w'.abandoned = w'.exchange.refused.length
  /-- From then on the counter of answers is never behind. -/
  later : w.closed = true → w.forwarded = w.exchange.placed.length ∧
    (w.abandoned = w.exchange.refused.length ∨ w.abandoned = w.exchange.refused.length + 1)
  /-- Nothing stands twice among what is counted. -/
  once : (w.exchange.placed ++ w.exchange.refused).Nodup
  /-- What is counted as answered reads as stage closed. -/
  answered : ∀ t ∈ w.exchange.refused, w.exchange.outcome t = some .stageClosed
  /-- Who reads stage closed was answered by the loop, or by a reader after it was placed. -/
  seen : ∀ t, w.exchange.outcome t = some .stageClosed →
    (∃ u ∈ w.exchange.refused, u.serial = t.serial) ∨
      ∃ u ∈ w.exchange.placed, (u, Outcome.stageClosed) ∈ w.exchange.returned ∧
        u.serial = t.serial
  finished : w.exchange.loop.position = .finished →
    w.exchange.accepted.length = w.forwarded + w.abandoned

/-- The sink counts what the loop has placed and what it has answered: exactly so when the close is
confirmed, with at most one answer counted before it is given from then on, and exactly so again
when the loop has ended, in every order of moves and however the loop came to leave. -/
theorem counters_agree {label : String} {slots width spare : Nat} (hk : kind ≠ .silent)
    (h : Reached step (start label slots width spare kind) w)
    (hf : w.exchange.hub.forwarded < Text.wordLimit)
    (ha : w.exchange.hub.abandoned < Text.wordLimit) : w.Agrees := by
  have hw : w.Accurate kind := h.invariant (.start ..) fun _ _ _ hw hs => hw.step hs
  have hforwarded : w.forwarded = w.exchange.hub.forwarded := hw.countOf_eq hk hf
  have habandoned : w.abandoned = w.exchange.hub.abandoned := hw.countOf_eq hk ha
  have hcounted : w.exchange.hub.forwarded + w.exchange.loop.position.counts.toNat =
      w.exchange.placed.length := hw.counted
  have htallied : w.exchange.hub.abandoned + w.exchange.loop.position.owed =
      w.exchange.refused.length + w.exchange.loop.position.ahead := hw.tallied
  refine ⟨fun m w' hs hc hc' => ?_, fun hc => ?_, hw.kept.sound.nodup_placed,
    fun t ht => hw.kept.sound.refusedClosed t ht, fun t ho => ?_, fun hp => ?_⟩
  · -- the loop confirms between two reports, and with no answer to give
    obtain ⟨hstep, hsink⟩ := step_cases hs
    obtain ⟨-, e, n, hp, hx⟩ := hstep.confirming hc hc'
    have hreport : w.exchange.report? m = none := by simp [Exchange.report?, Loop.report?, hp]
    have hsame : w'.sink = w.sink := by rw [hsink, hreport]; rfl
    have hplaced : w'.exchange.placed = w.exchange.placed := by
      simp [hx, Exchange.afterLoop, Loop.places, hp]
    have hrefused : w'.exchange.refused = w.exchange.refused := by
      simp [hx, Exchange.afterLoop, Loop.answers, hp]
    rw [hp] at hcounted htallied
    rw [hplaced, hrefused, Metered.forwarded, Metered.abandoned, hsame]
    exact ⟨hforwarded.trans hcounted, habandoned.trans htallied⟩
  · rw [hw.closed] at hc
    have hahead := w.exchange.loop.position.ahead_le
    rw [Position.counts_of_confirmed hc, Bool.toNat_false] at hcounted
    rw [Position.owed_of_confirmed hc] at htallied
    omega
  · refine (hw.attributed _ ho).imp id ?_
    rintro ⟨u, hu, he⟩
    exact ⟨u, hw.kept.sound.placed_of_returned hu, hu, he⟩
  · rw [hp] at hcounted htallied
    simp only [Position.counts, Position.owed, Position.ahead, Bool.toNat_false]
      at hcounted htallied
    rw [hw.kept.accepted_of_finished hp, List.length_append]
    omega

/-- One of three transactions is placed and taken, one is answered in the drain, and one comes late
through a slot set aside. It is counted, and not answered yet. -/
theorem counters_agree_before_late_answer : ∃ w,
    Reached step (start "none" 2 1 0 .localOnly) w ∧ w.closed = true ∧ w.Agrees ∧
      w.forwarded = 1 ∧ w.exchange.refused.length = 1 ∧ w.abandoned = 2 := by
  obtain ⟨w, hw, hc, hf, hr, ha, hforwarded, habandoned⟩ : ∃ w, [Move.sending (.issue ⟨[]⟩),
      .sending (.issue ⟨[]⟩), .sending (.issue ⟨[]⟩), .sending (.send ⟨0, ⟨[]⟩⟩),
      .sending .reserve, .loop .channel, .loop .channel, .loop .channel, .loop .channel,
      .loop .channel, .loop .channel, .take, .sending (.send ⟨1, ⟨[]⟩⟩), .claimStop, .publish,
      .loop .close, .loop .close, .loop .close, .loop .close, .loop .close, .loop .close,
      .loop .close, .loop .close, .loop .close, .sending (.spend ⟨2, ⟨[]⟩⟩), .loop .close,
      .loop .close].foldlM (fun w m => step m w) (start "none" 2 1 0 .localOnly) = some w ∧
        w.closed = true ∧ w.forwarded = 1 ∧ w.exchange.refused.length = 1 ∧ w.abandoned = 2 ∧
          w.exchange.hub.forwarded = 1 ∧ w.exchange.hub.abandoned = 2 :=
    ⟨_, rfl, rfl, rfl, rfl, rfl, rfl, rfl⟩
  have hreached := Reached.of_moves hw
  refine ⟨w, hreached, hc, counters_agree (by decide) hreached ?_ ?_, hf, hr, ha⟩
  · rw [hforwarded]
    decide
  · rw [habandoned]
    decide

end Metered
end Handoff
