import Handoff.Proofs.Answers
import Handoff.Proofs.Reached

/-!
# Lines in the output of a writer that may fail

The consumer of a run goes on after a failed write, and the next transaction is written right behind
what the failed one has left. `Wrote` says what the output is made of: whole messages for those that
were acknowledged, beginnings for those that were rejected, in the order of the answers and with
nothing between them. An acknowledged message is therefore cut into lines of its own, unless the
line before it was left open by a rejected one; and that does happen.

Nothing is assumed about the stage, the input, the schedule or the writer.
-/
namespace Handoff.Pipeline

/-- The next byte begins a line. -/
def AtLineStart (bytes : Bytes) : Prop := bytes = [] ∨ bytes.getLast? = some 10

/-- What the output is made of, from what was there before: the messages that were acknowledged, and
of each rejected one what was taken of it. -/
inductive Wrote : Bytes → List (Transaction × Outcome) → Bytes → Prop
  | nil {before} : Wrote before [] before
  | delivered {before t answered output} : Wrote (before ++ t.payload.written) answered output →
      Wrote before ((t, .delivered) :: answered) output
  | rejected {before t text taken left answered output} :
      t.payload.written = taken ++ left → left ≠ [] →
      Wrote (before ++ taken) answered output →
      Wrote before ((t, .rejected text) :: answered) output

section Lines

variable {before output more : Bytes}

theorem AtLineStart.append (hb : AtLineStart before) (hm : AtLineStart more) :
    AtLineStart (before ++ more) := by
  rcases hm with rfl | hm
  · rwa [List.append_nil]
  · exact .inr (by rw [List.getLast?_append, hm]; rfl)

/-- What ends a line ends it wherever it stands. -/
theorem AtLineStart.of_append (hm : AtLineStart more) (hne : more ≠ []) :
    AtLineStart (before ++ more) := by
  rcases hm with rfl | hm
  · exact absurd rfl hne
  · exact .inr (by rw [List.getLast?_append, hm]; rfl)

theorem atLineStart_written (m : Message) : AtLineStart m.written := by
  unfold Message.written
  induction m.parts with
  | nil => exact .inl rfl
  | cons part parts ih =>
    rw [List.flatMap_cons]
    exact .append (.inr List.getLast?_concat) ih

end Lines

namespace Wrote

variable {before middle output : Bytes} {answered earlier later : List (Transaction × Outcome)}
  {t : Transaction} {text : String}

theorem trans (h : Wrote before earlier middle) (h' : Wrote middle later output) :
    Wrote before (earlier ++ later) output := by
  induction h with
  | nil => exact h'
  | delivered _ ih => exact .delivered (ih h')
  | rejected he hl _ ih => exact .rejected he hl (ih h')

/-- What was written for the first answers stands before the rest. -/
theorem split (h : Wrote before (earlier ++ later) output) :
    ∃ middle, Wrote before earlier middle ∧ Wrote middle later output := by
  induction earlier generalizing before with
  | nil => exact ⟨before, .nil, h⟩
  | cons p earlier ih =>
    cases h with
    | delivered h =>
      obtain ⟨middle, hfirst, hrest⟩ := ih h
      exact ⟨middle, .delivered hfirst, hrest⟩
    | rejected he hl h =>
      obtain ⟨middle, hfirst, hrest⟩ := ih h
      exact ⟨middle, .rejected he hl hfirst, hrest⟩

/-- Nothing is taken back. -/
theorem isPrefix (h : Wrote before answered output) : before <+: output := by
  induction h with
  | nil => exact List.prefix_refl _
  | delivered _ ih => exact (List.prefix_append ..).trans ih
  | rejected _ _ _ ih => exact (List.prefix_append ..).trans ih

/-- The last line is left open by a rejected message that nothing was written behind. -/
def LeftOpen (before : Bytes) (answered : List (Transaction × Outcome)) (output : Bytes) : Prop :=
  ∃ first u text quiet base taken, answered = first ++ (u, Outcome.rejected text) :: quiet ∧
    Wrote before first base ∧ taken <+: u.payload.written ∧ output = base ++ taken ∧
      ¬ AtLineStart taken

/-- The output ends with a whole line, or nothing has been added to it, or a rejected message has
left its last line open. -/
theorem lineStart_cases (h : Wrote before answered output) :
    AtLineStart output ∨ output = before ∨ LeftOpen before answered output := by
  induction h with
  | nil => exact .inr (.inl rfl)
  | @delivered before t answered output h ih =>
    rcases ih with hs | rfl | ⟨first, u, text, quiet, base, taken, rfl, hfirst, hcut⟩
    · exact .inl hs
    · by_cases hw : t.payload.written = []
      · exact .inr (.inl (by rw [hw, List.append_nil]))
      · exact .inl ((atLineStart_written t.payload).of_append hw)
    · exact .inr (.inr ⟨_ :: first, u, text, quiet, base, taken, rfl, .delivered hfirst, hcut⟩)
  | @rejected before t text taken left answered output he hl h ih =>
    rcases ih with hs | rfl | ⟨first, u, text', quiet, base, taken', rfl, hfirst, hcut⟩
    · exact .inl hs
    · by_cases hw : taken = []
      · exact .inr (.inl (by rw [hw, List.append_nil]))
      · by_cases hs : AtLineStart taken
        · exact .inl (hs.of_append hw)
        · exact .inr (.inr ⟨[], t, text, answered, before, taken, rfl, .nil,
            he ▸ List.prefix_append .., rfl, hs⟩)
    · exact .inr (.inr
        ⟨_ :: first, u, text', quiet, base, taken', rfl, .rejected he hl hfirst, hcut⟩)

end Wrote

namespace Run

variable {r r' : Run} {m : Move}

/-- A message is written whole and acknowledged, or cut and rejected. -/
theorem Answered.wrote {given : List (Transaction × Outcome)} (h : Answered r r' given) :
    Wrote r.writer.output given r'.writer.output := by
  cases h with
  | none hw =>
    rw [hw]
    exact .nil
  | @delivered t _ _ hw =>
    have hputs := r.writer.writeMessage_puts t.payload
    rw [hw] at hputs
    cases hputs with
    | all ht =>
      rw [ht.output]
      exact .delivered .nil
  | @rejected t text _ _ hw =>
    have hputs := r.writer.writeMessage_puts t.payload
    rw [hw] at hputs
    generalize r'.writer = last at hputs ⊢
    cases hputs with
    | @cut cutAt _ taken rest ht he hl =>
      refine .rejected he hl ?_
      show Wrote _ [] cutAt.output
      rw [ht.output]
      exact .nil

/-- What a move adds to the output is what it answers for. -/
theorem wrote_step (hs : r.step m = some r') :
    Wrote r.writer.output (r.answers m) r'.writer.output := (answered_of_step hs).wrote

theorem writer_count (r : Run) (f : Calls → Calls) : (r.count f).writer = r.writer := by
  obtain ⟨calls, hc⟩ := r.count_eq f
  rw [hc]

theorem writer_attach (r : Run) (slots : Nat) : (r.attach slots).writer = r.writer := by
  unfold attach
  dsimp only
  split
  · exact writer_count ..
  · exact writer_count ..
  · split
    · split <;> exact writer_count ..
    · exact writer_count ..

/-- A run begins with the writer it was given. -/
theorem writer_start (settings : PipelineSettings) (registry : Registry Buffer) (feed : Feed)
    (writer : Writer) : (start settings registry feed writer).writer = writer := by
  unfold start
  dsimp only
  split
  · rfl
  · split
    · rfl
    · split <;> exact writer_attach ..

end Run

/-- A run with what its consumer has answered so far, in the order of the answers. -/
structure Transcript where
  run : Run
  answered : List (Transaction × Outcome) := []

namespace Transcript

def step (m : Move) (s : Transcript) : Option Transcript :=
  (s.run.step m).map fun run => { run, answered := s.answered ++ s.run.answers m }

variable {s s' : Transcript}

theorem wrote_of_reached (h : Reached step s s') :
    ∃ later, s'.answered = s.answered ++ later ∧
      Wrote s.run.writer.output later s'.run.writer.output := by
  refine h.invariant (P := fun v => ∃ later, v.answered = s.answered ++ later ∧
    Wrote s.run.writer.output later v.run.writer.output)
      ⟨[], (List.append_nil _).symm, .nil⟩ ?_
  rintro m v v' ⟨later, he, hwrote⟩ hs
  simp only [step, Option.map_eq_some_iff] at hs
  obtain ⟨run, hs, rfl⟩ := hs
  exact ⟨later ++ v.run.answers m, by simp only [he, List.append_assoc],
    hwrote.trans (Run.wrote_step hs)⟩

/-- How the output of a run stands to what was there before and to what was answered. -/
structure Framed (before : Bytes) (s : Transcript) : Prop where
  wrote : Wrote before s.answered s.run.writer.output
  /-- An acknowledged message is there as a whole, behind what was written for the answers before
  it. It begins a line, unless nothing was written before or a rejected message has left the last
  line open. -/
  whole : ∀ earlier t later, s.answered = earlier ++ (t, Outcome.delivered) :: later →
    ∃ head tail, s.run.writer.output = head ++ t.payload.written ++ tail ∧
      Wrote before earlier head ∧ Wrote (head ++ t.payload.written) later s.run.writer.output ∧
      (AtLineStart head ∨ head = before ∨ Wrote.LeftOpen before earlier head)

/-- Whatever the stage, the input, the schedule and the writer are, the output of a run is made of
the acknowledged messages as a whole and of a beginning of each rejected one, in the order of the
answers. Only a rejected message can keep an acknowledged one from a line of its own. -/
theorem framed_unless_left_open {settings : PipelineSettings} {registry : Registry Buffer}
    {feed : Feed} {writer : Writer}
    (h : Reached step { run := .start settings registry feed writer } s) :
    s.Framed writer.output := by
  obtain ⟨answered, he, hwrote⟩ := wrote_of_reached h
  rw [Run.writer_start] at hwrote
  rw [List.nil_append] at he
  refine ⟨he ▸ hwrote, fun earlier t later hsplit => ?_⟩
  rw [← he, hsplit] at hwrote
  obtain ⟨head, hhead, hrest⟩ := hwrote.split
  cases hrest with
  | delivered hlater =>
    obtain ⟨tail, htail⟩ := hlater.isPrefix
    exact ⟨head, tail, htail.symm, hhead, hlater, hhead.lineStart_cases⟩

/-- A run over two lines, `one` and `two`, whose writer fails at one of its calls. -/
def failingAt (call : Nat) : Transcript where
  run := .start {} Buffer.defaultRegistry
    { coming := [[111, 110, 101, 10, 116, 119, 111, 10]] }
    { accept := fun n => if n = call then .failure "no space" else .everything }

/-- The moves that take both lines through such a run. -/
def bothLines : List Move :=
  [.arrive, .produce, .produce, .produce, .loop .channel, .loop .channel, .loop .channel,
    .loop .channel, .loop .channel, .loop .channel, .consume .channel, .consume .channel,
    .loop .channel, .produce, .produce, .produce, .loop .channel, .loop .channel, .loop .channel,
    .loop .channel, .loop .channel, .consume .channel, .consume .channel]

/-- The first line is rejected before a byte of it is taken. The second one begins the output. -/
theorem framed_unless_left_open_at_start : ∃ s, Reached step (failingAt 0) s ∧
    s.answered = [(⟨0, .ofBytes [111, 110, 101]⟩, .rejected "no space"),
      (⟨1, .ofBytes [116, 119, 111]⟩, .delivered)] ∧
    s.run.writer.output = [116, 119, 111, 10] ∧ s.Framed [] := by
  obtain ⟨s, hs, ha, ho⟩ : ∃ s, bothLines.foldlM (fun s m => step m s) (failingAt 0) = some s ∧
      s.answered = [(⟨0, .ofBytes [111, 110, 101]⟩, .rejected "no space"),
        (⟨1, .ofBytes [116, 119, 111]⟩, .delivered)] ∧
      s.run.writer.output = [116, 119, 111, 10] := ⟨_, rfl, rfl, rfl⟩
  have hreached := Reached.of_moves hs
  exact ⟨s, hreached, ha, ho, framed_unless_left_open hreached⟩

/-- The first line is rejected with all of it taken but its end. The second one is written behind it
and acknowledged, and has no line of its own. -/
theorem line_shared_after_rejection : ∃ s, Reached step (failingAt 1) s ∧
    s.answered = [(⟨0, .ofBytes [111, 110, 101]⟩, .rejected "no space"),
      (⟨1, .ofBytes [116, 119, 111]⟩, .delivered)] ∧
    s.run.writer.output = [111, 110, 101, 116, 119, 111, 10] ∧
    ¬ ∃ head tail, AtLineStart head ∧
      s.run.writer.output = head ++ Message.written (.ofBytes [116, 119, 111]) ++ tail := by
  obtain ⟨s, hs, ha, ho⟩ : ∃ s, bothLines.foldlM (fun s m => step m s) (failingAt 1) = some s ∧
      s.answered = [(⟨0, .ofBytes [111, 110, 101]⟩, .rejected "no space"),
        (⟨1, .ofBytes [116, 119, 111]⟩, .delivered)] ∧
      s.run.writer.output = [111, 110, 101, 116, 119, 111, 10] := ⟨_, rfl, rfl, rfl⟩
  refine ⟨s, Reached.of_moves hs, ha, ho, ?_⟩
  rintro ⟨head, tail, hstart, he⟩
  -- the message stands there once, behind the three bytes of the first line
  rw [ho] at he
  have hlength : head.length + 4 + tail.length = 7 := by
    have hl := congrArg List.length he
    simp [Message.written, Message.ofBytes] at hl
    omega
  rcases head with _ | ⟨a, _ | ⟨b, _ | ⟨c, _ | ⟨d, head⟩⟩⟩⟩
  · simp [Message.written, Message.ofBytes] at he
  · simp [Message.written, Message.ofBytes] at he
  · simp [Message.written, Message.ofBytes] at he
  · obtain ⟨rfl, rfl, rfl, -⟩ : 111 = a ∧ 110 = b ∧ 101 = c ∧ tail = [] := by
      simpa [Message.written, Message.ofBytes] using he
    simp [AtLineStart] at hstart
  · simp only [List.length_cons] at hlength
    omega

end Transcript
end Handoff.Pipeline
