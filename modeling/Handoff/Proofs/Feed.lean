import Handoff.Pipeline.Feed
import Handoff.Proofs.Lines
import Mathlib.Data.List.TakeWhile

/-!
# What a feed still gives

The lines that a feed has yet to give are those of what is pending and what is still coming,
however it is cut into pieces. Reading a line takes the first of them. A read that fails or finds
the end was made when there were none: at the end all of the input was read, and a read that fails
is due to a line that is not UTF-8 or to the input itself.
-/
namespace Handoff.Pipeline.Feed

open Text.Lines (terminated unterminated)
open Text.Utf8 (isText)

/-- Bytes not given out as lines yet. -/
def rest (f : Feed) : Bytes := f.pending ++ f.coming.flatten

/-- The lines that are left in the input, whether they are UTF-8 or not. -/
def contents (f : Feed) : List Bytes := terminated f.rest ++ unterminated f.rest

/-- The lines that a reader comes to. A last line without its line feed is lost when the input
fails. -/
def held (f : Feed) : List Bytes :=
  terminated f.rest ++
    match f.ending with
    | .clean => unterminated f.rest
    | .failure _ => []

/-- The lines still to be given out, up to the first that is not UTF-8. -/
def lines (f : Feed) : List Bytes := f.held.takeWhile isText

/-- The input ends and does not fail, and what is left of it is UTF-8. -/
def Readable (f : Feed) : Prop := f.ending = .clean ∧ ∀ line ∈ f.contents, isText line = true

/-- The end is not reached before the last piece has arrived. -/
def Orderly (f : Feed) : Prop := f.ended = true → f.coming = []

variable {f f' : Feed} {text : Bytes} {problem : String}

theorem isText_of_decode {bytes : Bytes} {chars : List Char}
    (h : Text.Utf8.decode bytes = .ok chars) : isText bytes = true :=
  Text.Utf8.isText_iff.mpr ⟨_, h⟩

theorem not_isText_of_decode {bytes : Bytes} {fault : Text.Utf8.Fault}
    (h : Text.Utf8.decode bytes = .error fault) : isText bytes = false := by
  rw [Bool.eq_false_iff]
  intro ht
  obtain ⟨chars, hc⟩ := Text.Utf8.isText_iff.mp ht
  rw [hc] at h
  cases h

theorem giveOut_cases (f : Feed) (line rest : Bytes) :
    (isText line = true ∧ f.giveOut line rest =
      .line (Text.Lines.content line) { f with pending := rest }) ∨
    (isText line = false ∧ ∃ problem, f.giveOut line rest = .failed problem) := by
  unfold giveOut
  split
  · exact .inl ⟨isText_of_decode ‹_›, rfl⟩
  · exact .inr ⟨not_isText_of_decode ‹_›, _, rfl⟩

theorem held_of_clean (h : f.ending = .clean) : f.held = f.contents := by
  rw [held, h, contents]

theorem held_of_failure (h : f.ending = .failure problem) : f.held = terminated f.rest := by
  rw [held, h, List.append_nil]

theorem lines_of_readable (h : f.Readable) : f.lines = f.contents := by
  rw [lines, held_of_clean h.1, List.takeWhile_eq_self_iff]
  exact h.2

/-- What a read finds, by what is left. A read fails at a line that is not UTF-8, or where the input
does. -/
def Finds (f : Feed) : LineRead → Prop
  | .line text f' => f.held = text :: f'.held ∧ isText text = true ∧ f'.ending = f.ending ∧ f'.Orderly
  | .failed _ => (∃ line more, f.held = line :: more ∧ isText line = false) ∨
      (f.held = [] ∧ f.ending ≠ .clean)
  | .finished => f.rest = [] ∧ f.ended = true ∧ f.ending = .clean
  | .nothing => True

theorem finds_next (hf : f.Orderly) : f.Finds f.next := by
  unfold next
  split
  -- a whole line is pending
  · rename_i line more hc
    obtain ⟨part, rfl, hn, hp⟩ := Text.Lines.cut?_eq_some hc
    have hrest : f.rest = part ++ Text.Lines.lineFeed :: (more ++ f.coming.flatten) := by
      rw [rest, hp, List.append_assoc, List.cons_append]
    have hheld : f.held = Text.Lines.dropReturn part :: { f with pending := more }.held := by
      rw [held, hrest, Text.Lines.terminated_part hn, Text.Lines.unterminated_part hn,
        List.cons_append]
      rfl
    rcases giveOut_cases f (part ++ [Text.Lines.lineFeed]) more with
      ⟨ht, hg⟩ | ⟨ht, problem, hg⟩ <;> rw [hg] <;> rw [Text.Lines.isText_terminated] at ht
    · rw [Text.Lines.content_terminated]
      exact ⟨hheld, ht, rfl, hf⟩
    · exact .inl ⟨_, _, hheld, ht⟩
  · rename_i hc
    have hn := Text.Lines.cut?_eq_none hc
    split
    · rename_i he
      have hrest : f.rest = f.pending := by rw [rest, hf he, List.flatten_nil, List.append_nil]
      split
      · rename_i hend
        refine .inr ⟨?_, by rw [hend]; nofun⟩
        rw [held_of_failure hend, hrest, Text.Lines.terminated_of_not_mem hn]
      -- the end, where what is still pending is the last line
      · rename_i hend
        split
        · rename_i hempty
          exact ⟨hrest.trans (List.isEmpty_iff.mp hempty), he, hend⟩
        · rename_i hempty
          have hheld : f.held = f.pending :: { f with pending := [] }.held := by
            have hlast : ({ f with pending := [] } : Feed).held = [] := by
              rw [held_of_clean (f := { f with pending := [] }) hend, contents, rest, hf he]
              rfl
            rw [held_of_clean hend, contents, hrest, Text.Lines.terminated_of_not_mem hn,
              Text.Lines.unterminated_of_not_mem hn, if_neg hempty, hlast]
            rfl
          rcases giveOut_cases f f.pending [] with
            ⟨ht, hg⟩ | ⟨ht, problem, hg⟩ <;> rw [hg]
          · rw [Text.Lines.content_unterminated hn]
            exact ⟨hheld, ht, rfl, hf⟩
          · exact .inl ⟨_, _, hheld, ht⟩
    · trivial

/-- Reading a line takes the first of those that are left. -/
theorem lines_of_line (hf : f.Orderly) (hn : f.next = .line text f') :
    f.lines = text :: f'.lines ∧ f'.Orderly := by
  have h := finds_next hf
  rw [hn] at h
  obtain ⟨hheld, ht, -, ho⟩ := h
  exact ⟨by rw [lines, hheld, List.takeWhile_cons_of_pos ht, lines], ho⟩

/-- A read that fails was made when no line was left, and what is there cannot be read. -/
theorem lines_of_failed (hf : f.Orderly) (hn : f.next = .failed problem) :
    f.lines = [] ∧ ¬ f.Readable := by
  have h := finds_next hf
  rw [hn] at h
  rcases h with ⟨line, more, hheld, ht⟩ | ⟨hheld, hend⟩
  · refine ⟨by rw [lines, hheld, List.takeWhile_cons_of_neg (by simp [ht])], fun hr => ?_⟩
    have htext := hr.2 line (by rw [← held_of_clean hr.1, hheld]; exact List.mem_cons_self)
    exact absurd (ht.symm.trans htext) nofun
  · exact ⟨by rw [lines, hheld, List.takeWhile_nil], fun hr => hend hr.1⟩

/-- A reader finds the end of an input when all of it was read. -/
theorem lines_of_finished (hf : f.Orderly) (hn : f.next = .finished) :
    f.lines = [] ∧ f.Readable ∧ f.rest = [] ∧ f.ended = true := by
  have h := finds_next hf
  rw [hn] at h
  obtain ⟨hrest, hended, hend⟩ := h
  have hcontents : f.contents = [] := by
    rw [contents, hrest]
    rfl
  refine ⟨by rw [lines, held_of_clean hend, hcontents, List.takeWhile_nil], ⟨hend, ?_⟩, hrest,
    hended⟩
  rw [hcontents]
  nofun

/-- Reading a line changes nothing about whether the rest can be read. -/
theorem readable_of_line (hf : f.Orderly) (hn : f.next = .line text f') :
    f'.Readable ↔ f.Readable := by
  have h := finds_next hf
  rw [hn] at h
  obtain ⟨hheld, ht, hend, -⟩ := h
  constructor
  · rintro ⟨hc, hall⟩
    have hclean := hend.symm.trans hc
    refine ⟨hclean, ?_⟩
    rw [← held_of_clean hclean, hheld, held_of_clean hc]
    exact List.forall_mem_cons.mpr ⟨ht, hall⟩
  · rintro ⟨hc, hall⟩
    have hclean := hend.trans hc
    rw [← held_of_clean hc, hheld, held_of_clean hclean] at hall
    exact ⟨hclean, fun line hm => hall line (List.mem_cons_of_mem _ hm)⟩

@[simp] theorem ending_arrive (f : Feed) : f.arrive.ending = f.ending := by
  unfold arrive
  split <;> rfl

@[simp] theorem rest_arrive (f : Feed) : f.arrive.rest = f.rest := by
  unfold arrive
  split
  · rfl
  · rename_i piece more hc
    simp only [rest, hc, List.flatten_cons, List.append_assoc]

/-- A piece that arrives brings no line that was not coming. -/
theorem lines_arrive (f : Feed) : f.arrive.lines = f.lines := by
  rw [lines, held, rest_arrive, ending_arrive, lines, held]

theorem readable_arrive (f : Feed) : f.arrive.Readable ↔ f.Readable := by
  rw [Readable, contents, rest_arrive, ending_arrive, Readable, contents]

theorem ended_arrive (he : f.ended = true) : f.arrive.ended = true := by
  unfold arrive
  split
  · rfl
  · exact he

theorem orderly_arrive (hf : f.Orderly) : f.arrive.Orderly := by
  unfold arrive
  split
  · exact fun _ => ‹_›
  · rename_i piece more hc
    intro he
    rw [hf he] at hc
    cases hc

end Handoff.Pipeline.Feed
