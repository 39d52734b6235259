import Handoff.Proofs.Utf8
import Handoff.Text.Lines

/-!
# The lines of an input

Lines are defined by splitting the whole input at its line feeds: every part but the last is a line,
less one carriage return at its end, and the last part is a line if it is not empty. Cutting the
input after its first line feed gives these lines one by one.
-/
namespace Handoff.Text.Lines

/-- A line that ended in a line feed, less one carriage return before it. -/
def dropReturn (part : Bytes) : Bytes :=
  if part.getLast? = some carriageReturn then part.dropLast else part

/-- The lines that end in a line feed. -/
def terminated (input : Bytes) : List Bytes := (input.splitOn lineFeed).dropLast.map dropReturn

/-- What comes after the last line feed, if anything. -/
def unterminated (input : Bytes) : List Bytes :=
  (input.splitOn lineFeed).getLast?.toList.filter (!·.isEmpty)

/-- The lines of an input, up to the first that is not UTF-8. -/
def ofBytes (input : Bytes) : List Bytes :=
  (terminated input ++ unterminated input).takeWhile Utf8.isText

variable {input line part rest : Bytes}

theorem cut?_eq_some (h : cut? input = some (line, rest)) :
    ∃ part, line = part ++ [lineFeed] ∧ lineFeed ∉ part ∧ input = part ++ lineFeed :: rest := by
  induction input generalizing line with
  | nil => cases h
  | cons b input ih =>
    rw [cut?] at h
    split at h
    · rename_i hb
      cases h
      exact ⟨[], by rw [hb]; rfl, List.not_mem_nil, by rw [hb]; rfl⟩
    · rename_i hb
      simp only [Option.map_eq_some_iff, Prod.mk.injEq, Prod.exists] at h
      obtain ⟨l, r, hc, rfl, rfl⟩ := h
      obtain ⟨part, rfl, hn, rfl⟩ := ih hc
      refine ⟨b :: part, rfl, ?_, rfl⟩
      rw [List.mem_cons, not_or]
      exact ⟨fun he => hb he.symm, hn⟩

theorem cut?_eq_none (h : cut? input = none) : lineFeed ∉ input := by
  induction input with
  | nil => exact List.not_mem_nil
  | cons b input ih =>
    rw [cut?] at h
    split at h
    · cases h
    · rename_i hb
      rw [Option.map_eq_none_iff] at h
      rw [List.mem_cons, not_or]
      exact ⟨fun he => hb he.symm, ih h⟩

theorem splitOn_part (h : lineFeed ∉ part) (rest : Bytes) :
    (part ++ lineFeed :: rest).splitOn lineFeed = part :: rest.splitOn lineFeed := by
  rw [List.splitOn_append_cons_of_beq part rest (beq_self_eq_true lineFeed),
    List.splitOn_eq_singleton h]
  rfl

theorem terminated_part (h : lineFeed ∉ part) (rest : Bytes) :
    terminated (part ++ lineFeed :: rest) = dropReturn part :: terminated rest := by
  rw [terminated, splitOn_part h, List.dropLast_cons_of_ne_nil (List.splitOn_ne_nil _ _)]
  rfl

theorem unterminated_part (h : lineFeed ∉ part) (rest : Bytes) :
    unterminated (part ++ lineFeed :: rest) = unterminated rest := by
  rw [unterminated, splitOn_part h, unterminated]
  obtain ⟨q, qs, hq⟩ := List.exists_cons_of_ne_nil (List.splitOn_ne_nil lineFeed rest)
  rw [hq, List.getLast?_cons_cons]

theorem terminated_of_not_mem (h : lineFeed ∉ input) : terminated input = [] := by
  rw [terminated, List.splitOn_eq_singleton h]
  rfl

theorem unterminated_of_not_mem (h : lineFeed ∉ input) :
    unterminated input = if input.isEmpty then [] else [input] := by
  rw [unterminated, List.splitOn_eq_singleton h]
  cases input <;> rfl

/-- What is given out of a line with a line feed is the line. -/
theorem content_terminated (part : Bytes) : content (part ++ [lineFeed]) = dropReturn part := by
  rcases List.eq_nil_or_concat part with rfl | ⟨before, c, rfl⟩
  · rfl
  · have hr : (before ++ [c] ++ [lineFeed]).reverse = lineFeed :: c :: before.reverse := by simp
    have hl : (before ++ [c]).getLast? = some c := by simp
    simp only [List.concat_eq_append, content, dropReturn, hr, hl, Option.some.injEq,
      List.dropLast_concat, List.reverse_cons, List.reverse_reverse, if_true]

/-- A last line without a line feed is given out as it is. -/
theorem content_unterminated (h : lineFeed ∉ input) : content input = input := by
  rcases List.eq_nil_or_concat input with rfl | ⟨before, c, rfl⟩
  · rfl
  · have hc : c ≠ lineFeed := by
      rintro rfl
      exact h (by simp)
    have hr : (before ++ [c]).reverse = c :: before.reverse := by simp
    simp only [List.concat_eq_append, content, hr, if_neg hc]

theorem isText_terminated (part : Bytes) :
    Utf8.isText (part ++ [lineFeed]) = Utf8.isText (dropReturn part) := by
  rw [Utf8.isText_append (by decide), dropReturn]
  split
  · rename_i h
    obtain ⟨before, rfl⟩ := List.getLast?_eq_some_iff.mp h
    rw [Utf8.isText_append (by decide), List.dropLast_concat]
  · rfl

end Handoff.Text.Lines
