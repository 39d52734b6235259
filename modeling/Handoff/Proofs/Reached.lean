/-!
# States that can be reached

A system is given by a partial step function: a move that cannot be made now gives nothing. Any
order of moves is a schedule, so a property of every schedule is a property of every state reached.
-/
namespace Handoff

variable {σ τ μ ν : Type} {step : μ → σ → Option σ} {step' : ν → τ → Option τ} {s₀ s s' : σ}

/-- The states that some order of moves leads to. -/
inductive Reached (step : μ → σ → Option σ) (s₀ : σ) : σ → Prop
  | start : Reached step s₀ s₀
  | move {s s' : σ} (m : μ) : Reached step s₀ s → step m s = some s' → Reached step s₀ s'

namespace Reached

/-- What holds at the start and is kept by every move holds of every state reached. -/
theorem invariant {P : σ → Prop} (h : Reached step s₀ s) (hstart : P s₀)
    (hstep : ∀ m s s', P s → step m s = some s' → P s') : P s := by
  induction h with
  | start => exact hstart
  | move m _ hs ih => exact hstep m _ _ ih hs

theorem trans (h : Reached step s₀ s) (h' : Reached step s s') : Reached step s₀ s' := by
  induction h' with
  | start => exact h
  | move m _ hs ih => exact .move m ih hs

/-- If every move of a system is some moves of a part of it, then the part reaches what the system
brings it to. -/
theorem project (part : σ → τ)
    (hstep : ∀ m s s', step m s = some s' → Reached step' (part s) (part s'))
    (h : Reached step s₀ s) : Reached step' (part s₀) (part s) := by
  induction h with
  | start => exact .start
  | move m _ hs ih => exact ih.trans (hstep m _ _ hs)

theorem single (m : μ) (h : step m s = some s') : Reached step s s' := .move m .start h

/-- A list of moves that can all be made, one after the other. -/
theorem of_moves {moves : List μ} (h : moves.foldlM (fun s m => step m s) s₀ = some s) :
    Reached step s₀ s := by
  induction moves generalizing s₀ with
  | nil =>
    simp only [List.foldlM_nil, Option.pure_def, Option.some.injEq] at h
    exact h ▸ .start
  | cons m moves ih =>
    simp only [List.foldlM_cons, Option.bind_eq_bind, Option.bind_eq_some_iff] at h
    obtain ⟨s₁, h₁, h⟩ := h
    exact (single m h₁).trans (ih h)

end Reached

/-- A run without the moves of one party, beside the run with them: if the states stay related when
that party moves in the one run only, and when anybody else moves in both, then the run goes as well
without that party. Only states from which the run goes on to its end count. -/
theorem run_without (own : μ → Bool) (R : σ → σ → Prop)
    (hown : ∀ m s s₁ r, R s r → own m = true → step m s = some s₁ → Reached step s₁ s' → R s₁ r)
    (hothers : ∀ m s s₁ r, R s r → own m = false → step m s = some s₁ → Reached step s₁ s' →
      ∃ r₁, step m r = some r₁ ∧ R s₁ r₁)
    {moves : List μ} {s r : σ} (hR : R s r)
    (h : moves.foldlM (fun s m => step m s) s = some s') :
    ∃ r', (moves.filter fun m => !own m).foldlM (fun s m => step m s) r = some r' ∧ R s' r' := by
  induction moves generalizing s r with
  | nil =>
    simp only [List.foldlM_nil, Option.pure_def, Option.some.injEq] at h
    subst h
    exact ⟨r, rfl, hR⟩
  | cons m moves ih =>
    simp only [List.foldlM_cons, Option.bind_eq_bind, Option.bind_eq_some_iff] at h
    obtain ⟨s₁, hs, h⟩ := h
    have hrest := Reached.of_moves h
    cases hm : own m with
    | true =>
      rw [List.filter_cons_of_neg (by simp [hm])]
      exact ih (hown m s s₁ r hR hm hs hrest) h
    | false =>
      obtain ⟨r₁, hr, hR₁⟩ := hothers m s s₁ r hR hm hs hrest
      obtain ⟨r', hr', hR'⟩ := ih hR₁ h
      refine ⟨r', ?_, hR'⟩
      rw [List.filter_cons_of_pos (by simp [hm])]
      simp [hr, hr']

/-- A list of moves, some of which belong to one party, up to a goal that is never lost. If each
move of that party takes from the work left and no move adds to it, then either the goal is reached
or the party has made no more moves than there was work. -/
theorem goal_or_work_left (own : μ → Bool) (work : σ → Nat) (P goal : σ → Prop)
    (hkeep : ∀ m s s', P s → step m s = some s' → P s')
    (hgoal : ∀ m s s', P s → goal s → step m s = some s' → goal s')
    (hwork : ∀ m s s', P s → step m s = some s' → goal s ∨ work s' + (own m).toNat ≤ work s)
    {moves : List μ} {s s' : σ} (hs : P s)
    (h : moves.foldlM (fun s m => step m s) s = some s') :
    P s' ∧ (goal s' ∨ work s' + moves.countP own ≤ work s) ∧ (goal s → goal s') := by
  induction moves generalizing s with
  | nil =>
    simp only [List.foldlM_nil, Option.pure_def, Option.some.injEq] at h
    subst h
    exact ⟨hs, .inr (Nat.le_refl _), id⟩
  | cons m moves ih =>
    simp only [List.foldlM_cons, Option.bind_eq_bind, Option.bind_eq_some_iff] at h
    obtain ⟨s₁, h₁, h⟩ := h
    obtain ⟨hP, hleft, hkept⟩ := ih (hkeep m _ _ hs h₁) h
    have hstays : goal s → goal s' := fun hg => hkept (hgoal m _ _ hs hg h₁)
    refine ⟨hP, ?_, hstays⟩
    rcases hwork m _ _ hs h₁ with hg | hfirst
    · exact .inl (hstays hg)
    · refine hleft.imp id fun hrest => ?_
      have hcount : (m :: moves).countP own = moves.countP own + (own m).toNat := by
        cases hm : own m <;> simp [hm]
      omega

end Handoff
