import Handoff.Reply

/-!
# Outcomes in the ledger of replies

The outcome of a transaction is written once. An answer and a release write it for the serial
numbers they name, where it is still open, and leave every other outcome alone. `Writes` says this
of two ledgers without naming the operation between them.
-/
namespace Handoff

/-- What became of the transaction with this serial number, as far as that is known. -/
def Replies.outcome (rs : Replies) (serial : Nat) : Option Outcome := (rs.get serial).outcome

/-- Between two readings of the ledger the outcome of these transactions was written, and no
other. -/
structure Writes (before after : Nat → Option Outcome) (ts : List Transaction) (o : Outcome) :
    Prop where
  written : ∀ t ∈ ts, after t.serial = some o
  others : ∀ serial, (∀ t ∈ ts, t.serial ≠ serial) → after serial = before serial

namespace Replies

variable {rs : Replies} {serial : Nat}

@[simp] theorem next_answer (rs : Replies) (serial : Nat) (o : Outcome) :
    (rs.answer serial o).next = rs.next := next_modify ..

@[simp] theorem next_release (rs : Replies) (serial : Nat) :
    (rs.release serial).next = rs.next := next_modify ..

@[simp] theorem next_releaseAll (rs : Replies) (ts : List Transaction) :
    (rs.releaseAll ts).next = rs.next := by
  induction ts generalizing rs with
  | nil => rfl
  | cons t ts ih => exact (ih (rs.release t.serial)).trans (next_release ..)

theorem outcome_of_next_le (h : rs.next ≤ serial) : rs.outcome serial = none := by
  simp only [next] at h
  simp [outcome, get, List.getD_eq_getElem?_getD, h, Reply.fresh]

/-- A new slot is open, as the ledger already said of it. -/
@[simp] theorem outcome_issue (rs : Replies) (serial : Nat) :
    rs.issue.outcome serial = rs.outcome serial := by
  by_cases h : serial < rs.slots.length
  · simp [outcome, get, issue, List.getD_eq_getElem?_getD, List.getElem?_append_left h]
  · have ho : rs.outcome serial = none := outcome_of_next_le (by simpa [next] using h)
    rw [ho]
    by_cases he : serial = rs.slots.length
    · simp [outcome, get, issue, List.getD_eq_getElem?_getD, he, Reply.fresh]
    · have hl : rs.issue.next ≤ serial := by
        rw [next_issue, next]
        omega
      exact outcome_of_next_le hl

theorem outcome_answer_same (h : serial < rs.next) (o : Outcome) :
    (rs.answer serial o).outcome serial = some ((rs.outcome serial).getD o) := by
  rw [outcome, answer, get_modify_same h, Reply.outcome_answer, outcome]

theorem outcome_answer_other {other : Nat} (h : serial ≠ other) (o : Outcome) :
    (rs.answer serial o).outcome other = rs.outcome other := by
  rw [outcome, answer, get_modify_other h, outcome]

/-- A second answer changes nothing at all. -/
theorem answer_of_settled (h : (rs.outcome serial).isSome) (o : Outcome) :
    rs.answer serial o = rs := by
  have hs : ∀ r, rs.slots[serial]? = some r → r.answer o = r := by
    intro r hr
    simp only [outcome, get, List.getD_eq_getElem?_getD, hr, Option.getD_some] at h
    unfold Reply.answer
    split
    · simp_all
    · rfl
  have hl : rs.slots.modify serial (·.answer o) = rs.slots := by
    apply List.ext_getElem?
    intro i
    rw [List.getElem?_modify]
    by_cases hi : serial = i
    · subst hi
      cases hr : rs.slots[serial]? with
      | none => simp
      | some r => simp [hs r hr]
    · simp [hi]
  simp only [answer, modify, hl]

theorem writes_answer {t : Transaction} (hi : t.serial < rs.next)
    (ho : rs.outcome t.serial = none) (o : Outcome) :
    Writes rs.outcome (rs.answer t.serial o).outcome [t] o where
  written u hu := by
    obtain rfl := List.mem_singleton.mp hu
    rw [outcome_answer_same hi, ho, Option.getD_none]
  others serial h := outcome_answer_other (h t (List.mem_singleton_self t)) o

/-- An outcome found after an answer was there before, or is that answer. -/
theorem outcome_answer_cases {other : Nat} {o o' : Outcome}
    (h : (rs.answer serial o).outcome other = some o') :
    rs.outcome other = some o' ∨ serial = other ∧ o' = o := by
  by_cases he : serial = other
  · subst he
    cases hr : rs.outcome serial with
    | some known =>
      rw [answer_of_settled (by rw [hr]; rfl), hr] at h
      exact .inl h
    | none =>
      by_cases hi : serial < rs.next
      · rw [outcome_answer_same hi, hr] at h
        exact .inr ⟨rfl, (Option.some.inj h).symm⟩
      · rw [outcome_of_next_le (by rw [next_answer]; omega)] at h
        cases h
  · rw [outcome_answer_other he] at h
    exact .inl h

theorem outcome_releaseAll_cases {ts : List Transaction} {o : Outcome}
    (h : (rs.releaseAll ts).outcome serial = some o) :
    rs.outcome serial = some o ∨ o = .dropped := by
  induction ts generalizing rs with
  | nil => exact .inl h
  | cons t ts ih => exact (ih h).elim (fun hr => (outcome_answer_cases hr).imp id (·.2)) .inr

/-- Letting go of open transactions, each once, writes `dropped` for all of them. -/
theorem writes_releaseAll {ts : List Transaction} (hi : ∀ t ∈ ts, t.serial < rs.next)
    (ho : ∀ t ∈ ts, rs.outcome t.serial = none) (hd : (ts.map (·.serial)).Nodup) :
    Writes rs.outcome (rs.releaseAll ts).outcome ts .dropped := by
  induction ts generalizing rs with
  | nil => exact ⟨by simp, fun _ _ => rfl⟩
  | cons t ts ih =>
    simp only [List.map_cons, List.nodup_cons, List.mem_map, not_exists, not_and] at hd
    have hfirst := writes_answer (hi t List.mem_cons_self) (ho t List.mem_cons_self) .dropped
    have hopen : ∀ u ∈ ts, (rs.release t.serial).outcome u.serial = none := by
      intro u hu
      rw [release, outcome_answer_other (fun he => hd.1 u hu he.symm)]
      exact ho u (List.mem_cons_of_mem t hu)
    have hissued : ∀ u ∈ ts, u.serial < (rs.release t.serial).next := by
      intro u hu
      rw [next_release]
      exact hi u (List.mem_cons_of_mem t hu)
    have hrest := ih hissued hopen hd.2
    constructor
    · intro u hu
      rcases List.mem_cons.mp hu with rfl | hu
      · exact (hrest.others u.serial fun v hv => hd.1 v hv).trans
          (hfirst.written u (List.mem_singleton_self u))
      · exact hrest.written u hu
    · intro serial hn
      rw [releaseAll, List.foldl_cons]
      refine (hrest.others serial fun u hu => hn u (List.mem_cons_of_mem t hu)).trans ?_
      exact outcome_answer_other (hn t List.mem_cons_self) .dropped

/-- From one ledger to the other no slot was opened and no outcome was lost. -/
structure Keeps (rs rs' : Replies) : Prop where
  next : rs'.next = rs.next
  outcome : ∀ serial o, rs.outcome serial = some o → rs'.outcome serial = some o

namespace Keeps

variable {rs' rs'' : Replies}

theorem refl (rs : Replies) : rs.Keeps rs := ⟨rfl, fun _ _ h => h⟩

theorem trans (h : rs.Keeps rs') (h' : rs'.Keeps rs'') : rs.Keeps rs'' :=
  ⟨h'.next.trans h.next, fun serial o ho => h'.outcome serial o (h.outcome serial o ho)⟩

theorem isSome {serial : Nat} (h : rs.Keeps rs') (ho : (rs.outcome serial).isSome) :
    (rs'.outcome serial).isSome := by
  obtain ⟨o, ho⟩ := Option.isSome_iff_exists.mp ho
  exact Option.isSome_of_eq_some (h.outcome serial o ho)

theorem answer (rs : Replies) (serial : Nat) (o : Outcome) : rs.Keeps (rs.answer serial o) := by
  refine ⟨next_answer .., fun other o' ho => ?_⟩
  by_cases he : serial = other
  · subst he
    rwa [answer_of_settled (by rw [ho]; rfl)]
  · rwa [outcome_answer_other he]

theorem releaseAll (rs : Replies) (ts : List Transaction) : rs.Keeps (rs.releaseAll ts) := by
  induction ts generalizing rs with
  | nil => exact refl rs
  | cons t ts ih => exact (answer rs t.serial .dropped).trans (ih _)

end Keeps

/-- Whatever is let go has an outcome afterwards. -/
theorem isSome_releaseAll {ts : List Transaction} {t : Transaction} (ht : t ∈ ts)
    (hi : t.serial < rs.next) : ((rs.releaseAll ts).outcome t.serial).isSome := by
  induction ts generalizing rs with
  | nil => cases ht
  | cons u ts ih =>
    rcases List.mem_cons.mp ht with rfl | ht
    · have ho := outcome_answer_same hi .dropped
      have hk := (Keeps.releaseAll (rs.release t.serial) ts).outcome t.serial _ ho
      exact Option.isSome_of_eq_some hk
    · exact ih ht (by rwa [next_release])

end Replies
end Handoff
