import Handoff.Pipeline.Writer

/-!
# What a writer takes

A writer may take its bytes in as many calls as it likes, and fail at any of them. What it has taken
of a message is then the whole message, each part on a line of its own, or the message up to the
call that failed, which is the last one. A writer that never fails takes all of it.
-/
namespace Handoff

/-- What a message is written as. -/
def Message.written (m : Message) : Bytes := m.parts.flatMap (· ++ [10])

namespace Pipeline

/-- Why a call with at least one byte fails. -/
def Acceptance.fault? : Acceptance → Option String
  | .failure text => some text
  | .upTo 0 => some "write zero"
  | _ => none

namespace Writer

/-- Why a call fails, by the number of calls before. -/
def fault? (w : Writer) (n : Nat) : Option String := (w.accept n).fault?

/-- What comes of the calls from one number of calls to another. -/
def faults (w : Writer) (first last : Nat) : List (Option String) :=
  (List.range' first (last - first)).map w.fault?

/-- Every call takes something. -/
def NeverFails (w : Writer) : Prop :=
  ∀ n, w.accept n = .everything ∨ ∃ limit, 0 < limit ∧ w.accept n = .upTo limit

/-- What was taken, call by call. -/
structure Takes (w w' : Writer) (bytes : Bytes) : Prop where
  output : w'.output = w.output ++ bytes
  accept : w'.accept = w.accept
  flushFailure : w'.flushFailure = w.flushFailure
  calls : w.calls ≤ w'.calls
  sound : ∀ n, w.calls ≤ n → n < w'.calls → w.fault? n = none

variable {w w' w'' : Writer} {b : UInt8} {bytes more : Bytes} {text : String} {n : Nat}

theorem Takes.nil (w : Writer) : w.Takes w [] where
  output := (List.append_nil _).symm
  accept := rfl
  flushFailure := rfl
  calls := Nat.le_refl _
  sound _ hn hl := absurd hn (Nat.not_le.mpr hl)

theorem Takes.fault? (h : w.Takes w' bytes) (n : Nat) : w'.fault? n = w.fault? n := by
  rw [Writer.fault?, h.accept]
  rfl

theorem Takes.trans (h : w.Takes w' bytes) (h' : w'.Takes w'' more) :
    w.Takes w'' (bytes ++ more) where
  output := by rw [h'.output, h.output, List.append_assoc]
  accept := h'.accept.trans h.accept
  flushFailure := h'.flushFailure.trans h.flushFailure
  calls := Nat.le_trans h.calls h'.calls
  sound n hn hl := by
    by_cases hfirst : n < w'.calls
    · exact h.sound n hn hfirst
    · rw [← h.fault? n]
      exact h'.sound n (Nat.le_of_not_lt hfirst) hl

theorem Takes.neverFails_iff (h : w.Takes w' bytes) : w'.NeverFails ↔ w.NeverFails := by
  unfold NeverFails
  rw [h.accept]

theorem NeverFails.fault_eq_none (hw : w.NeverFails) (n : Nat) : w.fault? n = none := by
  unfold fault?
  rcases hw n with h | ⟨limit, hpos, h⟩
  · rw [h]
    rfl
  · rw [h]
    cases limit with
    | zero => exact absurd hpos (Nat.lt_irrefl 0)
    | succ limit => rfl

/-- A call was made and has failed. -/
def failed (w : Writer) : Writer := { w with calls := w.calls + 1 }

/-- What comes of writing some bytes: all of them are taken, or the last call fails before the last
of them. -/
inductive Puts (w : Writer) (bytes : Bytes) : Except String Unit × Writer → Prop
  | all {w' : Writer} : w.Takes w' bytes → Puts w bytes (.ok (), w')
  | cut {w' : Writer} {text taken rest} : w.Takes w' taken → bytes = taken ++ rest → rest ≠ [] →
      w'.fault? w'.calls = some text → Puts w bytes (.error text, w'.failed)

namespace Puts

variable {result : Except String Unit × Writer}

/-- Some bytes were taken before. -/
theorem after (ht : w.Takes w' bytes) (hp : w'.Puts more result) :
    w.Puts (bytes ++ more) result := by
  cases hp with
  | all ht' => exact .all (ht.trans ht')
  | cut ht' he hr hf =>
    refine .cut (ht.trans ht') ?_ hr hf
    rw [he, List.append_assoc]

/-- What would come after a failure is not written. -/
theorem before (hp : w.Puts bytes (.error text, w')) (more : Bytes) :
    w.Puts (bytes ++ more) (.error text, w') := by
  cases hp with
  | @cut _ _ taken rest ht he hr hf =>
    have hcut : bytes ++ more = taken ++ (rest ++ more) := by rw [he, List.append_assoc]
    exact .cut ht hcut (List.append_ne_nil_of_left_ne_nil hr more) hf

/-- The calls that were made for the bytes. -/
theorem faults_cases (hp : w.Puts bytes result) :
    (result.1 = .ok () ∧ ∃ k, w.faults w.calls result.2.calls = List.replicate k none) ∨
      ∃ text k, result.1 = .error text ∧
        w.faults w.calls result.2.calls = List.replicate k none ++ [some text] := by
  have hsound : ∀ {w' : Writer} {taken : Bytes}, w.Takes w' taken →
      w.faults w.calls w'.calls = List.replicate (w'.calls - w.calls) none := by
    intro w' taken ht
    refine List.eq_replicate_iff.mpr ⟨by simp [faults], fun f hf => ?_⟩
    obtain ⟨n, hn, rfl⟩ := List.mem_map.mp hf
    have hc := ht.calls
    rw [List.mem_range'_1] at hn
    exact ht.sound n hn.1 (by omega)
  cases hp with
  | all ht => exact .inl ⟨rfl, _, hsound ht⟩
  | @cut w' text taken rest ht he hr hf =>
    refine .inr ⟨text, w'.calls - w.calls, rfl, ?_⟩
    have hc : w'.calls + 1 - w.calls = (w'.calls - w.calls) + 1 := by
      have := ht.calls
      omega
    have hlast : w.calls + (w'.calls - w.calls) = w'.calls := by
      have := ht.calls
      omega
    rw [← hsound ht]
    show w.faults w.calls (w'.calls + 1) = _
    rw [faults, faults, hc, List.range'_concat, List.map_append, Nat.one_mul, hlast]
    rw [ht.fault? w'.calls] at hf
    simp only [List.map_cons, List.map_nil, hf]

end Puts

/-- A call fails, or takes a first piece that is not empty. -/
theorem call_cases (w : Writer) (b : UInt8) (bytes : Bytes) :
    (∃ text, w.call (b :: bytes) = (.error text, w.failed) ∧ w.fault? w.calls = some text) ∨
      ∃ w' taken rest, w.call (b :: bytes) = (.ok rest, w') ∧ w.Takes w' taken ∧
        b :: bytes = taken ++ rest ∧ rest.length ≤ bytes.length := by
  have hlength : ∀ n, 0 < n → ((b :: bytes).drop n).length ≤ bytes.length := by
    intro n hn
    rw [List.length_drop, List.length_cons]
    omega
  have htakes : ∀ n, w.fault? w.calls = none → w.Takes
      { w with calls := w.calls + 1, output := w.output ++ (b :: bytes).take n }
      ((b :: bytes).take n) := fun n hf =>
    { output := rfl
      accept := rfl
      flushFailure := rfl
      calls := Nat.le_succ _
      sound := fun m hm hl => by rwa [Nat.le_antisymm (Nat.le_of_lt_succ hl) hm] }
  unfold call
  cases ha : w.accept w.calls with
  | failure text => exact .inl ⟨text, rfl, by rw [fault?, ha]; rfl⟩
  | everything =>
    simp only [List.length_cons, Nat.add_one_ne_zero, if_false]
    exact .inr ⟨_, _, _, rfl, htakes _ (by rw [fault?, ha]; rfl), (List.take_append_drop ..).symm,
      hlength _ (by omega)⟩
  | upTo limit =>
    cases limit with
    | zero => exact .inl ⟨_, if_pos rfl, by rw [fault?, ha]; rfl⟩
    | succ limit =>
      simp only [Nat.add_one_ne_zero, if_false]
      exact .inr ⟨_, _, _, rfl, htakes _ (by rw [fault?, ha]; rfl), (List.take_append_drop ..).symm,
        hlength _ (by omega)⟩

theorem writeWithin_puts (w : Writer) (bytes : Bytes) (hn : bytes.length ≤ n) :
    w.Puts bytes (w.writeWithin n bytes) := by
  induction n generalizing w bytes with
  | zero =>
    obtain rfl := List.eq_nil_of_length_eq_zero (Nat.le_zero.mp hn)
    exact .all (.nil w)
  | succ n ih =>
    cases bytes with
    | nil => exact .all (.nil w)
    | cons b bytes =>
      rw [writeWithin]
      rcases w.call_cases b bytes with ⟨text, hc, hf⟩ | ⟨w', taken, rest, hc, ht, he, hl⟩
      · rw [hc]
        exact .cut (.nil w) rfl (List.cons_ne_nil _ _) hf
      · rw [hc, he]
        rw [List.length_cons] at hn
        exact .after ht (ih w' rest (by omega))

theorem writeParts_puts (w : Writer) (parts : List Bytes) :
    w.Puts (parts.flatMap (· ++ [10])) (w.writeParts parts) := by
  induction parts generalizing w with
  | nil => exact .all (.nil w)
  | cons part parts ih =>
    rw [List.flatMap_cons, writeParts]
    have hpart := w.writeWithin_puts part (Nat.le_refl _)
    rw [write]
    rcases hresult : w.writeWithin part.length part with ⟨result, w₁⟩
    rw [hresult] at hpart
    cases hpart with
    | cut ht he hr hf =>
      rw [List.append_assoc]
      exact (Puts.cut ht he hr hf).before _
    | all ht =>
      have hend := w₁.writeWithin_puts [10] (Nat.le_refl _)
      dsimp only
      rw [write, List.append_assoc]
      rcases hresult' : w₁.writeWithin [(10 : UInt8)].length [10] with ⟨result, w₂⟩
      rw [hresult'] at hend
      cases hend with
      | cut ht' he hr hf => exact .after ht ((Puts.cut ht' he hr hf).before _)
      | all ht' => exact .after ht (.after ht' (ih w₂))

/-- A message is written as a whole, or up to a failure. -/
theorem writeMessage_puts (w : Writer) (m : Message) : w.Puts m.written (w.writeMessage m) :=
  w.writeParts_puts m.parts

/-- A writer that never fails takes the whole message. -/
theorem writeMessage_takes (hw : w.NeverFails) (m : Message) :
    ∃ w', w.writeMessage m = (.ok (), w') ∧ w.Takes w' m.written := by
  have hputs := w.writeMessage_puts m
  rcases hresult : w.writeMessage m with ⟨result, w'⟩
  rw [hresult] at hputs
  cases hputs with
  | all ht => exact ⟨w', rfl, ht⟩
  | cut ht _ _ hf =>
    rw [NeverFails.fault_eq_none (ht.neverFails_iff.mpr hw)] at hf
    cases hf

end Writer
end Pipeline
end Handoff
