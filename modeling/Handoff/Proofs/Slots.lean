import Handoff.Proofs.Delivery

/-!
# How many slots a run asks for

The environment may set how many slots the inbound channel of a run has. The settings take any
numeral of 64 bits but zero. A channel admits far fewer slots than that, and the run opens it with
whatever the settings hold, so a numeral beyond the limit of channels is taken and ends the run
before it begins. Nothing else that the variable may hold does so, and no later move of a run does.
-/
namespace Handoff

namespace Text

variable {s : List Char} {n : Nat}

/-- What a number may be written as: digits, and a plus sign in front or none. -/
def Numeral (s : List Char) (n : Nat) : Prop :=
  ∃ digits, (s = digits ∨ s = '+' :: digits) ∧ digits ≠ [] ∧
    (∀ c ∈ digits, isDigit c = true) ∧ digitsValue digits = n

theorem digits?_eq_some_iff : digits? s = some n ↔
    s ≠ [] ∧ (∀ c ∈ s, isDigit c = true) ∧ digitsValue s = n ∧ n < wordLimit := by
  unfold digits?
  by_cases hs : s = []
  · simp [hs]
  · by_cases hd : s.all isDigit = true
    · have hall := List.all_eq_true.mp hd
      simp only [List.isEmpty_eq_false_iff.mpr hs, hd, Bool.not_true, Bool.or_self,
        Bool.false_eq_true, if_false, Option.ite_none_right_eq_some, Option.some.injEq]
      constructor
      · rintro ⟨hn, rfl⟩
        exact ⟨hs, hall, rfl, hn⟩
      · rintro ⟨-, -, rfl, hn⟩
        exact ⟨hn, rfl⟩
    · have hnot : ¬ ∀ c ∈ s, isDigit c = true := fun h => hd (List.all_eq_true.mpr h)
      simp [hd, hnot]

/-- Reading takes the numerals of 64 bits and nothing else. -/
theorem unsigned?_eq_some_iff : unsigned? s = some n ↔ Numeral s n ∧ n < wordLimit := by
  have hplus : ¬ isDigit '+' = true := by decide
  unfold unsigned?
  split
  · rename_i rest
    rw [digits?_eq_some_iff]
    constructor
    · rintro ⟨hne, hd, hv, hn⟩
      exact ⟨⟨rest, .inr rfl, hne, hd, hv⟩, hn⟩
    · rintro ⟨⟨digits, hs | hs, hne, hd, hv⟩, hn⟩
      · -- a plus sign is no digit
        exact absurd (hd '+' (hs ▸ List.mem_cons_self)) hplus
      · obtain rfl := List.cons.inj hs |>.2
        exact ⟨hne, hd, hv, hn⟩
  · rename_i hfirst
    rw [digits?_eq_some_iff]
    constructor
    · rintro ⟨hne, hd, hv, hn⟩
      exact ⟨⟨s, .inl rfl, hne, hd, hv⟩, hn⟩
    · rintro ⟨⟨digits, hs | hs, hne, hd, hv⟩, hn⟩
      · subst hs
        exact ⟨hne, hd, hv, hn⟩
      · exact absurd hs (hfirst digits)

end Text

namespace PipelineSettings

variable {env : Environment} {n : Nat}

/-- The variable that sets the number of slots holds a numeral of 64 bits for this number. -/
def Sets (env : Environment) (n : Nat) : Prop :=
  ∃ value, env.text? "PIPELINE_INBOUND_CAPACITY" = some value ∧
    Text.Numeral value.toList n ∧ n < Text.wordLimit

theorem readCapacity?_eq_some_iff {value : String} : readCapacity? value = some n ↔
    Text.Numeral value.toList n ∧ n < Text.wordLimit ∧ 0 < n := by
  rw [readCapacity?, Option.filter_eq_some_iff, Text.unsigned?_eq_some_iff, decide_eq_true_iff,
    and_assoc]

/-- The slots of the settings are an override by the variable of their number. -/
theorem inboundCapacity_eq (env : Environment) : (ofEnvironment env).1.inboundCapacity =
    (override env "PIPELINE_INBOUND_CAPACITY" readCapacity? .capacityIgnored
      default.inboundCapacity).1 :=
  rfl

theorem inboundCapacity_of_sets (h : Sets env n) (hn : 0 < n) :
    (ofEnvironment env).1.inboundCapacity = n := by
  obtain ⟨value, hv, hnum, hlt⟩ := h
  have hread : readCapacity? value = some n := readCapacity?_eq_some_iff.mpr ⟨hnum, hlt, hn⟩
  rw [inboundCapacity_eq, override, hv]
  simp only [hread]

/-- The settings hold a number other than zero that the variable sets, or the default. -/
theorem inboundCapacity_cases (env : Environment) :
    (Sets env (ofEnvironment env).1.inboundCapacity ∧
      0 < (ofEnvironment env).1.inboundCapacity) ∨
        (ofEnvironment env).1.inboundCapacity = default.inboundCapacity := by
  rw [inboundCapacity_eq, override]
  cases hv : env.text? "PIPELINE_INBOUND_CAPACITY" with
  | none => exact .inr rfl
  | some value =>
    cases hread : readCapacity? value with
    | none => exact .inr (by simp only [hread])
    | some n =>
      obtain ⟨hnum, hlt, hn⟩ := readCapacity?_eq_some_iff.mp hread
      simp only [hread]
      exact .inl ⟨⟨value, hv, hnum, hlt⟩, hn⟩

theorem inboundCapacity_pos (env : Environment) : 0 < (ofEnvironment env).1.inboundCapacity := by
  rcases inboundCapacity_cases env with ⟨-, hn⟩ | hd
  · exact hn
  · rw [hd]
    decide

/-- The variable sets more slots than a channel can have. -/
def Oversized (env : Environment) : Prop := ∃ n, Sets env n ∧ Pipeline.maxSlots < n

theorem oversized_iff (env : Environment) :
    Oversized env ↔ Pipeline.maxSlots < (ofEnvironment env).1.inboundCapacity := by
  constructor
  · rintro ⟨n, hs, hn⟩
    rw [inboundCapacity_of_sets hs (by omega)]
    exact hn
  · intro hn
    rcases inboundCapacity_cases env with ⟨hs, -⟩ | hd
    · exact ⟨_, hs, hn⟩
    · -- the default is far below the limit
      rw [hd] at hn
      exact absurd hn (by decide)

end PipelineSettings

namespace Pipeline

theorem capacityFault?_eq_some_iff {slots : Nat} {fault : CapacityFault} (hs : 0 < slots) :
    capacityFault? slots = some fault ↔ fault = .tooMany ∧ maxSlots < slots := by
  rw [capacityFault?, if_neg (by omega), Option.ite_none_right_eq_some, Option.some.injEq,
    and_comm, eq_comm]

/-- The fault of the number of slots that a run failed with. -/
def Consumer.capacityFault? : Consumer → Option CapacityFault
  | .returned (.error (.capacity fault)) => some fault
  | _ => none

namespace Run

variable {settings : PipelineSettings} {registry : Registry Buffer} {feed : Feed} {writer : Writer}
  {r r' : Run} {m : Move} {fault : CapacityFault}

theorem result?_eq_capacity_iff :
    r.result? = some (.error (.capacity fault)) ↔ r.consumer.capacityFault? = some fault := by
  constructor
  · intro hs
    rw [consumer_of_result hs]
    rfl
  · intro hf
    unfold Consumer.capacityFault? at hf
    split at hf
    · rename_i hc
      cases hf
      rw [result?, hc]
    · cases hf

theorem capacityFault?_attach (hc : r.consumer = .selecting) (slots : Nat) :
    (r.attach slots).consumer.capacityFault? = none := by
  have hbegun : r.consumer.capacityFault? = none := by rw [hc]; rfl
  obtain ⟨calls, hcount⟩ := r.count_eq fun c => { c with starts := c.starts + 1 }
  unfold attach
  rw [hcount]
  dsimp only
  split
  · rfl
  · exact hbegun
  · split
    · split
      · exact hbegun
      · exact hbegun
    · rfl

/-- A run looks at the number of slots when it has constructed its stage. -/
theorem capacityFault?_start :
    (start settings registry feed writer).consumer.capacityFault? = some fault ↔
      Pipeline.capacityFault? settings.inboundCapacity = some fault ∧
        ∃ buffer, (registry.construct settings.buffer).1 = .ok buffer := by
  unfold start
  dsimp only
  split
  · rename_i e he
    simp [he, failed, Consumer.capacityFault?]
  · rename_i buffer hb
    cases hf : Pipeline.capacityFault? settings.inboundCapacity with
    | some found => simp [hb, failed, Consumer.capacityFault?]
    | none =>
      dsimp only
      refine iff_of_false (fun h => ?_) (by simp)
      split at h
      · rw [capacityFault?_attach rfl] at h
        cases h
      · exact absurd ((capacityFault?_attach rfl settings.inboundCapacity).symm.trans h) (by simp)

/-- The consumer returns what it found of the output or of the close, never such a fault. -/
theorem Consumes.capacityFault?_eq_none (hs : Consumes r r') :
    r'.consumer.capacityFault? = none := by
  cases hs with
  | take | findEnd | write | failWrite | flush | askCancel | stop => rfl
  | failFlush | confirm | expire =>
    obtain ⟨h, -, he⟩ := finish_cases _ _
    rw [he]
    rfl
  | interrupt hp =>
    obtain ⟨hub, calls, hstop⟩ := stop_frame { r.note .shutdownReceived with
      summary := { r.summary with interrupted := true } }
    rw [hstop]
    show r.consumer.capacityFault? = none
    rw [hp]
    rfl

/-- Once a run has begun, no move makes it end in a fault of the number of slots. -/
theorem capacityFault?_step (hs : r.step m = some r') :
    r'.consumer.capacityFault? = some fault ↔ r.consumer.capacityFault? = some fault := by
  cases step_cases hs with
  | arrive | signal | learn | report | loop => exact Iff.rfl
  | produce hs => rw [hs.leaves.consumer]
  | consume hs =>
    rw [hs.capacityFault?_eq_none]
    refine iff_of_false (by simp) fun hf => ?_
    exact not_consumes (consumer_of_result (result?_eq_capacity_iff.mpr hf)) hs

/-- What becomes of the slots that an environment asks for. -/
structure Opens (env : Environment) (registry : Registry Buffer) (feed : Feed)
    (writer : Writer) : Prop where
  positive : 0 < (PipelineSettings.ofEnvironment env).1.inboundCapacity
  /-- A channel can have the slots that the settings hold, unless the variable sets too many. -/
  admitted : ∀ fault,
    Pipeline.capacityFault? (PipelineSettings.ofEnvironment env).1.inboundCapacity = some fault ↔
      fault = .tooMany ∧ PipelineSettings.Oversized env
  /-- In that case a run that can construct its stage fails, and in no other. -/
  fails : ∀ r, Reached step (start (PipelineSettings.ofEnvironment env).1 registry feed writer) r →
    ∀ fault, r.result? = some (.error (.capacity fault)) ↔
      (fault = .tooMany ∧ PipelineSettings.Oversized env) ∧
        ∃ buffer, (registry.construct (PipelineSettings.ofEnvironment env).1.buffer).1 = .ok buffer

/-- The settings hold a number of slots that a channel can have, and a run does not fail on it at
any moment, unless the variable sets more slots than a channel can have. -/
theorem opens_unless_oversized (env : Environment) (registry : Registry Buffer) (feed : Feed)
    (writer : Writer) : Opens env registry feed writer := by
  have hpos := PipelineSettings.inboundCapacity_pos env
  have hfault : ∀ fault,
      Pipeline.capacityFault? (PipelineSettings.ofEnvironment env).1.inboundCapacity = some fault ↔
        fault = .tooMany ∧ PipelineSettings.Oversized env := by
    intro fault
    rw [capacityFault?_eq_some_iff hpos, PipelineSettings.oversized_iff]
  refine ⟨hpos, hfault, fun r hr fault => ?_⟩
  rw [result?_eq_capacity_iff, ← hfault, ← capacityFault?_start]
  exact hr.invariant (P := fun r => r.consumer.capacityFault? = some fault ↔ _) Iff.rfl
    fun m s s' hs hstep => (capacityFault?_step hstep).trans hs

/-- An environment that sets one slot more than a channel can have. -/
def pastLimit : Environment :=
  ⟨Named.put {} "PIPELINE_INBOUND_CAPACITY" "2305843009213693952".toUTF8.toList⟩

/-- The settings take that number without a complaint, and the run fails on it. -/
theorem fails_past_limit :
    PipelineSettings.ofEnvironment pastLimit =
        ({ PipelineSettings.default with inboundCapacity := maxSlots + 1 }, []) ∧
      Pipeline.capacityFault? (PipelineSettings.ofEnvironment pastLimit).1.inboundCapacity ≠ none ∧
        (start (PipelineSettings.ofEnvironment pastLimit).1 Buffer.defaultRegistry {} {}).result? =
          some (.error (.capacity .tooMany)) := by
  have htaken : PipelineSettings.ofEnvironment pastLimit =
      ({ PipelineSettings.default with inboundCapacity := maxSlots + 1 }, []) := by
    decide +kernel
  refine ⟨htaken, ?_⟩
  rw [htaken]
  constructor
  · decide
  · rfl

end Run
end Pipeline
end Handoff
