import Handoff.Proofs.Lowercase
import Handoff.Proofs.Utf8
import Handoff.Registry
import Handoff.Stage.Spec

/-!
# Choosing what is registered

A registry that was filled by any calls holds, under every name of one of them, the spec of the last
one. A choice of that name reaches its constructor, unless the name is blank. Names may be any text,
and the environment chooses a name without the blanks at its ends and in lowercase. So only a name
that is of this form already is chosen by setting the variable to it.
-/
namespace Handoff

variable {σ : Type} {name other : String} {spec : TypeSpec σ}

namespace Named

theorem mem_names_iff {β : Type} {t : Named β} : name ∈ t.names ↔ t.contains name = true := by
  simp [names, contains, get?]

end Named

namespace BufferSettings

/-- The form in which the environment chooses a name. -/
def plain (name : String) : String := String.ofList (Text.lowercase (Text.trim name.toList))

/-- No choice of such a name is valid. -/
def IsBlank (name : String) : Prop := Text.trim name.toList = []

instance (name : String) : Decidable (IsBlank name) :=
  inferInstanceAs (Decidable (Text.trim name.toList = []))

theorem isBlank_plain_iff : IsBlank (plain name) ↔ IsBlank name := by
  rw [IsBlank, plain, String.toList_ofList, Text.trim_lowercase_eq_nil_iff, IsBlank]

theorem validate_blank (h : IsBlank name) :
    validate ⟨name⟩ = .error (.invalidConfig "buffer type must not be empty") := by
  rw [IsBlank] at h
  simp [validate, h]

theorem validate_ok (h : ¬ IsBlank name) : validate ⟨name⟩ = .ok () := by
  rw [IsBlank] at h
  simp [validate, h]

theorem ofEnvironment_set {env : Environment}
    (h : env.values.get? "PIPELINE_BUFFER_TYPE" = some (Text.Utf8.encode name)) :
    ofEnvironment env = ⟨plain name⟩ := by
  have htext : env.text? "PIPELINE_BUFFER_TYPE" = some name := by
    rw [Environment.text?, h, Option.bind_some, Text.Utf8.decode?_encode]
  simp only [ofEnvironment, htext, plain]

end BufferSettings

namespace Registry

open BufferSettings (IsBlank plain)

variable {r : Registry σ} {calls : List (String × TypeSpec σ)}

/-- Registers one type after another. -/
def registerAll (r : Registry σ) (calls : List (String × TypeSpec σ)) : Registry σ :=
  calls.foldl (fun r call => (r.register call.1 call.2).1) r

/-- A registry that was filled by these calls alone. The one with the built-in types is filled by a
first call. -/
def filled (calls : List (String × TypeSpec σ)) : Registry σ := empty.registerAll calls

/-- The spec is the one of the last call with the name. -/
def LastFor (name : String) (spec : TypeSpec σ) (calls : List (String × TypeSpec σ)) : Prop :=
  ∃ before after, calls = before ++ (name, spec) :: after ∧ ∀ call ∈ after, call.1 ≠ name

theorem get?_register : (r.register name spec).1.specs.get? other =
    if other = name then some spec else r.specs.get? other :=
  Named.get?_put r.specs name other spec

theorem get?_registerAll_of_ne (h : ∀ call ∈ calls, call.1 ≠ name) :
    (r.registerAll calls).specs.get? name = r.specs.get? name := by
  induction calls generalizing r with
  | nil => rfl
  | cons call calls ih =>
    have hne : ¬ name = call.1 := fun heq => h call List.mem_cons_self heq.symm
    rw [registerAll, List.foldl_cons, ← registerAll,
      ih fun k hk => h k (List.mem_cons_of_mem _ hk), get?_register, if_neg hne]

theorem get?_registerAll_of_last (h : LastFor name spec calls) :
    (r.registerAll calls).specs.get? name = some spec := by
  obtain ⟨before, after, rfl, hafter⟩ := h
  rw [registerAll, List.foldl_append, List.foldl_cons, ← registerAll, get?_registerAll_of_ne hafter,
    get?_register, if_pos rfl]

/-- A name of one of the calls has a last one. -/
theorem exists_lastFor_or (name : String) (calls : List (String × TypeSpec σ)) :
    (∃ spec, LastFor name spec calls) ∨ ∀ call ∈ calls, call.1 ≠ name := by
  induction calls with
  | nil => exact .inr (List.forall_mem_nil _)
  | cons call calls ih =>
    rcases ih with ⟨spec, before, after, rfl, hafter⟩ | hnone
    · exact .inl ⟨spec, call :: before, after, rfl, hafter⟩
    · by_cases h : call.1 = name
      · exact .inl ⟨call.2, [], calls, by rw [← h]; rfl, hnone⟩
      · exact .inr (List.forall_mem_cons.mpr ⟨h, hnone⟩)

theorem mem_names_iff : name ∈ r.names ↔ r.contains name = true := by
  rw [names, List.mem_mergeSort, Named.mem_names_iff]
  rfl

theorem contains_iff : r.contains name = true ↔ ∃ spec, r.specs.get? name = some spec :=
  Option.isSome_iff_exists

theorem exists_lastFor (h : name ∈ (filled calls).names) : ∃ spec, LastFor name spec calls := by
  rcases exists_lastFor_or name calls with hlast | hnone
  · exact hlast
  · obtain ⟨spec, hspec⟩ := contains_iff.mp (mem_names_iff.mp h)
    rw [filled, get?_registerAll_of_ne hnone] at hspec
    cases hspec

theorem construct_blank (h : IsBlank name) : r.construct ⟨name⟩ =
    (.error (.invalidConfig "buffer type must not be empty"), []) := by
  simp only [construct, BufferSettings.validate_blank h]

theorem construct_known (h : ¬ IsBlank name) (hspec : r.specs.get? name = some spec) :
    r.construct ⟨name⟩ = (spec.constructor ⟨name⟩, [.constructing name]) := by
  simp only [construct, BufferSettings.validate_ok h, hspec]

theorem construct_unknown (h : ¬ IsBlank name) (hname : name ∉ r.names) :
    r.construct ⟨name⟩ = (.error (.unknownType name), []) := by
  have hspec : r.specs.get? name = none := by
    rw [mem_names_iff, contains_iff] at hname
    exact Option.eq_none_iff_forall_ne_some.mpr fun spec hspec => hname ⟨spec, hspec⟩
  simp only [construct, BufferSettings.validate_ok h, hspec]

/-- A registered name that is not blank reaches the spec of its last call. Set in the environment it
reaches the last one under its plain form, and none if there is none. A blank name is refused. -/
theorem construct_registered {env : Environment} (hname : name ∈ (filled calls).names)
    (henv : env.values.get? "PIPELINE_BUFFER_TYPE" = some (Text.Utf8.encode name)) :
    ∃ spec, LastFor name spec calls ∧
      (¬ IsBlank name →
        (filled calls).construct ⟨name⟩ = (spec.constructor ⟨name⟩, [.constructing name]) ∧
        (plain name = name → (filled calls).construct (BufferSettings.ofEnvironment env) =
          (spec.constructor ⟨name⟩, [.constructing name])) ∧
        (∀ other, LastFor (plain name) other calls →
          (filled calls).construct (BufferSettings.ofEnvironment env) =
            (other.constructor ⟨plain name⟩, [.constructing (plain name)])) ∧
        (plain name ∉ (filled calls).names →
          (filled calls).construct (BufferSettings.ofEnvironment env) =
            (.error (.unknownType (plain name)), []))) ∧
      (IsBlank name → ∀ settings ∈ [⟨name⟩, BufferSettings.ofEnvironment env],
        (filled calls).construct settings =
          (.error (.invalidConfig "buffer type must not be empty"), [])) := by
  obtain ⟨spec, hlast⟩ := exists_lastFor hname
  have hknown : ∀ {name spec}, ¬ IsBlank name → LastFor name spec calls →
      (filled calls).construct ⟨name⟩ = (spec.constructor ⟨name⟩, [.constructing name]) :=
    fun h hlast => construct_known h (get?_registerAll_of_last hlast)
  rw [BufferSettings.ofEnvironment_set henv]
  refine ⟨spec, hlast, fun h => ?_, fun h => ?_⟩
  · have hform : ¬ IsBlank (plain name) := mt BufferSettings.isBlank_plain_iff.mp h
    refine ⟨hknown h hlast, fun hplain => ?_, fun other hother => hknown hform hother,
      construct_unknown hform⟩
    rw [hplain]
    exact hknown h hlast
  · exact List.forall_mem_cons.mpr ⟨construct_blank h,
      List.forall_mem_singleton.mpr (construct_blank (BufferSettings.isBlank_plain_iff.mpr h))⟩

/-- The environment that sets the type to this name. -/
def choosing (name : String) : Environment :=
  ⟨Named.put {} "PIPELINE_BUFFER_TYPE" (Text.Utf8.encode name)⟩

theorem construct_registered_direct :
    ∃ spec, LastFor "direct" spec [("direct", Stage.spec)] ∧
      (filled [("direct", Stage.spec)]).construct
        (BufferSettings.ofEnvironment (choosing "direct")) =
          (spec.constructor ⟨"direct"⟩, [.constructing "direct"]) := by
  obtain ⟨spec, hlast, hreached, -⟩ :=
    @construct_registered _ "direct" [("direct", Stage.spec)] (choosing "direct")
      (mem_names_iff.mpr (by decide)) (by rfl)
  exact ⟨spec, hlast, (hreached (by decide)).2.1 (by decide +kernel)⟩

/-- Two names that are registered and not reached: a blank one as it is, and one with a capital from
the environment. -/
theorem registered_unreached :
    " " ∈ (filled [(" ", Stage.spec), ("Memory", Stage.spec)]).names ∧
    (filled [(" ", Stage.spec), ("Memory", Stage.spec)]).construct ⟨" "⟩ =
      (.error (.invalidConfig "buffer type must not be empty"), []) ∧
    "Memory" ∈ (filled [(" ", Stage.spec), ("Memory", Stage.spec)]).names ∧
    (filled [(" ", Stage.spec), ("Memory", Stage.spec)]).construct
      (BufferSettings.ofEnvironment (choosing "Memory")) =
        (.error (.unknownType "memory"), []) := by
  have hplain : plain "Memory" = "memory" := by decide +kernel
  refine ⟨mem_names_iff.mpr (by decide), construct_blank (by decide),
    mem_names_iff.mpr (by decide), ?_⟩
  rw [BufferSettings.ofEnvironment_set rfl, hplain]
  exact construct_unknown (by decide) (mt mem_names_iff.mp (by decide))

end Registry
end Handoff
