import Handoff.Proofs.Registering

/-!
# The last registration of a name

A registry is asked in any order to register types, to say what it holds and to construct stages.
What it answers depends on the registrations before alone, and for each name on the last of them.
Whatever comes of constructing a stage, the calls after it are answered as if nobody had asked for
one. A constructor is a function of the settings.
-/
namespace Handoff

namespace Registry

open BufferSettings (IsBlank)

variable {σ : Type} {r start : Registry σ} {name : String} {spec : TypeSpec σ}
  {past : List (String × TypeSpec σ)}

/-! ### Registrations -/

/-- The spec that counts for a name after registrations that were added to a registry: the one of
the last with this name or, if there is none, the one from the start. -/
def InForce (start : Registry σ) (past : List (String × TypeSpec σ)) (name : String)
    (spec : TypeSpec σ) : Prop :=
  LastFor name spec past ∨ (∀ call ∈ past, call.1 ≠ name) ∧ start.specs.get? name = some spec

theorem get?_registerAll_iff :
    (start.registerAll past).specs.get? name = some spec ↔ InForce start past name spec := by
  constructor
  · intro h
    rcases exists_lastFor_or name past with ⟨last, hlast⟩ | hnone
    · rw [get?_registerAll_of_last hlast] at h
      cases h
      exact .inl hlast
    · rw [get?_registerAll_of_ne hnone] at h
      exact .inr ⟨hnone, h⟩
  · rintro (hlast | ⟨hnone, h⟩)
    · exact get?_registerAll_of_last hlast
    · rw [get?_registerAll_of_ne hnone, h]

/-! ### What a registry tells -/

theorem names_perm : r.names.Perm r.specs.names := List.mergeSort_perm _ _

theorem names_ascending (r : Registry σ) :
    r.names.Pairwise fun a b => Text.Utf8.encode a < Text.Utf8.encode b := by
  have htrans : ∀ a b c : String, decide (a ≤ b) = true → decide (b ≤ c) = true →
      decide (a ≤ c) = true := by
    intro a b c hab hbc
    exact decide_eq_true (String.le_trans (of_decide_eq_true hab) (of_decide_eq_true hbc))
  have htotal : ∀ a b : String, (decide (a ≤ b) || decide (b ≤ a)) = true := by
    intro a b
    rw [Bool.or_eq_true, decide_eq_true_eq, decide_eq_true_eq]
    exact String.le_total a b
  have hsorted : r.names.Pairwise fun a b => decide (a ≤ b) = true :=
    List.pairwise_mergeSort htrans htotal r.specs.names
  have hnodup : r.names.Pairwise (· ≠ ·) := names_perm.nodup_iff.mpr r.distinct
  refine hsorted.imp₂ (fun a b hle hne => Text.Utf8.encode_lt_encode ?_) hnodup
  exact String.not_le.mp fun hge => hne (String.le_antisymm (of_decide_eq_true hle) hge)

theorem count_names (r : Registry σ) (name : String) :
    r.names.count name = if r.contains name then 1 else 0 := by
  rw [(names_perm.nodup_iff.mpr r.distinct).count]
  exact if_congr mem_names_iff rfl rfl

/-- A registry in which the names stand for these specs, seen from outside. -/
structure Tabulates (r : Registry σ) (inForce : String → TypeSpec σ → Prop) : Prop where
  /-- The names are in the order of their bytes, and none comes twice. -/
  ascending : r.names.Pairwise fun a b => Text.Utf8.encode a < Text.Utf8.encode b
  listed : ∀ name, r.names.count name = if r.contains name then 1 else 0
  contained : ∀ name, r.contains name = true ↔ ∃ spec, inForce name spec
  described : ∀ name text,
    r.description? name = some text ↔ ∃ spec, inForce name spec ∧ spec.description = text
  /-- A blank type is refused even if it is registered. -/
  blank : ∀ name, IsBlank name →
    r.construct ⟨name⟩ = (.error (.invalidConfig "buffer type must not be empty"), [])
  unknown : ∀ name, ¬ IsBlank name → (∀ spec, ¬ inForce name spec) →
    r.construct ⟨name⟩ = (.error (.unknownType name), [])
  constructed : ∀ name spec, ¬ IsBlank name → inForce name spec →
    r.construct ⟨name⟩ = (spec.constructor ⟨name⟩, [.constructing name])

theorem tabulates_registerAll (start : Registry σ) (past : List (String × TypeSpec σ)) :
    Tabulates (start.registerAll past) (InForce start past) where
  ascending := names_ascending _
  listed := count_names _
  contained name := by simp only [contains_iff, get?_registerAll_iff]
  described name text := by
    simp only [description?, Option.map_eq_some_iff, get?_registerAll_iff]
  blank name hblank := construct_blank hblank
  unknown name hblank hnone := by
    refine construct_unknown hblank fun hmem => ?_
    obtain ⟨spec, hspec⟩ := contains_iff.mp (mem_names_iff.mp hmem)
    exact hnone spec (get?_registerAll_iff.mp hspec)
  constructed name spec hblank hspec := construct_known hblank (get?_registerAll_iff.mpr hspec)

/-! ### Calls in any order -/

/-- What a registry is asked for. -/
inductive Call (σ : Type)
  | register (name : String) (spec : TypeSpec σ)
  | contains (name : String)
  | names
  | description (name : String)
  | construct (settings : BufferSettings)

/-- What a call gives back. -/
inductive Answer (σ : Type)
  | registered
  | contained (held : Bool)
  | listed (names : List String)
  | described (text? : Option String)
  | constructed (result : Except ConstructionError σ)

/-- The registry after a call, with the answer and the events that report it. -/
def serve (r : Registry σ) : Call σ → Registry σ × Answer σ × List Event
  | .register name spec => ((r.register name spec).1, .registered, [(r.register name spec).2])
  | .contains name => (r, .contained (r.contains name), [])
  | .names => (r, .listed r.names, [])
  | .description name => (r, .described (r.description? name), [])
  | .construct settings => (r, .constructed (r.construct settings).1, (r.construct settings).2)

def serveAll (r : Registry σ) (calls : List (Call σ)) : Registry σ :=
  calls.foldl (fun r call => (r.serve call).1) r

def Call.registration? : Call σ → Option (String × TypeSpec σ)
  | .register name spec => some (name, spec)
  | _ => none

def registrations (calls : List (Call σ)) : List (String × TypeSpec σ) :=
  calls.filterMap Call.registration?

variable {before later calls : List (Call σ)}

theorem serveAll_eq : r.serveAll calls = r.registerAll (registrations calls) := by
  induction calls generalizing r with
  | nil => rfl
  | cons call calls ih => cases call <;> exact ih

/-- Constructing a stage in between leaves the registry to the later calls as it was. -/
theorem serveAll_construct (settings : BufferSettings) :
    r.serveAll (before ++ .construct settings :: later) = r.serveAll (before ++ later) := by
  rw [serveAll_eq, serveAll_eq, registrations, registrations, List.filterMap_append,
    List.filterMap_append, List.filterMap_cons_none rfl]

/-- After any calls a registry tells of each name what its last registration says, and no
construction before changes what a call gives back or reports. -/
theorem last_registration_wins (start : Registry σ) (calls : List (Call σ)) :
    Tabulates (start.serveAll calls) (InForce start (registrations calls)) ∧
    ∀ settings later call,
      ((start.serveAll (calls ++ .construct settings :: later)).serve call).2 =
        ((start.serveAll (calls ++ later)).serve call).2 := by
  constructor
  · rw [serveAll_eq]
    exact tabulates_registerAll start _
  · intro settings later call
    rw [serveAll_construct]

/-- A type that can no longer be constructed. -/
def retired : TypeSpec Stage := ⟨fun _ => .error (.invalidConfig "always fails"), "broken"⟩

/-- The built-in type is constructed and replaced, a blank one is registered, and a type that nobody
registered is asked for. -/
def replacing : List (Call Stage) :=
  [.construct ⟨"none"⟩, .register "none" retired, .construct ⟨"none"⟩, .register " " Stage.spec,
    .construct ⟨"mmap_file"⟩]

theorem last_registration_wins_replaced :
    (Stage.defaultRegistry.serveAll replacing).names.count "none" = 1 ∧
      (Stage.defaultRegistry.serveAll replacing).description? "none" = some "broken" ∧
      (Stage.defaultRegistry.serveAll replacing).construct ⟨"none"⟩ =
        (.error (.invalidConfig "always fails"), [.constructing "none"]) ∧
      (Stage.defaultRegistry.serveAll replacing).construct ⟨" "⟩ =
        (.error (.invalidConfig "buffer type must not be empty"), []) ∧
      (Stage.defaultRegistry.serveAll replacing).construct ⟨"mmap_file"⟩ =
        (.error (.unknownType "mmap_file"), []) ∧
      ((Stage.defaultRegistry.serveAll (replacing ++ [.construct ⟨"none"⟩])).serve .names).2 =
        ((Stage.defaultRegistry.serveAll replacing).serve .names).2 := by
  obtain ⟨h, hconstruct⟩ := last_registration_wins Stage.defaultRegistry replacing
  have hnone : InForce Stage.defaultRegistry (registrations replacing) "none" retired :=
    .inl ⟨[], [(" ", Stage.spec)], rfl, by decide⟩
  have hunknown : ∀ spec,
      ¬ InForce Stage.defaultRegistry (registrations replacing) "mmap_file" spec := by
    intro spec hspec
    have hheld := (h.contained "mmap_file").mpr ⟨spec, hspec⟩
    revert hheld
    decide
  refine ⟨?_, (h.described _ _).mpr ⟨_, hnone, rfl⟩,
    h.constructed _ _ (by decide) hnone, h.blank _ (by decide),
    h.unknown _ (by decide) hunknown, ?_⟩
  · rw [h.listed, if_pos ((h.contained "none").mpr ⟨_, hnone⟩)]
  · rw [hconstruct ⟨"none"⟩ [] .names, List.append_nil]

end Registry
end Handoff
