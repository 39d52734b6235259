/-!
# Tables keyed by name

A finite table from names to values that keeps the order in which the names first appeared.
Writing under a name that is already present replaces its value in place.
-/
namespace Handoff

/-- Rows of a table, in the order in which their names first appeared. -/
structure Named (β : Type) where
  rows : List (String × β) := []

namespace Named

variable {β : Type}

def empty : Named β := {}

def get? (t : Named β) (name : String) : Option β := t.rows.lookup name

def contains (t : Named β) (name : String) : Bool := (t.get? name).isSome

def names (t : Named β) : List String := t.rows.map (·.1)

/-- Rows with the value under `name` replaced, or with a new row at the end. -/
def putRows (name : String) (value : β) : List (String × β) → List (String × β)
  | [] => [(name, value)]
  | row :: rest => if row.1 = name then (name, value) :: rest else row :: putRows name value rest

def put (t : Named β) (name : String) (value : β) : Named β := ⟨putRows name value t.rows⟩

def erase (t : Named β) (name : String) : Named β := ⟨t.rows.filter fun row => row.1 ≠ name⟩

theorem lookup_putRows (name other : String) (value : β) (rows : List (String × β)) :
    (putRows name value rows).lookup other =
      if other = name then some value else rows.lookup other := by
  induction rows with
  | nil =>
    by_cases h : other = name
    · simp [putRows, h]
    · have hb : (other == name) = false := by simpa using h
      simp [putRows, List.lookup_cons, h, hb]
  | cons row rest ih =>
    obtain ⟨key, old⟩ := row
    by_cases hk : key = name
    · subst hk
      by_cases h : other = key
      · simp [putRows, h]
      · have hb : (other == key) = false := by simpa using h
        simp [putRows, List.lookup_cons, h, hb]
    · simp only [putRows, hk, if_false, List.lookup_cons]
      by_cases h : other = key
      · have hn : other ≠ name := fun e => hk (h ▸ e)
        simp [h, hk]
      · have hb : (other == key) = false := by simpa using h
        simp [hb, ih]

@[simp] theorem get?_put (t : Named β) (name other : String) (value : β) :
    (t.put name value).get? other = if other = name then some value else t.get? other :=
  lookup_putRows name other value t.rows

theorem names_putRows (name : String) (value : β) (rows : List (String × β)) :
    (putRows name value rows).map (·.1) =
      if name ∈ rows.map (·.1) then rows.map (·.1) else rows.map (·.1) ++ [name] := by
  induction rows with
  | nil => rfl
  | cons row rest ih =>
    rw [putRows]
    by_cases h : row.1 = name
    · rw [if_pos h, if_pos (by simp [h]), List.map_cons, List.map_cons, h]
    · rw [if_neg h, List.map_cons, List.map_cons, ih]
      by_cases hrest : name ∈ rest.map (·.1)
      · rw [if_pos hrest, if_pos (List.mem_cons_of_mem _ hrest)]
      · rw [if_neg hrest, if_neg, List.cons_append]
        exact fun hmem => hrest (List.mem_of_ne_of_mem (Ne.symm h) hmem)

/-- A table in which no name has two rows stays one. -/
theorem nodup_names_put {t : Named β} (h : t.names.Nodup) (name : String) (value : β) :
    (t.put name value).names.Nodup := by
  rw [names, put, names_putRows]
  by_cases hname : name ∈ t.rows.map (·.1)
  · rw [if_pos hname]
    exact h
  · rw [if_neg hname]
    exact (List.perm_append_singleton name _).nodup_iff.mpr (List.nodup_cons.mpr ⟨hname, h⟩)

end Named
end Handoff
