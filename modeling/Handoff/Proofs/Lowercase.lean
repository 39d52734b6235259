import Handoff.Text.Blank
import Handoff.Text.Lowercase
import Mathlib.Data.List.TakeWhile

/-!
# Blanks and lowercase

Trimming leaves nothing of a text of blanks only, and every other character of any text. Lowercasing
turns no character into a blank, so it makes no text blank that was not.
-/
namespace Handoff.Text

variable {s : List Char} {c : Char}

/-! ### Trimming -/

theorem mem_dropWhile_isBlank (hc : c ∈ s) (h : isBlank c = false) : c ∈ s.dropWhile isBlank := by
  rw [← List.takeWhile_append_dropWhile (p := isBlank) (l := s)] at hc
  rcases List.mem_append.mp hc with hc | hc
  · rw [List.mem_takeWhile_imp hc] at h
    cases h
  · exact hc

theorem mem_trim (hc : c ∈ s) (h : isBlank c = false) : c ∈ trim s := by
  have hstart : c ∈ (trimStart s).reverse := List.mem_reverse.mpr (mem_dropWhile_isBlank hc h)
  exact List.mem_reverse.mpr (mem_dropWhile_isBlank hstart h)

theorem trim_ne_nil_iff : trim s ≠ [] ↔ ∃ c ∈ s, isBlank c = false := by
  constructor
  · intro h
    by_contra hnone
    have hall : ∀ c ∈ s, isBlank c = true := by
      intro c hc
      cases hblank : isBlank c with
      | true => rfl
      | false => exact absurd ⟨c, hc, hblank⟩ hnone
    have hstart : trimStart s = [] := List.dropWhile_eq_nil_iff.mpr hall
    refine h ?_
    rw [trim, hstart]
    rfl
  · rintro ⟨c, hc, h⟩
    exact List.ne_nil_of_mem (mem_trim hc h)

/-! ### Lowercasing -/

/-- Where the members of a set begin and end. -/
def CodePoints.ranges : CodePoints → List (Nat × Nat)
  | first :: next :: set => (first, next) :: ranges set
  | _ => []

theorem CodePoints.has_cons_cons (first next : Nat) (set : CodePoints) (c : Char) :
    CodePoints.has (first :: next :: set) c = if c.toNat < first then false
      else if c.toNat < next then true else CodePoints.has set c := by
  by_cases hfirst : c.toNat < first
  · have h : ¬ first ≤ c.toNat := by omega
    simp [CodePoints.has, hfirst, h]
  · have h : first ≤ c.toNat := by omega
    by_cases hnext : c.toNat < next
    · have h' : ¬ next ≤ c.toNat := by omega
      simp [CodePoints.has, hfirst, hnext, h, h']
    · have h' : next ≤ c.toNat := by omega
      simp [CodePoints.has, hfirst, hnext, h, h', Nat.add_assoc]

theorem CodePoints.exists_range (set : CodePoints) (hset : set.length % 2 = 0)
    (h : set.has c = true) : ∃ r ∈ set.ranges, r.1 ≤ c.toNat ∧ c.toNat < r.2 := by
  induction set using CodePoints.ranges.induct with
  | case1 first next set ih =>
    rw [has_cons_cons] at h
    split at h
    · cases h
    · split at h
      · exact ⟨(first, next), List.mem_cons_self, by omega, by assumption⟩
      · obtain ⟨r, hr, hc⟩ := ih (by simp only [List.length_cons] at hset; omega) h
        exact ⟨r, List.mem_cons_of_mem _ hr, hc⟩
  | case2 set hshort =>
    cases set with
    | nil => cases h
    | cons first set =>
      cases set with
      | nil => cases hset
      | cons next set => exact absurd rfl (hshort first next set)

/-- No blank is the lowercase form of another character. -/
theorem lowerRanges_disjoint : ∀ r ∈ lowerRanges, ∀ b ∈ CodePoints.ranges whiteSpace,
    0 < b.1 ∧ (r.last + r.distance < b.1 ∨ b.2 ≤ r.first + r.distance) := by
  decide +kernel

theorem toNat_ofNat_or (n : Nat) : (Char.ofNat n).toNat = n ∨ (Char.ofNat n).toNat = 0 := by
  by_cases h : n.isValidChar
  · exact .inl (by rw [Char.ofNat, dif_pos h]; rfl)
  · exact .inr (by rw [Char.ofNat, dif_neg h]; rfl)

theorem isBlank_lowerChar (h : isBlank c = false) : isBlank (lowerChar c) = false := by
  unfold lowerChar
  split
  · rename_i r hr
    have hmem := List.mem_of_find?_eq_some hr
    have hhas := List.find?_some hr
    simp only [CaseRange.has, Bool.and_eq_true, decide_eq_true_eq] at hhas
    refine Bool.eq_false_iff.mpr fun hblank => ?_
    obtain ⟨b, hb, hfirst, hnext⟩ := CodePoints.exists_range whiteSpace rfl hblank
    obtain ⟨hpos, hout⟩ := lowerRanges_disjoint r hmem b hb
    have hform := toNat_ofNat_or (c.toNat + r.distance).toNat
    omega
  · exact h

theorem exists_mem_lowercaseAfter (before : List Char) (hc : c ∈ s) (h : isBlank c = false) :
    ∃ d ∈ lowercaseAfter before s, isBlank d = false := by
  induction s generalizing before with
  | nil => cases hc
  | cons a s ih =>
    rw [lowercaseAfter]
    rcases List.mem_cons.mp hc with rfl | hc
    · have hform : ∃ d ∈ lowerForm c, isBlank d = false := by
        unfold lowerForm
        split
        · exact ⟨'i', List.mem_cons_self, by decide⟩
        · exact ⟨_, List.mem_singleton_self _, isBlank_lowerChar h⟩
      refine (?_ : ∃ d ∈ _, _).imp fun d hd => ⟨List.mem_append_left _ hd.1, hd.2⟩
      split
      · split
        · exact ⟨'ς', List.mem_singleton_self _, by decide⟩
        · exact ⟨'σ', List.mem_singleton_self _, by decide⟩
      · exact hform
    · obtain ⟨d, hd, hblank⟩ := ih (a :: before) hc
      exact ⟨d, List.mem_append_right _ hd, hblank⟩

/-- A text that is trimmed and lowercased is blank only if it was. -/
theorem trim_lowercase_eq_nil_iff : trim (lowercase (trim s)) = [] ↔ trim s = [] := by
  constructor
  · intro h
    by_contra hne
    obtain ⟨c, hc, hblank⟩ := trim_ne_nil_iff.mp hne
    obtain ⟨d, hd, hd'⟩ := exists_mem_lowercaseAfter [] (mem_trim hc hblank) hblank
    exact trim_ne_nil_iff.mpr ⟨d, hd, hd'⟩ h
  · intro h
    rw [h]
    rfl

end Handoff.Text
