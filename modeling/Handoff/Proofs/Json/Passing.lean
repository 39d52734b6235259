import Handoff.Proofs.Json.Spelling

/-!
# Passing over values

A member that nobody wants is passed over. Whatever value it has, however long or deep, the place of
reading is then right behind it: the loop takes a number of turns that depends on the value alone,
at most three for each of its characters, and leaves what was open around the value as it was.
-/
namespace Handoff.Json

open Handoff.Text (isDigit)

variable {b s rest v : List Char} {c : Char}

/-! ### Numbers -/

/-- No digit comes next. -/
def NoDigit (rest : List Char) : Prop := ∀ c ∈ rest.head?, isDigit c = false

theorem EndsValue.goesOn (h : EndsValue rest) (hc : c ∈ rest.head?) :
    isDigit c = false ∧ c ≠ '.' ∧ c ≠ 'e' ∧ c ≠ 'E' := by
  rcases h c hc with hb | rfl | rfl | rfl
  · simp only [isBlank, Bool.or_eq_true, decide_eq_true_eq] at hb
    rcases hb with ((rfl | rfl) | rfl) | rfl <;> decide
  all_goals decide

theorem EndsValue.noDigit (h : EndsValue rest) : NoDigit rest := fun _ hc => (h.goesOn hc).1

theorem NoDigit.of_cons (hc : isDigit c = false) : NoDigit (c :: s) := by
  intro d hd
  obtain rfl : c = d := by simpa using hd
  exact hc

theorem IsExponent.noDigit (h : IsExponent s) (hr : EndsValue rest) : NoDigit (s ++ rest) := by
  cases h with
  | absent => exact hr.noDigit
  | digits he => rcases he with rfl | rfl <;> exact .of_cons rfl

theorem IsFraction.noDigit {exponent : List Char} (h : IsFraction s) (he : IsExponent exponent)
    (hr : EndsValue rest) : NoDigit (s ++ exponent ++ rest) := by
  cases h with
  | absent => exact he.noDigit hr
  | digits => exact .of_cons rfl

theorem dropWhile_digits (hs : ∀ c ∈ s, isDigit c = true) (hr : NoDigit rest) :
    (s ++ rest).dropWhile isDigit = rest := by
  rw [List.dropWhile_append_of_pos hs]
  cases rest with
  | nil => rfl
  | cons c rest => rw [List.dropWhile_cons_of_neg (by simp [hr c rfl])]

theorem takeWhile_digits (hs : ∀ c ∈ s, isDigit c = true) (hr : NoDigit rest) :
    (s ++ rest).takeWhile isDigit = s := by
  rw [List.takeWhile_append_of_pos hs]
  cases rest with
  | nil => simp
  | cons c rest => rw [List.takeWhile_cons_of_neg (by simp [hr c rfl]), List.append_nil]

theorem skipDigits_append (hs : IsDigits s) (hr : NoDigit rest) :
    skipDigits (s ++ rest) = .ok rest := by
  have hdrop := dropWhile_digits hs.2 hr
  obtain ⟨hne, hd⟩ := hs
  cases s with
  | nil => exact absurd rfl hne
  | cons c s =>
    rw [List.cons_append] at hdrop ⊢
    rw [skipDigits, if_pos (hd c List.mem_cons_self), hdrop]

theorem skipAfterFraction_append (hs : IsExponent s) (hr : EndsValue rest) :
    skipAfterFraction (s ++ rest) = .ok rest := by
  cases hs with
  | absent =>
    rw [List.nil_append]
    unfold skipAfterFraction
    split
    · exact absurd rfl (hr.goesOn (c := 'e') rfl).2.2.1
    · exact absurd rfl (hr.goesOn (c := 'E') rfl).2.2.2
    · rfl
  | @digits e sign s he hsign hd =>
    have hskip : skipExponent (sign ++ (s ++ rest)) = .ok rest := by
      have hdigits := skipDigits_append hd hr.noDigit
      rcases hsign with rfl | rfl | rfl
      · obtain ⟨hne, hd⟩ := hd
        cases s with
        | nil => exact absurd rfl hne
        | cons d s =>
          have hfirst := hd d List.mem_cons_self
          unfold skipExponent
          split
          · rename_i hcons
            obtain rfl : d = '+' := (List.cons.inj hcons).1
            exact absurd hfirst (by decide)
          · rename_i hcons
            obtain rfl : d = '-' := (List.cons.inj hcons).1
            exact absurd hfirst (by decide)
          · exact hdigits
      · exact hdigits
      · exact hdigits
    rw [List.cons_append, List.cons_append, List.append_assoc]
    rcases he with rfl | rfl <;> exact hskip

theorem skipAfterWhole_append {exponent : List Char} (hs : IsFraction s)
    (he : IsExponent exponent) (hr : EndsValue rest) :
    skipAfterWhole (s ++ exponent ++ rest) = .ok rest := by
  have hexp := skipAfterFraction_append he hr
  cases hs with
  | absent =>
    rw [List.nil_append]
    unfold skipAfterWhole
    split
    · rename_i r hpoint
      -- neither an exponent nor what ends a value starts with a point
      cases he with
      | absent =>
        rw [List.nil_append] at hpoint
        exact absurd rfl (hr.goesOn (c := '.') (by rw [hpoint]; rfl)).2.1
      | digits he =>
        have hc := (List.cons.inj hpoint).1
        rcases he with rfl | rfl <;> cases hc
    · exact hexp
  | digits hd =>
    have hdigits := skipDigits_append hd (he.noDigit hr)
    rw [List.cons_append, List.cons_append, List.append_assoc, skipAfterWhole, hdigits]
    exact hexp

/-- A number that is passed over. -/
theorem skipNumber_append (hs : IsNumber s) (hr : EndsValue rest) :
    skipNumber (s ++ rest) = .ok rest := by
  cases hs with
  | @parts sign whole fraction exponent hsign hw hf he =>
    have hafter := skipAfterWhole_append hf he hr
    have hno := hf.noDigit he hr
    have hunsigned : skipUnsigned (whole ++ (fraction ++ exponent ++ rest)) = .ok rest := by
      cases hw with
      | zero =>
        generalize fraction ++ exponent ++ rest = next at hafter hno
        cases next with
        | nil => exact hafter
        | cons c next =>
          have hc := hno c rfl
          simp only [List.cons_append, List.nil_append, skipUnsigned, hc]
          exact hafter
      | @digits c w hc hd =>
        have hskip := skipDigits_append hd hno
        unfold skipUnsigned
        split
        · rename_i hcons
          exact absurd (List.cons.inj hcons).1 hc
        · rw [hskip]
          exact hafter
    have hassoc : sign ++ whole ++ fraction ++ exponent ++ rest =
        sign ++ (whole ++ (fraction ++ exponent ++ rest)) := by simp
    rw [hassoc]
    rcases hsign with rfl | rfl
    · obtain ⟨c, t, rfl, hc⟩ := hw.starts
      unfold skipNumber
      split
      · rename_i hcons
        obtain rfl : c = '-' := (List.cons.inj hcons).1
        exact absurd hc (by decide)
      · exact hunsigned
    · exact hunsigned

/-! ### Words, numbers and strings -/

theorem skipScalar_word (h : v ∈ words) (rest : List Char) : skipScalar (v ++ rest) = .ok rest := by
  simp only [words, List.mem_cons, List.not_mem_nil, or_false] at h
  rcases h with rfl | rfl | rfl <;> rfl

theorem skipScalar_number (h : IsNumber v) (hr : EndsValue rest) :
    skipScalar (v ++ rest) = .ok rest := by
  have hskip := skipNumber_append h hr
  obtain ⟨c, t, rfl, hc⟩ := h.starts
  rw [List.cons_append] at hskip ⊢
  unfold skipScalar
  split
  · rename_i heq
    cases heq
  -- no quote and no letter of a word begins a number
  iterate 4
    · rename_i heq
      obtain rfl := (List.cons.inj heq).1
      exact absurd hc (by decide)
  · rename_i heq
    obtain ⟨rfl, rfl⟩ := List.cons.inj heq
    rw [if_pos (by simpa using hc)]
    exact hskip

/-- The first character of a number is no blank and no bracket. -/
theorem scalar_of_digit (hc : c = '-' ∨ isDigit c = true) :
    isBlank c = false ∧ c ≠ ']' ∧ c ≠ '[' ∧ c ≠ '{' := by
  refine ⟨Bool.eq_false_iff.mpr fun hb => ?_, ?_, ?_, ?_⟩
  · simp only [isBlank, Bool.or_eq_true, decide_eq_true_eq] at hb
    rcases hb with ((rfl | rfl) | rfl) | rfl <;> exact absurd hc (by decide)
  all_goals
    rintro rfl
    exact absurd hc (by decide)

theorem skipScalar_string (h : IsString v) (rest : List Char) :
    skipScalar (v ++ rest) = .ok rest := by
  obtain ⟨t, rfl, hskip⟩ := skipString_append h
  exact hskip rest

/-! ### Turns of the loop -/

/-- The text is passed over as a value, in turns that its length bounds. -/
structure Passes (v : List Char) : Prop where
  starts : ∃ c t, v = c :: t ∧ isBlank c = false ∧ c ≠ ']'
  turns : ∃ k, k + 2 ≤ 3 * v.length ∧ ∀ n stack b rest, IsBlanks b → EndsValue rest →
    skipFrom (n + k) .value stack (b ++ v ++ rest) = skipFrom n .next stack rest

/-- The text is passed over as an item of what is open, with its name in an object. -/
structure Enters (f : Frame) (e : List Char) : Prop where
  starts : ∃ b c t, e = b ++ c :: t ∧ IsBlanks b ∧ isBlank c = false ∧ f.closedBy c = false
  turns : ∃ k, k + 1 ≤ 3 * e.length ∧ ∀ n stack rest, EndsValue rest →
    skipFrom (n + k) .item (f :: stack) (e ++ rest) = skipFrom n .next (f :: stack) rest

variable {f : Frame} {stack : List Frame} {n : Nat}

theorem skipFrom_next_blanks (hb : IsBlanks b) :
    skipFrom n .next (f :: stack) (b ++ rest) = skipFrom n .next (f :: stack) rest := by
  cases n with
  | zero => rfl
  | succ n => simp only [skipFrom, skipBlank_append hb]

/-- Blanks in front of an item make no difference. -/
theorem skipFrom_item_blanks (hb : IsBlanks b) :
    skipFrom n .item (f :: stack) (b ++ rest) = skipFrom n .item (f :: stack) rest := by
  cases n with
  | zero => rfl
  | succ n =>
    cases f with
    | list =>
      cases n with
      | zero => rfl
      | succ n => simp only [skipFrom, skipBlank_append hb]
    | object => simp only [skipFrom, skipName, skipBlank_append hb]

theorem Passes.of_scalar {t : List Char} (hv : v = c :: t)
    (hc : isBlank c = false ∧ c ≠ ']' ∧ c ≠ '[' ∧ c ≠ '{')
    (hskip : ∀ rest, EndsValue rest → skipScalar (v ++ rest) = .ok rest) : Passes v := by
  obtain ⟨hblank, hclose, hlist, hobject⟩ := hc
  refine ⟨⟨c, t, hv, hblank, hclose⟩, 1, ?_, fun n stack b rest hb hr => ?_⟩
  · rw [hv, List.length_cons]
    omega
  · have hstart : skipBlank (b ++ v ++ rest) = v ++ rest := by
      rw [hv, List.append_assoc, List.cons_append, skipBlank_to hb hblank]
    rw [skipFrom, hstart]
    split
    · rename_i heq
      rw [hv] at heq
      exact absurd (List.cons.inj heq).1 hlist
    · rename_i heq
      rw [hv] at heq
      exact absurd (List.cons.inj heq).1 hobject
    · rw [hskip rest hr]

/-- What a value is, behind blanks and before blanks, is an item of a list. -/
theorem Enters.item {i : Item} (hp : i.Padded) (hv : Passes i.value) : Enters .list i.text := by
  obtain ⟨⟨c, t, hc, hblank, hclose⟩, k, hk, hturns⟩ := hv
  refine ⟨⟨i.lead, c, t ++ i.trail, ?_, hp.lead, hblank, ?_⟩, k + 1, ?_, fun n stack rest hr => ?_⟩
  · simp [Item.text, hc]
  · simpa [Frame.closedBy] using hclose
  · simp only [Item.text, List.length_append]
    omega
  · have hvalue := hturns n (.list :: stack) i.lead (i.trail ++ rest) hp.lead (hr.blanks hp.trail)
    rw [skipFrom_next_blanks hp.trail] at hvalue
    rw [← hvalue, Item.text, List.append_assoc _ _ rest]
    rfl

theorem Enters.member {m : Member} (hp : m.Padded) (hn : IsString m.name) (hv : Passes m.value) :
    Enters .object m.text := by
  obtain ⟨-, k, hk, hturns⟩ := hv
  obtain ⟨t, ht, hskip⟩ := skipString_append hn
  refine ⟨⟨m.lead, '"', t ++ m.beforeColon ++ ':' :: m.afterColon ++ m.value ++ m.trail, ?_,
    hp.lead, rfl, rfl⟩, k + 1, ?_, fun n stack rest hr => ?_⟩
  · simp [Member.text, ht]
  · simp only [Member.text, List.length_append, List.length_cons]
    omega
  · have hvalue := hturns n (.object :: stack) m.afterColon (m.trail ++ rest) hp.afterColon
      (hr.blanks hp.trail)
    rw [skipFrom_next_blanks hp.trail] at hvalue
    have hname : skipName (m.text ++ rest) =
        .ok (m.afterColon ++ m.value ++ (m.trail ++ rest)) := by
      have htext : m.text ++ rest = m.lead ++ '"' :: (t ++ (m.beforeColon ++ ':' ::
          (m.afterColon ++ m.value ++ (m.trail ++ rest)))) := by simp [Member.text, ht]
      rw [htext, skipName, skipBlank_to hp.lead rfl]
      simp only [hskip, skipBlank_to hp.beforeColon (show isBlank ':' = false from rfl)]
    rw [← hvalue, ← Nat.add_assoc, skipFrom]
    simp only [hname]

/-! ### Lists and objects -/

def Frame.opening : Frame → Char
  | .list => '['
  | .object => '{'

def Frame.closing : Frame → Char
  | .list => ']'
  | .object => '}'

theorem Frame.closedBy_closing (f : Frame) : f.closedBy f.closing = true := by cases f <;> rfl

theorem Frame.closing_cases (f : Frame) :
    f.closing ≠ ',' ∧ isBlank f.closing = false ∧ ∀ rest, EndsValue (f.closing :: rest) := by
  cases f with
  | list => exact ⟨by decide, rfl, .cons (.inr (.inl rfl))⟩
  | object => exact ⟨by decide, rfl, .cons (.inr (.inr rfl))⟩

/-- Items after commas, up to the end of what is open. -/
theorem skipFrom_following {es : List (List Char)} (h : ∀ e ∈ es, Enters f e) :
    ∃ k, k ≤ 3 * (following id es).length + 1 ∧ ∀ n stack rest,
      skipFrom (n + k) .next (f :: stack) (following id es ++ f.closing :: rest) =
        skipFrom n .next stack rest := by
  obtain ⟨hcomma, hblank, hends⟩ := f.closing_cases
  induction es with
  | nil =>
    refine ⟨1, by omega, fun n stack rest => ?_⟩
    simp only [following, List.flatMap_nil, List.nil_append, skipFrom, skipBlank_cons hblank,
      if_neg hcomma, f.closedBy_closing, if_true]
  | cons e es ih =>
    obtain ⟨k, hk, hturns⟩ := (h e List.mem_cons_self).turns
    obtain ⟨k', hk', hrest⟩ := ih fun x hx => h x (List.mem_cons_of_mem _ hx)
    refine ⟨k' + k + 1, ?_, fun n stack rest => ?_⟩
    · simp only [following_cons, id, List.length_append, List.length_cons]
      omega
    · rw [following_cons, List.cons_append, List.append_assoc, ← Nat.add_assoc, ← Nat.add_assoc,
        skipFrom, skipBlank_cons rfl]
      simp only [id, if_true]
      rw [hturns _ _ _ ((hends rest).following id es), hrest]

theorem skipFrom_value_opening (f : Frame) (hb : IsBlanks b) :
    skipFrom (n + 1) .value stack (b ++ f.opening :: rest) =
      skipFrom n .first (f :: stack) rest := by
  cases f with
  | list => simp only [Frame.opening, skipFrom, skipBlank_to hb (show isBlank '[' = false from rfl)]
  | object =>
    simp only [Frame.opening, skipFrom, skipBlank_to hb (show isBlank '{' = false from rfl)]

/-- What passes between brackets, from the first turn after the opening one on. -/
theorem Passes.of_opening (f : Frame) {body : List Char} {k : Nat} (hk : k ≤ 3 * body.length + 3)
    (hturns : ∀ n stack rest, skipFrom (n + k) .first (f :: stack) (body ++ f.closing :: rest) =
      skipFrom n .next stack rest) : Passes (f.opening :: body ++ [f.closing]) := by
  refine ⟨⟨f.opening, body ++ [f.closing], rfl, ?_⟩, k + 1, ?_, fun n stack b rest hb _ => ?_⟩
  · cases f <;> exact ⟨rfl, by decide⟩
  · simp only [List.length_append, List.length_cons, List.length_nil]
    omega
  · have htext : b ++ (f.opening :: body ++ [f.closing]) ++ rest =
        b ++ f.opening :: (body ++ f.closing :: rest) := by simp
    rw [htext, ← Nat.add_assoc, skipFrom_value_opening f hb, hturns]

theorem Passes.empty (f : Frame) (hb : IsBlanks b) : Passes (f.opening :: b ++ [f.closing]) := by
  obtain ⟨-, hblank, -⟩ := f.closing_cases
  refine .of_opening f (k := 1) (by omega) fun n stack rest => ?_
  simp only [skipFrom, skipBlank_to hb hblank, f.closedBy_closing, if_true]

theorem Passes.items (f : Frame) {es : List (List Char)} (hne : es ≠ [])
    (h : ∀ e ∈ es, Enters f e) : Passes (f.opening :: commas es ++ [f.closing]) := by
  obtain ⟨e, es, rfl⟩ := List.exists_cons_of_ne_nil hne
  obtain ⟨⟨b, c, t, he, hb, hc, hclose⟩, k, hk, hturns⟩ := h e List.mem_cons_self
  obtain ⟨k', hk', hrest⟩ := skipFrom_following fun x hx => h x (List.mem_cons_of_mem _ hx)
  obtain ⟨-, -, hends⟩ := f.closing_cases
  have htext : commas (e :: es) = e ++ following id es := by
    simpa using commas_cons id e es
  refine .of_opening f (k := k' + k + 1) ?_ fun n stack rest => ?_
  · rw [htext, List.length_append]
    omega
  · -- the first item is found behind its blanks, which make no difference to it
    have hitem := hturns (n + k') stack _ ((hends rest).following id es)
    rw [hrest, he, List.append_assoc, skipFrom_item_blanks hb, List.cons_append] at hitem
    rw [htext, he, List.append_assoc, List.append_assoc, List.cons_append, ← Nat.add_assoc,
      ← Nat.add_assoc]
    simp only [skipFrom, skipBlank_to hb hc, hclose, Bool.false_eq_true, if_false]
    exact hitem

theorem IsValue.passes (h : IsValue v) : Passes v := by
  induction h with
  | @word w hw =>
    have hskip := fun rest (_ : EndsValue rest) => skipScalar_word hw rest
    simp only [words, List.mem_cons, List.not_mem_nil, or_false] at hw
    rcases hw with rfl | rfl | rfl <;> exact .of_scalar rfl (by decide) hskip
  | number hn =>
    obtain ⟨c, t, ht, hc⟩ := hn.starts
    refine .of_scalar ht ?_ fun rest hr => skipScalar_number hn hr
    exact scalar_of_digit hc
  | string hs =>
    obtain ⟨t, ht, -⟩ := skipString_append hs
    exact .of_scalar ht (by decide) fun rest _ => skipScalar_string hs rest
  | emptyList hb => exact .empty .list hb
  | @list items hne hp _ ih =>
    refine .items .list (by simpa using hne) fun e he => ?_
    obtain ⟨i, hi, rfl⟩ := List.mem_map.mp he
    exact .item (hp i hi) (ih i hi)
  | emptyObject hb => exact .empty .object hb
  | @object members hne hp hn _ ih =>
    refine .items .object (by simpa using hne) fun e he => ?_
    obtain ⟨m, hm, rfl⟩ := List.mem_map.mp he
    exact .member (hp m hm) (hn m hm) (ih m hm)

/-- A value is passed over, with the blanks in front of it, and nothing after it. -/
theorem skipValue_append (h : IsValue v) (hb : IsBlanks b) (hr : EndsValue rest) :
    skipValue (b ++ (v ++ rest)) = .ok rest := by
  obtain ⟨-, k, hk, hturns⟩ := h.passes
  rw [← List.append_assoc]
  have hlength : k ≤ 3 * (b ++ v ++ rest).length := by
    simp only [List.length_append]
    omega
  obtain ⟨n, hn⟩ := Nat.exists_eq_add_of_le hlength
  have hfuel : 3 * (b ++ v ++ rest).length + 4 = n + 3 + 1 + k := by omega
  rw [skipValue, hfuel, hturns _ _ _ _ hb hr]
  rfl

end Handoff.Json
