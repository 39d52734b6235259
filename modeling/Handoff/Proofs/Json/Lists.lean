import Handoff.Proofs.Json.Passing

/-!
# Reading lists

What readers of values make of texts is said in two ways. A reader `Reads` the texts that hold what
is wanted, and it is `Exact` if it refuses any other value or takes the whole of it. Both go over
from the reader of the items to the reader of a list of them, whatever blanks there are, and so to
lists of lists. The reader of bytes has both.
-/
namespace Handoff.Json

open Handoff.Text (isDigit digitsValue wordLimit)

variable {α : Type} {b rest s t v : List Char} {c : Char}

/-- The reader finds these values in these texts. -/
def Reads (read : Reader α) (P : α → List Char → Prop) : Prop :=
  ∀ x s b rest, P x s → IsBlanks b → EndsValue rest → read (b ++ (s ++ rest)) = .ok (x, rest)

/-- The reader refuses a value or takes all of it. -/
def Exact (read : Reader α) : Prop := ∀ v b rest, IsValue v → IsBlanks b → EndsValue rest →
  (∃ f, read (b ++ (v ++ rest)) = .error f) ∨ ∃ x, read (b ++ (v ++ rest)) = .ok (x, rest)

/-! ### Lists -/

section Lists

variable {P : α → List Char → Prop} {item : Reader α} {n : Nat} {x : α} {i : Item}

theorem IsListOf.isValue (hP : ∀ x s, P x s → IsValue s) {xs : List α} (h : IsListOf P xs s) :
    IsValue s := by
  cases h with
  | empty hb => exact .emptyList hb
  | @items xs hne hxs =>
    have htext : xs.map (fun x => x.2.text) = (xs.map Prod.snd).map Item.text := by
      rw [List.map_map]
      rfl
    rw [htext]
    refine .list (by simpa using hne) (fun i hi => ?_) fun i hi => ?_
    all_goals obtain ⟨x, hx, rfl⟩ := List.mem_map.mp hi
    · exact (hxs x hx).1
    · exact hP _ _ (hxs x hx).2

/-- Lists may be written without any blanks. -/
theorem isListOf_bare {write : α → List Char} (h : ∀ x, P x (write x)) (xs : List α) :
    IsListOf P xs ('[' :: commas (xs.map write) ++ [']']) := by
  by_cases hne : xs = []
  · subst hne
    exact .empty .nil
  · let items := xs.map fun x => (x, (⟨[], write x, []⟩ : Item))
    have hitems : ∀ p ∈ items, p.2.Padded ∧ P p.1 p.2.value := by
      intro p hp
      obtain ⟨x, -, rfl⟩ := List.mem_map.mp hp
      exact ⟨⟨.nil, .nil⟩, h x⟩
    simpa [items, Item.text, Function.comp_def] using IsListOf.items (by simpa [items]) hitems

theorem readItems_end (isFirst : Bool) (hb : IsBlanks b) :
    readItems item (n + 1) isFirst (b ++ ']' :: rest) = .ok ([], rest) := by
  simp only [readItems, skipBlank_to hb (show isBlank ']' = false from rfl)]

/-- The first item is read as one that follows another. -/
theorem readItems_first (h : skipBlank s = c :: t) (hc : c ≠ ']') :
    readItems item n true s = readItems item n false (',' :: s) := by
  cases n with
  | zero => rfl
  | succ n => simp [readItems, skipBlank_cons (show isBlank ',' = false from rfl), h, hc]

/-- Where the value of an item begins. -/
theorem Item.Padded.skipBlank_text (hi : i.Padded) (hv : IsValue i.value) (rest : List Char) :
    ∃ c t, skipBlank (i.text ++ rest) = c :: t ∧ c ≠ ']' ∧
      c :: t = i.value ++ (i.trail ++ rest) := by
  obtain ⟨c, t, hc, hblank, hclose⟩ := hv.passes.starts
  refine ⟨c, t ++ (i.trail ++ rest), ?_, hclose, by rw [hc]; rfl⟩
  rw [Item.text, hc, List.append_assoc, List.append_assoc, List.cons_append,
    skipBlank_to hi.lead hblank]

theorem readItems_item (hi : i.Padded) (hvalue : IsValue i.value) (hb : IsBlanks b)
    (hv : item (i.value ++ (i.trail ++ rest)) = .ok (x, i.trail ++ rest)) :
    readItems item (n + 1) false (b ++ ',' :: (i.text ++ rest)) =
      (readItems item n false (i.trail ++ rest)).map fun p => (x :: p.1, p.2) := by
  obtain ⟨c, t, hstart, hclose, htext⟩ := hi.skipBlank_text hvalue rest
  rw [← htext] at hv
  simp [readItems, skipBlank_to (c := ',') hb rfl, hstart, hclose, hv]

theorem readItems_fault {f : Fault} (hi : i.Padded) (hvalue : IsValue i.value) (hb : IsBlanks b)
    (hv : item (i.value ++ (i.trail ++ rest)) = .error f) :
    readItems item (n + 1) false (b ++ ',' :: (i.text ++ rest)) = .error f := by
  obtain ⟨c, t, hstart, hclose, htext⟩ := hi.skipBlank_text hvalue rest
  rw [← htext] at hv
  simp [readItems, skipBlank_to (c := ',') hb rfl, hstart, hclose, hv]

theorem endsValue_close (rest : List Char) : EndsValue (']' :: rest) :=
  .cons (.inr (.inl rfl)) rest

/-- Items that hold what is wanted, up to the end of the list. -/
theorem readItems_reads (hread : Reads item P) (hP : ∀ x s, P x s → IsValue s)
    {xs : List (α × Item)} (hxs : ∀ x ∈ xs, x.2.Padded ∧ P x.1 x.2.value) (hb : IsBlanks b)
    (hn : xs.length < n) :
    readItems item n false (b ++ (following (fun x => x.2.text) xs ++ ']' :: rest)) =
      .ok (xs.map Prod.fst, rest) := by
  induction xs generalizing b n with
  | nil =>
    obtain ⟨n, rfl⟩ := Nat.exists_eq_add_one_of_ne_zero (Nat.ne_of_gt hn)
    exact readItems_end false hb
  | cons x xs ih =>
    obtain ⟨n, rfl⟩ := Nat.exists_eq_add_one_of_ne_zero (Nat.ne_zero_of_lt hn)
    obtain ⟨hpadded, hx⟩ := hxs x List.mem_cons_self
    have hends := ((endsValue_close rest).following (fun x : α × Item => x.2.text) xs).blanks
      hpadded.trail
    rw [following_cons, List.cons_append, List.append_assoc,
      readItems_item hpadded (hP _ _ hx) hb (hread x.1 _ [] _ hx .nil hends),
      ih (fun y hy => hxs y (List.mem_cons_of_mem _ hy)) hpadded.trail (Nat.lt_of_succ_lt_succ hn)]
    rfl

variable (rest) in
/-- Items of any kind, up to the end of the list. -/
theorem readItems_exact (hexact : Exact item) {is : List Item} (hp : ∀ i ∈ is, i.Padded)
    (hv : ∀ i ∈ is, IsValue i.value) (hb : IsBlanks b) :
    (∃ f, readItems item n false (b ++ (following Item.text is ++ ']' :: rest)) = .error f) ∨
      ∃ xs, readItems item n false (b ++ (following Item.text is ++ ']' :: rest)) =
        .ok (xs, rest) := by
  induction is generalizing b n with
  | nil =>
    cases n with
    | zero => exact .inl ⟨.ended, rfl⟩
    | succ n => exact .inr ⟨[], readItems_end false hb⟩
  | cons i is ih =>
    cases n with
    | zero => exact .inl ⟨.ended, rfl⟩
    | succ n =>
      have hi := hp i List.mem_cons_self
      have hvalue := hv i List.mem_cons_self
      have hends := ((endsValue_close rest).following Item.text is).blanks hi.trail
      rw [following_cons, List.cons_append, List.append_assoc]
      rcases hexact _ [] _ hvalue .nil hends with ⟨f, hf⟩ | ⟨x, hx⟩
      · exact .inl ⟨f, readItems_fault hi hvalue hb hf⟩
      · rw [readItems_item hi hvalue hb hx]
        rcases ih (fun j hj => hp j (List.mem_cons_of_mem _ hj))
          (fun j hj => hv j (List.mem_cons_of_mem _ hj)) hi.trail (n := n) with
          ⟨f, hf⟩ | ⟨xs, hxs⟩
        · exact .inl ⟨f, by rw [hf]; rfl⟩
        · exact .inr ⟨x :: xs, by rw [hxs]; rfl⟩

variable (item rest) in
/-- From its bracket on, a list is read as its items are, the first one like any other. -/
theorem readList_items {β : Type} (toItem : β → Item) {xs : List β} (hne : xs ≠ [])
    (hp : ∀ x ∈ xs, (toItem x).Padded) (hv : ∀ x ∈ xs, IsValue (toItem x).value)
    (hb : IsBlanks b) : ∃ n, xs.length < n ∧
      readList item (b ++ ('[' :: commas (xs.map fun x => (toItem x).text) ++ [']'] ++ rest)) =
        readItems item n false (following (fun x => (toItem x).text) xs ++ ']' :: rest) := by
  obtain ⟨x, xs, rfl⟩ := List.exists_cons_of_ne_nil hne
  have htext : '[' :: commas ((x :: xs).map fun x => (toItem x).text) ++ [']'] ++ rest =
      '[' :: ((toItem x).text ++ (following (fun x => (toItem x).text) xs ++ ']' :: rest)) := by
    rw [commas_cons]
    simp
  obtain ⟨c, t, hstart, hclose, -⟩ :=
    (hp x List.mem_cons_self).skipBlank_text (hv x List.mem_cons_self)
      (following (fun x => (toItem x).text) xs ++ ']' :: rest)
  refine ⟨((toItem x).text ++ (following (fun x => (toItem x).text) xs ++ ']' :: rest)).length + 1,
    ?_, ?_⟩
  · have hlength := length_le_following (fun x => (toItem x).text) xs
    simp only [List.length_append, List.length_cons]
    omega
  · rw [htext]
    simp only [readList, skipBlank_to hb (show isBlank '[' = false from rfl)]
    rw [following_cons, List.cons_append, List.append_assoc]
    exact readItems_first hstart hclose

theorem Reads.list (hread : Reads item P) (hP : ∀ x s, P x s → IsValue s) :
    Reads (readList item) (IsListOf P) := by
  intro xs s b rest h hb hr
  cases h with
  | @empty inside hi =>
    rw [List.cons_append, List.cons_append, List.append_assoc]
    simp only [readList, skipBlank_to hb (show isBlank '[' = false from rfl)]
    exact readItems_end true hi
  | @items xs hne hxs =>
    obtain ⟨n, hn, hlist⟩ := readList_items rest item Prod.snd hne
      (fun x hx => (hxs x hx).1) (fun x hx => hP _ _ (hxs x hx).2) hb
    exact hlist.trans (readItems_reads hread hP hxs (b := []) .nil hn)

/-- What begins with another character is no list. -/
theorem readList_refused (hblank : isBlank c = false) (hc : c ≠ '[') (hb : IsBlanks b) :
    ∃ f, readList item (b ++ (c :: t)) = .error f := by
  refine ⟨mismatch (c :: t), ?_⟩
  simp [readList, skipBlank_to hb hblank, hc]

theorem Exact.list (hexact : Exact item) : Exact (readList item) := by
  intro v b rest h hb hr
  cases h with
  | word hw =>
    simp only [words, List.mem_cons, List.not_mem_nil, or_false] at hw
    rcases hw with rfl | rfl | rfl <;> exact .inl (readList_refused rfl (by decide) hb)
  | number hn =>
    obtain ⟨c, t, rfl, hc⟩ := hn.starts
    obtain ⟨hblank, -, hlist, -⟩ := scalar_of_digit hc
    exact .inl (readList_refused hblank hlist hb)
  | string hs =>
    obtain ⟨t, rfl, -⟩ := skipString_append hs
    exact .inl (readList_refused rfl (by decide) hb)
  | @emptyList inside hi =>
    refine .inr ⟨[], ?_⟩
    rw [List.cons_append, List.cons_append, List.append_assoc]
    simp only [readList, skipBlank_to hb (show isBlank '[' = false from rfl)]
    exact readItems_end true hi
  | list hne hp hv =>
    obtain ⟨n, -, hlist⟩ := readList_items rest item id hne hp hv hb
    have hitems := readItems_exact (n := n) rest hexact hp hv (b := []) .nil
    rw [← List.nil_append (following _ _ ++ _)] at hlist
    exact hlist ▸ hitems
  | emptyObject | object => exact .inl (readList_refused rfl (by decide) hb)

end Lists

/-! ### Numbers

Where a number is read at all, reading ends where passing over it does.
-/

section Numbers

variable {k : Nat} {negative : Bool} {e : Int} {r : Number}

theorem skipExponent_of_read (h : readExponent s = .ok (e, rest)) : skipExponent s = .ok rest := by
  unfold readExponent at h
  unfold skipExponent skipDigits
  grind

theorem otherNumber_rest (h : otherNumber k e s = .ok (r, rest)) : s = rest := by
  unfold otherNumber at h
  split at h
  · cases h
  · exact (Prod.mk.inj (Except.ok.inj h)).2

theorem skipAfterFraction_of_read (h : readAfterFraction k e s = .ok (r, rest)) :
    skipAfterFraction s = .ok rest := by
  unfold readAfterFraction at h
  unfold skipAfterFraction
  split at h
  iterate 2
    · split at h
      · cases h
      · rename_i hread
        obtain rfl := otherNumber_rest h
        exact skipExponent_of_read hread
  · obtain rfl := otherNumber_rest h
    rfl

theorem skipAfterWhole_of_read (h : readAfterWhole negative k s = .ok (r, rest)) :
    skipAfterWhole s = .ok rest := by
  unfold readAfterWhole at h
  unfold skipAfterWhole skipDigits
  grind [→ skipAfterFraction_of_read, → otherNumber_rest, skipAfterFraction]

theorem skipUnsigned_of_read (h : readUnsigned negative s = .ok (r, rest)) :
    skipUnsigned s = .ok rest := by
  unfold readUnsigned at h
  unfold skipUnsigned skipDigits
  grind [→ skipAfterWhole_of_read]

theorem skipNumber_of_read (h : readNumber s = .ok (r, rest)) : skipNumber s = .ok rest := by
  unfold readNumber at h
  unfold skipNumber
  grind [→ skipUnsigned_of_read]

/-- A number without sign, fraction and exponent is the number its digits say. -/
theorem readNumber_whole (h : IsWhole s) (hlt : digitsValue s < wordLimit) (hr : EndsValue rest) :
    readNumber (s ++ rest) = .ok (.natural (digitsValue s), rest) := by
  have hafter : ∀ k < wordLimit, readAfterWhole false k rest = .ok (.natural k, rest) := by
    intro k hk
    have hnext := fun c (hc : c ∈ rest.head?) => (hr.goesOn hc).2
    unfold readAfterWhole
    split
    · exact absurd rfl (hnext '.' rfl).1
    · exact absurd rfl (hnext 'e' rfl).2.1
    · exact absurd rfl (hnext 'E' rfl).2.2
    · simp [hk]
  have hunsigned : readUnsigned false (s ++ rest) = .ok (.natural (digitsValue s), rest) := by
    cases h with
    | zero =>
      cases rest with
      | nil => exact hafter 0 (by decide)
      | cons c rest =>
        simp only [List.cons_append, List.nil_append, readUnsigned, hr.noDigit c rfl]
        exact hafter 0 (by decide)
    | @digits c t hc hd =>
      have htake := takeWhile_digits hd.2 hr.noDigit
      have hdrop := dropWhile_digits hd.2 hr.noDigit
      rw [List.cons_append] at htake hdrop ⊢
      unfold readUnsigned
      split
      · rename_i hcons
        cases hcons
      · rename_i hcons
        exact absurd (List.cons.inj hcons).1 hc
      · rename_i hcons
        obtain ⟨rfl, rfl⟩ := List.cons.inj hcons
        rw [if_pos (hd.2 c List.mem_cons_self), htake, hdrop]
        exact hafter _ hlt
  obtain ⟨c, t, rfl, hc⟩ := h.starts
  unfold readNumber
  split
  · rename_i hcons
    obtain rfl : c = '-' := (List.cons.inj hcons).1
    exact absurd hc (by decide)
  · exact hunsigned

end Numbers

/-! ### Bytes -/

/-- A byte is written in one way only: its decimal digits, without a sign or leading zeros. -/
def IsByte (x : UInt8) (s : List Char) : Prop := s = Nat.toDigits 10 x.toNat

instance (x : UInt8) (s : List Char) : Decidable (IsByte x s) :=
  inferInstanceAs (Decidable (s = Nat.toDigits 10 x.toNat))

theorem toDigits_byte : ∀ n < 256, (Nat.toDigits 10 n).all isDigit = true ∧
    digitsValue (Nat.toDigits 10 n) = n ∧
    (Nat.toDigits 10 n = ['0'] ∨ (Nat.toDigits 10 n).head? ≠ some '0') := by
  decide +kernel

theorem IsByte.isWhole {x : UInt8} (h : IsByte x s) : IsWhole s := by
  obtain ⟨hdigits, -, hzero⟩ := toDigits_byte _ x.toNat_lt
  rw [← h] at hdigits hzero
  rcases hzero with rfl | hzero
  · exact .zero
  · cases hs : s with
    | nil =>
      have hpos := Nat.length_toDigits_pos (b := 10) (n := x.toNat)
      rw [← h, hs] at hpos
      cases hpos
    | cons c t =>
      subst hs
      exact .digits (by simpa using hzero) ⟨nofun, List.all_eq_true.mp hdigits⟩

theorem IsByte.isValue {x : UInt8} (h : IsByte x s) : IsValue s := by
  have hnumber := IsNumber.parts (.inl rfl) h.isWhole .absent .absent
  simpa using IsValue.number hnumber

theorem reads_byte : Reads readByte IsByte := by
  intro x s b rest h hb hr
  obtain ⟨-, hvalue, -⟩ := toDigits_byte _ x.toNat_lt
  rw [← h] at hvalue
  have hlt : digitsValue s < wordLimit := by
    rw [hvalue]
    exact Nat.lt_trans x.toNat_lt (by decide)
  have hread := readNumber_whole h.isWhole hlt hr
  obtain ⟨c, t, rfl, hc⟩ := h.isWhole.starts
  have hstart := skipBlank_to hb (scalar_of_digit (.inr hc)).1 (t ++ rest)
  rw [List.cons_append] at hread ⊢
  have hbyte : x.toNat < 256 := x.toNat_lt
  simp [readByte, hstart, hc, hread, hvalue, hbyte]

/-- What begins neither with a digit nor with a sign is no byte. -/
theorem readByte_refused (hblank : isBlank c = false) (hc : ¬(c = '-' ∨ isDigit c = true))
    (hb : IsBlanks b) : ∃ f, readByte (b ++ (c :: t)) = .error f := by
  refine ⟨mismatch (c :: t), ?_⟩
  simp only [readByte, skipBlank_to hb hblank]
  rw [if_neg (by simpa using hc)]

theorem exact_byte : Exact readByte := by
  intro v b rest h hb hr
  cases h with
  | word hw =>
    simp only [words, List.mem_cons, List.not_mem_nil, or_false] at hw
    rcases hw with rfl | rfl | rfl <;> exact .inl (readByte_refused rfl (by decide) hb)
  | number hn =>
    have hskip := skipNumber_append hn hr
    obtain ⟨c, t, rfl, hc⟩ := hn.starts
    have hstart := skipBlank_to hb (scalar_of_digit hc).1 (t ++ rest)
    rw [List.cons_append] at hskip ⊢
    simp only [readByte, hstart]
    rw [if_pos (by simpa using hc)]
    cases hread : readNumber (c :: (t ++ rest)) with
    | error f => exact .inl ⟨f, rfl⟩
    | ok p =>
      obtain ⟨r, after⟩ := p
      obtain rfl : after = rest := by
        simpa [hskip] using (skipNumber_of_read hread).symm
      cases r with
      | other => exact .inl ⟨_, rfl⟩
      | natural n =>
        by_cases hn : n < 256
        · exact .inr ⟨UInt8.ofNat n, by simp [hn]⟩
        · exact .inl ⟨.mismatched, by simp [hn]⟩
  | string hs =>
    obtain ⟨t, rfl, -⟩ := skipString_append hs
    exact .inl (readByte_refused rfl (by decide) hb)
  | emptyList | list | emptyObject | object => exact .inl (readByte_refused rfl (by decide) hb)

end Handoff.Json
