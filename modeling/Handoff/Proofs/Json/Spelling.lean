import Handoff.Proofs.Json.Grammar

/-!
# Strings as they may be spelled

Reading a string gives the characters that it spells, whichever way each of them is written, and the
text behind it. What is written for some characters spells just these, so reading is the inverse of
writing. A string that is passed over may hold any escapes.
-/
namespace Handoff.Json

variable {s t u rest body text : List Char} {c e : Char} {n v : Nat}

/-! ### Escapes -/

theorem hexValue?_digitChar : ∀ v < 16, hexValue? (Nat.digitChar v) = some v ∧
    hexValue? (Nat.digitChar v).toUpper = some v := by decide

theorem HexDigit.hexValue? (h : HexDigit v c) : Json.hexValue? c = some v := by
  cases h with
  | lower hv => exact (hexValue?_digitChar v hv).1
  | upper hv => exact (hexValue?_digitChar v hv).2

theorem readHex_append (h : HexQuad n s) (rest : List Char) :
    readHex (s ++ rest) = .ok (n, rest) := by
  cases h with
  | digits ha hb hc hd =>
    simp [readHex, ha.hexValue?, hb.hexValue?, hc.hexValue?, hd.hexValue?]

theorem readEscape_short (h : (c, e) ∈ shortEscapes) (rest : List Char) :
    readEscape (e :: rest) = .ok (c, rest) ∧ e ≠ 'u' := by
  simp only [shortEscapes, List.mem_cons, Prod.mk.injEq, List.not_mem_nil, or_false] at h
  rcases h with ⟨rfl, rfl⟩ | ⟨rfl, rfl⟩ | ⟨rfl, rfl⟩ | ⟨rfl, rfl⟩ | ⟨rfl, rfl⟩ | ⟨rfl, rfl⟩ |
    ⟨rfl, rfl⟩ | ⟨rfl, rfl⟩ <;> exact ⟨rfl, by decide⟩

/-- No character is a surrogate. -/
theorem toNat_lt_or (c : Char) :
    c.toNat < 0xD800 ∨ (0xDFFF < c.toNat ∧ c.toNat < 0x110000) := c.valid

theorem readUnicode_hex (h : HexQuad c.toNat s) (rest : List Char) :
    readUnicode (s ++ rest) = .ok (c, rest) := by
  have hlow : isLowSurrogate c.toNat = false := by
    have hc := toNat_lt_or c
    simp [isLowSurrogate]
    omega
  have hhigh : isHighSurrogate c.toNat = false := by
    have hc := toNat_lt_or c
    simp [isHighSurrogate]
    omega
  simp [readUnicode, readHex_append h, hlow, hhigh, Char.ofNat_toNat]

/-- Two halves give back the character they were made from. -/
theorem readUnicode_pair {high low : List Char} (hc : 0x10000 ≤ c.toNat)
    (hh : HexQuad (0xD800 + (c.toNat - 0x10000) / 0x400) high)
    (hl : HexQuad (0xDC00 + (c.toNat - 0x10000) % 0x400) low) (rest : List Char) :
    readUnicode (high ++ '\\' :: 'u' :: (low ++ rest)) = .ok (c, rest) := by
  have hlt : c.toNat < 0x110000 := by
    have hc := toNat_lt_or c
    omega
  generalize hm : (c.toNat - 0x10000) / 0x400 = m at hh
  generalize hk : (c.toNat - 0x10000) % 0x400 = k at hl
  have hnotLow : isLowSurrogate (0xD800 + m) = false := by
    simp [isLowSurrogate]
    omega
  have hhigh : isHighSurrogate (0xD800 + m) = true := by
    simp [isHighSurrogate]
    omega
  have hlow : isLowSurrogate (0xDC00 + k) = true := by
    simp [isLowSurrogate]
    omega
  have hjoin : joinSurrogates (0xD800 + m) (0xDC00 + k) = c := by
    have hnat : 0x10000 + (0xD800 + m - 0xD800) * 0x400 + (0xDC00 + k - 0xDC00) = c.toNat := by
      omega
    rw [joinSurrogates, hnat, Char.ofNat_toNat]
  simp [readUnicode, readLow, readHex_append hh, readHex_append hl, hnotLow, hhigh, hlow, hjoin]

/-! ### Strings that are read -/

theorem readUnit_spells (h : Spells c u) (rest : List Char) :
    readUnit (u ++ rest) = .ok (some c, rest) := by
  cases h with
  | plain hc =>
    obtain ⟨hquote, hbackslash, hspace⟩ := hc
    show readUnit (c :: rest) = _
    unfold readUnit
    split
    · rename_i heq
      cases heq
    · rename_i heq
      exact absurd (List.cons.inj heq).1 hquote
    · rename_i heq
      exact absurd (List.cons.inj heq).1 hbackslash
    · rename_i heq
      obtain ⟨rfl, rfl⟩ := List.cons.inj heq
      rw [if_neg (by omega)]
  | short he => simp [readUnit, (readEscape_short he rest).1, Except.map]
  | hex hq => simp [readUnit, readEscape, readUnicode_hex hq, Except.map]
  | pair hc hh hl => simp [readUnit, readEscape, readUnicode_pair hc hh hl, Except.map]

theorem Spells.length_pos (h : Spells c u) : 0 < u.length := by
  cases h <;> simp

theorem SpellsAll.length_le (h : SpellsAll s body) : s.length ≤ body.length := by
  induction h with
  | nil => exact Nat.le_refl 0
  | cons hu _ ih =>
    have hpos := hu.length_pos
    simp only [List.length_cons, List.length_append]
    omega

theorem readUnits_spells (h : SpellsAll s body) (rest : List Char) (hn : s.length < n) :
    readUnits n (body ++ '"' :: rest) = .ok (s, rest) := by
  induction h generalizing n with
  | nil =>
    obtain ⟨n, rfl⟩ := Nat.exists_eq_succ_of_ne_zero (by omega : n ≠ 0)
    rfl
  | @cons c s u t hu _ ih =>
    obtain ⟨n, rfl⟩ := Nat.exists_eq_succ_of_ne_zero (by omega : n ≠ 0)
    have hrest := ih (n := n) (by simpa using hn)
    rw [List.append_assoc, readUnits, readUnit_spells hu]
    simp only [hrest, Except.map]

/-- A string is read whole, and nothing after it. -/
theorem readString_writes (h : Writes s text) :
    ∃ t, text = '"' :: t ∧ ∀ rest, readString (t ++ rest) = .ok (s, rest) := by
  obtain ⟨body, hb, rfl⟩ := h
  refine ⟨body ++ ['"'], rfl, fun rest => ?_⟩
  have hlength := hb.length_le
  rw [List.append_assoc, List.singleton_append, readString]
  exact readUnits_spells hb rest (by simp; omega)

/-! ### Strings that are written -/

theorem spells_escapeChar (c : Char) : Spells c (escapeChar c) := by
  unfold escapeChar
  -- seven characters have a short escape
  iterate 7
    split
    · subst_vars
      exact .short (by decide)
  split
  · rename_i hlt
    have hquad := HexQuad.digits (.lower (v := 0) (by omega)) (.lower (v := 0) (by omega))
      (.lower (v := c.toNat / 16) (by omega)) (.lower (v := c.toNat % 16) (by omega))
    have hvalue : ((0 * 16 + 0) * 16 + c.toNat / 16) * 16 + c.toNat % 16 = c.toNat := by omega
    rw [hvalue] at hquad
    exact .hex hquad
  · exact .plain ⟨‹_›, ‹_›, by omega⟩

theorem writes_quote (s : List Char) : Writes s (quote s) := by
  refine ⟨s.flatMap escapeChar, ?_, rfl⟩
  induction s with
  | nil => exact .nil
  | cons c s ih => exact .cons (spells_escapeChar c) ih

/-! ### Strings that are passed over -/

theorem skipUnit_append (h : IsUnit u) (rest : List Char) :
    skipUnit (u ++ rest) = .ok (true, rest) := by
  cases h with
  | plain hc =>
    rename_i c
    obtain ⟨hquote, hbackslash, hspace⟩ := hc
    show skipUnit (c :: rest) = _
    unfold skipUnit
    split
    · rename_i heq
      cases heq
    · rename_i heq
      exact absurd (List.cons.inj heq).1 hquote
    · rename_i heq
      exact absurd (List.cons.inj heq).1 hbackslash
    · rename_i heq
      exact absurd (List.cons.inj heq).1 hbackslash
    · rename_i heq
      obtain ⟨rfl, rfl⟩ := List.cons.inj heq
      rw [if_neg (by omega)]
  | short he =>
    rename_i c e
    obtain ⟨hread, hu⟩ := readEscape_short he rest
    show skipUnit ('\\' :: e :: rest) = _
    unfold skipUnit
    split
    · rename_i heq
      cases heq
    · rename_i heq
      cases (List.cons.inj heq).1
    · rename_i heq
      exact absurd (List.cons.inj (List.cons.inj heq).2).1 hu
    · rename_i heq
      obtain rfl := (List.cons.inj heq).2
      rw [hread]
      rfl
    · rename_i hne heq
      exact absurd heq.symm (by simp_all)
  | hex hq => simp [skipUnit, readHex_append hq, Except.map]

theorem skipUnits_append {us : List (List Char)} (h : ∀ u ∈ us, IsUnit u) (rest : List Char)
    (hn : us.length < n) : skipUnits n (us.flatten ++ '"' :: rest) = .ok rest := by
  induction us generalizing n with
  | nil =>
    obtain ⟨n, rfl⟩ := Nat.exists_eq_succ_of_ne_zero (by omega : n ≠ 0)
    rfl
  | cons u us ih =>
    obtain ⟨n, rfl⟩ := Nat.exists_eq_succ_of_ne_zero (by omega : n ≠ 0)
    have hrest := ih (n := n) (fun v hv => h v (List.mem_cons_of_mem _ hv)) (by simpa using hn)
    rw [List.flatten_cons, List.append_assoc, skipUnits,
      skipUnit_append (h u List.mem_cons_self)]
    exact hrest

theorem IsUnit.length_pos (h : IsUnit u) : 0 < u.length := by
  cases h <;> simp

theorem skipString_append (h : IsString text) :
    ∃ t, text = '"' :: t ∧ ∀ rest, skipString (t ++ rest) = .ok rest := by
  cases h with
  | @units us hu =>
    refine ⟨us.flatten ++ ['"'], rfl, fun rest => ?_⟩
    have hlength : us.length ≤ us.flatten.length := by
      induction us with
      | nil => exact Nat.le_refl 0
      | cons u us ih =>
        have hpos := (hu u List.mem_cons_self).length_pos
        have hrest := ih fun v hv => hu v (List.mem_cons_of_mem _ hv)
        simp only [List.flatten_cons, List.length_cons, List.length_append]
        omega
    rw [List.append_assoc, List.singleton_append, skipString]
    refine skipUnits_append hu rest ?_
    rw [List.length_append]
    omega

theorem Spells.units (h : Spells c u) :
    ∃ us : List (List Char), (∀ v ∈ us, IsUnit v) ∧ us.flatten = u := by
  cases h with
  | plain hc => exact ⟨[[c]], List.forall_mem_singleton.mpr (.plain hc), rfl⟩
  | @short e he => exact ⟨[['\\', e]], List.forall_mem_singleton.mpr (.short he), rfl⟩
  | @hex q hq =>
    exact ⟨['\\' :: 'u' :: q], List.forall_mem_singleton.mpr (.hex hq), List.append_nil _⟩
  | @pair high low _ hhigh hlow =>
    refine ⟨['\\' :: 'u' :: high, '\\' :: 'u' :: low], ?_, by simp⟩
    exact List.forall_mem_cons.mpr ⟨.hex hhigh, List.forall_mem_singleton.mpr (.hex hlow)⟩

theorem SpellsAll.units (h : SpellsAll s body) :
    ∃ us : List (List Char), (∀ v ∈ us, IsUnit v) ∧ us.flatten = body := by
  induction h with
  | nil => exact ⟨[], List.forall_mem_nil _, rfl⟩
  | cons hc _ ih =>
    obtain ⟨us, hus, rfl⟩ := hc.units
    obtain ⟨vs, hvs, rfl⟩ := ih
    exact ⟨us ++ vs, List.forall_mem_append.mpr ⟨hus, hvs⟩, List.flatten_append⟩

/-- What is a string of characters has the form of a string. -/
theorem Writes.isString (h : Writes s text) : IsString text := by
  obtain ⟨body, hbody, rfl⟩ := h
  obtain ⟨us, hus, rfl⟩ := hbody.units
  exact .units hus

end Handoff.Json
