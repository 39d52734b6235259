import Handoff.Text.Utf8
import Mathlib.Data.List.Lex

/-!
# Reading text, and text as it is written

What can be read as text is what some list of characters is written as, and reading gives those
characters back. Texts and what they are written as have the same order: it goes by the first
character, or byte, in which two of them differ.
-/
namespace Handoff.Text.Utf8

variable {b first : UInt8} {bytes rest : Bytes} {c : Char} {n read value v index : Nat}

theorem isContinuation_iff : isContinuation b = true ↔ 0x80 ≤ b.toNat ∧ b.toNat ≤ 0xBF := by
  simp [isContinuation, UInt8.le_iff_toNat_le]

theorem tailLength?_eq (b : UInt8) : tailLength? b =
    if b.toNat < 0x80 then some 0
    else if 0xC2 ≤ b.toNat ∧ b.toNat ≤ 0xDF then some 1
    else if 0xE0 ≤ b.toNat ∧ b.toNat ≤ 0xEF then some 2
    else if 0xF0 ≤ b.toNat ∧ b.toNat ≤ 0xF4 then some 3
    else none := by
  simp [tailLength?, UInt8.le_iff_toNat_le, UInt8.lt_iff_toNat_lt]

/-- The second byte is a continuation, within tighter bounds after four of the first bytes. -/
theorem mayFollow_iff : mayFollow first b = true ↔
    0x80 ≤ b.toNat ∧ b.toNat ≤ 0xBF ∧
      (first.toNat = 0xE0 → 0xA0 ≤ b.toNat) ∧ (first.toNat = 0xED → b.toNat ≤ 0x9F) ∧
      (first.toNat = 0xF0 → 0x90 ≤ b.toNat) ∧ (first.toNat = 0xF4 → b.toNat ≤ 0x8F) := by
  simp only [mayFollow, isContinuation, ← UInt8.toNat_inj, UInt8.le_iff_toNat_le,
    UInt8.reduceToNat]
  split
  · simp
    omega
  · split
    · simp
      omega
    · split
      · simp
        omega
      · split
        · simp
          omega
        · simp
          omega

theorem readTail_succ : readTail first (n + 1) read value bytes = .ok (v, rest) ↔
    ∃ b bs, bytes = b :: bs ∧
      (if read = 1 then mayFollow first b else isContinuation b) = true ∧
        readTail first n (read + 1) (value * 64 + b.toNat % 64) bs = .ok (v, rest) := by
  cases bytes with
  | nil => simp [readTail]
  | cons b bs =>
    rw [readTail]
    constructor
    · intro h
      by_cases hc : (if read = 1 then mayFollow first b else isContinuation b) = true
      · rw [if_pos hc] at h
        exact ⟨b, bs, rfl, hc, h⟩
      · rw [if_neg hc] at h
        cases h
    · rintro ⟨_, _, heq, hc, h⟩
      cases heq
      rw [if_pos hc]
      exact h

theorem readTail_zero : readTail first 0 read value bytes = .ok (v, rest) ↔
    v = value ∧ rest = bytes := by
  simp [readTail, eq_comm]

/-- The number of a character that is one. -/
theorem val_ofNat (hv : v < 0xD800 ∨ (0xDFFF < v ∧ v < 0x110000)) :
    (Char.ofNat v).val.toNat = v := by
  have h : v.isValidChar := hv
  rw [Char.ofNat, dif_pos h]
  rfl

theorem val_lt (c : Char) :
    c.val.toNat < 0xD800 ∨ (0xDFFF < c.val.toNat ∧ c.val.toNat < 0x110000) :=
  c.valid

/-- A byte is given by its number. -/
theorem ofNat_eq (h : v = b.toNat) : UInt8.ofNat v = b := by
  rw [h, UInt8.ofNat_toNat]

/-- What was read as a character is what the character is written as. -/
theorem encode_of_readChar (h : readChar b bytes = .ok (c, n, rest)) :
    b :: bytes = String.utf8EncodeChar c ++ rest := by
  unfold readChar at h
  rw [tailLength?_eq] at h
  split at h
  · cases h
  · rename_i tail ht
    split at h
    · cases h
    · rename_i value rest' hr
      cases h
      split at ht
      · cases ht
        obtain ⟨rfl, rfl⟩ := readTail_zero.mp hr
        simp only [leadBits]
        rw [String.utf8EncodeChar, val_ofNat (by omega), if_pos (by omega), ofNat_eq rfl]
        rfl
      · split at ht
        · cases ht
          obtain ⟨b₁, _, rfl, h₁, hr⟩ := readTail_succ.mp hr
          obtain ⟨rfl, rfl⟩ := readTail_zero.mp hr
          rw [if_pos rfl, mayFollow_iff] at h₁
          simp only [leadBits]
          rw [String.utf8EncodeChar, val_ofNat (by omega), if_neg (by omega), if_pos (by omega),
            ofNat_eq (b := b) (by omega), ofNat_eq (b := b₁) (by omega)]
          rfl
        · split at ht
          · cases ht
            obtain ⟨b₁, _, rfl, h₁, hr⟩ := readTail_succ.mp hr
            obtain ⟨b₂, _, rfl, h₂, hr⟩ := readTail_succ.mp hr
            obtain ⟨rfl, rfl⟩ := readTail_zero.mp hr
            rw [if_pos rfl, mayFollow_iff] at h₁
            rw [if_neg (by omega), isContinuation_iff] at h₂
            simp only [leadBits]
            rw [String.utf8EncodeChar, val_ofNat (by omega), if_neg (by omega), if_neg (by omega),
              if_pos (by omega), ofNat_eq (b := b) (by omega), ofNat_eq (b := b₁) (by omega),
              ofNat_eq (b := b₂) (by omega)]
            rfl
          · split at ht
            · cases ht
              obtain ⟨b₁, _, rfl, h₁, hr⟩ := readTail_succ.mp hr
              obtain ⟨b₂, _, rfl, h₂, hr⟩ := readTail_succ.mp hr
              obtain ⟨b₃, _, rfl, h₃, hr⟩ := readTail_succ.mp hr
              obtain ⟨rfl, rfl⟩ := readTail_zero.mp hr
              rw [if_pos rfl, mayFollow_iff] at h₁
              rw [if_neg (by omega), isContinuation_iff] at h₂ h₃
              simp only [leadBits]
              rw [String.utf8EncodeChar, val_ofNat (by omega), if_neg (by omega), if_neg (by omega),
                if_neg (by omega), ofNat_eq (b := b) (by omega), ofNat_eq (b := b₁) (by omega),
                ofNat_eq (b := b₂) (by omega), ofNat_eq (b := b₃) (by omega)]
              rfl
            · cases ht

/-- The bytes that a character with this number is written as. -/
inductive Form : Nat → Bytes → Prop
  | one {x : Nat} (h : x < 0x80) : Form x [.ofNat x]
  | two {x : Nat} (h : 0x80 ≤ x ∧ x < 0x800) :
      Form x [.ofNat (x / 64 + 0xC0), .ofNat (x % 64 + 0x80)]
  | three {x : Nat} (h : 0x800 ≤ x ∧ x < 0x10000) :
      Form x [.ofNat (x / 4096 + 0xE0), .ofNat (x / 64 % 64 + 0x80), .ofNat (x % 64 + 0x80)]
  | four {x : Nat} (h : 0x10000 ≤ x ∧ x < 0x110000) :
      Form x [.ofNat (x / 262144 + 0xF0), .ofNat (x / 4096 % 64 + 0x80),
        .ofNat (x / 64 % 64 + 0x80), .ofNat (x % 64 + 0x80)]

theorem form_encode (c : Char) : Form c.val.toNat (String.utf8EncodeChar c) := by
  have hc := val_lt c
  unfold String.utf8EncodeChar
  generalize c.val.toNat = x at hc
  simp only
  split
  · exact .one (by omega)
  · split
    · rw [Nat.mod_eq_of_lt (a := x / 64) (by omega)]
      exact .two (by omega)
    · split
      · rw [Nat.mod_eq_of_lt (a := x / 4096) (by omega)]
        exact .three (by omega)
      · rw [Nat.mod_eq_of_lt (a := x / 262144) (by omega)]
        exact .four (by omega)

theorem toNat_ofNat (h : v < 256) : (UInt8.ofNat v).toNat = v := by
  rw [UInt8.toNat_ofNat', Nat.mod_eq_of_lt h]

theorem readChar_eq {n : Nat} (ht : tailLength? b = some n)
    (hr : readTail b n 1 (leadBits n b) bytes = .ok (v, rest)) :
    readChar b bytes = .ok (Char.ofNat v, n + 1, rest) := by
  rw [readChar, ht]
  simp only [hr]

/-- A written character is read back. -/
theorem readChar_of_encode (h : b :: bytes = String.utf8EncodeChar c ++ rest) :
    ∃ n, readChar b bytes = .ok (c, n, rest) := by
  have hc := val_lt c
  have hform := form_encode c
  have hback : Char.ofNat c.val.toNat = c := Char.ofNat_toNat c
  generalize String.utf8EncodeChar c = written at h hform
  generalize c.val.toNat = x at hc hform hback
  subst hback
  cases hform with
  | one hx =>
    cases h
    refine ⟨_, readChar_eq (n := 0) ?_ (readTail_zero.mpr ⟨?_, rfl⟩)⟩
    · rw [tailLength?_eq, toNat_ofNat (by omega), if_pos (by omega)]
    · rw [leadBits, toNat_ofNat (by omega)]
  | two hx =>
    cases h
    refine ⟨_, readChar_eq (n := 1) ?_ (readTail_succ.mpr ⟨_, _, rfl, ?_,
      readTail_zero.mpr ⟨?_, rfl⟩⟩)⟩
    · rw [tailLength?_eq, toNat_ofNat (by omega), if_neg (by omega), if_pos (by omega)]
    · rw [if_pos rfl, mayFollow_iff, toNat_ofNat (by omega), toNat_ofNat (by omega)]
      omega
    · rw [leadBits, toNat_ofNat (by omega), toNat_ofNat (by omega)]
      omega
  | three hx =>
    cases h
    refine ⟨_, readChar_eq (n := 2) ?_ (readTail_succ.mpr ⟨_, _, rfl, ?_,
      readTail_succ.mpr ⟨_, _, rfl, ?_, readTail_zero.mpr ⟨?_, rfl⟩⟩⟩)⟩
    · rw [tailLength?_eq, toNat_ofNat (by omega), if_neg (by omega), if_neg (by omega),
        if_pos (by omega)]
    · rw [if_pos rfl, mayFollow_iff, toNat_ofNat (by omega), toNat_ofNat (by omega)]
      omega
    · rw [if_neg (by omega), isContinuation_iff, toNat_ofNat (by omega)]
      omega
    · rw [leadBits, toNat_ofNat (by omega), toNat_ofNat (by omega), toNat_ofNat (by omega)]
      omega
  | four hx =>
    cases h
    refine ⟨_, readChar_eq (n := 3) ?_ (readTail_succ.mpr ⟨_, _, rfl, ?_,
      readTail_succ.mpr ⟨_, _, rfl, ?_, readTail_succ.mpr ⟨_, _, rfl, ?_,
        readTail_zero.mpr ⟨?_, rfl⟩⟩⟩⟩)⟩
    · rw [tailLength?_eq, toNat_ofNat (by omega), if_neg (by omega), if_neg (by omega),
        if_neg (by omega), if_pos (by omega)]
    · rw [if_pos rfl, mayFollow_iff, toNat_ofNat (by omega), toNat_ofNat (by omega)]
      omega
    · rw [if_neg (by omega), isContinuation_iff, toNat_ofNat (by omega)]
      omega
    · rw [if_neg (by omega), isContinuation_iff, toNat_ofNat (by omega)]
      omega
    · simp only [leadBits]
      rw [toNat_ofNat (by omega), toNat_ofNat (by omega), toNat_ofNat (by omega),
        toNat_ofNat (by omega)]
      omega

theorem length_encode_pos (c : Char) : 0 < (String.utf8EncodeChar c).length := by
  rw [String.length_utf8EncodeChar]
  exact c.utf8Size_pos

private theorem map_eq_ok {ε α β : Type} {f : α → β} {x : Except ε α} {y : β}
    (h : x.map f = .ok y) : ∃ a, x = .ok a ∧ f a = y := by
  cases x with
  | error e => cases h
  | ok a => exact ⟨a, rfl, by cases h; rfl⟩

theorem decodeFrom_nil : decodeFrom n index [] = .ok [] := by
  cases n <;> rfl

theorem flatMap_encode_eq_nil {text : List Char} :
    [] = text.flatMap String.utf8EncodeChar ↔ text = [] := by
  cases text with
  | nil => simp
  | cons c text => simp

/-- Reading with enough steps gives back what was written, and nothing else. -/
theorem decodeFrom_iff {text : List Char} (hn : bytes.length ≤ n) :
    decodeFrom n index bytes = .ok text ↔ bytes = text.flatMap String.utf8EncodeChar := by
  -- on the steps: a character takes one step and at least one byte, so the rest still fits
  induction n generalizing index bytes text with
  | zero =>
    obtain rfl := List.eq_nil_of_length_eq_zero (Nat.le_zero.mp hn)
    rw [decodeFrom_nil, flatMap_encode_eq_nil]
    simp [eq_comm]
  | succ n ih =>
    cases bytes with
    | nil =>
      rw [decodeFrom_nil, flatMap_encode_eq_nil]
      simp [eq_comm]
    | cons b bytes =>
      rw [decodeFrom]
      constructor
      · intro h
        split at h
        · cases h
        · rename_i c size rest hr
          have he := encode_of_readChar hr
          obtain ⟨more, hd, rfl⟩ := map_eq_ok h
          have hl := congrArg List.length he
          have hc := length_encode_pos c
          simp only [List.length_cons, List.length_append] at hl hn
          rw [he, List.flatMap_cons, ← (ih (by omega)).mp hd]
      · intro h
        cases text with
        | nil => cases h
        | cons c text =>
          rw [List.flatMap_cons] at h
          obtain ⟨size, hr⟩ := readChar_of_encode h
          have hl := congrArg List.length h
          have hc := length_encode_pos c
          simp only [List.length_cons, List.length_append] at hl hn
          rw [hr]
          simp only
          rw [(ih (by omega)).mpr rfl]
          rfl

/-- The bytes that can be read as text are those that some text is written as. -/
theorem decode_iff {text : List Char} :
    decode bytes = .ok text ↔ bytes = text.flatMap String.utf8EncodeChar :=
  decodeFrom_iff (Nat.le_refl _)

/-- The bytes are UTF-8. -/
def isText (bytes : Bytes) : Bool := bytes.toByteArray.validateUTF8

theorem isText_iff_written : isText bytes = true ↔
    ∃ text : List Char, bytes = text.flatMap String.utf8EncodeChar := by
  rw [isText, ByteArray.validateUTF8_eq_true_iff]
  constructor
  · rintro ⟨text, h⟩
    refine ⟨text, ?_⟩
    have hd := congrArg (·.data.toList) h
    simpa [List.utf8Encode] using hd
  · rintro ⟨text, rfl⟩
    exact ⟨text, rfl⟩

theorem isText_iff : isText bytes = true ↔ ∃ text, decode bytes = .ok text := by
  simp only [isText_iff_written, decode_iff]

/-- A character is written as one byte, or ends in a byte from 128 on. -/
theorem encode_cases (c : Char) : (∃ x, String.utf8EncodeChar c = [x]) ∨
    ∃ before x, String.utf8EncodeChar c = before ++ [x] ∧ 128 ≤ x.toNat := by
  have hlast : ∀ v, 128 ≤ (UInt8.ofNat (v % 64 + 128)).toNat := by
    intro v
    rw [toNat_ofNat (by omega)]
    omega
  have hform := form_encode c
  generalize String.utf8EncodeChar c = written at hform
  cases hform with
  | one => exact .inl ⟨_, rfl⟩
  | two => exact .inr ⟨[_], _, rfl, hlast _⟩
  | three => exact .inr ⟨[_, _], _, rfl, hlast _⟩
  | four => exact .inr ⟨[_, _, _], _, rfl, hlast _⟩

/-- A byte below 128 at the end is a character of its own. -/
theorem isText_append (hb : b.toNat < 128) : isText (bytes ++ [b]) = isText bytes := by
  rw [Bool.eq_iff_iff, isText_iff_written, isText_iff_written]
  constructor
  · rintro ⟨text, h⟩
    rcases List.eq_nil_or_concat text with rfl | ⟨init, c, rfl⟩
    · simp at h
    · refine ⟨init, ?_⟩
      rw [List.concat_eq_append, List.flatMap_append, List.flatMap_singleton] at h
      -- the last character ends in `b`, which is below 128, so it is written as `b` alone
      rcases encode_cases c with ⟨x, hx⟩ | ⟨before, x, hx, hge⟩
      · rw [hx] at h
        exact (List.append_inj' h rfl).1
      · rw [hx, ← List.append_assoc] at h
        obtain rfl := List.singleton_inj.mp (List.append_inj' h rfl).2
        omega
  · rintro ⟨text, rfl⟩
    refine ⟨text ++ [Char.ofNat b.toNat], ?_⟩
    have hv : (Char.ofNat b.toNat).val.toNat = b.toNat := val_ofNat (by omega)
    rw [List.flatMap_append, List.flatMap_singleton, String.utf8EncodeChar, hv, if_pos (by omega),
      UInt8.ofNat_toNat]

theorem toList_loop (bytes : ByteArray) (i : Nat) (r : Bytes) :
    ByteArray.toList.loop bytes i r = r.reverse ++ bytes.data.toList.drop i := by
  induction i, r using ByteArray.toList.loop.induct bytes with
  | case1 i r h ih =>
    have hi : i < bytes.data.toList.length := by simpa using h
    have hget : bytes.get! i = bytes.data.toList[i] := by
      rw [Array.getElem_toList]
      exact getElem!_pos bytes.data i h
    rw [ByteArray.toList.loop, if_pos h, ih, List.drop_eq_getElem_cons hi, List.reverse_cons,
      List.append_assoc, hget]
    rfl
  | case2 i r h =>
    rw [ByteArray.toList.loop, if_neg h, List.drop_eq_nil_of_le (by simpa using h), List.append_nil]

theorem encode_eq (text : String) : encode text = text.toList.flatMap String.utf8EncodeChar := by
  rw [encode, ByteArray.toList, toList_loop, List.reverse_nil, List.nil_append, List.drop_zero,
    String.toUTF8_eq_toByteArray, ← String.utf8Encode_toList, List.utf8Encode,
    List.toList_data_toByteArray]

/-- What a text is written as is read as the text. -/
theorem decode?_encode (text : String) : decode? (encode text) = some text := by
  have hdecode : decode (encode text) = .ok text.toList := decode_iff.mpr (encode_eq text)
  rw [decode?, hdecode]
  simp only [String.ofList_toList]

/-! ### Order -/

variable {x y : Nat} {r u other : Bytes} {s t : List Char}

theorem cons_lt_iff (hx : x < 256) (hy : y < 256) :
    UInt8.ofNat x :: r < UInt8.ofNat y :: u ↔ x < y ∨ x = y ∧ r < u := by
  rw [List.cons_lt_cons_iff, UInt8.lt_iff_toNat_lt, ← UInt8.toNat_inj, toNat_ofNat hx,
    toNat_ofNat hy]

/-- Two characters are told apart before either ends, whatever follows them. -/
theorem Form.lt (hx : Form x bytes) (hy : Form y other) (h : x < y) (r u : Bytes) :
    bytes ++ r < other ++ u := by
  -- the longer form begins with the higher byte; in one form the digits decide, the highest first
  cases hx <;> cases hy <;>
    · simp (disch := omega) only [List.cons_append, cons_lt_iff]
      omega

theorem flatMap_encode_lt (h : List.Lex (· < ·) s t) :
    s.flatMap String.utf8EncodeChar < t.flatMap String.utf8EncodeChar := by
  induction h with
  | @nil c t =>
    obtain ⟨b, rest, hb⟩ := List.exists_cons_of_length_pos (length_encode_pos c)
    rw [List.flatMap_cons, hb]
    exact .nil
  | @cons c s t _ ih =>
    rw [List.flatMap_cons, List.flatMap_cons]
    exact List.Lex.append_left _ ih _
  | @rel c s d t h =>
    rw [List.flatMap_cons, List.flatMap_cons]
    exact (form_encode c).lt (form_encode d) h _ _

theorem encode_lt_encode {a b : String} (h : a < b) : encode a < encode b := by
  rw [encode_eq, encode_eq]
  exact flatMap_encode_lt h

end Handoff.Text.Utf8
