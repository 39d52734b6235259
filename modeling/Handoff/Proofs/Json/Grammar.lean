import Handoff.Json.Record

/-!
# The grammar of JSON

Which texts are JSON, said without a reader: words, numbers, strings, lists and objects, with blanks
between the tokens. A string that is passed over must have the form of one. A string that is read
spells its characters, each one as itself or by an escape. A character beyond the first plane takes
two escapes then, the halves of a pair of surrogates.

An object is given by its members in order, each as it is written, with the blanks in it. What the
members are for is up to those who read them.
-/
namespace Handoff.Json

open Handoff.Text (isDigit)

def IsBlanks (s : List Char) : Prop := ∀ c ∈ s, isBlank c = true

instance (s : List Char) : Decidable (IsBlanks s) :=
  List.decidableBAll (fun c => isBlank c = true) s

/-- What may follow a value: nothing, a blank, a comma or a closing bracket. -/
def EndsValue (rest : List Char) : Prop :=
  ∀ c ∈ rest.head?, isBlank c = true ∨ c = ',' ∨ c = ']' ∨ c = '}'

/-! ### Numbers -/

def IsDigits (s : List Char) : Prop := s ≠ [] ∧ ∀ c ∈ s, isDigit c = true

/-- No zero stands before another digit. -/
inductive IsWhole : List Char → Prop
  | zero : IsWhole ['0']
  | digits {c : Char} {s : List Char} :
      c ≠ '0' → IsDigits (c :: s) → IsWhole (c :: s)

inductive IsFraction : List Char → Prop
  | absent : IsFraction []
  | digits {s : List Char} : IsDigits s → IsFraction ('.' :: s)

inductive IsExponent : List Char → Prop
  | absent : IsExponent []
  | digits {e : Char} {sign s : List Char} : e = 'e' ∨ e = 'E' →
      sign = [] ∨ sign = ['+'] ∨ sign = ['-'] → IsDigits s → IsExponent (e :: sign ++ s)

inductive IsNumber : List Char → Prop
  | parts {sign whole fraction exponent : List Char} : sign = [] ∨ sign = ['-'] →
      IsWhole whole → IsFraction fraction → IsExponent exponent →
      IsNumber (sign ++ whole ++ fraction ++ exponent)

/-! ### Strings -/

/-- A hexadecimal digit and its value. Letters may be of either case. -/
inductive HexDigit : Nat → Char → Prop
  | lower {v : Nat} : v < 16 → HexDigit v (Nat.digitChar v)
  | upper {v : Nat} : v < 16 → HexDigit v (Nat.digitChar v).toUpper

/-- Four hexadecimal digits and their value. -/
inductive HexQuad : Nat → List Char → Prop
  | digits {a b c d : Nat} {w x y z : Char} : HexDigit a w → HexDigit b x → HexDigit c y →
      HexDigit d z → HexQuad (((a * 16 + b) * 16 + c) * 16 + d) [w, x, y, z]

/-- The characters with a short escape, and the letter of the escape. -/
def shortEscapes : List (Char × Char) :=
  [('"', '"'), ('\\', '\\'), ('/', '/'), ('\x08', 'b'), ('\x0c', 'f'), ('\n', 'n'), ('\r', 'r'),
    ('\t', 't')]

/-- May stand inside quotes as itself. -/
def IsPlain (c : Char) : Prop := c ≠ '"' ∧ c ≠ '\\' ∧ 32 ≤ c.toNat

instance (c : Char) : Decidable (IsPlain c) :=
  inferInstanceAs (Decidable (c ≠ '"' ∧ c ≠ '\\' ∧ 32 ≤ c.toNat))

/-- One character or escape inside quotes, whatever it stands for. -/
inductive IsUnit : List Char → Prop
  | plain {c : Char} : IsPlain c → IsUnit [c]
  | short {c e : Char} : (c, e) ∈ shortEscapes → IsUnit ['\\', e]
  | hex {n : Nat} {q : List Char} : HexQuad n q → IsUnit ('\\' :: 'u' :: q)

/-- A text in quotes. -/
def quoted (body : List Char) : List Char := '"' :: body ++ ['"']

inductive IsString : List Char → Prop
  | units {us : List (List Char)} : (∀ u ∈ us, IsUnit u) → IsString (quoted us.flatten)

/-- A way of writing a character inside quotes. -/
inductive Spells : Char → List Char → Prop
  | plain {c : Char} : IsPlain c → Spells c [c]
  | short {c e : Char} : (c, e) ∈ shortEscapes → Spells c ['\\', e]
  | hex {c : Char} {q : List Char} : HexQuad c.toNat q → Spells c ('\\' :: 'u' :: q)
  /-- the halves of a pair of surrogates -/
  | pair {c : Char} {high low : List Char} : 0x10000 ≤ c.toNat →
      HexQuad (0xD800 + (c.toNat - 0x10000) / 0x400) high →
      HexQuad (0xDC00 + (c.toNat - 0x10000) % 0x400) low →
      Spells c ('\\' :: 'u' :: high ++ '\\' :: 'u' :: low)

/-- A way of writing several. -/
inductive SpellsAll : List Char → List Char → Prop
  | nil : SpellsAll [] []
  | cons {c : Char} {s u t : List Char} : Spells c u → SpellsAll s t → SpellsAll (c :: s) (u ++ t)

/-- The text is a string of these characters. -/
def Writes (s text : List Char) : Prop := ∃ body, SpellsAll s body ∧ text = quoted body

/-! ### Values -/

def words : List (List Char) :=
  [['n', 'u', 'l', 'l'], ['t', 'r', 'u', 'e'], ['f', 'a', 'l', 's', 'e']]

/-- Texts with commas between them. -/
def commas (texts : List (List Char)) : List Char := [','].intercalate texts

/-- Texts as they follow one another, each after a comma. -/
def following {β : Type} (text : β → List Char) (xs : List β) : List Char :=
  xs.flatMap fun x => ',' :: text x

/-- An item of a list, with the blanks around it. -/
structure Item where
  lead : List Char
  value : List Char
  trail : List Char

def Item.text (i : Item) : List Char := i.lead ++ i.value ++ i.trail

structure Item.Padded (i : Item) : Prop where
  lead : IsBlanks i.lead
  trail : IsBlanks i.trail

instance (i : Item) : Decidable i.Padded :=
  decidable_of_iff (IsBlanks i.lead ∧ IsBlanks i.trail)
    ⟨fun h => ⟨h.1, h.2⟩, fun h => ⟨h.lead, h.trail⟩⟩

/-- A member of an object: its name and its value as they are written, with blanks around them. -/
structure Member where
  lead : List Char
  name : List Char
  beforeColon : List Char
  afterColon : List Char
  value : List Char
  trail : List Char

def Member.text (m : Member) : List Char :=
  m.lead ++ m.name ++ m.beforeColon ++ ':' :: m.afterColon ++ m.value ++ m.trail

structure Member.Padded (m : Member) : Prop where
  lead : IsBlanks m.lead
  beforeColon : IsBlanks m.beforeColon
  afterColon : IsBlanks m.afterColon
  trail : IsBlanks m.trail

/-- Any value, without blanks around it. -/
inductive IsValue : List Char → Prop
  | word {w : List Char} : w ∈ words → IsValue w
  | number {s : List Char} : IsNumber s → IsValue s
  | string {s : List Char} : IsString s → IsValue s
  | emptyList {b : List Char} : IsBlanks b → IsValue ('[' :: b ++ [']'])
  | list {items : List Item} : items ≠ [] → (∀ i ∈ items, i.Padded) →
      (∀ i ∈ items, IsValue i.value) → IsValue ('[' :: commas (items.map Item.text) ++ [']'])
  | emptyObject {b : List Char} : IsBlanks b → IsValue ('{' :: b ++ ['}'])
  | object {members : List Member} : members ≠ [] → (∀ m ∈ members, m.Padded) →
      (∀ m ∈ members, IsString m.name) → (∀ m ∈ members, IsValue m.value) →
      IsValue ('{' :: commas (members.map Member.text) ++ ['}'])

/-- A list of these values, in order, each written in a way that `P` allows. -/
inductive IsListOf {α : Type} (P : α → List Char → Prop) : List α → List Char → Prop
  | empty {b : List Char} : IsBlanks b → IsListOf P [] ('[' :: b ++ [']'])
  | items {xs : List (α × Item)} : xs ≠ [] → (∀ x ∈ xs, x.2.Padded ∧ P x.1 x.2.value) →
      IsListOf P (xs.map Prod.fst) ('[' :: commas (xs.map fun x => x.2.text) ++ [']'])

/-- A whole text that is an object with these members. -/
inductive IsObject : List Member → List Char → Prop
  | empty {before inside after : List Char} : IsBlanks before → IsBlanks inside → IsBlanks after →
      IsObject [] (before ++ '{' :: inside ++ '}' :: after)
  | members {before after : List Char} {members : List Member} : IsBlanks before → members ≠ [] →
      IsBlanks after →
      IsObject members (before ++ '{' :: commas (members.map Member.text) ++ '}' :: after)

/-- A member with this name and any value. -/
structure Member.Named (name : List Char) (m : Member) : Prop extends m.Padded where
  name : Writes name m.name
  value : IsValue m.value

/-- A member with any value whose name is another one. -/
def Member.Other (field : List Char) (m : Member) : Prop := ∃ name ≠ field, m.Named name

/-- An object with one member of the field, whose value is written in a way that `P` allows. -/
inductive Holds (field : List Char) (P : List Char → Prop) : List Char → Prop
  | among {before after : List Member} {p : Member} {text : List Char} :
      IsObject (before ++ p :: after) text → (∀ m ∈ before ++ after, m.Other field) →
      p.Named field → P p.value → Holds field P text

/-- An object without a member of the field. -/
inductive Lacks (field : List Char) : List Char → Prop
  | others {members : List Member} {text : List Char} : IsObject members text →
      (∀ m ∈ members, m.Other field) → Lacks field text

/-- An object with two members of the field, or more. -/
inductive Repeats (field : List Char) : List Char → Prop
  | twice {before between after : List Member} {p q : Member} {text : List Char} :
      IsObject (before ++ p :: between ++ q :: after) text →
      (∀ m ∈ before ++ between ++ after, ∃ name, m.Named name) →
      p.Named field → q.Named field → Repeats field text

/-! ### How texts begin and go on -/

variable {b s rest v : List Char} {c : Char}

theorem IsBlanks.nil : IsBlanks [] := nofun

theorem skipBlank_append (hb : IsBlanks b) (s : List Char) : skipBlank (b ++ s) = skipBlank s := by
  induction b with
  | nil => rfl
  | cons c b ih =>
    have hc : isBlank c = true := hb c List.mem_cons_self
    have hrest := ih fun d hd => hb d (List.mem_cons_of_mem _ hd)
    rw [List.cons_append, skipBlank, List.dropWhile_cons_of_pos hc]
    exact hrest

theorem skipBlank_cons (hc : isBlank c = false) (s : List Char) : skipBlank (c :: s) = c :: s := by
  rw [skipBlank, List.dropWhile_cons_of_neg (by simp [hc])]

/-- Past the blanks stands what is no blank. -/
theorem skipBlank_to (hb : IsBlanks b) (hc : isBlank c = false) (s : List Char) :
    skipBlank (b ++ c :: s) = c :: s := by
  rw [skipBlank_append hb, skipBlank_cons hc]

theorem EndsValue.cons (hc : c = ',' ∨ c = ']' ∨ c = '}') (s : List Char) : EndsValue (c :: s) := by
  rintro d hd
  obtain rfl : c = d := by simpa using hd
  exact .inr hc

/-- Blanks and then what may follow a value may follow it, too. -/
theorem EndsValue.blanks (hb : IsBlanks b) (hr : EndsValue rest) : EndsValue (b ++ rest) := by
  cases b with
  | nil => exact hr
  | cons c b =>
    rintro d hd
    obtain rfl : c = d := by simpa using hd
    exact .inl (hb c List.mem_cons_self)

theorem IsWhole.starts (h : IsWhole s) : ∃ c t, s = c :: t ∧ isDigit c = true := by
  cases h with
  | zero => exact ⟨_, _, rfl, rfl⟩
  | digits _ hd => exact ⟨_, _, rfl, hd.2 _ List.mem_cons_self⟩

theorem IsNumber.starts (h : IsNumber s) : ∃ c t, s = c :: t ∧ (c = '-' ∨ isDigit c = true) := by
  cases h with
  | parts hsign hw hf he =>
    obtain ⟨c, t, rfl, hc⟩ := hw.starts
    rcases hsign with rfl | rfl
    · exact ⟨c, _, rfl, .inr hc⟩
    · exact ⟨'-', _, rfl, .inl rfl⟩

theorem following_cons {β : Type} (text : β → List Char) (x : β) (xs : List β) :
    following text (x :: xs) = ',' :: (text x ++ following text xs) := by
  simp [following]

theorem EndsValue.following {β : Type} (hr : EndsValue rest) (text : β → List Char) (xs : List β) :
    EndsValue (following text xs ++ rest) := by
  cases xs with
  | nil => exact hr
  | cons x xs =>
    rw [following_cons]
    exact .cons (.inl rfl) _

theorem length_le_following {β : Type} (text : β → List Char) (xs : List β) :
    xs.length ≤ (following text xs).length := by
  induction xs with
  | nil => exact Nat.zero_le _
  | cons x xs ih =>
    simp only [following_cons, List.length_cons, List.length_append]
    omega

theorem commas_cons {β : Type} (text : β → List Char) (x : β) (xs : List β) :
    commas ((x :: xs).map text) = text x ++ following text xs := by
  induction xs generalizing x with
  | nil => simp [commas, following]
  | cons y xs ih =>
    have hy := ih y
    simp only [commas, List.map_cons] at hy ⊢
    rw [List.intercalate_cons_cons, hy, following_cons]
    simp

end Handoff.Json
