import Handoff.Proofs.Json.Lists

/-!
# Reading objects

What a reader of one field makes of an object, whatever other members there are, in any order and
with any blanks between the tokens. Members of other names are passed over. The member of the field
is read by the reader of its value, and a second one is refused, whatever the two of them hold.
-/
namespace Handoff.Json

variable {α : Type} {b rest s text : List Char}

section Members

variable {field name : List Char} {value : Reader α} {missing found : Option α} {n : Nat}
  {m p q : Member} {ms before after : List Member} {x : α}

theorem readMembers_end (isFirst : Bool) (hb : IsBlanks b) :
    readMembers field value missing (n + 1) isFirst found (b ++ '}' :: rest) =
      (fieldOr missing found).map fun x => (x, rest) := by
  simp only [readMembers, skipBlank_to hb (show isBlank '}' = false from rfl)]

/-- The first member is read as one that follows another. -/
theorem readMembers_first {t : List Char} (h : skipBlank s = '"' :: t) :
    readMembers field value missing n true found s =
      readMembers field value missing n false found (',' :: s) := by
  cases n with
  | zero => rfl
  | succ n => simp [readMembers, skipBlank_cons (show isBlank ',' = false from rfl), h]

theorem readColon_append (hb : IsBlanks b) (rest : List Char) :
    readColon (b ++ ':' :: rest) = .ok rest := by
  simp only [readColon, skipBlank_to hb (show isBlank ':' = false from rfl)]

/-- The text of a member, up to what its name is read from. -/
theorem Member.Named.text_append (hm : m.Named name) : ∃ t, ∀ rest,
    m.text ++ rest = m.lead ++ '"' :: (t ++ (m.beforeColon ++ ':' ::
      (m.afterColon ++ (m.value ++ (m.trail ++ rest))))) ∧
    readString (t ++ rest) = .ok (name, rest) := by
  obtain ⟨t, ht, hname⟩ := readString_writes hm.name
  exact ⟨t, fun rest => ⟨by simp [Member.text, ht], hname rest⟩⟩

/-- A member of another name is passed over. -/
theorem readMembers_other (hm : m.Named name) (hne : name ≠ field) (hb : IsBlanks b)
    (hr : EndsValue rest) :
    readMembers field value missing (n + 1) false found (b ++ ',' :: (m.text ++ rest)) =
      readMembers field value missing n false found (m.trail ++ rest) := by
  obtain ⟨t, ht⟩ := hm.text_append
  have hcomma := skipBlank_to (c := ',') hb rfl
  have hquote := skipBlank_to (c := '"') hm.lead rfl
  have hskip := skipValue_append hm.value hm.afterColon (hr.blanks hm.trail)
  rw [(ht rest).1]
  simp [readMembers, hcomma, hquote, (ht _).2, hne, readColon_append hm.beforeColon, hskip]

/-- The member of the field, where none was found before. -/
theorem readMembers_field (hm : m.Named field) (hb : IsBlanks b)
    (hv : value (m.afterColon ++ (m.value ++ (m.trail ++ rest))) = .ok (x, m.trail ++ rest)) :
    readMembers field value missing (n + 1) false none (b ++ ',' :: (m.text ++ rest)) =
      readMembers field value missing n false (some x) (m.trail ++ rest) := by
  obtain ⟨t, ht⟩ := hm.text_append
  have hcomma := skipBlank_to (c := ',') hb rfl
  have hquote := skipBlank_to (c := '"') hm.lead rfl
  rw [(ht rest).1]
  simp [readMembers, hcomma, hquote, (ht _).2, readColon_append hm.beforeColon, hv]

theorem readMembers_fault {f : Fault} (hm : m.Named field) (hb : IsBlanks b)
    (hv : value (m.afterColon ++ (m.value ++ (m.trail ++ rest))) = .error f) :
    readMembers field value missing (n + 1) false none (b ++ ',' :: (m.text ++ rest)) =
      .error f := by
  obtain ⟨t, ht⟩ := hm.text_append
  have hcomma := skipBlank_to (c := ',') hb rfl
  have hquote := skipBlank_to (c := '"') hm.lead rfl
  rw [(ht rest).1]
  simp [readMembers, hcomma, hquote, (ht _).2, readColon_append hm.beforeColon, hv]

/-- A second member of the field is refused, whatever its value. -/
theorem readMembers_again (hm : m.Named field) (hb : IsBlanks b) :
    readMembers field value missing (n + 1) false (some x) (b ++ ',' :: (m.text ++ rest)) =
      .error .mismatched := by
  obtain ⟨t, ht⟩ := hm.text_append
  have hcomma := skipBlank_to (c := ',') hb rfl
  have hquote := skipBlank_to (c := '"') hm.lead rfl
  rw [(ht rest).1]
  simp [readMembers, hcomma, hquote, (ht _).2]

/-- Members of other names are all passed over. -/
theorem readMembers_others (value : Reader α) (missing found : Option α)
    (hms : ∀ m ∈ ms, m.Other field) (hb : IsBlanks b) (hr : EndsValue rest) :
    ∃ b', IsBlanks b' ∧
      readMembers field value missing (n + ms.length) false found
        (b ++ (following Member.text ms ++ rest)) =
        readMembers field value missing n false found (b' ++ rest) := by
  induction ms generalizing b with
  | nil => exact ⟨b, hb, rfl⟩
  | cons m ms ih =>
    obtain ⟨name, hne, hm⟩ := hms m List.mem_cons_self
    obtain ⟨b', hb', hrest⟩ := ih (fun k hk => hms k (List.mem_cons_of_mem _ hk)) hm.trail
    refine ⟨b', hb', ?_⟩
    rw [following_cons, List.cons_append, List.append_assoc, List.length_cons, ← Nat.add_assoc,
      readMembers_other hm hne hb (hr.following _ ms), hrest]

/-- The one member of the field, among others. -/
theorem readMembers_single (hbefore : ∀ m ∈ before, m.Other field) (hp : p.Named field)
    (hafter : ∀ m ∈ after, m.Other field)
    (hv : ∀ b rest, IsBlanks b → EndsValue rest → value (b ++ (p.value ++ rest)) = .ok (x, rest))
    (hb : IsBlanks b) (hn : (before ++ p :: after).length < n) (rest : List Char) :
    readMembers field value missing n false none
      (b ++ (following Member.text (before ++ p :: after) ++ '}' :: rest)) = .ok (x, rest) := by
  have hends : EndsValue ('}' :: rest) := .cons (.inr (.inr rfl)) rest
  obtain ⟨k, rfl⟩ : ∃ k, n = k + 1 + after.length + 1 + before.length := by
    refine ⟨n - (before.length + after.length + 2), ?_⟩
    simp only [List.length_append, List.length_cons] at hn
    omega
  have htext : following Member.text (before ++ p :: after) ++ '}' :: rest =
      following Member.text before ++
        ',' :: (p.text ++ (following Member.text after ++ '}' :: rest)) := by
    simp [following]
  rw [htext]
  obtain ⟨b₁, hb₁, hfirst⟩ := readMembers_others (n := k + 1 + after.length + 1) value missing
    none hbefore hb (.cons (.inl rfl) (p.text ++ (following Member.text after ++ '}' :: rest)))
  obtain ⟨b₂, hb₂, hlast⟩ := readMembers_others (n := k + 1) value missing (some x) hafter
    hp.trail hends
  have hvalue := hv _ _ hp.afterColon ((hends.following Member.text after).blanks hp.trail)
  rw [hfirst, readMembers_field hp hb₁ hvalue, hlast, readMembers_end _ hb₂]
  rfl

/-- No member of the field at all. -/
theorem readMembers_none (hms : ∀ m ∈ ms, m.Other field) (hb : IsBlanks b) (hn : ms.length < n)
    (rest : List Char) :
    readMembers field value missing n false none (b ++ (following Member.text ms ++ '}' :: rest)) =
      (fieldOr missing none).map fun x => (x, rest) := by
  obtain ⟨k, rfl⟩ : ∃ k, n = k + 1 + ms.length := ⟨n - (ms.length + 1), by omega⟩
  obtain ⟨b', hb', hend⟩ := readMembers_others (n := k + 1) value missing none hms hb
    (.cons (.inr (.inr rfl)) rest)
  rw [hend, readMembers_end _ hb']

/-- Once the field is found, another member of it somewhere further on ends the reading. -/
theorem readMembers_refused_later (hms : ∀ m ∈ ms, ∃ name, m.Named name) (hq : q ∈ ms)
    (hfield : q.Named field) (hb : IsBlanks b) (rest : List Char) :
    ∃ f, readMembers field value missing n false (some x)
      (b ++ (following Member.text ms ++ '}' :: rest)) = .error f := by
  induction ms generalizing b n with
  | nil => cases hq
  | cons m ms ih =>
    cases n with
    | zero => exact ⟨.ended, rfl⟩
    | succ n =>
      rw [following_cons, List.cons_append, List.append_assoc]
      rcases List.mem_cons.mp hq with rfl | hq
      · exact ⟨_, readMembers_again hfield hb⟩
      · obtain ⟨name, hm⟩ := hms m List.mem_cons_self
        by_cases hne : name = field
        · subst hne
          exact ⟨_, readMembers_again hm hb⟩
        · rw [readMembers_other hm hne hb (.following (.cons (.inr (.inr rfl)) rest) _ ms)]
          exact ih (fun k hk => hms k (List.mem_cons_of_mem _ hk)) hq hm.trail

/-- A member of the field and another one somewhere behind it are refused, whatever they hold. -/
theorem readMembers_twice (hexact : Exact value) (hp : p.Named field)
    (hms : ∀ m ∈ ms, ∃ name, m.Named name) (hq : q ∈ ms) (hfield : q.Named field) (hb : IsBlanks b)
    (rest : List Char) :
    ∃ f, readMembers field value missing (n + 1) false none
      (b ++ ',' :: (p.text ++ (following Member.text ms ++ '}' :: rest))) = .error f := by
  have hends : EndsValue ('}' :: rest) := .cons (.inr (.inr rfl)) rest
  rcases hexact _ _ _ hp.value hp.afterColon ((hends.following _ ms).blanks hp.trail) with
    ⟨f, hv⟩ | ⟨x, hv⟩
  · exact ⟨f, readMembers_fault hp hb hv⟩
  · rw [readMembers_field hp hb hv]
    exact readMembers_refused_later hms hq hfield hp.trail rest

theorem named_around (hbefore : ∀ m ∈ before, ∃ name, m.Named name) (hp : p.Named field)
    (hafter : ∀ m ∈ after, ∃ name, m.Named name) :
    ∀ m ∈ before ++ p :: after, ∃ name, m.Named name := by
  intro m hm
  rcases List.mem_append.mp hm with hm | hm
  · exact hbefore m hm
  · rcases List.mem_cons.mp hm with rfl | hm
    · exact ⟨_, hp⟩
    · exact hafter m hm

/-- So are two of them among other members. -/
theorem readMembers_refused (missing : Option α) (hexact : Exact value)
    (hbefore : ∀ m ∈ before, ∃ name, m.Named name) (hp : p.Named field)
    (hafter : ∀ m ∈ after, ∃ name, m.Named name) (hq : q ∈ after) (hfield : q.Named field)
    (hb : IsBlanks b) (rest : List Char) :
    ∃ f, readMembers field value missing n false none
      (b ++ (following Member.text (before ++ p :: after) ++ '}' :: rest)) = .error f := by
  induction before generalizing b n with
  | nil =>
    cases n with
    | zero => exact ⟨.ended, rfl⟩
    | succ n =>
      rw [List.nil_append, following_cons, List.cons_append, List.append_assoc]
      exact readMembers_twice hexact hp hafter hq hfield hb rest
  | cons m before ih =>
    cases n with
    | zero => exact ⟨.ended, rfl⟩
    | succ n =>
      obtain ⟨name, hm⟩ := hbefore m List.mem_cons_self
      have hrest := fun k hk => hbefore k (List.mem_cons_of_mem _ hk)
      rw [List.cons_append, following_cons, List.cons_append, List.append_assoc]
      by_cases hne : name = field
      · -- then this one is the first, and the other one comes behind it
        subst hne
        exact readMembers_twice hexact hm (named_around hrest hp hafter) (by simp) hp hb rest
      · have hends : EndsValue ('}' :: rest) := .cons (.inr (.inr rfl)) rest
        rw [readMembers_other hm hne hb (hends.following _ _)]
        exact ih hrest hm.trail

/-- A record is read from an object as its members are read. -/
theorem readRecord_object (field : List Char) (value : Reader α) (missing : Option α)
    (h : IsObject ms text) (hms : ∀ m ∈ ms, ∃ name, m.Named name) :
    ∃ n b after, ms.length < n ∧ IsBlanks b ∧ IsBlanks after ∧
      readRecord field value missing text =
        readMembers field value missing n false none
          (b ++ (following Member.text ms ++ '}' :: after)) := by
  cases h with
  | @empty outer inside after ho hi ha =>
    refine ⟨(inside ++ '}' :: after).length + 1, inside, after, Nat.succ_pos _, hi, ha, ?_⟩
    rw [List.append_assoc, List.cons_append]
    simp only [readRecord, skipBlank_to ho (show isBlank '{' = false from rfl)]
    rw [readMembers_end true hi]
    exact (readMembers_end false hi).symm
  | @members outer after ms ho hne ha =>
    obtain ⟨m, ms, rfl⟩ := List.exists_cons_of_ne_nil hne
    obtain ⟨name, hm⟩ := hms m List.mem_cons_self
    obtain ⟨t, ht⟩ := hm.text_append
    have htext : commas ((m :: ms).map Member.text) ++ '}' :: after =
        m.text ++ (following Member.text ms ++ '}' :: after) := by
      rw [commas_cons, List.append_assoc]
    have hfirst := skipBlank_to (c := '"') hm.lead rfl
    refine ⟨(m.text ++ (following Member.text ms ++ '}' :: after)).length + 1, [], after, ?_, nofun,
      ha, ?_⟩
    · have hlength := length_le_following Member.text ms
      have hpos : 0 < m.text.length := by
        simp only [Member.text, List.length_append, List.length_cons]
        omega
      simp only [List.length_append, List.length_cons]
      omega
    · rw [List.append_assoc, List.cons_append, htext, List.nil_append, following_cons,
        List.cons_append, List.append_assoc]
      simp only [readRecord, skipBlank_to ho (show isBlank '{' = false from rfl)]
      rw [(ht _).1]
      exact readMembers_first (hfirst _)

theorem Member.Other.exists_named (h : m.Other field) : ∃ name, m.Named name := by
  obtain ⟨name, -, hm⟩ := h
  exact ⟨name, hm⟩

/-- The record holds what the one member of the field holds. -/
theorem readRecord_holds {P : α → List Char → Prop} (missing : Option α)
    (hread : Reads value P) (h : Holds field (P x) text) :
    ∃ rest, IsBlanks rest ∧ readRecord field value missing text = .ok (x, rest) := by
  obtain ⟨hobject, hothers, hp, hx⟩ := h
  rename_i before after p
  have hbefore := fun m hm => hothers m (List.mem_append_left after hm)
  have hafter := fun m hm => hothers m (List.mem_append_right before hm)
  obtain ⟨n, b, rest, hn, hb, hrest, hrecord⟩ := readRecord_object field value missing hobject
    (named_around (fun m hm => (hbefore m hm).exists_named) hp
      fun m hm => (hafter m hm).exists_named)
  exact ⟨rest, hrest, hrecord.trans (readMembers_single hbefore hp hafter
    (fun b rest hb hr => hread x _ b rest hx hb hr) hb hn rest)⟩

/-- Without such a member what stands in for the field is taken. -/
theorem readRecord_lacks (value : Reader α) (missing : Option α) (h : Lacks field text) :
    ∃ rest, IsBlanks rest ∧
      readRecord field value missing text = (fieldOr missing none).map fun x => (x, rest) := by
  obtain ⟨hobject, hothers⟩ := h
  obtain ⟨n, b, rest, hn, hb, hrest, hrecord⟩ := readRecord_object field value missing hobject
    fun m hm => (hothers m hm).exists_named
  exact ⟨rest, hrest, hrecord.trans (readMembers_none hothers hb hn rest)⟩

theorem readRecord_repeats (missing : Option α) (hexact : Exact value)
    (h : Repeats field text) :
    ∃ f, readRecord field value missing text = .error f := by
  obtain ⟨hobject, hnamed, hp, hq⟩ := h
  rename_i before between after p q
  rw [List.append_assoc, List.cons_append] at hobject
  have hbefore := fun m hm => hnamed m (List.mem_append_left _ (List.mem_append_left between hm))
  have hlater := named_around
    (fun m hm => hnamed m (List.mem_append_left after (List.mem_append_right before hm))) hq
    fun m hm => hnamed m (List.mem_append_right (before ++ between) hm)
  obtain ⟨n, b, rest, -, hb, -, hrecord⟩ := readRecord_object field value missing hobject
    (named_around hbefore hp hlater)
  obtain ⟨f, hf⟩ := readMembers_refused (n := n) missing hexact hbefore hp hlater (by simp) hq hb
    rest
  exact ⟨f, hrecord.trans hf⟩

/-- The barest text of a record: the field alone and no blanks. -/
theorem holds_bare {P : List Char → Prop} {v : List Char} (hv : IsValue v) (h : P v) :
    Holds field P ('{' :: quote field ++ ':' :: v ++ ['}']) := by
  let m : Member := ⟨[], quote field, [], [], v, []⟩
  have hbare : IsObject ([] ++ m :: []) ([] ++ '{' :: commas ([m].map Member.text) ++ ['}']) :=
    .members nofun (List.cons_ne_nil m []) nofun
  have htext : [] ++ '{' :: commas ([m].map Member.text) ++ ['}'] =
      '{' :: quote field ++ ':' :: v ++ ['}'] := by
    rw [commas_cons]
    simp [Member.text, following, m]
  have hnamed : m.Named field :=
    ⟨⟨IsBlanks.nil, IsBlanks.nil, IsBlanks.nil, IsBlanks.nil⟩, writes_quote field, hv⟩
  exact .among (htext ▸ hbare) (List.forall_mem_nil _) hnamed h

end Members

/-- A value and nothing but blanks after it. -/
theorem readAll_of_blanks {read : Reader α} {x : α} (h : read text = .ok (x, rest))
    (hb : IsBlanks rest) : readAll read text = .ok x := by
  have hend : skipBlank rest = [] := by
    rw [← List.append_nil rest, skipBlank_append hb]
    rfl
  simp only [readAll, h, hend]

end Handoff.Json
