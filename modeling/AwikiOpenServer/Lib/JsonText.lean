import AwikiOpenServer.Lib.Hex

/-!
# Texts as JSON

What `json.dumps` writes for a text and for a list of texts, in ASCII and without blanks. Every
character is written so that its end is seen, and no character is written with a quotation mark in
front, so **a list of texts is known from what is written for it** (`texts_injective`).

**Why this is wanted.** A program that digests several texts at once has to write them down in one,
and its digests tell the texts apart only if the writing does. Joining with a separator would not,
as soon as a text may hold the separator; quoting does, and this module is the proof.

**How far it goes.** Only the writing is modelled, and only of texts and of lists of texts. Reading
back, numbers, objects and the options of `json.dumps` are not needed for the statement, and would
add cases that say nothing about it.

The proof is local. A character is written as itself, as one of the short escapes, as one `\uXXXX`
or, beyond the basic plane, as two of them (`Written`); two such writings followed by anything are
told apart at the first place they differ (`escape_append_inj`). Texts and lists are then read from
the left, and the induction is on the first of the two.
-/

namespace JsonText

/-- The short escapes, with their letters. -/
def shorts : List (Char × Char) :=
  [('"', '"'), ('\\', '\\'), ('\n', 'n'), ('\r', 'r'), ('\t', 't'), ('\x0c', 'f'), ('\x08', 'b')]

/-- The letter of a short escape. -/
def short? (c : Char) : Option Char := shorts.lookup c

/-- The UTF-16 code units of a character. -/
def units (c : Char) : List ℕ :=
  if c.toNat < 0x10000 then [c.toNat]
  else [0xd800 + (c.toNat - 0x10000) / 0x400, 0xdc00 + (c.toNat - 0x10000) % 0x400]

/-- `\uXXXX`. -/
def unitEscape (u : ℕ) : List Char := '\\' :: 'u' :: Hex.padded 4 u

/-- A character of a string. -/
def escape (c : Char) : List Char :=
  match short? c with
  | some k => ['\\', k]
  | none => if ' ' ≤ c ∧ c ≤ '~' then [c] else (units c).flatMap unitEscape

/-- `json.dumps(text)`. -/
def literal (text : List Char) : List Char := '"' :: (text.flatMap escape ++ ['"'])

/-- The elements of a list, with commas between them. -/
def elements : List (List Char) → List Char
  | [] => []
  | [text] => literal text
  | text :: rest => literal text ++ ',' :: elements rest

/-- `json.dumps(texts, separators=(",", ":"))`. -/
def texts (ts : List (List Char)) : List Char := '[' :: (elements ts ++ [']'])

section Characters

variable {c d : Char} {x y : List Char}

/-- How a character is written. -/
inductive Written (c : Char) : List Char → Prop where
  | short {k : Char} (h : short? c = some k) : Written c ['\\', k]
  | plain (hquote : c ≠ '"') (hback : c ≠ '\\') : Written c [c]
  | unit (h : c.toNat < 0x10000) : Written c (unitEscape c.toNat)
  | pair {n : ℕ} (hn : c.toNat = n + 0x10000) (hlt : n < 0x100000) :
      Written c (unitEscape (0xd800 + n / 0x400) ++ unitEscape (0xdc00 + n % 0x400))

/-- Characters are no surrogates, so the code units of a character are one unit or a pair of
surrogates, and never confused. -/
theorem toNat_lt_or (c : Char) : c.toNat < 0xd800 ∨ 0xdfff < c.toNat ∧ c.toNat < 0x110000 := c.valid

/-- Every character is written in one of the four ways. -/
theorem written (c : Char) : Written c (escape c) := by
  cases hshort : short? c with
  | some k =>
    simp only [escape, hshort]
    exact .short hshort
  | none =>
    simp only [escape, hshort, units]
    split
    · refine .plain ?_ ?_
      · rintro rfl
        cases hshort
      · rintro rfl
        cases hshort
    · split
      · rename_i hlt
        rw [List.flatMap_singleton]
        exact .unit hlt
      · rename_i hge
        have hlt := toNat_lt_or c
        rw [List.flatMap_cons, List.flatMap_singleton]
        exact .pair (by omega) (by omega)

theorem mem_shorts {k : Char} (h : short? c = some k) : (c, k) ∈ shorts := by
  obtain ⟨front, back, hshorts, -⟩ := List.lookup_eq_some_iff.mp h
  rw [hshorts]
  exact List.mem_append_right _ List.mem_cons_self

/-- The short escapes have different letters. -/
theorem short?_inj {k : Char} (hc : short? c = some k) (hd : short? d = some k) : c = d := by
  have hall : ∀ p ∈ shorts, ∀ q ∈ shorts, p.2 = q.2 → p.1 = q.1 := by decide
  exact hall _ (mem_shorts hc) _ (mem_shorts hd) rfl

/-- And none of them is the letter of the long escape. -/
theorem short?_ne_u : short? c ≠ some 'u' := by
  have hall : ∀ p ∈ shorts, p.2 ≠ 'u' := by decide
  exact fun h ↦ hall _ (mem_shorts h) rfl

/-- Four hexadecimal digits are a code unit, whatever follows. -/
theorem unitEscape_append_inj {u v : ℕ} (hu : u < 0x10000) (hv : v < 0x10000)
    (h : unitEscape u ++ x = unitEscape v ++ y) : u = v ∧ x = y := by
  have hdigits : Hex.padded 4 u ++ x = Hex.padded 4 v ++ y := (List.cons.inj (List.cons.inj h).2).2
  obtain ⟨hpadded, hrest⟩ := List.append_inj hdigits (by simp)
  exact ⟨(Hex.padded_inj hu hv).mp hpadded, hrest⟩

/-- **The end of a character is seen.** -/
theorem escape_append_inj (h : escape c ++ x = escape d ++ y) : c = d ∧ x = y := by
  have hc := written c
  have hd := written d
  generalize escape c = ec at hc h
  generalize escape d = ed at hd h
  cases hc with
  | @short k hc =>
    cases hd with
    | @short l hd =>
      obtain ⟨rfl, hrest⟩ := List.cons.inj (List.cons.inj h).2
      exact ⟨short?_inj hc hd, hrest⟩
    | plain _ hback => exact absurd (List.cons.inj h).1.symm hback
    | unit => exact absurd ((List.cons.inj (List.cons.inj h).2).1 ▸ hc) short?_ne_u
    | pair => exact absurd ((List.cons.inj (List.cons.inj h).2).1 ▸ hc) short?_ne_u
  | plain _ hback =>
    cases hd with
    | short => exact absurd (List.cons.inj h).1 hback
    | plain => exact List.cons.inj h
    | unit => exact absurd (List.cons.inj h).1 hback
    | pair => exact absurd (List.cons.inj h).1 hback
  | unit hlt =>
    cases hd with
    | short hd => exact absurd ((List.cons.inj (List.cons.inj h).2).1.symm ▸ hd) short?_ne_u
    | plain _ hback => exact absurd (List.cons.inj h).1.symm hback
    | unit hlt' =>
      obtain ⟨heq, hrest⟩ := unitEscape_append_inj hlt hlt' h
      exact ⟨Char.toNat_inj.mp heq, hrest⟩
    | pair hn hlt' =>
      -- the first unit of a pair is no character
      rw [List.append_assoc] at h
      obtain ⟨heq, -⟩ := unitEscape_append_inj hlt (by omega) h
      have hvalid := toNat_lt_or c
      omega
  | pair hn hlt =>
    cases hd with
    | short hd => exact absurd ((List.cons.inj (List.cons.inj h).2).1.symm ▸ hd) short?_ne_u
    | plain _ hback => exact absurd (List.cons.inj h).1.symm hback
    | unit hlt' =>
      rw [List.append_assoc] at h
      obtain ⟨heq, -⟩ := unitEscape_append_inj (by omega) hlt' h
      have hvalid := toNat_lt_or d
      omega
    | pair hn' hlt' =>
      rw [List.append_assoc, List.append_assoc] at h
      obtain ⟨hhigh, h⟩ := unitEscape_append_inj (by omega) (by omega) h
      obtain ⟨hlow, hrest⟩ := unitEscape_append_inj (by omega) (by omega) h
      exact ⟨Char.toNat_inj.mp (by omega), hrest⟩

/-- What is written of a character is not empty and does not begin with a quotation mark: the
closing mark of a text is not taken for one of its characters. -/
theorem escape_eq_cons (c : Char) : ∃ e es, escape c = e :: es ∧ e ≠ '"' := by
  have hwritten := written c
  generalize escape c = written at hwritten
  cases hwritten with
  | short => exact ⟨_, _, rfl, by decide⟩
  | plain hquote _ => exact ⟨_, _, rfl, hquote⟩
  | unit => exact ⟨_, _, rfl, by decide⟩
  | pair => exact ⟨_, _, rfl, by decide⟩

end Characters

section Texts

variable {s t x y : List Char}

/-- Two texts with their closing marks are told apart, by induction on the characters of the
first. -/
theorem flatMap_escape_inj (h : s.flatMap escape ++ '"' :: x = t.flatMap escape ++ '"' :: y) :
    s = t ∧ x = y := by
  induction s generalizing t with
  | nil =>
    cases t with
    | nil => exact ⟨rfl, (List.cons.inj h).2⟩
    | cons d t =>
      obtain ⟨e, es, hescape, hne⟩ := escape_eq_cons d
      rw [List.flatMap_cons, hescape] at h
      exact absurd (List.cons.inj h).1.symm hne
  | cons c s ih =>
    cases t with
    | nil =>
      obtain ⟨e, es, hescape, hne⟩ := escape_eq_cons c
      rw [List.flatMap_cons, hescape] at h
      exact absurd (List.cons.inj h).1 hne
    | cons d t =>
      rw [List.flatMap_cons, List.flatMap_cons, List.append_assoc, List.append_assoc] at h
      obtain ⟨rfl, htail⟩ := escape_append_inj h
      obtain ⟨rfl, hrest⟩ := ih htail
      exact ⟨rfl, hrest⟩

/-- **The end of a text is seen.** -/
theorem literal_append_inj (h : literal s ++ x = literal t ++ y) : s = t ∧ x = y := by
  have hinner : s.flatMap escape ++ ['"'] ++ x = t.flatMap escape ++ ['"'] ++ y :=
    (List.cons.inj h).2
  rw [List.append_assoc, List.append_assoc] at hinner
  exact flatMap_escape_inj hinner

/-- And so are two lists of texts with their closing brackets. -/
theorem elements_inj {ts us : List (List Char)} (h : elements ts ++ [']'] = elements us ++ [']']) :
    ts = us := by
  have hcons : ∀ t ts, ∃ cs, elements (t :: ts) = literal t ++ cs ∧ (cs = [] ∧ ts = [] ∨
      cs = ',' :: elements ts ∧ ts ≠ []) := fun t ts ↦ by
    cases ts with
    | nil => exact ⟨[], (List.append_nil _).symm, .inl ⟨rfl, rfl⟩⟩
    | cons u ts => exact ⟨_, rfl, .inr ⟨rfl, List.cons_ne_nil _ _⟩⟩
  induction ts generalizing us with
  | nil =>
    cases us with
    | nil => rfl
    | cons u us =>
      obtain ⟨cs, hu, -⟩ := hcons u us
      rw [hu] at h
      exact absurd (List.cons.inj h).1 (by decide)
  | cons t ts ih =>
    obtain ⟨cs, ht, htail⟩ := hcons t ts
    cases us with
    | nil =>
      rw [ht] at h
      exact absurd (List.cons.inj h).1 (by decide)
    | cons u us =>
      obtain ⟨ds, hu, hutail⟩ := hcons u us
      rw [ht, hu, List.append_assoc, List.append_assoc] at h
      obtain ⟨rfl, hrest⟩ := literal_append_inj h
      rcases htail with ⟨rfl, rfl⟩ | ⟨rfl, -⟩ <;> rcases hutail with ⟨rfl, rfl⟩ | ⟨rfl, -⟩
      · rfl
      · exact absurd (List.cons.inj hrest).1 (by decide)
      · exact absurd (List.cons.inj hrest).1 (by decide)
      · rw [ih (List.cons.inj hrest).2]

/-- **A list of texts is known from what is written for it.** -/
theorem texts_injective : Function.Injective texts :=
  fun _ _ h ↦ elements_inj (List.cons.inj h).2

end Texts

end JsonText
