import Mathlib.Data.List.DropRight
import Mathlib.Data.Nat.Notation
import Mathlib.Tactic.Common

/-!
# Base64

The encoding of `base64.urlsafe_b64encode`, and the reading of `base64.urlsafe_b64decode`, which is
lenient: characters outside the alphabet are skipped, both alphabets are read, and after enough
padding whatever follows is ignored. With `validate=True` only characters of the alphabet and the
padding they need are read. **What was encoded is read back** (`urlDecode_urlEncode`,
`urlDecodeValid_urlEncode`), also when the padding was left off and is put back by the length of the
text (`pad_urlEncode`).

**The decoder is the interpreter's loop.** `decodeFrom` carries the three variables of
`binascii.a2b_base64`: the position in the quad, the padding seen, and the bits left over from the
last character. That is the function which decides what a malformed text is read as, so it is
modelled with its leniency and not replaced by a clean decoder of well-formed texts.

**The proof runs the loop over four characters at a time.** One lemma for each position of the quad
says what a digit does there; `decode_encode` is then an induction on the bytes, three at a time as
the encoder takes them, and its cases are what is left over at the end. The URL-safe alphabet is a
translation before and after, which the lemmas about `toUrl` and `ofUrl` carry through.

Padding needs a fact about lengths only: `encode_eq` says that an encoded text is digits and then
padding, and that together they fill the last quad, so stripping the padding and counting it again
gives the same text.
-/

namespace Base64

/-! ### Digits -/

/-- The digit of a value, in the standard alphabet. -/
def digit (n : ℕ) : Char :=
  if n < 26 then Char.ofNat (65 + n)
  else if n < 52 then Char.ofNat (71 + n)
  else if n < 62 then Char.ofNat (n - 4)
  else if n = 62 then '+'
  else '/'

/-- The value of a character, in the standard alphabet. -/
def value? (c : Char) : Option ℕ :=
  if 'A' ≤ c ∧ c ≤ 'Z' then some (c.toNat - 65)
  else if 'a' ≤ c ∧ c ≤ 'z' then some (c.toNat - 71)
  else if '0' ≤ c ∧ c ≤ '9' then some (c.toNat + 4)
  else if c = '+' then some 62
  else if c = '/' then some 63
  else none

/-- To the URL-safe alphabet. -/
def toUrl (c : Char) : Char := if c = '+' then '-' else if c = '/' then '_' else c

/-- From the URL-safe alphabet; the characters of the standard one stay as they are. -/
def ofUrl (c : Char) : Char := if c = '-' then '+' else if c = '_' then '/' else c

/-! ### Texts -/

/-- `base64.b64encode`. -/
def encode : List UInt8 → List Char
  | a :: b :: c :: rest =>
    digit (a.toNat / 4) :: digit (a.toNat % 4 * 16 + b.toNat / 16) ::
      digit (b.toNat % 16 * 4 + c.toNat / 64) :: digit (c.toNat % 64) :: encode rest
  | [a, b] =>
    [digit (a.toNat / 4), digit (a.toNat % 4 * 16 + b.toNat / 16), digit (b.toNat % 16 * 4), '=']
  | [a] => [digit (a.toNat / 4), digit (a.toNat % 4 * 16), '=', '=']
  | [] => []

/-- `binascii.a2b_base64`: the position in the quad, the padding seen in it, and what is left of the
last character. `none` is its `Error`. -/
def decodeFrom : ℕ → ℕ → ℕ → List Char → Option (List UInt8)
  | quad, _, _, [] => if quad = 0 then some [] else none
  | quad, pads, left, c :: cs =>
    if c = '=' then
      if 2 ≤ quad then
        if 4 ≤ quad + (pads + 1) then some [] else decodeFrom quad (pads + 1) left cs
      else decodeFrom quad pads left cs
    else
      match value? c with
      | none => decodeFrom quad pads left cs
      | some v =>
        match quad with
        | 0 => decodeFrom 1 0 v cs
        | 1 => (decodeFrom 2 0 (v % 16) cs).map (UInt8.ofNat (left * 4 + v / 16) :: ·)
        | 2 => (decodeFrom 3 0 (v % 4) cs).map (UInt8.ofNat (left * 16 + v / 4) :: ·)
        | _ => (decodeFrom 0 0 0 cs).map (UInt8.ofNat (left * 64 + v) :: ·)

/-- `binascii.a2b_base64` from the start of a quad. -/
def decode (cs : List Char) : Option (List UInt8) := decodeFrom 0 0 0 cs

/-- `base64.urlsafe_b64encode`. -/
def urlEncode (bytes : List UInt8) : List Char := (encode bytes).map toUrl

/-- `base64.urlsafe_b64decode`. -/
def urlDecode (cs : List Char) : Option (List UInt8) := decode (cs.map ofUrl)

/-- `base64.b64decode(text, validate=True)`. -/
def decodeValid (cs : List Char) : Option (List UInt8) :=
  let digits := cs.takeWhile (· ≠ '=')
  if digits.all (fun c ↦ (value? c).isSome) ∧
      cs = digits ++ List.replicate ((4 - digits.length % 4) % 4) '=' then decode cs
  else none

/-- `base64.b64decode(text, altchars=b"-_", validate=True)`. -/
def urlDecodeValid (cs : List Char) : Option (List UInt8) := decodeValid (cs.map ofUrl)

/-- `text.rstrip("=")`. -/
def unpad (cs : List Char) : List Char := cs.rdropWhile (· = '=')

/-- `text + "=" * (-len(text) % 4)`. -/
def pad (cs : List Char) : List Char := cs ++ List.replicate ((4 - cs.length % 4) % 4) '='

section Texts

variable {n : ℕ} {c : Char}

/-- The characters of the alphabet have the values they stand for. -/
theorem value?_digit (h : n < 64) : value? (digit n) = some n := by
  have hall : ∀ n < 64, value? (digit n) = some n := by decide
  exact hall n h

/-- And none of them is the padding. -/
theorem digit_ne_pad (h : n < 64) : digit n ≠ '=' := by
  have hall : ∀ n < 64, digit n ≠ '=' := by decide
  exact hall n h

section Quad

variable (h : n < 64) (pads left : ℕ) (cs : List Char)

include h

/-- At the start of a quad a digit is six bits and no byte yet. -/
theorem decodeFrom_zero : decodeFrom 0 pads left (digit n :: cs) = decodeFrom 1 0 n cs := by
  rw [decodeFrom, if_neg (digit_ne_pad h), value?_digit h]
  rfl

/-- The second digit completes the first byte. -/
theorem decodeFrom_one : decodeFrom 1 pads left (digit n :: cs) =
    (decodeFrom 2 0 (n % 16) cs).map (UInt8.ofNat (left * 4 + n / 16) :: ·) := by
  rw [decodeFrom, if_neg (digit_ne_pad h), value?_digit h]
  rfl

/-- The third completes the second. -/
theorem decodeFrom_two : decodeFrom 2 pads left (digit n :: cs) =
    (decodeFrom 3 0 (n % 4) cs).map (UInt8.ofNat (left * 16 + n / 4) :: ·) := by
  rw [decodeFrom, if_neg (digit_ne_pad h), value?_digit h]
  rfl

/-- The fourth completes the third, and the next quad begins. -/
theorem decodeFrom_three : decodeFrom 3 pads left (digit n :: cs) =
    (decodeFrom 0 0 0 cs).map (UInt8.ofNat (left * 64 + n) :: ·) := by
  rw [decodeFrom, if_neg (digit_ne_pad h), value?_digit h]
  rfl

end Quad

theorem ofNat_of_eq {b : UInt8} (h : n = b.toNat) : UInt8.ofNat n = b := by
  rw [h, UInt8.ofNat_toNat]

/-- **Bytes are read back.** -/
theorem decode_encode (bytes : List UInt8) : decode (encode bytes) = some bytes := by
  unfold decode
  fun_induction encode bytes with
  | case1 a b c rest ih =>
    have ha := a.toNat_lt
    have hb := b.toNat_lt
    have hc := c.toNat_lt
    rw [decodeFrom_zero (by omega), decodeFrom_one (by omega), decodeFrom_two (by omega),
      decodeFrom_three (by omega), ih]
    have hfirst := ofNat_of_eq (b := a)
      (by omega : a.toNat / 4 * 4 + (a.toNat % 4 * 16 + b.toNat / 16) / 16 = a.toNat)
    have hsecond := ofNat_of_eq (b := b) (by omega : (a.toNat % 4 * 16 + b.toNat / 16) % 16 * 16 +
      (b.toNat % 16 * 4 + c.toNat / 64) / 4 = b.toNat)
    have hthird := ofNat_of_eq (b := c)
      (by omega : (b.toNat % 16 * 4 + c.toNat / 64) % 4 * 64 + c.toNat % 64 = c.toNat)
    rw [hfirst, hsecond, hthird]
    rfl
  | case2 a b =>
    have ha := a.toNat_lt
    have hb := b.toNat_lt
    rw [decodeFrom_zero (by omega), decodeFrom_one (by omega), decodeFrom_two (by omega)]
    have hfirst := ofNat_of_eq (b := a)
      (by omega : a.toNat / 4 * 4 + (a.toNat % 4 * 16 + b.toNat / 16) / 16 = a.toNat)
    have hsecond := ofNat_of_eq (b := b)
      (by omega : (a.toNat % 4 * 16 + b.toNat / 16) % 16 * 16 + b.toNat % 16 * 4 / 4 = b.toNat)
    rw [hfirst, hsecond]
    rfl
  | case3 a =>
    have ha := a.toNat_lt
    rw [decodeFrom_zero (by omega), decodeFrom_one (by omega)]
    have hfirst := ofNat_of_eq (b := a)
      (by omega : a.toNat / 4 * 4 + a.toNat % 4 * 16 / 16 = a.toNat)
    rw [hfirst]
    rfl
  | case4 => rfl

/-! ### The URL-safe alphabet and the padding -/

/-- What an encoded text looks like: digits, and what padding the last quad needs. -/
theorem encode_eq (bytes : List UInt8) :
    ∃ ns : List ℕ, ∃ padding, encode bytes = ns.map digit ++ List.replicate padding '=' ∧
      (∀ n ∈ ns, n < 64) ∧ padding ≤ 2 ∧ (ns.length + padding) % 4 = 0 := by
  fun_induction encode bytes with
  | case1 a b c rest ih =>
    have ha := a.toNat_lt
    have hb := b.toNat_lt
    have hc := c.toNat_lt
    obtain ⟨ns, padding, hns, hlt, hle, hlength⟩ := ih
    refine ⟨_ :: _ :: _ :: _ :: ns, padding, by rw [hns]; rfl, ?_, hle, ?_⟩
    · simp only [List.forall_mem_cons]
      exact ⟨by omega, by omega, by omega, by omega, hlt⟩
    · simp only [List.length_cons]
      omega
  | case2 a b =>
    have ha := a.toNat_lt
    have hb := b.toNat_lt
    refine ⟨[_, _, _], 1, rfl, ?_, by omega, by simp only [List.length_cons, List.length_nil]⟩
    simp only [List.forall_mem_cons]
    exact ⟨by omega, by omega, by omega, fun _ h ↦ absurd h List.not_mem_nil⟩
  | case3 a =>
    have ha := a.toNat_lt
    refine ⟨[_, _], 2, rfl, ?_, by omega, by simp only [List.length_cons, List.length_nil]⟩
    simp only [List.forall_mem_cons]
    exact ⟨by omega, by omega, fun _ h ↦ absurd h List.not_mem_nil⟩
  | case4 => exact ⟨[], 0, rfl, by simp, by omega, rfl⟩

/-- Translating a digit there and back is nothing. -/
theorem ofUrl_toUrl_digit (h : n < 64) : ofUrl (toUrl (digit n)) = digit n := by
  have hall : ∀ n < 64, ofUrl (toUrl (digit n)) = digit n := by decide
  exact hall n h

/-- The padding is in neither alphabet. -/
theorem toUrl_digit_ne_pad (h : n < 64) : toUrl (digit n) ≠ '=' := by
  have hall : ∀ n < 64, toUrl (digit n) ≠ '=' := by decide
  exact hall n h

/-- An encoded text, translated back, is the text in the standard alphabet. -/
theorem map_ofUrl_urlEncode (bytes : List UInt8) : (urlEncode bytes).map ofUrl = encode bytes := by
  obtain ⟨ns, padding, hencode, hlt, -, -⟩ := encode_eq bytes
  rw [urlEncode, hencode, List.map_append, List.map_append, List.map_map, List.map_map,
    List.map_replicate, List.map_replicate]
  congr 1
  exact List.map_congr_left fun n hn ↦ ofUrl_toUrl_digit (hlt n hn)

/-- **Bytes are read back.** -/
theorem urlDecode_urlEncode (bytes : List UInt8) : urlDecode (urlEncode bytes) = some bytes := by
  rw [urlDecode, map_ofUrl_urlEncode, decode_encode]

/-- **Bytes are read back** also where only what is valid is read. -/
theorem urlDecodeValid_urlEncode (bytes : List UInt8) :
    urlDecodeValid (urlEncode bytes) = some bytes := by
  rw [urlDecodeValid, map_ofUrl_urlEncode, decodeValid]
  obtain ⟨ns, padding, hencode, hlt, hle, hlength⟩ := encode_eq bytes
  have hdigits : ∀ c ∈ ns.map digit, c ≠ '=' ∧ (value? c).isSome = true := by
    intro c hc
    obtain ⟨n, hn, rfl⟩ := List.mem_map.mp hc
    exact ⟨digit_ne_pad (hlt n hn), by rw [value?_digit (hlt n hn)]; rfl⟩
  have hfront : (encode bytes).takeWhile (· ≠ '=') = ns.map digit := by
    rw [hencode, List.takeWhile_append_of_pos fun c hc ↦ decide_eq_true (hdigits c hc).1,
      List.takeWhile_replicate]
    simp
  have hpadding : padding = (4 - (ns.map digit).length % 4) % 4 := by
    rw [List.length_map]
    omega
  rw [hfront, if_pos ⟨List.all_eq_true.mpr fun c hc ↦ (hdigits c hc).2,
    by rw [hencode, ← hpadding]⟩, decode_encode]

/-- The padding comes off. -/
theorem unpad_append_replicate {front : List Char} (h : ∀ c ∈ front, c ≠ '=') (k : ℕ) :
    unpad (front ++ List.replicate k '=') = front := by
  induction k with
  | zero =>
    rw [List.replicate_zero, List.append_nil]
    exact List.rdropWhile_eq_self_iff.mpr fun hne ↦ by simpa using h _ (List.getLast_mem hne)
  | succ k ih =>
    rw [List.replicate_succ', ← List.append_assoc, unpad,
      List.rdropWhile_concat_pos _ _ _ (by decide)]
    exact ih

/-- **Padding that was left off is put back**, and none is put to a padded text. -/
theorem pad_urlEncode (bytes : List UInt8) :
    pad (unpad (urlEncode bytes)) = urlEncode bytes ∧ pad (urlEncode bytes) = urlEncode bytes := by
  obtain ⟨ns, padding, hencode, hlt, hle, hlength⟩ := encode_eq bytes
  have hurl : urlEncode bytes = ns.map (toUrl ∘ digit) ++ List.replicate padding '=' := by
    rw [urlEncode, hencode, List.map_append, List.map_map, List.map_replicate]
    rfl
  have hfront : ∀ c ∈ ns.map (toUrl ∘ digit), c ≠ '=' := by
    intro c hc
    obtain ⟨n, hn, rfl⟩ := List.mem_map.mp hc
    exact toUrl_digit_ne_pad (hlt n hn)
  constructor
  · rw [hurl, unpad_append_replicate hfront, pad, List.length_map]
    congr 2
    omega
  · have hwhole : (urlEncode bytes).length % 4 = 0 := by
      rw [hurl, List.length_append, List.length_map, List.length_replicate, hlength]
    rw [pad, hwhole]
    exact List.append_nil _

/-- What holds of the digits and of the padding holds of every character. -/
theorem of_mem_urlEncode (P : Char → Prop) (hdigit : ∀ n < 64, P (toUrl (digit n)))
    (hpad : P '=') {bytes : List UInt8} (h : c ∈ urlEncode bytes) : P c := by
  obtain ⟨ns, padding, hencode, hlt, -, -⟩ := encode_eq bytes
  rw [urlEncode, hencode] at h
  obtain ⟨d, hd, rfl⟩ := List.mem_map.mp h
  rcases List.mem_append.mp hd with hd | hd
  · obtain ⟨n, hn, rfl⟩ := List.mem_map.mp hd
    exact hdigit n (hlt n hn)
  · rw [List.eq_of_mem_replicate hd]
    exact hpad

/-- An encoded text is ASCII. -/
theorem isAscii_of_mem_urlEncode {bytes : List UInt8} (h : c ∈ urlEncode bytes) : c.toNat < 128 :=
  of_mem_urlEncode (fun c ↦ c.toNat < 128) (by decide) (by decide) h

end Texts

end Base64
