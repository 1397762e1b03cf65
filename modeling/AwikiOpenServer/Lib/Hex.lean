import Mathlib.Algebra.Ring.Nat
import Mathlib.Data.List.Basic
import Mathlib.Data.Nat.Notation
import Mathlib.Tactic.Common

/-!
# Hexadecimal

Numbers in a fixed number of hexadecimal digits, and bytes in two each: `bytes.hex` writes lower
case, `bytes.fromhex` reads both cases and skips white space between the bytes. **What was written
is read back** (`toBytes?_ofBytes`), and lower-case digits, an even number of them, are what some
bytes are written as (`exists_ofBytes`).

The reading is as lenient as the interpreter's, and asymmetric in the same way: white space is
skipped between two bytes and not inside one. So the two directions are not inverse, and what is
proved is the direction that holds: nothing is lost by writing, and every text of the written form
is the text of some bytes. A program that stores what it has read is thus free to store the text, if
it brings it to the written form first.

`padded` is the other use of the digits, a number at a fixed width. Below `16 ^ w` different numbers
have different texts (`padded_inj`), which is what makes a name with a counter in it a name.

Everything is on lists of characters. The digits are `Nat.digitChar`, whose lemmas in the library
cover writing; `value?` adds reading, in both cases.
-/

namespace Hex

/-! ### Digits -/

/-- The digits that are written. -/
def digits : List Char := "0123456789abcdef".toList

/-- A number in so many digits. -/
def padded : ℕ → ℕ → List Char
  | 0, _ => []
  | w + 1, n => padded w (n / 16) ++ [Nat.digitChar (n % 16)]

/-- The value of a digit, in either case. -/
def value? (c : Char) : Option ℕ :=
  if '0' ≤ c ∧ c ≤ '9' then some (c.toNat - 48)
  else if 'a' ≤ c ∧ c ≤ 'f' then some (c.toNat - 87)
  else if 'A' ≤ c ∧ c ≤ 'F' then some (c.toNat - 55)
  else none

section Digits

variable {w n m : ℕ} {c : Char}

/-- A digit that was written is read as its value. -/
theorem value?_digitChar (h : n < 16) : value? (Nat.digitChar n) = some n := by
  have hall : ∀ n < 16, value? (Nat.digitChar n) = some n := by decide
  exact hall n h

/-- The digits below sixteen are the lower-case ones. -/
theorem digitChar_mem_digits (h : n < 16) : Nat.digitChar n ∈ digits := by
  have hall : ∀ n < 16, Nat.digitChar n ∈ digits := by decide
  exact hall n h

/-- And each of these is the digit of a value. -/
theorem exists_digitChar (h : c ∈ digits) : ∃ n < 16, Nat.digitChar n = c := by
  have hall : digits.all (fun c ↦ (List.range 16).any fun n ↦ Nat.digitChar n = c) = true := by
    decide
  obtain ⟨n, hn, heq⟩ := List.any_eq_true.mp (List.all_eq_true.mp hall c h)
  exact ⟨n, List.mem_range.mp hn, of_decide_eq_true heq⟩

@[simp] theorem length_padded (w n : ℕ) : (padded w n).length = w := by
  induction w generalizing n with
  | zero => rfl
  | succ w ih => rw [padded, List.length_append, ih, List.length_singleton]

/-- A number is written in digits only. -/
theorem mem_digits_of_mem_padded (h : c ∈ padded w n) : c ∈ digits := by
  induction w generalizing n with
  | zero => cases h
  | succ w ih =>
    rcases List.mem_append.mp h with h | h
    · exact ih h
    · rw [List.mem_singleton.mp h]
      exact digitChar_mem_digits (Nat.mod_lt n (by omega))

/-- **Numbers that fit are written differently.** -/
theorem padded_inj (hn : n < 16 ^ w) (hm : m < 16 ^ w) : padded w n = padded w m ↔ n = m := by
  refine ⟨fun h ↦ ?_, congrArg (padded w)⟩
  induction w generalizing n m with
  | zero => omega
  | succ w ih =>
    rw [Nat.pow_succ] at hn hm
    obtain ⟨hfront, hlast⟩ := List.append_inj' h rfl
    have hdiv := ih (by omega) (by omega) hfront
    have hmod : n % 16 = m % 16 := by
      have hread := congrArg value? (List.cons.inj hlast).1
      rw [value?_digitChar (Nat.mod_lt n (by omega)),
        value?_digitChar (Nat.mod_lt m (by omega))] at hread
      exact Option.some.inj hread
    omega

end Digits

/-! ### Bytes -/

/-- `bytes.hex()`. -/
def ofBytes (bytes : List UInt8) : List Char := bytes.flatMap fun b ↦ padded 2 b.toNat

/-- The white space that `bytes.fromhex` skips. -/
def isSpace (c : Char) : Bool := [' ', '\t', '\n', '\r', '\x0b', '\x0c'].contains c

/-- `bytes.fromhex(text)`; `none` is its `ValueError`. -/
def toBytes? : List Char → Option (List UInt8)
  | [] => some []
  | [c] => if isSpace c then some [] else none
  | c :: d :: cs =>
    if isSpace c then toBytes? (d :: cs)
    else do
      let high ← value? c
      let low ← value? d
      let rest ← toBytes? cs
      return UInt8.ofNat (high * 16 + low) :: rest

section Bytes

variable {bytes : List UInt8} {cs : List Char} {c : Char}

/-- Bytes are written one after the other, the high half first. -/
theorem ofBytes_cons (b : UInt8) (bytes : List UInt8) :
    ofBytes (b :: bytes) =
      Nat.digitChar (b.toNat / 16) :: Nat.digitChar (b.toNat % 16) :: ofBytes bytes := by
  have hhigh : b.toNat / 16 % 16 = b.toNat / 16 := Nat.mod_eq_of_lt (by have := b.toNat_lt; omega)
  show padded 2 b.toNat ++ _ = _
  rw [padded, padded, padded, hhigh]
  rfl

/-- Two characters a byte. -/
theorem length_ofBytes (bytes : List UInt8) : (ofBytes bytes).length = 2 * bytes.length := by
  induction bytes with
  | nil => rfl
  | cons b bytes ih =>
    rw [ofBytes_cons, List.length_cons, List.length_cons, List.length_cons, ih]
    omega

/-- Bytes are written in lower-case digits only. -/
theorem mem_digits_of_mem_ofBytes (h : c ∈ ofBytes bytes) : c ∈ digits := by
  obtain ⟨b, -, hb⟩ := List.mem_flatMap.mp h
  exact mem_digits_of_mem_padded hb

/-- **Bytes are read back.** -/
theorem toBytes?_ofBytes (bytes : List UInt8) : toBytes? (ofBytes bytes) = some bytes := by
  induction bytes with
  | nil => rfl
  | cons b bytes ih =>
    have hlt := b.toNat_lt
    have hspace : ∀ n < 16, isSpace (Nat.digitChar n) = false := by decide
    have hvalue : b.toNat / 16 * 16 + b.toNat % 16 = b.toNat := by omega
    rw [ofBytes_cons, toBytes?, hspace _ (by omega), if_neg Bool.false_ne_true,
      value?_digitChar (by omega), value?_digitChar (by omega), ih]
    show some (UInt8.ofNat (b.toNat / 16 * 16 + b.toNat % 16) :: bytes) = _
    rw [hvalue, UInt8.ofNat_toNat]

/-- **Lower-case digits, an even number of them, are those of some bytes.** -/
theorem exists_ofBytes {n : ℕ} (hlength : cs.length = 2 * n) (h : ∀ c ∈ cs, c ∈ digits) :
    ∃ bytes, bytes.length = n ∧ ofBytes bytes = cs := by
  induction n generalizing cs with
  | zero =>
    obtain rfl : cs = [] := List.length_eq_zero_iff.mp hlength
    exact ⟨[], rfl, rfl⟩
  | succ n ih =>
    obtain ⟨c, d, rest, rfl⟩ : ∃ c d rest, cs = c :: d :: rest := by
      match cs, hlength with
      | c :: d :: rest, _ => exact ⟨c, d, rest, rfl⟩
    obtain ⟨high, hhigh, rfl⟩ := exists_digitChar (h c List.mem_cons_self)
    obtain ⟨low, hlow, rfl⟩ := exists_digitChar (h d (List.mem_cons_of_mem _ List.mem_cons_self))
    have hrest : rest.length = 2 * n := by simpa [Nat.mul_add] using hlength
    obtain ⟨bytes, hbytes, rfl⟩ := ih hrest
      fun c hc ↦ h c (List.mem_cons_of_mem _ (List.mem_cons_of_mem _ hc))
    have hbyte : (UInt8.ofNat (high * 16 + low)).toNat = high * 16 + low :=
      UInt8.toNat_ofNat_of_lt (show high * 16 + low < 256 by omega)
    refine ⟨UInt8.ofNat (high * 16 + low) :: bytes, by rw [List.length_cons, hbytes], ?_⟩
    rw [ofBytes_cons, hbyte]
    have hdiv : (high * 16 + low) / 16 = high := by omega
    have hmod : (high * 16 + low) % 16 = low := by omega
    rw [hdiv, hmod]

end Bytes

end Hex
