import Mathlib.Data.List.Basic
import Mathlib.Tactic.IntervalCases
import AwikiOpenServer.Lib.Json

/-!
# Text: decimal numerals, white space, `int` and `str`

Counters travel through documents as decimal strings: one side writes `str(n)`, the other reads it
back with `int`. The reading side accepts far more than the writing side produces — surrounding
white space, a sign, single underscores between digits, and every Unicode decimal digit — and that
wider grammar is what `ofText?` computes. The one fact everything else uses is `ofText?_toString`:
**a written counter reads back as itself**.

**The grammar is modelled whole**, although the lemmas about it are few. A handler that reads a
cursor or a limit from a request is given whatever the client sent, and whether ` +1_0` is ten or an
error decides which branch it takes. So what a result about a refused parameter rests on is the
definition, and what a result about a round trip rests on is the one lemma.

The Unicode tables are those of the interpreter: the zeros of the sixty-six runs of ten decimal
digits, the remaining characters `str.isdigit` accepts, and the white space `str.strip` removes.
`str.isdigit` and `int` do not agree on what a digit is, and both occur in the handlers; hence the
two predicates `decimal?` and `isDigitChar`.

**The proof of the round trip** follows the numeral and not the number: reading the digits of `n`
from an accumulator gives `n` and leaves the rest of the text (`readDigits_toDigits`), by the
recursion of `Nat.toDigits`, whose last digit is split off each time. White space and signs do not
occur in what was written, so the outer layers of the reader are passed through.

## Numerals of any length

An interpreter can be told to refuse long numerals, and is so by default: `int(s)` of a text with
more than 4300 digits raises a `ValueError`, and so does `str(n)` of such an integer. The numerals
here are those of an interpreter without that limit (`sys.set_int_max_str_digits(0)`). Counters are
far from it, being stored in 64 bits; it shows only where a client itself sends such a numeral,
which under the limit is refused as no integer, and is an integer beyond all bounds here.
-/

namespace Py

/-! ### Character classes -/

/-- The first character of each run of ten Unicode decimal digits. -/
def decimalZeros : List ℕ :=
  [0x30, 0x660, 0x6f0, 0x7c0, 0x966, 0x9e6, 0xa66, 0xae6, 0xb66, 0xbe6, 0xc66, 0xce6, 0xd66, 0xde6,
    0xe50, 0xed0, 0xf20, 0x1040, 0x1090, 0x17e0, 0x1810, 0x1946, 0x19d0, 0x1a80, 0x1a90, 0x1b50,
    0x1bb0, 0x1c40, 0x1c50, 0xa620, 0xa8d0, 0xa900, 0xa9d0, 0xa9f0, 0xaa50, 0xabf0, 0xff10, 0x104a0,
    0x10d30, 0x11066, 0x110f0, 0x11136, 0x111d0, 0x112f0, 0x11450, 0x114d0, 0x11650, 0x116c0,
    0x11730, 0x118e0, 0x11950, 0x11c50, 0x11d50, 0x11da0, 0x16a60, 0x16ac0, 0x16b50, 0x1d7ce,
    0x1d7d8, 0x1d7e2, 0x1d7ec, 0x1d7f6, 0x1e140, 0x1e2f0, 0x1e950, 0x1fbf0]

/-- Digits that are not decimal: superscripts, circled and other positional forms. `str.isdigit`
accepts them, `int` does not. -/
def otherDigits : List (ℕ × ℕ) :=
  [(0xb2, 0xb3), (0xb9, 0xb9), (0x1369, 0x1371), (0x19da, 0x19da), (0x2070, 0x2070),
    (0x2074, 0x2079), (0x2080, 0x2089), (0x2460, 0x2468), (0x2474, 0x247c), (0x2488, 0x2490),
    (0x24ea, 0x24ea), (0x24f5, 0x24fd), (0x24ff, 0x24ff), (0x2776, 0x277e), (0x2780, 0x2788),
    (0x278a, 0x2792), (0x10a40, 0x10a43), (0x10e60, 0x10e68), (0x11052, 0x1105a),
    (0x1f100, 0x1f10a)]

/-- The characters `str.isspace` accepts. -/
def spaces : List ℕ :=
  [0x9, 0xa, 0xb, 0xc, 0xd, 0x1c, 0x1d, 0x1e, 0x1f, 0x20, 0x85, 0xa0, 0x1680, 0x2000, 0x2001,
    0x2002, 0x2003, 0x2004, 0x2005, 0x2006, 0x2007, 0x2008, 0x2009, 0x200a, 0x2028, 0x2029, 0x202f,
    0x205f, 0x3000]

/-- The value of a decimal digit. -/
def decimal? (c : Char) : Option ℕ :=
  decimalZeros.findSome? fun z ↦ if z ≤ c.toNat ∧ c.toNat < z + 10 then some (c.toNat - z) else none

/-- `c.isspace()`. -/
def isSpace (c : Char) : Bool := spaces.contains c.toNat

/-- `c.isdigit()`. -/
def isDigitChar (c : Char) : Bool :=
  (decimal? c).isSome || otherDigits.any fun r ↦ r.1 ≤ c.toNat && c.toNat ≤ r.2

/-- `s.isdigit()`: nonempty, and digits only. -/
def isDigit (s : String) : Bool := !s.toList.isEmpty && s.toList.all isDigitChar

/-- `s.strip()`, on the characters. -/
def stripChars (cs : List Char) : List Char :=
  ((cs.dropWhile isSpace).reverse.dropWhile isSpace).reverse

/-- `not s.strip()`. -/
def isBlank (s : String) : Bool := s.toList.all isSpace

/-- The upper-case letters of ASCII, by their code. -/
theorem isUpper_iff {c : Char} : c.isUpper = true ↔ 65 ≤ c.toNat ∧ c.toNat ≤ 90 := by
  change decide (c.val ≥ 'A'.val ∧ c.val ≤ 'Z'.val) = true ↔ _
  rw [decide_eq_true_iff, ge_iff_le, UInt32.le_iff_toNat_le, UInt32.le_iff_toNat_le]
  rfl

/-- And the lower-case ones. -/
theorem isLower_iff {c : Char} : c.isLower = true ↔ 97 ≤ c.toNat ∧ c.toNat ≤ 122 := by
  change (decide (c.val ≥ 'a'.val) && decide (c.val ≤ 'z'.val)) = true ↔ _
  rw [Bool.and_eq_true, decide_eq_true_iff, decide_eq_true_iff, ge_iff_le, UInt32.le_iff_toNat_le,
    UInt32.le_iff_toNat_le]
  rfl

/-! ### Reading an integer -/

/-- The digits of a numeral: each underscore stands between two digits. `digit` says whether the
character before was one. -/
def readDigits (acc : ℕ) (digit : Bool) : List Char → Option ℕ
  | [] => if digit then some acc else none
  | c :: cs =>
    if c = '_' then
      if digit then readDigits acc false cs else none
    else
      match decimal? c with
      | some d => readDigits (10 * acc + d) true cs
      | none => none

/-- An optional sign and the digits. -/
def readSigned : List Char → Option ℤ
  | '+' :: cs => (readDigits 0 false cs).map Int.ofNat
  | '-' :: cs => (readDigits 0 false cs).map fun n ↦ -Int.ofNat n
  | cs => (readDigits 0 false cs).map Int.ofNat

/-- `int(s)` on a string; `none` is its `ValueError`. Numerals of any length are read, also those of
more than 4300 digits, which an interpreter refuses unless it is configured otherwise. -/
def ofText? (s : String) : Option ℤ := readSigned (stripChars s.toList)

/-- What `int(value)` raises. -/
inductive IntError where
  | typeError
  | valueError
  | overflowError
  deriving DecidableEq, Repr

/-- `int(value)` on a decoded document: a float is truncated toward zero. -/
def intOf : Json → Except IntError ℤ
  | .str s =>
    match ofText? s with
    | some n => .ok n
    | none => .error .valueError
  | .int n => .ok n
  | .bool b => .ok (if b then 1 else 0)
  | .float (.finite q) => .ok (q.num.tdiv q.den)
  | .float .nan => .error .valueError
  | .float _ => .error .overflowError
  | _ => .error .typeError

/-! ### A written counter reads back as itself -/

/-- The digits that are written have the values they stand for. -/
theorem decimal?_digitChar {n : ℕ} (hn : n < 10) : decimal? n.digitChar = some n := by
  interval_cases n <;> rfl

/-- None of them is an underscore, so the separator rule never applies to a written numeral. -/
theorem digitChar_ne_underscore {n : ℕ} (hn : n < 10) : n.digitChar ≠ '_' := by
  interval_cases n <;> decide

/-- The last digit apart from the others. -/
theorem toDigits_eq_append {n : ℕ} (hn : ¬ n < 10) :
    Nat.toDigits 10 n = Nat.toDigits 10 (n / 10) ++ [(n % 10).digitChar] := by
  have hlt : n % 10 < 10 := Nat.mod_lt _ (by omega)
  rw [← Nat.toDigits_of_lt_base hlt, Nat.toDigits_append_toDigits (by omega) (by omega) hlt]
  congr 1
  omega

/-- Reading the digits of `n` from nothing accumulates `n`, whatever follows. -/
theorem readDigits_toDigits (n : ℕ) (rest : List Char) :
    readDigits 0 false (Nat.toDigits 10 n ++ rest) = readDigits n true rest := by
  induction n using Nat.strong_induction_on generalizing rest with
  | _ n ih =>
    by_cases hn : n < 10
    · rw [Nat.toDigits_of_lt_base hn]
      simp [readDigits, decimal?_digitChar hn, digitChar_ne_underscore hn]
    · have hlt : n % 10 < 10 := Nat.mod_lt _ (by omega)
      rw [toDigits_eq_append hn, List.append_assoc, ih (n / 10) (by omega)]
      have hval : 10 * (n / 10) + n % 10 = n := by omega
      simp [readDigits, decimal?_digitChar hlt, digitChar_ne_underscore hlt, hval]

/-- The numeral of a positive number does not start with a zero. -/
theorem head?_toDigits_ne_zero {n : ℕ} (hpos : 0 < n) : (Nat.toDigits 10 n).head? ≠ some '0' := by
  induction n using Nat.strong_induction_on with
  | _ n ih =>
    by_cases hn : n < 10
    · rw [Nat.toDigits_of_lt_base hn]
      simpa using Nat.ne_of_gt hpos
    · rw [toDigits_eq_append hn, List.head?_append_of_ne_nil _ Nat.toDigits_ne_nil]
      exact ih (n / 10) (by omega) (by omega)

/-- Digits are no white space. -/
theorem isSpace_eq_false_of_isDigit {c : Char} (h : c.isDigit = true) : isSpace c = false := by
  have hrange : 48 ≤ c.toNat ∧ c.toNat ≤ 57 := by
    simpa [Char.isDigit, UInt32.le_iff_toNat_le] using h
  have hne : c.toNat ∉ spaces := by
    intro hmem
    simp only [spaces, List.mem_cons, List.not_mem_nil, or_false] at hmem
    omega
  simpa [isSpace] using hne

/-- A text without white space is left alone by `strip`. -/
theorem stripChars_eq_self {cs : List Char} (h : ∀ c ∈ cs, isSpace c = false) :
    stripChars cs = cs := by
  have hdrop : ∀ l : List Char, (∀ c ∈ l, isSpace c = false) → l.dropWhile isSpace = l := by
    intro l hl
    cases l with
    | nil => rfl
    | cons c rest => simp [hl c (by simp)]
  rw [stripChars, hdrop cs h, hdrop cs.reverse (by simpa using h), List.reverse_reverse]

/-- A text of digits has no sign to read. -/
theorem readSigned_eq_of_isDigit {cs : List Char} (h : ∀ c ∈ cs, c.isDigit = true) :
    readSigned cs = (readDigits 0 false cs).map Int.ofNat := by
  cases cs with
  | nil => rfl
  | cons c rest =>
    have hc := h c (by simp)
    unfold readSigned
    split
    · rename_i heq
      obtain ⟨rfl, rfl⟩ := List.cons.inj heq
      exact absurd hc (by decide)
    · rename_i heq
      obtain ⟨rfl, rfl⟩ := List.cons.inj heq
      exact absurd hc (by decide)
    · rfl

/-- What `str` writes is the decimal digits. -/
theorem toList_toString_nat (n : ℕ) : (toString n).toList = Nat.toDigits 10 n := by
  simp [toString, Nat.repr]

/-- **A written counter reads back as itself.** -/
@[simp] theorem ofText?_toString (n : ℕ) : ofText? (toString n) = some (n : ℤ) := by
  have hdigits : ∀ c ∈ Nat.toDigits 10 n, c.isDigit = true := fun c hc ↦
    Nat.isDigit_of_mem_toDigits (by omega) (by omega) hc
  have hread := readDigits_toDigits n []
  rw [List.append_nil] at hread
  rw [ofText?, toList_toString_nat,
    stripChars_eq_self fun c hc ↦ isSpace_eq_false_of_isDigit (hdigits c hc),
    readSigned_eq_of_isDigit hdigits, hread]
  rfl

/-- The same, through a document that holds the numeral as a text. -/
@[simp] theorem intOf_toString (n : ℕ) : intOf (.str (toString n)) = .ok (n : ℤ) := by
  simp only [intOf, ofText?_toString]

/-- Different counters are written differently. -/
theorem toString_nat_inj {m n : ℕ} (h : toString m = toString n) : m = n := by
  have hm := ofText?_toString m
  rw [h, ofText?_toString n] at hm
  exact_mod_cast (Option.some.inj hm).symm

/-- An integer that prints like a counter is that counter. -/
theorem eq_of_toString_eq {v : ℤ} {n : ℕ} (h : toString v = toString n) : v = n := by
  cases v with
  | ofNat m => exact congrArg Int.ofNat (toString_nat_inj h)
  | negSucc m =>
    -- The text of a negative number begins with a sign.
    have htext : toString (Int.negSucc m) = "-" ++ Nat.repr (m + 1) := rfl
    have hsign : '-' ∈ Nat.toDigits 10 n := by
      rw [← toList_toString_nat, ← h, htext, String.toList_append]
      simp
    exact absurd (Nat.isDigit_of_mem_toDigits (by omega) (by omega) hsign) (by decide)

end Py
