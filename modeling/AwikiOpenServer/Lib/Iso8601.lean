import Mathlib.Algebra.BigOperators.Group.List.Basic
import Mathlib.Data.List.Basic
import Mathlib.Data.List.Lex
import Mathlib.Data.Char
import Mathlib.Tactic.Ring

/-!
# Times as texts

Date and time of day in the proleptic Gregorian calendar, to the microsecond, and their text in ISO
8601 with the offset of UTC. Numbers are in fields of fixed width, so **texts that have the same
fields in front compare as the numbers do** (`fields_append_lt_iff`); where the numbers are equal,
what follows them decides. Fractions are optional and the offset may be written `+00:00` or `Z`, so
whether the order of texts is that of times is a question about what follows the seconds.

## Why the order of texts matters

A program that keeps its times as texts compares them as texts: in the condition of a query, in the
order of a list, in a test whether something has expired. That is sound for texts of one form and
not for texts of two, and the difference is a single character. A `.` sorts after `+` and before
`Z`, so a time with a fraction comes after the same second written with `+00:00`
(`isoformat_lt_iff`, which is what one wants), but before the same second written with `Z`
(`isoformat_lt_zulu_iff`, which is not).

Both theorems are exact. A caller that meets the second form can read off for which pairs of times
the comparison of texts answers what the comparison of times would.

## How the times are built

`Date` and `DateTime` carry the bounds of their numbers, so that every value is a time and its
numbers fit their fields. The order on `DateTime` is the lexicographic one of the numbers; that it
is also the order of the time elapsed, by which durations are measured, is `lt_iff_elapsed_lt`. The
proof counts days: `before` sums what lies before a month or a year, and a larger number in front
outweighs all that follows it.

Reading is `datetime.fromisoformat` on texts of the form that is written, and `replace` is
`str.replace`, since programs turn one offset into the other by replacing text. What is not modelled
is other offsets, other precisions and leap seconds, none of which the writing side produces.
-/

namespace Iso8601

/-! ### Fields of fixed width -/

/-- A number in decimal digits, with zeros in front to a width. -/
def padded : ℕ → ℕ → List Char
  | 0, _ => []
  | w + 1, n => padded w (n / 10) ++ [Nat.digitChar (n % 10)]

/-- Numbers in fields of given widths, each with the text that follows it. -/
def fields : List (ℕ × List Char) → List ℕ → List Char
  | (w, sep) :: spec, n :: ns => padded w n ++ (sep ++ fields spec ns)
  | _, _ => []

/-- The numbers fit their fields. -/
def Fit (spec : List (ℕ × List Char)) (ns : List ℕ) : Prop :=
  List.Forall₂ (fun p n ↦ n < 10 ^ p.1) spec ns

section Order

variable {w n m : ℕ} {spec : List (ℕ × List Char)} {ns ms : List ℕ}

/-- A field is as wide as it says. -/
@[simp] theorem length_padded (w n : ℕ) : (padded w n).length = w := by
  induction w generalizing n with
  | zero => rfl
  | succ w ih => rw [padded, List.length_append, ih, List.length_singleton]

/-- And holds digits only. -/
theorem isDigit_of_mem_padded {c : Char} (h : c ∈ padded w n) : c.isDigit = true := by
  induction w generalizing n with
  | zero => cases h
  | succ w ih =>
    rcases List.mem_append.mp h with h | h
    · exact ih h
    · have hdigits : ∀ k < 10, (Nat.digitChar k).isDigit = true := by decide
      rw [List.mem_singleton.mp h]
      exact hdigits (n % 10) (Nat.mod_lt n (by omega))

/-- Of two texts, the parts in front of the same length decide first. -/
theorem append_lt_append_iff {α : Type*} [LinearOrder α] {a b x y : List α}
    (h : a.length = b.length) : a ++ x < b ++ y ↔ a < b ∨ a = b ∧ x < y := by
  induction a generalizing b with
  | nil =>
    rw [List.length_eq_zero_iff.mp h.symm]
    simp
  | cons c a ih =>
    cases b with
    | nil => cases h
    | cons d b =>
      have heq : c :: a = d :: b ↔ c = d ∧ a = b := List.cons_eq_cons
      rw [List.cons_append, List.cons_append, List.cons_lt_cons_iff, List.cons_lt_cons_iff,
        ih (Nat.succ.inj h), heq]
      tauto

/-- Digits are in the order of their values. -/
theorem digitChar_lt_digitChar_iff (hn : n < 10) (hm : m < 10) :
    [Nat.digitChar n] < [Nat.digitChar m] ↔ n < m := by
  have hall : ∀ n < 10, ∀ m < 10, [Nat.digitChar n] < [Nat.digitChar m] ↔ n < m := by decide
  exact hall n hn m hm

/-- **Padded numbers compare as numbers.** -/
theorem padded_lt_padded_iff (hn : n < 10 ^ w) (hm : m < 10 ^ w) :
    padded w n < padded w m ↔ n < m := by
  induction w generalizing n m with
  | zero =>
    obtain rfl : n = 0 := by simpa using hn
    obtain rfl : m = 0 := by simpa using hm
    simp
  | succ w ih =>
    rw [pow_succ] at hn hm
    have hlast := digitChar_lt_digitChar_iff (Nat.mod_lt n (by omega : 0 < 10))
      (Nat.mod_lt m (by omega))
    have hfront := ih (n := n / 10) (m := m / 10) (by omega) (by omega)
    have hback := ih (n := m / 10) (m := n / 10) (by omega) (by omega)
    rw [padded, padded, append_lt_append_iff (by simp), hlast, hfront]
    have heq : padded w (n / 10) = padded w (m / 10) ↔ n / 10 = m / 10 := by
      constructor
      · intro h
        rw [h] at hfront hback
        have hirrefl := List.lt_irrefl (padded w (m / 10))
        exact le_antisymm (not_lt.mp fun h ↦ hirrefl (hback.mpr h))
          (not_lt.mp fun h ↦ hirrefl (hfront.mpr h))
      · exact congrArg (padded w)
    rw [heq]
    omega

/-- Numbers that fit a field are told apart by it. -/
theorem padded_inj (hn : n < 10 ^ w) (hm : m < 10 ^ w) : padded w n = padded w m ↔ n = m := by
  refine ⟨fun h ↦ ?_, congrArg (padded w)⟩
  have hlt := padded_lt_padded_iff hn hm
  have hgt := padded_lt_padded_iff hm hn
  rw [h] at hlt hgt
  have hirrefl := List.lt_irrefl (padded w m)
  exact le_antisymm (not_lt.mp fun h ↦ hirrefl (hgt.mpr h)) (not_lt.mp fun h ↦ hirrefl (hlt.mpr h))

/-- **Texts with the same fields in front compare as the numbers in them**, and where these are the
same, as what follows. -/
theorem fields_append_lt_iff (hns : Fit spec ns) (hms : Fit spec ms) {x y : List Char} :
    fields spec ns ++ x < fields spec ms ++ y ↔ ns < ms ∨ ns = ms ∧ x < y := by
  induction hns generalizing ms with
  | nil =>
    cases hms
    simp [fields]
  | @cons p n spec ns hn hrest ih =>
    cases hms with
    | @cons _ m _ ms hm hms =>
      have hsame : ∀ a b : List Char, p.2 ++ a < p.2 ++ b ↔ a < b := fun a b ↦ by
        rw [append_lt_append_iff rfl]
        simp
      have heq : n :: ns = m :: ms ↔ n = m ∧ ns = ms := List.cons_eq_cons
      have hcut : ∀ k ks z, fields (p :: spec) (k :: ks) ++ z =
          padded p.1 k ++ (p.2 ++ (fields spec ks ++ z)) := fun k ks z ↦ by
        rw [fields, List.append_assoc, List.append_assoc]
      rw [hcut, hcut, append_lt_append_iff (by simp), padded_lt_padded_iff hn hm, padded_inj hn hm,
        hsame, ih hms, List.cons_lt_cons_iff, heq]
      tauto

end Order

/-! ### Reading fields -/

/-- The number of a field: ASCII digits only. -/
def number? (cs : List Char) : Option ℕ :=
  if cs.all Char.isDigit then some (cs.foldl (fun n c ↦ 10 * n + (c.toNat - 48)) 0) else none

/-- Read fields of given widths, with the texts between them; and what follows. -/
def readFields : List (ℕ × List Char) → List Char → Option (List ℕ × List Char)
  | [], cs => some ([], cs)
  | (w, sep) :: spec, cs =>
    if (cs.take w).length = w ∧ sep <+: cs.drop w then do
      let n ← number? (cs.take w)
      let (ns, rest) ← readFields spec ((cs.drop w).drop sep.length)
      return (n :: ns, rest)
    else none

/-- A field is read as the number it was written from. -/
theorem number?_padded {w n : ℕ} (hn : n < 10 ^ w) : number? (padded w n) = some n := by
  have hdigits : (padded w n).all Char.isDigit = true :=
    List.all_eq_true.mpr fun c hc ↦ isDigit_of_mem_padded hc
  have hvalue : (padded w n).foldl (fun n c ↦ 10 * n + (c.toNat - 48)) 0 = n := by
    clear hdigits
    induction w generalizing n with
    | zero =>
      obtain rfl : n = 0 := by simpa using hn
      rfl
    | succ w ih =>
      rw [pow_succ] at hn
      have hlast : ∀ k < 10, (Nat.digitChar k).toNat - 48 = k := by decide
      rw [padded, List.foldl_append, ih (by omega), List.foldl_cons, List.foldl_nil,
        hlast (n % 10) (Nat.mod_lt n (by omega))]
      omega
  rw [number?, if_pos hdigits, hvalue]

/-- **What is written in fields is read back.** -/
theorem readFields_fields {spec : List (ℕ × List Char)} {ns : List ℕ} (h : Fit spec ns)
    (rest : List Char) : readFields spec (fields spec ns ++ rest) = some (ns, rest) := by
  induction h with
  | nil => rfl
  | @cons p n spec ns hn hrest ih =>
    have hcut : fields (p :: spec) (n :: ns) ++ rest =
        padded p.1 n ++ (p.2 ++ (fields spec ns ++ rest)) := by
      rw [fields, List.append_assoc, List.append_assoc]
    have htake : (fields (p :: spec) (n :: ns) ++ rest).take p.1 = padded p.1 n := by
      rw [hcut, List.take_left' (length_padded p.1 n)]
    have hdrop : (fields (p :: spec) (n :: ns) ++ rest).drop p.1 =
        p.2 ++ (fields spec ns ++ rest) := by
      rw [hcut, List.drop_left' (length_padded p.1 n)]
    rw [readFields, htake, hdrop, if_pos ⟨length_padded p.1 n, List.prefix_append _ _⟩,
      number?_padded hn, List.drop_left, Option.bind_eq_bind, Option.bind_some, ih]
    rfl

/-! ### Replacing -/

/-- `text.replace(old, new)`: every occurrence from left to right. The first argument counts the
characters of an occurrence that are still to be left out. -/
def replaceFrom (old new : List Char) : ℕ → List Char → List Char
  | _, [] => []
  | skip + 1, _ :: cs => replaceFrom old new skip cs
  | 0, c :: cs =>
    if old <+: c :: cs then new ++ replaceFrom old new (old.length - 1) cs
    else c :: replaceFrom old new 0 cs

/-- `text.replace(old, new)`. -/
def replace (old new cs : List Char) : List Char := replaceFrom old new 0 cs

/-- Up to the first character of `old` nothing is replaced. -/
theorem replace_append {c : Char} {old new front cs : List Char} (h : c ∉ front) :
    replace (c :: old) new (front ++ cs) = front ++ replace (c :: old) new cs := by
  induction front with
  | nil => rfl
  | cons d front ih =>
    have hne : ¬ (c :: old) <+: d :: (front ++ cs) := fun hprefix ↦
      h ((List.cons_prefix_cons.mp hprefix).1 ▸ List.mem_cons_self)
    rw [List.cons_append, replace, replaceFrom, if_neg hne]
    exact congrArg (d :: ·) (ih fun hmem ↦ h (List.mem_cons_of_mem d hmem))

/-- Where the first character of `old` does not occur, nothing is replaced. -/
theorem replace_eq_self {c : Char} {old new cs : List Char} (h : c ∉ cs) :
    replace (c :: old) new cs = cs := by
  have hall : replace (c :: old) new (cs ++ []) = cs ++ replace (c :: old) new [] :=
    replace_append h
  rw [List.append_nil] at hall
  rw [hall]
  exact List.append_nil cs

/-! ### Dates and times -/

/-- `calendar.isleap`. -/
def isLeap (year : ℕ) : Bool := year % 4 = 0 && (year % 100 ≠ 0 || year % 400 = 0)

/-- `calendar.monthrange(year, month)[1]`. -/
def daysInMonth (year month : ℕ) : ℕ :=
  if month = 2 then (if isLeap year then 29 else 28)
  else if month = 4 ∨ month = 6 ∨ month = 9 ∨ month = 11 then 30
  else 31

/-- No month is empty. -/
theorem daysInMonth_pos (year month : ℕ) : 1 ≤ daysInMonth year month := by
  unfold daysInMonth
  split_ifs <;> omega

/-- And none is longer than 31 days, so two digits hold the day. -/
theorem daysInMonth_le (year month : ℕ) : daysInMonth year month ≤ 31 := by
  unfold daysInMonth
  split_ifs <;> omega

/-- A date of the years 1 to 9999. -/
structure Date where
  year : ℕ
  month : ℕ
  day : ℕ
  year_mem : 1 ≤ year ∧ year ≤ 9999
  month_mem : 1 ≤ month ∧ month ≤ 12
  day_mem : 1 ≤ day ∧ day ≤ daysInMonth year month
  deriving DecidableEq

/-- The day before. -/
def Date.pred (d : Date) : Option Date :=
  if hday : 1 < d.day then
    some { d with day := d.day - 1, day_mem := ⟨by omega, by have := d.day_mem; omega⟩ }
  else if hmonth : 1 < d.month then
    some { d with
      month := d.month - 1
      day := daysInMonth d.year (d.month - 1)
      month_mem := ⟨by omega, by have := d.month_mem; omega⟩
      day_mem := ⟨daysInMonth_pos _ _, le_rfl⟩ }
  else if hyear : 1 < d.year then
    some ⟨d.year - 1, 12, 31, ⟨by omega, by have := d.year_mem; omega⟩, by omega, by omega,
      le_of_eq rfl⟩
  else none

/-- So many days before. -/
def Date.daysBefore : ℕ → Date → Option Date
  | 0, d => some d
  | n + 1, d => d.pred.bind (daysBefore n)

/-! ### Counting days -/

/-- What the ones from the first on add up to, before the `n`th. -/
def before (f : ℕ → ℕ) : ℕ → ℕ
  | 0 | 1 => 0
  | n + 2 => before f (n + 1) + f (n + 1)

/-- What lies before a later one includes all of an earlier one. -/
theorem before_add_le {f : ℕ → ℕ} {n m : ℕ} (hn : 1 ≤ n) (h : n < m) :
    before f n + f n ≤ before f m := by
  obtain ⟨k, rfl⟩ := Nat.exists_eq_add_of_lt h
  obtain ⟨n, rfl⟩ := Nat.exists_eq_add_of_le' hn
  clear h hn
  induction k with
  | zero => exact Nat.le_refl _
  | succ k ih => exact Nat.le_trans ih (Nat.le_add_right _ _)

/-- The length of a year. -/
def daysInYear (year : ℕ) : ℕ := before (daysInMonth year) 13

/-- `date.toordinal()`: the first day of the year 1 is day 1. -/
def Date.ordinal (d : Date) : ℕ :=
  before daysInYear d.year + before (daysInMonth d.year) d.month + d.day

/-- The numbers of a date. -/
def Date.numbers (d : Date) : List ℕ := [d.year, d.month, d.day]

/-- **The days are counted in the order of the dates.** -/
theorem Date.ordinal_lt_of_numbers_lt {d e : Date} (h : d.numbers < e.numbers) :
    d.ordinal < e.ordinal := by
  have hday := d.day_mem
  have hday' := e.day_mem
  simp only [numbers, List.cons_lt_cons_iff, List.lt_irrefl, and_false, or_false] at h
  rcases h with hyear | ⟨hyear, hmonth | ⟨hmonth, hlt⟩⟩
  · have hmonth := d.month_mem
    have hmonths : before (daysInMonth d.year) d.month + daysInMonth d.year d.month ≤
        daysInYear d.year := before_add_le hmonth.1 (by omega)
    have hyears := before_add_le (f := daysInYear) d.year_mem.1 hyear
    simp only [ordinal]
    omega
  · have hmonths := before_add_le (f := daysInMonth d.year) d.month_mem.1 hmonth
    simp only [ordinal, ← hyear]
    omega
  · simp only [ordinal, ← hyear, ← hmonth]
    omega

/-- A time in UTC, to the microsecond. -/
structure DateTime where
  date : Date
  hour : ℕ
  minute : ℕ
  second : ℕ
  microsecond : ℕ
  hour_lt : hour < 24
  minute_lt : minute < 60
  second_lt : second < 60
  microsecond_lt : microsecond < 10 ^ 6
  deriving DecidableEq

namespace DateTime

/-- The numbers of a time, to the second. -/
def seconds (t : DateTime) : List ℕ :=
  [t.date.year, t.date.month, t.date.day, t.hour, t.minute, t.second]

/-- **Earlier**: by the seconds, then by the microseconds. -/
instance : LT DateTime :=
  ⟨fun a b ↦ a.seconds < b.seconds ∨ a.seconds = b.seconds ∧ a.microsecond < b.microsecond⟩

instance : LE DateTime := ⟨fun a b ↦ ¬ b < a⟩

/-- The order of times, written out. -/
theorem lt_iff {a b : DateTime} :
    a < b ↔ a.seconds < b.seconds ∨ a.seconds = b.seconds ∧ a.microsecond < b.microsecond := Iff.rfl

instance (a b : DateTime) : Decidable (a < b) := decidable_of_iff _ lt_iff.symm

instance (a b : DateTime) : Decidable (a ≤ b) := inferInstanceAs (Decidable (¬ b < a))

/-- The microseconds since the day before the first of the year 1. -/
def elapsed (t : DateTime) : ℕ :=
  (((t.date.ordinal * 24 + t.hour) * 60 + t.minute) * 60 + t.second) * 10 ^ 6 + t.microsecond

/-- `t - timedelta(hours=…)`: whole days are borrowed from the date. -/
def minusHours (hours : ℕ) (t : DateTime) : Option DateTime :=
  (t.date.daysBefore ((hours - t.hour + 23) / 24)).map fun date ↦
    { t with
      date := date
      hour := t.hour + 24 * ((hours - t.hour + 23) / 24) - hours
      hour_lt := by have := t.hour_lt; omega }

/-- `t.replace(microsecond=0)`. -/
def wholeSecond (t : DateTime) : DateTime :=
  { t with microsecond := 0, microsecond_lt := by decide }

/-- Dropping the fraction keeps the second. -/
@[simp] theorem seconds_wholeSecond (t : DateTime) : t.wholeSecond.seconds = t.seconds := rfl

/-- And leaves none. -/
@[simp] theorem microsecond_wholeSecond (t : DateTime) : t.wholeSecond.microsecond = 0 := rfl

/-! ### Their texts -/

/-- `YYYY-MM-DDTHH:MM:SS`. -/
def spec : List (ℕ × List Char) :=
  [(4, ['-']), (2, ['-']), (2, ['T']), (2, [':']), (2, [':']), (2, [])]

/-- The offset that `isoformat` writes of a time in UTC. -/
def utcOffset : List Char := ['+', '0', '0', ':', '0', '0']

/-- The fraction of the second, if there is one. -/
def fraction (t : DateTime) : List Char :=
  if t.microsecond = 0 then [] else '.' :: padded 6 t.microsecond

/-- `t.isoformat()`. -/
def isoformat (t : DateTime) : List Char := fields spec t.seconds ++ (t.fraction ++ utcOffset)

/-- The time of these numbers, if there is one. -/
def ofNumbers? (ns : List ℕ) (microsecond : ℕ) : Option DateTime :=
  match ns with
  | [year, month, day, hour, minute, second] =>
    if h : ((1 ≤ year ∧ year ≤ 9999) ∧ (1 ≤ month ∧ month ≤ 12) ∧
        (1 ≤ day ∧ day ≤ daysInMonth year month)) ∧
        hour < 24 ∧ minute < 60 ∧ second < 60 ∧ microsecond < 10 ^ 6 then
      some ⟨⟨year, month, day, h.1.1, h.1.2.1, h.1.2.2⟩, hour, minute, second, microsecond, h.2.1,
        h.2.2.1, h.2.2.2.1, h.2.2.2.2⟩
    else none
  | _ => none

/-- The microseconds, and what follows. -/
def readFraction : List Char → Option (ℕ × List Char)
  | '.' :: rest => (readFields [(6, [])] rest).map fun p ↦ (p.1.sum, p.2)
  | rest => some (0, rest)

/-- `datetime.fromisoformat(text)`, of texts in the form of `isoformat`. -/
def fromIsoformat (cs : List Char) : Option DateTime := do
  let (ns, rest) ← readFields spec cs
  let (microsecond, rest) ← readFraction rest
  if rest = utcOffset then ofNumbers? ns microsecond else none

section Texts

variable {t a b : DateTime}

/-- The bounds of a time are those of its fields. -/
theorem fit_seconds (t : DateTime) : Fit spec t.seconds := by
  have hyear := t.date.year_mem
  have hmonth := t.date.month_mem
  have hday := t.date.day_mem
  have hdays := daysInMonth_le t.date.year t.date.month
  have hhour := t.hour_lt
  have hminute := t.minute_lt
  have hsecond := t.second_lt
  refine .cons ?_ (.cons ?_ (.cons ?_ (.cons ?_ (.cons ?_ (.cons ?_ .nil)))))
  all_goals
    dsimp only
    omega

/-- A time is known from its numbers. -/
theorem ofNumbers?_seconds (t : DateTime) : ofNumbers? t.seconds t.microsecond = some t :=
  dif_pos ⟨⟨t.date.year_mem, t.date.month_mem, t.date.day_mem⟩, t.hour_lt, t.minute_lt, t.second_lt,
    t.microsecond_lt⟩

/-- A fraction that was written is read back, also when there is none. -/
theorem readFraction_fraction (t : DateTime) :
    readFraction (t.fraction ++ utcOffset) = some (t.microsecond, utcOffset) := by
  unfold fraction
  split
  · rename_i hzero
    rw [hzero]
    rfl
  · have hfit : Fit [(6, [])] [t.microsecond] := .cons t.microsecond_lt .nil
    have hfields : padded 6 t.microsecond = fields [(6, [])] [t.microsecond] :=
      (List.append_nil _).symm
    rw [hfields, List.cons_append]
    show (readFields _ _).map _ = _
    rw [readFields_fields hfit]
    rfl

/-- **A time is read back from its text.** -/
theorem fromIsoformat_isoformat (t : DateTime) : fromIsoformat t.isoformat = some t := by
  unfold fromIsoformat isoformat
  rw [readFields_fields t.fit_seconds, Option.bind_eq_bind, Option.bind_some]
  dsimp only
  rw [readFraction_fraction, Option.bind_eq_bind, Option.bind_some, if_pos rfl, ofNumbers?_seconds]

/-! ### `Z` for the offset -/

/-- In fields there are digits and what stands between them. -/
theorem eq_of_mem_fields {c : Char} {spec : List (ℕ × List Char)} {ns : List ℕ}
    (h : c ∈ fields spec ns) : c.isDigit = true ∨ ∃ p ∈ spec, c ∈ p.2 := by
  induction spec generalizing ns with
  | nil => cases h
  | cons p spec ih =>
    cases ns with
    | nil => cases h
    | cons n ns =>
      rcases List.mem_append.mp h with h | h
      · exact .inl (isDigit_of_mem_padded h)
      · rcases List.mem_append.mp h with h | h
        · exact .inr ⟨p, List.mem_cons_self, h⟩
        · rcases ih h with h | ⟨q, hq, h⟩
          · exact .inl h
          · exact .inr ⟨q, List.mem_cons_of_mem p hq, h⟩

/-- Up to the offset there is neither a `+` nor a `Z`. -/
theorem ne_of_mem_front {c : Char} (h : c ∈ fields spec t.seconds ++ t.fraction) :
    c ≠ '+' ∧ c ≠ 'Z' := by
  have hdigit : c.isDigit = true → c ≠ '+' ∧ c ≠ 'Z' := fun hc ↦
    ⟨by rintro rfl; exact absurd hc (by decide), by rintro rfl; exact absurd hc (by decide)⟩
  rcases List.mem_append.mp h with h | h
  · rcases eq_of_mem_fields h with h | ⟨p, hp, h⟩
    · exact hdigit h
    · have hseps : spec.all (fun p ↦ p.2.all fun c ↦ decide (c ≠ '+' ∧ c ≠ 'Z')) = true := by decide
      exact of_decide_eq_true (List.all_eq_true.mp (List.all_eq_true.mp hseps p hp) c h)
  · unfold fraction at h
    split at h
    · cases h
    · rcases List.mem_cons.mp h with rfl | h
      · decide
      · exact hdigit (isDigit_of_mem_padded h)

/-- `t.isoformat().replace("+00:00", "Z")`. -/
theorem replace_offset (t : DateTime) :
    replace utcOffset ['Z'] t.isoformat = fields spec t.seconds ++ (t.fraction ++ ['Z']) := by
  rw [isoformat, ← List.append_assoc, ← List.append_assoc]
  exact replace_append fun h ↦ (ne_of_mem_front h).1 rfl

/-- `text.replace("Z", "+00:00")` is the text with the offset, whichever way it was written. -/
theorem replace_zulu (t : DateTime) :
    replace ['Z'] utcOffset (fields spec t.seconds ++ (t.fraction ++ ['Z'])) = t.isoformat := by
  rw [isoformat, ← List.append_assoc, ← List.append_assoc]
  exact replace_append fun h ↦ (ne_of_mem_front h).2 rfl

/-- A text that has no `Z` is left as it is. -/
theorem replace_zulu_isoformat (t : DateTime) :
    replace ['Z'] utcOffset t.isoformat = t.isoformat := by
  refine replace_eq_self fun h ↦ ?_
  rw [isoformat, ← List.append_assoc] at h
  rcases List.mem_append.mp h with h | h
  · exact (ne_of_mem_front h).2 rfl
  · exact absurd h (by decide)

/-! ### The order of times and the time elapsed -/

/-- Times with the same numbers are the same. -/
theorem eq_of_numbers (hseconds : a.seconds = b.seconds)
    (hmicrosecond : a.microsecond = b.microsecond) : a = b := by
  have hread := ofNumbers?_seconds a
  rw [hseconds, hmicrosecond, ofNumbers?_seconds] at hread
  exact (Option.some.inj hread).symm

/-- An earlier time has less behind it. The case split is on the first number that differs. -/
theorem elapsed_lt_of_lt (h : a < b) : a.elapsed < b.elapsed := by
  have hmicrosecond := a.microsecond_lt
  have hsecond := a.second_lt
  have hminute := a.minute_lt
  have hhour := a.hour_lt
  have hseconds : ∀ t : DateTime, t.seconds = t.date.numbers ++ [t.hour, t.minute, t.second] :=
    fun _ ↦ rfl
  have hlength : a.date.numbers.length = b.date.numbers.length := rfl
  have hordinal : a.date.numbers = b.date.numbers → a.date.ordinal = b.date.ordinal := fun h ↦ by
    obtain ⟨hyear, hmonth, hday⟩ : a.date.year = b.date.year ∧ a.date.month = b.date.month ∧
        a.date.day = b.date.day := by simpa [Date.numbers] using h
    rw [Date.ordinal, Date.ordinal, hyear, hmonth, hday]
  rw [lt_iff, hseconds, hseconds, append_lt_append_iff hlength] at h
  rcases h with (hdate | ⟨hdate, htime⟩) | ⟨hnumbers, hlt⟩
  · have hdays := Date.ordinal_lt_of_numbers_lt hdate
    simp only [elapsed]
    omega
  · have hdays := hordinal hdate
    simp only [List.cons_lt_cons_iff, List.lt_irrefl, and_false, or_false] at htime
    simp only [elapsed]
    omega
  · obtain ⟨hdate, htime⟩ := List.append_inj hnumbers hlength
    have hdays := hordinal hdate
    simp only [List.cons.injEq, and_true] at htime
    simp only [elapsed]
    omega

/-- Of two times, one is earlier or they are the same. -/
theorem lt_or_eq_or_gt (a b : DateTime) : a < b ∨ a = b ∨ b < a := by
  rcases lt_trichotomy a.seconds b.seconds with hlt | heq | hgt
  · exact .inl (.inl hlt)
  · rcases lt_trichotomy a.microsecond b.microsecond with hlt | hmicrosecond | hgt
    · exact .inl (.inr ⟨heq, hlt⟩)
    · exact .inr (.inl (eq_of_numbers heq hmicrosecond))
    · exact .inr (.inr (.inr ⟨heq.symm, hgt⟩))
  · exact .inr (.inr (.inl hgt))

/-- **The order of times is that of the time elapsed.** -/
theorem lt_iff_elapsed_lt : a < b ↔ a.elapsed < b.elapsed := by
  refine ⟨elapsed_lt_of_lt, fun h ↦ ?_⟩
  rcases lt_or_eq_or_gt a b with hlt | rfl | hgt
  · exact hlt
  · exact absurd h (Nat.lt_irrefl _)
  · exact absurd (elapsed_lt_of_lt hgt) (Nat.lt_asymm h)

/-- Times are told apart by the time elapsed. -/
theorem elapsed_inj : a.elapsed = b.elapsed ↔ a = b := by
  refine ⟨fun h ↦ ?_, congrArg elapsed⟩
  rcases lt_or_eq_or_gt a b with hlt | heq | hgt
  · exact absurd h (Nat.ne_of_lt (elapsed_lt_of_lt hlt))
  · exact heq
  · exact absurd h (Nat.ne_of_gt (elapsed_lt_of_lt hgt))

/-! ### The order of texts and of times -/

/-- **A text with `+00:00` is before a whole second with `Z`** if it is of an earlier second, and
also if it is of the same one. -/
theorem isoformat_lt_zulu_iff (a b : DateTime) :
    a.isoformat < fields spec b.seconds ++ ['Z'] ↔
      a.seconds < b.seconds ∨ a.seconds = b.seconds := by
  have hrest : a.fraction ++ utcOffset < ['Z'] := by
    unfold fraction
    split
    · decide
    · exact List.cons_lt_cons_iff.mpr (.inl (by decide))
  rw [isoformat, fields_append_lt_iff a.fit_seconds b.fit_seconds]
  exact or_congr_right (and_iff_left hrest)

/-- Within one second the texts compare as the microseconds do, the missing fraction being zero. -/
theorem fraction_lt_iff (a b : DateTime) :
    a.fraction ++ utcOffset < b.fraction ++ utcOffset ↔ a.microsecond < b.microsecond := by
  have hlt : ∀ cs : List Char, utcOffset < '.' :: cs := fun cs ↦
    List.cons_lt_cons_iff.mpr (.inl (by decide))
  rcases Nat.eq_zero_or_pos a.microsecond with ha | ha <;>
    rcases Nat.eq_zero_or_pos b.microsecond with hb | hb
  · rw [fraction, if_pos ha, fraction, if_pos hb, ha, hb]
    simp
  · rw [fraction, if_pos ha, fraction, if_neg (by omega), List.nil_append, List.cons_append]
    exact iff_of_true (hlt _) (by omega)
  · rw [fraction, if_neg (by omega), fraction, if_pos hb, List.nil_append, List.cons_append]
    exact iff_of_false (List.lt_asymm (hlt _)) (by omega)
  · have hcut : ∀ t : DateTime, 0 < t.microsecond →
        t.fraction ++ utcOffset = ['.'] ++ padded 6 t.microsecond ++ utcOffset := fun t ht ↦ by
      rw [fraction, if_neg (by omega)]
      rfl
    rw [hcut a ha, hcut b hb, append_lt_append_iff (by simp),
      append_lt_append_iff (a := ['.']) rfl, padded_lt_padded_iff a.microsecond_lt b.microsecond_lt]
    simp

/-- **Texts with `+00:00` compare as the times do.** Of one second, the text without a fraction is
before those with one: its `+` is before their `.`. -/
theorem isoformat_lt_iff (a b : DateTime) : a.isoformat < b.isoformat ↔ a < b := by
  rw [isoformat, isoformat, fields_append_lt_iff a.fit_seconds b.fit_seconds, lt_iff,
    fraction_lt_iff]

/-- A whole second is not later than a time of that second. -/
theorem not_lt_of_seconds_eq (h : a.seconds = b.seconds) (hwhole : b.microsecond = 0) :
    ¬ a < b := by
  rintro (hlt | ⟨-, hlt⟩)
  · exact List.lt_irrefl _ (h ▸ hlt)
  · omega

end Texts

end DateTime

end Iso8601
