import AwikiOpenServer.Lib.Iso8601

/-!
# Times as the server writes them

`now_iso` writes the microseconds only if there are any, so its texts have two lengths. The database
compares them as texts, character by character: what is due, what has expired and what is pending
longest all rest on **the order of these texts being that of the instants** (`compare_nowIso`).

The server writes its own times in one form throughout, with the offset `+00:00`, and there the
order is the right one: where one text has a fraction and the other has none, the `+` of the second
is before the `.` of the first, as it should be, the fraction not being zero. The theorem is about
all pairs of times a `datetime` can hold, and in all three outcomes of a comparison.

**It does not reach texts of another form.** A time that came from outside may end in `Z`, and one
that was computed in Python and compared there may be a number of seconds. Where the server compares
such a text with one of its own, the comparison is examined where it stands.
-/

namespace Awiki

open Iso8601

/-- `now_iso()` at a time. -/
def nowIso (t : DateTime) : String := String.ofList t.isoformat

variable {a b : DateTime}

/-- Earlier texts are of earlier instants. -/
theorem nowIso_lt_iff : nowIso a < nowIso b ↔ a < b := by
  rw [String.lt_iff, nowIso, nowIso, String.toList_ofList, String.toList_ofList,
    DateTime.isoformat_lt_iff]

/-- And not later ones of not later instants. -/
theorem nowIso_le_iff : nowIso a ≤ nowIso b ↔ a ≤ b :=
  not_congr nowIso_lt_iff

/-- Texts are told apart by their instants: two requests of one microsecond write the same. -/
theorem nowIso_inj : nowIso a = nowIso b ↔ a = b := by
  refine ⟨fun h ↦ ?_, congrArg nowIso⟩
  have hread : ∀ t, DateTime.fromIsoformat (nowIso t).toList = some t := fun t ↦ by
    rw [nowIso, String.toList_ofList, DateTime.fromIsoformat_isoformat]
  exact Option.some.inj ((hread a).symm.trans (h ▸ hread b))

/-- **The order of the texts is that of the instants**, by the microseconds elapsed. -/
theorem compare_nowIso (a b : DateTime) :
    compare (nowIso a) (nowIso b) = compare a.elapsed b.elapsed := by
  show compareOfLessAndEq _ _ = compareOfLessAndEq _ _
  simp only [compareOfLessAndEq, nowIso_lt_iff, nowIso_inj, DateTime.lt_iff_elapsed_lt,
    DateTime.elapsed_inj]

end Awiki
