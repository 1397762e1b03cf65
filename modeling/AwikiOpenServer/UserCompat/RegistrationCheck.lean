import AwikiOpenServer.Lib.Table
import AwikiOpenServer.Lib.Windows
import AwikiOpenServer.Lib.Json
import Mathlib.Data.List.TakeWhile
import Mathlib.Data.List.Induction
import Mathlib.Data.Rat.Floor

/-!
# The limit on registration checks

Anybody may ask whether a name is free, so `RegistrationCheckLimiter` counts the checks of every
peer: 20 in a window of 60 seconds that starts with the first of them. The table of the windows has
10,000 places and is kept in the order of the last access; entries are evicted at its front only,
when they have not been accessed for 60 seconds.

Counting is by the **start** of a window and eviction by the **last** access. An entry is evicted
only when its window is over, since the last access is not before the start (`LimiterRun.Sound`): so
no count is reset early, whatever was accepted, refused, or turned away for want of a place.

## The table against the log

The table forgets, so nothing about the past can be read off it. A run keeps the log of accepted
checks beside it, each with the window it was counted in, and the general facts about such logs are
in `Lib/Windows.lean`: what an interval of 60 seconds can hold, when each window holds so many.
`LimiterTable.Counts` connects the two: an entry that is there counts what the log has in its
window, and where there is none no window of the key is open. Eviction keeps this because an entry
that is evicted is of a window that is over (`LimiterTable.Counts.evicted`).

## Keys and times

A peer is known by the SHA-256 of its address, and peers whose digests collide share a window: the
limit then holds for all of them together, and so for each (`LimiterRun.acceptedOf_sublist`). Times
are rational numbers and not floats, in any order that does not go back; the limiter compares and
subtracts them and does nothing else.
-/

namespace Awiki

open Py Windows

/-! ### The limiter -/

/-- An entry of `_clients`: the key, and `(start, count, last)`. -/
structure LimiterEntry where
  key : String
  start : ℚ
  count : ℕ
  last : ℚ
  deriving DecidableEq

/-- `_clients`, from the front to the end. -/
abbrev LimiterTable := List LimiterEntry

/-- `RegistrationCheckRateLimited`. -/
structure RegistrationCheckRateLimited where
  code : ℤ := -32005
  message : String
  data : Obj

/-- How long to wait is what is left of the window. -/
def rateLimited (start now : ℚ) : RegistrationCheckRateLimited where
  message := "registration_check_rate_limited"
  data := [("code", .str "registration_check_rate_limited"),
    ("retry_after_seconds", .int (max 1 ⌈start + 60 - now⌉))]

/-- The loop at the start of `check`: `popitem(last=False)` while the first entry is old. -/
def evict (now : ℚ) (clients : LimiterTable) : LimiterTable :=
  clients.dropWhile fun e ↦ decide (e.last ≤ now - 60)

/-- `RegistrationCheckLimiter.check` of a key. An entry that is set again goes to the end, for it
was popped before. -/
def LimiterTable.check (key : String) (now : ℚ) (clients : LimiterTable) :
    Except RegistrationCheckRateLimited Unit × LimiterTable :=
  let clients := evict now clients
  let previous := Table.row? LimiterEntry.key key clients
  let clients := clients.filter fun e ↦ e.key ≠ key
  let start := (previous.map (·.start)).getD now
  let count := (previous.map (·.count)).getD 0
  let (start, count) := if start + 60 ≤ now then (now, 0) else (start, count)
  if 20 ≤ count ∨ previous = none ∧ 10000 ≤ clients.length then
    (.error (rateLimited start now),
      if previous = none then clients else clients ++ [⟨key, start, count, now⟩])
  else (.ok (), clients ++ [⟨key, start, count + 1, now⟩])

/-- The entries that `check` leaves as they are. -/
def LimiterTable.others (key : String) (now : ℚ) (clients : LimiterTable) : LimiterTable :=
  (evict now clients).filter fun e ↦ e.key ≠ key

/-- **What a check comes to**, by the entry it finds: a limit reached, one more in the open window,
the first of a window, or no place for an entry. -/
inductive LimiterTable.Checked (key : String) (now : ℚ) (clients : LimiterTable) :
    Except RegistrationCheckRateLimited Unit × LimiterTable → Prop where
  | spent {p : LimiterEntry} (hfound : Table.row? LimiterEntry.key key (evict now clients) = some p)
      (hopen : now < p.start + 60) (hspent : 20 ≤ p.count) :
      Checked key now clients (.error (rateLimited p.start now),
        clients.others key now ++ [⟨key, p.start, p.count, now⟩])
  | counted {p : LimiterEntry}
      (hfound : Table.row? LimiterEntry.key key (evict now clients) = some p)
      (hopen : now < p.start + 60) (hleft : p.count < 20) :
      Checked key now clients
        (.ok (), clients.others key now ++ [⟨key, p.start, p.count + 1, now⟩])
  | first (hover : ∀ p, Table.row? LimiterEntry.key key (evict now clients) = some p →
        p.start + 60 ≤ now)
      (hplace : Table.row? LimiterEntry.key key (evict now clients) = none →
        (clients.others key now).length < 10000) :
      Checked key now clients (.ok (), clients.others key now ++ [⟨key, now, 1, now⟩])
  | full (hnew : Table.row? LimiterEntry.key key (evict now clients) = none)
      (hfull : 10000 ≤ (clients.others key now).length) :
      Checked key now clients (.error (rateLimited now now), clients.others key now)

/-- One of these it always is. -/
theorem LimiterTable.checked (key : String) (now : ℚ) (clients : LimiterTable) :
    clients.Checked key now (clients.check key now) := by
  have hstart : ¬ now + 60 ≤ now := by linarith
  rcases hfound : Table.row? LimiterEntry.key key (evict now clients) with - | p
  · have hcheck : clients.check key now =
        if 10000 ≤ (clients.others key now).length then
          (.error (rateLimited now now), clients.others key now)
        else (.ok (), clients.others key now ++ [⟨key, now, 1, now⟩]) := by
      simp [LimiterTable.check, LimiterTable.others, hfound, hstart]
    rw [hcheck]
    split
    · rename_i hfull
      exact .full hfound hfull
    · rename_i hplace
      exact .first (fun p hp ↦ by cases hfound.symm.trans hp) fun _ ↦ Nat.not_le.mp hplace
  · have hcheck : clients.check key now =
        if p.start + 60 ≤ now then (.ok (), clients.others key now ++ [⟨key, now, 1, now⟩])
        else if 20 ≤ p.count then
          (.error (rateLimited p.start now),
            clients.others key now ++ [⟨key, p.start, p.count, now⟩])
        else (.ok (), clients.others key now ++ [⟨key, p.start, p.count + 1, now⟩]) := by
      simp only [LimiterTable.check, LimiterTable.others, hfound, Option.map_some, Option.getD_some]
      by_cases hover : p.start + 60 ≤ now
      · simp [hover]
      · simp [hover]
    rw [hcheck]
    split
    · rename_i hover
      refine .first (fun q hq ↦ ?_) fun hnone ↦ by cases hfound.symm.trans hnone
      obtain rfl := Option.some.inj (hfound.symm.trans hq)
      exact hover
    · rename_i hopen
      split
      · rename_i hspent
        exact .spent hfound (not_le.mp hopen) hspent
      · rename_i hleft
        exact .counted hfound (not_le.mp hopen) (Nat.not_le.mp hleft)

/-! ### The table -/

/-- **The table is in order**: one entry a key, no more than 10,000, the last accesses in order, and
of every entry the last access is not before the start. -/
structure LimiterTable.Ordered (now : ℚ) (clients : LimiterTable) : Prop where
  keyed : Table.Keyed LimiterEntry.key clients
  byLast : clients.Pairwise fun e f ↦ e.last ≤ f.last
  length_le : clients.length ≤ 10000
  entry : ∀ e ∈ clients, e.start ≤ e.last ∧ e.last ≤ now ∧ e.count ≤ 20

section Table

variable {clients : LimiterTable} {now now' : ℚ} {key : String} {e : LimiterEntry}

/-- Eviction takes entries away. -/
theorem evict_sublist (now : ℚ) (clients : LimiterTable) : (evict now clients).Sublist clients :=
  List.dropWhile_sublist _

/-- **Only old entries are evicted.** -/
theorem mem_evict (h : e ∈ clients) (hlast : now - 60 < e.last) : e ∈ evict now clients := by
  have hsplit : clients.takeWhile (fun e ↦ decide (e.last ≤ now - 60)) ++ evict now clients =
    clients :=
    List.takeWhile_append_dropWhile
  rw [← hsplit] at h
  rcases List.mem_append.mp h with h | h
  · have hold := List.mem_takeWhile_imp h
    exact absurd (of_decide_eq_true hold) (not_le.mpr hlast)
  · exact h

/-- What is left is in order, also later. -/
theorem LimiterTable.Ordered.evicted (h : clients.Ordered now) (hnow : now ≤ now') :
    (evict now' clients).Ordered now' where
  keyed := h.keyed.sublist ((evict_sublist now' clients).map LimiterEntry.key)
  byLast := h.byLast.sublist (evict_sublist now' clients)
  length_le := Nat.le_trans (evict_sublist now' clients).length_le h.length_le
  entry e he := by
    obtain ⟨hstart, hlast, hcount⟩ := h.entry e ((evict_sublist now' clients).subset he)
    exact ⟨hstart, le_trans hlast hnow, hcount⟩

/-- Setting an entry that was popped. -/
theorem LimiterTable.Ordered.set (h : clients.Ordered now) (hkey : e.key = key)
    (hlast : e.last = now) (hstart : e.start ≤ now) (hcount : e.count ≤ 20)
    (hplace : (clients.filter fun e ↦ e.key ≠ key).length < 10000) :
    LimiterTable.Ordered now ((clients.filter fun e ↦ e.key ≠ key) ++ [e]) where
  keyed := (h.keyed.filter _).append fun f hf ↦ by simpa [hkey] using (List.mem_filter.mp hf).2
  byLast := by
    refine List.pairwise_append.mpr ⟨h.byLast.sublist List.filter_sublist,
      List.pairwise_singleton _ _, fun f hf g hg ↦ ?_⟩
    rw [List.mem_singleton.mp hg, hlast]
    exact (h.entry f (List.mem_of_mem_filter hf)).2.1
  length_le := by
    rw [List.length_append, List.length_singleton]
    omega
  entry f hf := by
    rcases List.mem_append.mp hf with hf | hf
    · exact h.entry f (List.mem_of_mem_filter hf)
    · rw [List.mem_singleton.mp hf]
      exact ⟨hlast ▸ hstart, hlast.le, hcount⟩

end Table

/-! ### Runs -/

/-- The checks so far: the table, and of every check that was accepted the peer, the time, and the
start of the window it was counted in. -/
structure LimiterRun where
  clients : LimiterTable
  accepted : List (String × Counted ℚ)

namespace LimiterRun

variable (digest : String → String)

/-- The start of the window of a key. -/
def windowStart (key : String) (now : ℚ) (clients : LimiterTable) : ℚ :=
  ((Table.row? LimiterEntry.key key clients).map (·.start)).getD now

/-- `check(peer)` at a time; `digest` is the hexadecimal SHA-256 of a name. -/
def check (r : LimiterRun) (call : String × ℚ) : LimiterRun :=
  match r.clients.check (digest call.1) call.2 with
  | (.ok (), clients) =>
    ⟨clients, r.accepted ++ [(call.1, ⟨call.2, windowStart (digest call.1) call.2 clients⟩)]⟩
  | (.error _, clients) => ⟨clients, r.accepted⟩

/-- The checks of these peers at these times, one after the other. -/
def run (calls : List (String × ℚ)) : LimiterRun := calls.foldl (check digest) ⟨[], []⟩

/-- The accepted checks of a peer. -/
def acceptedOf (r : LimiterRun) (peer : String) : List (Counted ℚ) :=
  (r.accepted.filter fun a ↦ a.1 = peer).map (·.2)

/-- The accepted checks of a key. -/
def log (r : LimiterRun) (key : String) : List (Counted ℚ) :=
  (r.accepted.filter fun a ↦ digest a.1 = key).map (·.2)

end LimiterRun

/-- **What the table says about the accepted checks** of a key: they are in windows that do not
overlap, 20 in each at most; the entry is of the last of the windows, and counts what is in it; and
without an entry all of the windows are over. -/
structure LimiterTable.Counts (log : String → List (Counted ℚ)) (now : ℚ) (clients : LimiterTable) :
    Prop where
  spaced : ∀ key, Spaced 60 (log key)
  limit : ∀ key start, countOf (log key) start ≤ 20
  present : ∀ e ∈ clients, countOf (log e.key) e.start ≤ e.count ∧
    ∀ a ∈ log e.key, a.start = e.start ∨ a.start + 60 ≤ e.start
  absent : ∀ key, (∀ e ∈ clients, e.key ≠ key) → ∀ a ∈ log key, a.start + 60 ≤ now

section Counts

variable {clients : LimiterTable} {log log' : String → List (Counted ℚ)} {now now' : ℚ}
  {key : String} {e : LimiterEntry}

/-- **Eviction forgets no open window.** -/
theorem LimiterTable.Counts.evicted (h : clients.Counts log now) (hordered : clients.Ordered now)
    (hnow : now ≤ now') : (evict now' clients).Counts log now' where
  spaced := h.spaced
  limit := h.limit
  present e he := h.present e ((evict_sublist now' clients).subset he)
  absent key hkey a ha := by
    by_cases hentry : ∃ e ∈ clients, e.key = key
    · obtain ⟨e, he, rfl⟩ := hentry
      obtain ⟨hstart, hlast, -⟩ := hordered.entry e he
      have hold : e.last ≤ now' - 60 := by
        by_contra hlast
        exact hkey e (mem_evict he (not_le.mp hlast)) rfl
      rcases (h.present e he).2 a ha with heq | hover <;> linarith
    · refine le_trans (h.absent key (fun e he hek ↦ hentry ⟨e, he, hek⟩) a ha) hnow

/-- Setting an entry: what it says about its key has to be so. -/
theorem LimiterTable.Counts.set (h : clients.Counts log now) (hkey : e.key = key)
    (hother : ∀ key' ≠ key, log' key' = log key') (hspaced : Spaced 60 (log' key))
    (hlimit : ∀ start, countOf (log' key) start ≤ 20)
    (hcount : countOf (log' key) e.start ≤ e.count)
    (hlast : ∀ a ∈ log' key, a.start = e.start ∨ a.start + 60 ≤ e.start) :
    LimiterTable.Counts log' now ((clients.filter fun f ↦ f.key ≠ key) ++ [e]) where
  spaced key' := by
    rcases eq_or_ne key' key with rfl | hne
    · exact hspaced
    · rw [hother key' hne]
      exact h.spaced key'
  limit key' start := by
    rcases eq_or_ne key' key with rfl | hne
    · exact hlimit start
    · rw [hother key' hne]
      exact h.limit key' start
  present f hf := by
    rcases List.mem_append.mp hf with hf | hf
    · obtain ⟨hmem, hne⟩ := List.mem_filter.mp hf
      rw [hother f.key (of_decide_eq_true hne)]
      exact h.present f hmem
    · rw [List.mem_singleton.mp hf, hkey]
      exact ⟨hcount, hlast⟩
  absent key' hkey' := by
    have hne : key' ≠ key := fun heq ↦
      hkey' e (List.mem_append_right _ (List.mem_singleton_self e)) (hkey.trans heq.symm)
    rw [hother key' hne]
    refine h.absent key' fun f hf hfk ↦
      hkey' f (List.mem_append_left _ (List.mem_filter.mpr ⟨hf, ?_⟩)) hfk
    simpa [hfk] using hne

end Counts

/-! ### What a run keeps -/

/-- The invariant. -/
structure LimiterRun.Sound (digest : String → String) (now : ℚ) (r : LimiterRun) : Prop where
  ordered : r.clients.Ordered now
  counts : r.clients.Counts (r.log digest) now

section Run

variable {digest : String → String} {r : LimiterRun} {now now' : ℚ} {peer key : String}
  {clients : LimiterTable} {a : Counted ℚ}

/-- An accepted check is in the log of its key. -/
theorem LimiterRun.log_append (peer : String) (a : Counted ℚ) (clients : LimiterTable)
    (key : String) : (LimiterRun.mk clients (r.accepted ++ [(peer, a)])).log digest key =
      r.log digest key ++ if digest peer = key then [a] else [] := by
  rw [LimiterRun.log, List.filter_append, List.map_append, ← LimiterRun.log]
  congr 1
  by_cases h : digest peer = key <;> simp [h]

/-- The window of a key is that of its entry. -/
theorem windowStart_append {e : LimiterEntry} (hkey : e.key = key) (now : ℚ) :
    LimiterRun.windowStart key now ((clients.filter fun f ↦ f.key ≠ key) ++ [e]) = e.start := by
  have hnone : Table.row? LimiterEntry.key key (clients.filter fun f ↦ f.key ≠ key) = none :=
    Table.row?_eq_none.mpr fun f hf ↦ by simpa using (List.mem_filter.mp hf).2
  rw [LimiterRun.windowStart, Table.row?_append, hnone, if_pos hkey]
  rfl

/-- A check more is counted in its window. -/
theorem countOf_append (log : List (Counted ℚ)) (a : Counted ℚ) (start : ℚ) :
    countOf (log ++ [a]) start = countOf log start + if a.start = start then 1 else 0 := by
  rw [countOf, List.countP_append, List.countP_singleton, ← countOf]
  simp only [decide_eq_true_eq]

/-- An entry that is set has a place: it was in the table, or there was room. -/
theorem length_others_lt (h : (evict now clients).Ordered now) {p : LimiterEntry}
    (hfound : Table.row? LimiterEntry.key key (evict now clients) = some p) :
    (clients.others key now).length < 10000 := by
  have hmem := Table.mem_of_row? hfound
  have hdropped : ∃ e ∈ evict now clients, ¬ (decide (e.key ≠ key)) = true :=
    ⟨p, hmem, by simp [Table.key_of_row? hfound]⟩
  exact Nat.lt_of_lt_of_le (List.length_filter_lt_length_iff_exists.mpr hdropped) h.length_le

/-- An accepted check: the entry is of the window the check is counted in. -/
theorem LimiterRun.Sound.accept {e : LimiterEntry} (hordered : (evict now r.clients).Ordered now)
    (hcounts : (evict now r.clients).Counts (r.log digest) now)
    (hanswer : r.clients.check (digest peer) now =
      (.ok (), r.clients.others (digest peer) now ++ [e]))
    (hkey : e.key = digest peer) (hlast : e.last = now)
    (hwithin : e.start ≤ now ∧ now < e.start + 60)
    (hcount : countOf (r.log digest (digest peer)) e.start + 1 ≤ e.count) (hlimit : e.count ≤ 20)
    (hapart : ∀ a ∈ r.log digest (digest peer), a.start = e.start ∨ a.start + 60 ≤ e.start)
    (hplace : (r.clients.others (digest peer) now).length < 10000) :
    (r.check digest (peer, now)).Sound digest now := by
  have hstart : LimiterRun.windowStart (digest peer) now
      (((evict now r.clients).filter fun f ↦ f.key ≠ digest peer) ++ [e]) = e.start :=
    windowStart_append hkey now
  have hcheck : r.check digest (peer, now) = ⟨r.clients.others (digest peer) now ++ [e],
      r.accepted ++ [(peer, ⟨now, e.start⟩)]⟩ := by
    rw [LimiterRun.check, hanswer, ← hstart]
    rfl
  have hlog : ∀ key, (LimiterRun.mk (r.clients.others (digest peer) now ++ [e])
      (r.accepted ++ [(peer, ⟨now, e.start⟩)])).log digest key =
        r.log digest key ++ if digest peer = key then [⟨now, e.start⟩] else [] :=
    LimiterRun.log_append peer ⟨now, e.start⟩ _
  rw [← hcheck] at hlog
  have hown : (r.check digest (peer, now)).log digest (digest peer) =
      r.log digest (digest peer) ++ [⟨now, e.start⟩] := by
    rw [hlog, if_pos rfl]
  -- The table stays in order, and its counts stay above those of the log.
  refine ⟨?_, ?_⟩
  · rw [hcheck]
    exact hordered.set hkey hlast hwithin.1 hlimit hplace
  · have htable : (r.check digest (peer, now)).clients =
        ((evict now r.clients).filter fun f ↦ f.key ≠ digest peer) ++ [e] := by
      rw [hcheck]
      rfl
    rw [htable]
    refine hcounts.set hkey (fun key' hne ↦ ?_) ?_ (fun start ↦ ?_) ?_ fun a ha ↦ ?_
    · rw [hlog, if_neg hne.symm, List.append_nil]
    · rw [hown]
      exact (hcounts.spaced _).append hwithin hapart
    · rw [hown, countOf_append]
      split
      · rename_i heq
        rw [← heq]
        exact Nat.le_trans hcount hlimit
      · exact hcounts.limit _ start
    · rw [hown, countOf_append, if_pos rfl]
      exact hcount
    · rw [hown] at ha
      rcases List.mem_append.mp ha with ha | ha
      · exact hapart a ha
      · rw [List.mem_singleton.mp ha]
        exact .inl rfl

/-- **One check.** -/
theorem LimiterRun.Sound.check (h : r.Sound digest now) (hnow : now ≤ now') (peer : String) :
    (r.check digest (peer, now')).Sound digest now' := by
  have hordered := h.ordered.evicted hnow
  have hcounts := h.counts.evicted h.ordered hnow
  have hchecked := r.clients.checked (digest peer) now'
  generalize hanswer : r.clients.check (digest peer) now' = answer at hchecked
  cases hchecked with
  | @spent p hfound hopen hspent =>
    have hmem := Table.mem_of_row? hfound
    have hkey := Table.key_of_row? hfound
    obtain ⟨hstart, hlast, hlimit⟩ := hordered.entry p hmem
    obtain ⟨hcount, hapart⟩ := hcounts.present p hmem
    rw [hkey] at hcount hapart
    have hcheck : r.check digest (peer, now') = ⟨r.clients.others (digest peer) now' ++
        [⟨digest peer, p.start, p.count, now'⟩], r.accepted⟩ := by
      rw [LimiterRun.check, hanswer]
    rw [hcheck]
    exact ⟨hordered.set rfl rfl (le_trans hstart hlast) hlimit (length_others_lt hordered hfound),
      hcounts.set rfl (fun _ _ ↦ rfl) (hcounts.spaced _) (hcounts.limit _) hcount hapart⟩
  | @counted p hfound hopen hleft =>
    have hmem := Table.mem_of_row? hfound
    have hkey := Table.key_of_row? hfound
    obtain ⟨hstart, hlast, -⟩ := hordered.entry p hmem
    obtain ⟨hcount, hapart⟩ := hcounts.present p hmem
    rw [hkey] at hcount hapart
    exact .accept hordered hcounts hanswer rfl rfl ⟨le_trans hstart hlast, hopen⟩
      (Nat.succ_le_succ hcount) hleft hapart (length_others_lt hordered hfound)
  | first hover hplace =>
    -- every window of the key is over, so the new one counts this check only
    have hpast : ∀ a ∈ r.log digest (digest peer), a.start + 60 ≤ now' := fun a ha ↦ by
      rcases hfound : Table.row? LimiterEntry.key (digest peer) (evict now' r.clients) with - | p
      · exact hcounts.absent _ (Table.row?_eq_none.mp hfound) a ha
      · have hmem := Table.mem_of_row? hfound
        have hkey := Table.key_of_row? hfound
        obtain ⟨hstart, hlast, -⟩ := hordered.entry p hmem
        rcases (hcounts.present p hmem).2 a (hkey ▸ ha) with heq | hle
        · rw [heq]
          exact hover p hfound
        · exact le_trans hle (le_trans hstart hlast)
    have hzero : countOf (r.log digest (digest peer)) now' = 0 :=
      List.countP_eq_zero.mpr fun a ha heq ↦ by
        have hle := hpast a ha
        rw [of_decide_eq_true heq] at hle
        linarith
    have hroom : (r.clients.others (digest peer) now').length < 10000 := by
      rcases hfound : Table.row? LimiterEntry.key (digest peer) (evict now' r.clients) with - | p
      · exact hplace hfound
      · exact length_others_lt hordered hfound
    exact .accept hordered hcounts hanswer rfl rfl ⟨le_refl now', by linarith⟩
      (by rw [hzero]) (by decide : 1 ≤ 20) (fun a ha ↦ .inr (hpast a ha)) hroom
  | full hnew hfull =>
    have hall : r.clients.others (digest peer) now' = evict now' r.clients :=
      List.filter_eq_self.mpr fun e he ↦ by simpa using Table.row?_eq_none.mp hnew e he
    have hcheck : r.check digest (peer, now') = ⟨evict now' r.clients, r.accepted⟩ := by
      rw [LimiterRun.check, hanswer, ← hall]
    rw [hcheck]
    exact ⟨hordered, hcounts⟩

/-- At first nothing has been accepted. -/
theorem LimiterRun.Sound.start (now : ℚ) : (LimiterRun.mk [] []).Sound digest now where
  ordered := ⟨List.nodup_nil, .nil, Nat.zero_le _, fun _ he ↦ absurd he List.not_mem_nil⟩
  counts := ⟨fun _ ↦ .nil, fun _ _ ↦ Nat.zero_le _, fun _ he ↦ absurd he List.not_mem_nil,
    fun _ _ _ ha ↦ absurd ha List.not_mem_nil⟩

/-- Time may pass. -/
theorem LimiterRun.Sound.mono (h : r.Sound digest now) (hnow : now ≤ now') :
    r.Sound digest now' where
  ordered := { h.ordered with
    entry := fun e he ↦ by
      obtain ⟨hstart, hlast, hcount⟩ := h.ordered.entry e he
      exact ⟨hstart, le_trans hlast hnow, hcount⟩ }
  counts := { h.counts with
    absent := fun key hkey a ha ↦ le_trans (h.counts.absent key hkey a ha) hnow }

/-- **Every run is sound**, at every time that is not before its last check. -/
theorem LimiterRun.sound_run (digest : String → String) {calls : List (String × ℚ)}
    (hsorted : calls.Pairwise fun a b ↦ a.2 ≤ b.2) (hnow : ∀ c ∈ calls, c.2 ≤ now) :
    (LimiterRun.run digest calls).Sound digest now := by
  induction calls using List.reverseRecOn generalizing now with
  | nil => exact .start now
  | append_singleton calls call ih =>
    obtain ⟨hbefore, -, hlast⟩ := List.pairwise_append.mp hsorted
    have hsound := ih hbefore fun c hc ↦ hlast c hc call (List.mem_singleton_self call)
    have hrun : LimiterRun.run digest (calls ++ [call]) =
        (LimiterRun.run digest calls).check digest call := by
      rw [LimiterRun.run, List.foldl_append]
      rfl
    rw [hrun]
    exact (hsound.check (le_refl call.2) call.1).mono
      (hnow call (List.mem_append_right _ (List.mem_singleton_self call)))

/-- The accepted checks of a peer are among those of its key. -/
theorem LimiterRun.acceptedOf_sublist (digest : String → String) (r : LimiterRun) (peer : String) :
    (r.acceptedOf peer).Sublist (r.log digest (digest peer)) := by
  refine List.Sublist.map _ (List.monotone_filter_right _ fun a ha ↦ ?_)
  rw [of_decide_eq_true ha]
  exact decide_eq_true rfl

/-- **An open window is kept**, with what it counts: its entry is not evicted, and not reset. -/
theorem LimiterTable.Ordered.keeps_open {clients : LimiterTable} {e : LimiterEntry}
    (h : clients.Ordered now) (he : e ∈ clients) (hopen : now' < e.start + 60) (key : String) :
    ∃ e' ∈ (clients.check key now').2, e'.key = e.key ∧ e'.start = e.start ∧
      e.count ≤ e'.count := by
  have hlive : e ∈ evict now' clients := mem_evict he (by have := (h.entry e he).1; linarith)
  have hkeyed : Table.Keyed LimiterEntry.key (evict now' clients) :=
    h.keyed.sublist ((evict_sublist now' clients).map LimiterEntry.key)
  have hchecked := clients.checked key now'
  generalize clients.check key now' = answer at hchecked
  rcases eq_or_ne e.key key with rfl | hne
  · have hrow := hkeyed.row?_of_mem hlive
    cases hchecked with
    | @spent p hfound hopen hspent =>
      obtain rfl := Option.some.inj (hrow.symm.trans hfound)
      exact ⟨_, List.mem_append_right _ (List.mem_singleton_self _), rfl, rfl, Nat.le_refl _⟩
    | @counted p hfound hopen hleft =>
      obtain rfl := Option.some.inj (hrow.symm.trans hfound)
      exact ⟨_, List.mem_append_right _ (List.mem_singleton_self _), rfl, rfl, Nat.le_succ _⟩
    | first hover hplace => exact absurd (hover e hrow) (not_le.mpr hopen)
    | full hnew hfull => cases hnew.symm.trans hrow
  · have hother : e ∈ clients.others key now' :=
      List.mem_filter.mpr ⟨hlive, decide_eq_true hne⟩
    cases hchecked with
    | spent => exact ⟨e, List.mem_append_left _ hother, rfl, rfl, Nat.le_refl _⟩
    | counted => exact ⟨e, List.mem_append_left _ hother, rfl, rfl, Nat.le_refl _⟩
    | first => exact ⟨e, List.mem_append_left _ hother, rfl, rfl, Nat.le_refl _⟩
    | full => exact ⟨e, hother, rfl, rfl, Nat.le_refl _⟩

/-- There is a time after all of them. -/
theorem exists_time_le (calls : List (String × ℚ)) : ∃ t : ℚ, ∀ c ∈ calls, c.2 ≤ t := by
  induction calls with
  | nil => exact ⟨0, fun _ hc ↦ absurd hc List.not_mem_nil⟩
  | cons call calls ih =>
    obtain ⟨t, ht⟩ := ih
    refine ⟨max call.2 t, fun c hc ↦ ?_⟩
    rcases List.mem_cons.mp hc with rfl | hc
    · exact le_max_left _ _
    · exact le_trans (ht c hc) (le_max_right _ _)

/-- **The limit holds, and no count is reset early.** Of a peer no more than 20 checks are accepted
in a window of 60 seconds, and no more than 40 in any 60 seconds; the table has no more than 10,000
entries, in the order of their last access; and the next check, whoever makes it, evicts entries
only whose window is over, and keeps every open window with its count. -/
theorem registration_checks_limited (digest : String → String) (calls : List (String × ℚ))
    (hsorted : calls.Pairwise fun a b ↦ a.2 ≤ b.2) :
    (∀ peer, Spaced 60 ((LimiterRun.run digest calls).acceptedOf peer) ∧
      ∀ start, countOf ((LimiterRun.run digest calls).acceptedOf peer) start ≤ 20) ∧
    (∀ peer t, (((LimiterRun.run digest calls).acceptedOf peer).countP fun a ↦
      decide (t ≤ a.time ∧ a.time ≤ t + 60)) ≤ 40) ∧
    (LimiterRun.run digest calls).clients.length ≤ 10000 ∧
    ((LimiterRun.run digest calls).clients.Pairwise fun e f ↦ e.last ≤ f.last) ∧
    ∀ now, ∀ e ∈ (LimiterRun.run digest calls).clients,
      (e ∉ evict now (LimiterRun.run digest calls).clients → e.start + 60 ≤ now) ∧
      (now < e.start + 60 → ∀ peer,
        ∃ e' ∈ ((LimiterRun.run digest calls).clients.check (digest peer) now).2,
          e'.key = e.key ∧ e'.start = e.start ∧ e.count ≤ e'.count) := by
  obtain ⟨latest, hlatest⟩ := exists_time_le calls
  have hsound := LimiterRun.sound_run digest hsorted hlatest
  have hspaced : ∀ peer, Spaced 60 ((LimiterRun.run digest calls).acceptedOf peer) := fun peer ↦
    (hsound.counts.spaced _).sublist (LimiterRun.acceptedOf_sublist digest _ peer)
  have hlimit : ∀ peer start, countOf ((LimiterRun.run digest calls).acceptedOf peer) start ≤ 20 :=
    fun peer start ↦ Nat.le_trans
      ((LimiterRun.acceptedOf_sublist digest _ peer).countP_le) (hsound.counts.limit _ start)
  refine ⟨fun peer ↦ ⟨hspaced peer, hlimit peer⟩,
    fun peer t ↦ (hspaced peer).countP_interval_le (hlimit peer) t, hsound.ordered.length_le,
    hsound.ordered.byLast, fun now e he ↦ ⟨fun hevicted ↦ ?_, fun hopen peer ↦ ?_⟩⟩
  · have hstart := (hsound.ordered.entry e he).1
    by_contra hopen
    exact hevicted (mem_evict he (by linarith))
  · exact hsound.ordered.keeps_open he hopen (digest peer)

/-- Two checks of one peer and, a window later, one of another. -/
theorem registration_checks_limited_sample :
    ((LimiterRun.run id [("a", 0), ("a", 1), ("b", 61)]).acceptedOf "a").length = 2 ∧
    (LimiterRun.run id [("a", 0), ("a", 1), ("b", 61)]).clients.map (·.key) = ["b"] ∧
    (((LimiterRun.run id [("a", 0), ("a", 1), ("b", 61)]).acceptedOf "a").countP fun a ↦
      decide ((0 : ℚ) ≤ a.time ∧ a.time ≤ 0 + 60)) ≤ 40 :=
  ⟨by decide +kernel, by decide +kernel,
    (registration_checks_limited id [("a", 0), ("a", 1), ("b", 61)] (by decide +kernel)).2.1 "a" 0⟩

end Run

end Awiki
