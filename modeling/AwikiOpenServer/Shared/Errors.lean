import AwikiOpenServer.Lib.Json

/-!
# Errors a handler answers with

Every handler either returns a value or raises; a raised exception rolls the transaction back and
becomes the JSON-RPC error of the reply. `AwikiError` is that exception. The exceptions the server
does not name — a `KeyError` on a malformed row, a `TypeError`, an SQLite constraint — reach the
dispatcher just the same and are the kind `internal`.

**Messages and data are kept.** An error has its kind, which decides the code, and the message and
the members of `data` exactly as the source writes them, because clients act on them and other
services do: a peer reads the message of a refusal, and a field path is in its `data`.

## Reading handlers backwards

A handler is a `do` block in `Except`, and nearly every proof begins with one that succeeded. The
lemmas with `eq_ok` take it apart: from `x >>= f = .ok b` to the value in between (`bind_eq_ok`),
from a check that passed to its condition (`require_eq_ok`), from a row that was required to the row
(`orRaise_eq_ok`). They are equivalences, so the same lemmas build a success up again in a proof
that two handlers answer alike.

The other question, what a computation can raise, has a predicate of its own, `RaisesOnly`, with one
simp lemma for each way of composing. It is how a proof shows that an answer is an error *of a
certain kind* without following which check failed.
-/

namespace Awiki

open Py

/-- The exception classes of the server, and `internal` for everything it does not name. -/
inductive ErrorKind where
  | invalidRequest
  | methodNotFound
  | invalidParams
  | unauthorized
  | notSupported
  | notFound
  | userServiceNotFound
  | conflict
  | syncProtocol (code : ℤ)
  | internal
  deriving DecidableEq, Repr

/-- JSON-RPC error code of each class. -/
def ErrorKind.code : ErrorKind → ℤ
  | invalidRequest => -32600
  | methodNotFound => -32601
  | invalidParams => -32602
  | unauthorized => -32001
  | notSupported => -32010
  | notFound => -32004
  | userServiceNotFound => -32002
  | conflict => -32009
  | syncProtocol code => code
  | internal => -32603

/-- A raised exception. -/
structure AwikiError where
  kind : ErrorKind
  message : String
  data : Obj := []

namespace AwikiError

/-- `InvalidParams(message, data)`. -/
def invalidParams (message : String) (data : Obj := []) : AwikiError :=
  ⟨.invalidParams, message, data⟩

/-- `Unauthorized(message, data)`. -/
def unauthorized (message : String) (data : Obj := []) : AwikiError :=
  ⟨.unauthorized, message, data⟩

/-- `NotSupported(message, data)`. -/
def notSupported (message : String) (data : Obj := []) : AwikiError :=
  ⟨.notSupported, message, data⟩

/-- `NotFound(message, data)`. -/
def notFound (message : String) (data : Obj := []) : AwikiError := ⟨.notFound, message, data⟩

/-- `Conflict(message, data)`. -/
def conflict (message : String) (data : Obj := []) : AwikiError := ⟨.conflict, message, data⟩

/-- `SyncProtocolError`: a wire error of ordinary sync with its frozen numeric code. -/
def syncProtocol (anpCode : String) (code : ℤ) (details : Obj := []) : AwikiError :=
  ⟨.syncProtocol code, anpCode,
    [("anp_code", .str anpCode), ("retryable", .bool false), ("details", .obj details)]⟩

/-- `sqlite3.IntegrityError`. -/
def integrity (constraint : String) : AwikiError := ⟨.internal, constraint, []⟩

/-- `KeyError`. -/
def key (name : String) : AwikiError := ⟨.internal, name, []⟩

/-- `TypeError`, and the errors of the SQLite binding. -/
def type (detail : String) : AwikiError := ⟨.internal, detail, []⟩

/-- `ValueError` that nothing catches. -/
def value (detail : String) : AwikiError := ⟨.internal, detail, []⟩

end AwikiError

/-- What a handler returns. -/
abbrev Result (α : Type) := Except AwikiError α

/-- `if not c: raise e`. -/
def require (c : Bool) (e : AwikiError) : Result Unit := if c then .ok () else .error e

/-- `value`, or the exception when there is none. -/
def orRaise {α : Type} (e : AwikiError) : Option α → Result α
  | some a => .ok a
  | none => .error e

/-! ### Reading a successful computation backwards -/

/-- Two steps succeed when the first does and the second does on its value. -/
theorem bind_eq_ok {α β : Type} {x : Result α} {f : α → Result β} {b : β} :
    (x >>= f) = .ok b ↔ ∃ a, x = .ok a ∧ f a = .ok b := by
  cases x with
  | error e => simp [bind, Except.bind]
  | ok a => simp [bind, Except.bind]

/-- What returns a value returns that one. -/
theorem pure_eq_ok {α : Type} {a b : α} : (pure a : Result α) = .ok b ↔ a = b := by
  simp [pure, Except.pure]

/-- A check passes when its condition holds. -/
theorem require_eq_ok {c : Bool} {e : AwikiError} {u : Unit} :
    require c e = .ok u ↔ c = true := by
  cases c <;> simp [require]

/-- A check of what holds passes. -/
@[simp] theorem require_true (e : AwikiError) : require true e = .ok () := rfl

/-- What is required is there. -/
theorem orRaise_eq_ok {α : Type} {e : AwikiError} {o : Option α} {a : α} :
    orRaise e o = .ok a ↔ o = some a := by
  cases o <;> simp [orRaise]

/-- And what is there may be required. -/
@[simp] theorem orRaise_some {α : Type} (e : AwikiError) (a : α) : orRaise e (some a) = .ok a := rfl

/-- A success goes on with its value. -/
@[simp] theorem ok_bind {α β : Type} (a : α) (f : α → Result β) :
    ((Except.ok a : Result α) >>= f) = f a := rfl

/-- An exception goes through. -/
@[simp] theorem error_bind {α β : Type} (e : AwikiError) (f : α → Result β) :
    ((Except.error e : Result α) >>= f) = .error e := rfl

/-- What a successful `mapM` lists comes from what it went over. -/
theorem mem_of_mapM_eq_ok {α β : Type} {f : α → Result β} {l : List α} {r : List β}
    (h : l.mapM f = .ok r) {b : β} (hb : b ∈ r) : ∃ a ∈ l, f a = .ok b := by
  induction l generalizing r with
  | nil =>
    rw [List.mapM_nil, pure_eq_ok] at h
    rw [← h] at hb
    cases hb
  | cons a rest ih =>
    rw [List.mapM_cons] at h
    obtain ⟨b', hb', h⟩ := bind_eq_ok.mp h
    obtain ⟨r', hr', h⟩ := bind_eq_ok.mp h
    rw [pure_eq_ok] at h
    subst h
    rcases List.mem_cons.mp hb with rfl | hb
    · exact ⟨a, List.mem_cons_self, hb'⟩
    · obtain ⟨a', ha', hfound⟩ := ih hr' hb
      exact ⟨a', List.mem_cons_of_mem _ ha', hfound⟩

/-- A loop of checks passes when every check does. -/
theorem forM_eq_ok {α : Type} {l : List α} {f : α → Result Unit} {u : Unit} :
    l.forM f = .ok u ↔ ∀ a ∈ l, f a = .ok () := by
  induction l with
  | nil => simp [pure, Except.pure]
  | cons a rest ih =>
    show (f a >>= fun _ ↦ rest.forM f) = .ok u ↔ _
    rw [bind_eq_ok, List.forall_mem_cons, ← ih]
    exact ⟨fun ⟨_, ha, hrest⟩ ↦ ⟨ha, hrest⟩, fun ⟨ha, hrest⟩ ↦ ⟨(), ha, hrest⟩⟩

/-- `raise`. -/
@[simp] theorem throw_eq_error {α : Type} (e : AwikiError) : (throw e : Result α) = .error e := rfl

/-! ### Which exceptions a computation raises -/

/-- Every exception of the computation satisfies `P`. -/
def RaisesOnly (P : AwikiError → Prop) {α : Type} (x : Result α) : Prop := ∀ e, x = .error e → P e

section RaisesOnly

variable {P : AwikiError → Prop} {α β : Type} {e : AwikiError}

/-- A success raises nothing. -/
@[simp] theorem raisesOnly_ok (a : α) : RaisesOnly P (.ok a : Result α) := by
  rintro e ⟨⟩

/-- Nor does a return. -/
@[simp] theorem raisesOnly_pure (a : α) : RaisesOnly P (pure a : Result α) := raisesOnly_ok a

/-- An exception raises itself. -/
@[simp] theorem raisesOnly_error : RaisesOnly P (.error e : Result α) ↔ P e :=
  ⟨fun h ↦ h e rfl, fun h _ he ↦ Except.error.inj he ▸ h⟩

/-- A composition raises what its parts do, the second on the value of the first. -/
@[simp] theorem raisesOnly_bind {x : Result α} {f : α → Result β} :
    RaisesOnly P (x >>= f) ↔ RaisesOnly P x ∧ ∀ a, x = .ok a → RaisesOnly P (f a) := by
  cases x with
  | error e => simp
  | ok a => simp

/-- Mapping the value raises nothing more. -/
@[simp] theorem raisesOnly_map {x : Result α} {f : α → β} :
    RaisesOnly P (x.map f) ↔ RaisesOnly P x := by
  cases x with
  | error e => simp [Except.map]
  | ok a => simp [Except.map]

/-- The same, as a functor. -/
@[simp] theorem raisesOnly_fmap {x : Result α} {f : α → β} :
    RaisesOnly P (f <$> x) ↔ RaisesOnly P x := raisesOnly_map

/-- A check raises its exception if its condition fails. -/
@[simp] theorem raisesOnly_require {c : Bool} :
    RaisesOnly P (require c e) ↔ (c = false → P e) := by
  cases c <;> simp [require]

/-- What is required and missing raises its exception. -/
@[simp] theorem raisesOnly_orRaise {o : Option α} :
    RaisesOnly P (orRaise e o) ↔ (o = none → P e) := by
  cases o <;> simp [orRaise]

/-- A loop raises what the first item that does not pass raises. -/
theorem raisesOnly_forM_iff {l : List α} {f : α → Result Unit} :
    RaisesOnly P (l.forM f) ↔ ∀ before a after, l = before ++ a :: after →
      (∀ b ∈ before, f b = .ok ()) → RaisesOnly P (f a) := by
  induction l with
  | nil => simp [pure, Except.pure]
  | cons a rest ih =>
    show RaisesOnly P (f a >>= fun _ ↦ rest.forM f) ↔ _
    rw [raisesOnly_bind]
    constructor
    · rintro ⟨ha, hrest⟩ before b after hsplit hbefore
      cases before with
      | nil =>
        obtain ⟨rfl, -⟩ := List.cons_eq_cons.mp hsplit
        exact ha
      | cons c before =>
        obtain ⟨rfl, hrests⟩ := List.cons_eq_cons.mp hsplit
        obtain ⟨hc, hbefore⟩ := List.forall_mem_cons.mp hbefore
        exact ih.mp (hrest () hc) before b after hrests hbefore
    · intro h
      refine ⟨h [] a rest rfl (by simp), fun _ ha ↦ ih.mpr fun before b after hsplit hbefore ↦ ?_⟩
      exact h (a :: before) b after (by rw [hsplit]; rfl) (List.forall_mem_cons.mpr ⟨ha, hbefore⟩)

/-- A loop raises what its body can. -/
theorem raisesOnly_forM {l : List α} {f : α → Result Unit} (h : ∀ a, RaisesOnly P (f a)) :
    RaisesOnly P (l.forM f) :=
  raisesOnly_forM_iff.mpr fun _ a _ _ _ ↦ h a

end RaisesOnly

end Awiki
