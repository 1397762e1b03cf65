import AwikiOpenServer.Attachments.Slots

/-!
# The bytes of a committed attachment

A commit reads the uploaded bytes, checks them, and then moves **whatever is there by then** to the
final path. Nothing it holds keeps an upload from writing other bytes in between, so with the two
running together a row of `attachment_objects` can describe bytes that are gone.

An upload and a commit of one slot are the only calls that stand in each other's way. If none starts
while the other runs, every object's file has the recorded size and digest, in every state of every
interleaving of all the calls, whatever is aborted or cleaned up and wherever a call is cut off.

## The argument

This is a proof in the style of rely and guarantee, by the rules of `Lib/Rely.lean`.

* `BytesKept` is the invariant of what is committed and what lies on disk. Every row of
  `attachment_slots` is at the paths of its own number (`IsSlot`), so files of different numbers
  never meet; every object has its bytes in place (`IsObject`), and nothing is left to be uploaded
  that could be moved over them.
* `CallEffect` says what one statement of a call may do to the committed state and the files. It is
  what the others count on (`Others`), and what each call is obliged to (`Keeps`).
* `prog_keeps` is that every call meets its obligation. It is one lemma per handler, by following
  its statements and carrying an assertion from each to the next: `NoWrite`, `Harmless`, `Vacant`,
  `Checked`, `InPlace` are these assertions, and each comes with a lemma that the others leave it
  alone.

The calls that are no uploads and commits need no assertion about files at all. An upload counts on
the slot staying without an object (`stable_vacant`), a commit on the bytes it has read staying
where they are (`stable_checked`), and later on nothing being uploaded where they were
(`stable_inPlace`). **These three are where the condition is used.**

## Cut off

A request can be cut off between any two statements, and it leaves then whatever it has done to the
files, while the transaction is undone. A commit that is cut off after its move has put the bytes
where no row looks for them, and has not lost anybody else's; it is `InPlace` that says so.

## The failing case

`uploadBeneath` is the shortest schedule that breaks the invariant without the condition: a commit
has read its bytes, an upload writes an empty file beneath it, and the commit moves that
(`attachment_bytes_replaced`).
-/

namespace Awiki

open Py Transactions

/-! ### Paths -/

/-- The suffix after the last dot is replaced. -/
theorem withSuffix_dot {stem tail : List Char} {c : Char} (suffix : String) (hc : c ≠ '/')
    (htail : ∀ d ∈ tail, d ≠ '.' ∧ d ≠ '/') (hne : tail ≠ []) :
    withSuffix suffix (String.ofList (stem ++ [c] ++ '.' :: tail)) =
      String.ofList (stem ++ [c]) ++ suffix := by
  have hreverse : (stem ++ [c] ++ '.' :: tail).reverse =
      tail.reverse ++ '.' :: c :: stem.reverse := by simp
  have hkeep : ∀ d ∈ tail.reverse, (d ≠ '.' && d ≠ '/' : Bool) = true := fun d hd ↦ by
    simpa using htail d (List.mem_reverse.mp hd)
  have htake : (tail.reverse ++ '.' :: c :: stem.reverse).takeWhile
      (fun d ↦ d ≠ '.' && d ≠ '/') = tail.reverse := by
    rw [List.takeWhile_append_of_pos hkeep]
    simp
  have hdrop : (tail.reverse ++ '.' :: c :: stem.reverse).dropWhile
      (fun d ↦ d ≠ '.' && d ≠ '/') = '.' :: c :: stem.reverse := by
    rw [List.dropWhile_append_of_pos hkeep]
    simp
  simp only [withSuffix, String.toList_ofList, hreverse, htake, hdrop]
  simp [hne, hc]

/-- A number has a last digit, which is no slash. -/
theorem toDigits_eq_append_ne_slash (n : ℕ) :
    ∃ stem c, Nat.toDigits 10 n = stem ++ [c] ∧ c ≠ '/' := by
  have hdigit : ∀ d < 10, Nat.digitChar d ≠ '/' := by decide
  by_cases hn : n < 10
  · exact ⟨[], _, Nat.toDigits_of_lt_base hn, hdigit n hn⟩
  · exact ⟨_, _, toDigits_eq_append hn, hdigit _ (Nat.mod_lt _ (by omega))⟩

variable (settings : AttachmentSettings)

/-- Where the bytes of object number `n` are after its commit. -/
def finalPath (n : ℕ) : String := withSuffix ".bin" (uploadPath settings (newId "obj" n))

/-- The final path, written out. -/
theorem finalPath_eq (n : ℕ) :
    finalPath settings n = settings.objectDir ++ "/" ++ newId "obj" n ++ ".bin" := by
  obtain ⟨stem, c, hdigits, hc⟩ := toDigits_eq_append_ne_slash n
  have hpath : uploadPath settings (newId "obj" n) =
      String.ofList ((settings.objectDir.toList ++ "/obj_".toList ++ stem) ++ [c] ++
        '.' :: "upload".toList) := by
    rw [← String.toList_inj]
    simp [uploadPath, newId, hdigits]
  rw [finalPath, hpath, withSuffix_dot ".bin" hc (by simp) (by simp), ← String.toList_inj]
  simp [newId, hdigits]

/-- Slots of different numbers upload to different paths. -/
theorem uploadPath_inj {m n : ℕ}
    (h : uploadPath settings (newId "obj" m) = uploadPath settings (newId "obj" n)) : m = n := by
  have hlist := congrArg String.toList h
  simp only [uploadPath, String.toList_append, List.append_assoc, List.append_cancel_left_eq,
    List.append_cancel_right_eq] at hlist
  exact newId_injective "obj" (String.toList_inj.mp hlist)

/-- Nothing is uploaded to a final path. -/
theorem uploadPath_ne_finalPath (m n : ℕ) :
    uploadPath settings (newId "obj" m) ≠ finalPath settings n := by
  intro h
  rw [finalPath_eq] at h
  have hlast := congrArg (fun s ↦ s.toList.reverse.head?) h
  simp [uploadPath] at hlast

/-- Objects of different numbers are at different paths. -/
theorem finalPath_inj {m n : ℕ} (h : finalPath settings m = finalPath settings n) : m = n := by
  rw [finalPath_eq, finalPath_eq] at h
  have hlist := congrArg String.toList h
  simp only [String.toList_append, List.append_assoc, List.append_cancel_left_eq,
    List.append_cancel_right_eq] at hlist
  exact newId_injective "obj" (String.toList_inj.mp hlist)

/-! ### The invariant -/

/-- The slot of number `n`. -/
structure IsSlot (n : ℕ) (slot : AttachmentSlot) : Prop where
  slotId : slot.slotId = newId "slot" n
  objectId : slot.objectId = newId "obj" n
  path : slot.path = uploadPath settings (newId "obj" n)

/-- **The bytes of an object are there**, as long as recorded and with the digest recorded. -/
def Intact (files : Files) (object : AttachmentObject) : Prop :=
  ∃ data, files object.path = some data ∧ data.length = object.size ∧
    settings.sha256Hexdigest data = object.sha256

/-- Nothing is uploaded any more. -/
def SlotStatus.Closed (status : SlotStatus) : Prop := status = .committed ∨ status = .aborted

/-- The object of number `n`: its bytes are intact, there are none to be moved over them, and its
slot takes none. -/
structure IsObject (st : Store) (files : Files) (n : ℕ) (object : AttachmentObject) : Prop where
  objectId : object.objectId = newId "obj" n
  path : object.path = finalPath settings n
  intact : Intact settings files object
  moved : files (uploadPath settings (newId "obj" n)) = none
  closed : ∀ slot ∈ st.attachmentSlots, slot.objectId = newId "obj" n → slot.status.Closed

/-- **The invariant.** -/
structure BytesKept (st : Store) (files : Files) : Prop where
  slots : ∀ slot ∈ st.attachmentSlots, ∃ n < st.issued, IsSlot settings n slot
  objects : ∀ object ∈ st.attachmentObjects, ∃ n < st.issued, IsObject settings st files n object

/-- There is an object of number `n`. -/
def Store.HasObject (st : Store) (n : ℕ) : Prop :=
  ∃ object ∈ st.attachmentObjects, object.objectId = newId "obj" n

variable {settings} {st st' : Store} {files files' : Files} {n : ℕ}

/-- What is done to files that are no object's keeps the invariant. -/
theorem BytesKept.of_files (h : BytesKept settings st files)
    (hfinal : ∀ n, st.HasObject n → files' (finalPath settings n) = files (finalPath settings n))
    (hupload : ∀ n, st.HasObject n → files' (uploadPath settings (newId "obj" n)) = none) :
    BytesKept settings st files' := by
  refine ⟨h.slots, fun object hobject ↦ ?_⟩
  obtain ⟨n, hn, hobject'⟩ := h.objects object hobject
  have hhas : st.HasObject n := ⟨object, hobject, hobject'.objectId⟩
  obtain ⟨data, hdata, hrecorded⟩ := hobject'.intact
  refine ⟨n, hn, hobject'.objectId, hobject'.path, ⟨data, ?_, hrecorded⟩, hupload n hhas,
    hobject'.closed⟩
  rw [hobject'.path] at hdata ⊢
  rw [hfinal n hhas, hdata]

/-- Where there is an object, nothing is left to be moved. -/
theorem BytesKept.moved (h : BytesKept settings st files) (hhas : st.HasObject n) :
    files (uploadPath settings (newId "obj" n)) = none := by
  obtain ⟨object, hobject, hid⟩ := hhas
  obtain ⟨m, -, hobject'⟩ := h.objects object hobject
  obtain rfl : m = n := newId_injective "obj" (hobject'.objectId.symm.trans hid)
  exact hobject'.moved

/-- A slot that takes an upload has no object. -/
theorem BytesKept.not_hasObject (h : BytesKept settings st files) {slot : AttachmentSlot}
    (hslot : slot ∈ st.attachmentSlots) (hid : slot.objectId = newId "obj" n)
    (hopen : ¬ slot.status.Closed) : ¬ st.HasObject n := by
  rintro ⟨object, hobject, hid'⟩
  obtain ⟨m, -, hobject'⟩ := h.objects object hobject
  obtain rfl : m = n := newId_injective "obj" (hobject'.objectId.symm.trans hid')
  exact hopen (hobject'.closed slot hslot hid)

/-- The state a request has written, when it has made no object: no slot of an object is opened
again. -/
structure Updated (settings : AttachmentSettings) (st own : Store) : Prop where
  issued : st.issued ≤ own.issued
  objects : own.attachmentObjects = st.attachmentObjects
  slots : ∀ slot ∈ own.attachmentSlots,
    (∃ n, st.issued ≤ n ∧ n < own.issued ∧ IsSlot settings n slot) ∨
      ∃ slot₀ ∈ st.attachmentSlots, slot.slotId = slot₀.slotId ∧ slot.objectId = slot₀.objectId ∧
        slot.path = slot₀.path ∧ ((∃ n, slot₀.objectId = newId "obj" n ∧ st.HasObject n) →
          slot₀.status.Closed → slot.status.Closed)

/-- Nothing has been written. -/
theorem Updated.refl (st : Store) : Updated settings st st :=
  ⟨le_refl _, rfl, fun slot hslot ↦ .inr ⟨slot, hslot, rfl, rfl, rfl, fun _ ↦ id⟩⟩

/-- There are the same objects as before. -/
theorem Updated.hasObject {own : Store} (h : Updated settings st own) :
    own.HasObject n ↔ st.HasObject n := by
  rw [Store.HasObject, h.objects, Store.HasObject]

/-- One write after the other. -/
theorem Updated.trans {a b c : Store} (hab : Updated settings a b) (hbc : Updated settings b c) :
    Updated settings a c := by
  refine ⟨hab.issued.trans hbc.issued, hbc.objects.trans hab.objects, fun slot hslot ↦ ?_⟩
  rcases hbc.slots slot hslot with ⟨n, hle, hlt, hnew⟩ |
    ⟨slot₁, hslot₁, hid₁, hobj₁, hpath₁, hstays₁⟩
  · exact .inl ⟨n, hab.issued.trans hle, hlt, hnew⟩
  rcases hab.slots slot₁ hslot₁ with ⟨n, hle, hlt, hnew⟩ |
    ⟨slot₀, hslot₀, hid₀, hobj₀, hpath₀, hstays₀⟩
  · exact .inl ⟨n, hle, hlt.trans_le hbc.issued,
      hid₁.trans hnew.slotId, hobj₁.trans hnew.objectId, hpath₁.trans hnew.path⟩
  · refine .inr ⟨slot₀, hslot₀, hid₁.trans hid₀, hobj₁.trans hobj₀, hpath₁.trans hpath₀, ?_⟩
    rintro ⟨n, hid, hhas⟩ hclosed
    exact hstays₁ ⟨n, hobj₀.trans hid, hab.hasObject.mpr hhas⟩ (hstays₀ ⟨n, hid, hhas⟩ hclosed)

/-- **Such a state keeps the invariant.** -/
theorem BytesKept.updated {own : Store} (h : BytesKept settings st files)
    (hown : Updated settings st own) : BytesKept settings own files := by
  refine ⟨fun slot hslot ↦ ?_, fun object hobject ↦ ?_⟩
  · rcases hown.slots slot hslot with ⟨n, -, hlt, hnew⟩ | ⟨slot₀, hslot₀, hid, hobj, hpath, -⟩
    · exact ⟨n, hlt, hnew⟩
    · obtain ⟨n, hn, hslot₀'⟩ := h.slots slot₀ hslot₀
      exact ⟨n, hn.trans_le hown.issued, hid.trans hslot₀'.slotId, hobj.trans hslot₀'.objectId,
        hpath.trans hslot₀'.path⟩
  · rw [hown.objects] at hobject
    obtain ⟨n, hn, hobject'⟩ := h.objects object hobject
    refine ⟨n, hn.trans_le hown.issued, hobject'.objectId, hobject'.path, hobject'.intact,
      hobject'.moved, fun slot hslot hid ↦ ?_⟩
    rcases hown.slots slot hslot with ⟨m, hle, -, hnew⟩ | ⟨slot₀, hslot₀, -, hobj, -, hstays⟩
    · obtain rfl : m = n := newId_injective "obj" (hnew.objectId.symm.trans hid)
      omega
    · have hid₀ : slot₀.objectId = newId "obj" n := hobj.symm.trans hid
      exact hstays ⟨n, hid₀, object, hobject, hobject'.objectId⟩ (hobject'.closed slot₀ hslot₀ hid₀)

/-- A status is set: to one that is closed, or of a slot that has no object. -/
theorem updated_setSlotStatus {slotId : String} {status : SlotStatus}
    (h : status.Closed ∨ ∀ slot ∈ st.attachmentSlots, slot.slotId = slotId →
      ¬ ∃ n, slot.objectId = newId "obj" n ∧ st.HasObject n) :
    Updated settings st (st.setSlotStatus slotId status) := by
  refine ⟨le_refl _, rfl, fun slot hslot ↦ .inr ?_⟩
  obtain ⟨slot₀, hslot₀, rfl⟩ := Table.mem_updateWhere.mp hslot
  refine ⟨slot₀, hslot₀, ?_⟩
  split
  · rename_i hid
    refine ⟨rfl, rfl, rfl, fun hhas _ ↦ ?_⟩
    rcases h with h | h
    · exact h
    · exact absurd hhas (h slot₀ hslot₀ (of_decide_eq_true hid))
  · exact ⟨rfl, rfl, rfl, fun _ ↦ id⟩

/-- A slot is deleted. -/
theorem updated_deleteSlot {slotId : String} : Updated settings st (st.deleteSlot slotId) :=
  ⟨le_refl _, rfl, fun slot hslot ↦
    .inr ⟨slot, (List.mem_filter.mp hslot).1, rfl, rfl, rfl, fun _ ↦ id⟩⟩

/-! ### What the calls do to each other -/

namespace AttachmentCall

/-- The call uploads into the slot. -/
def Uploads : AttachmentCall → String → Prop
  | upload _ slotId _ _, slot => slotId = slot
  | _, _ => False

/-- The call commits the slot. -/
def Commits : AttachmentCall → String → Prop
  | commit req params, slot => bindText req.outside.reprFloat (params.get "slot_id") =
    .ok (some slot)
  | _, _ => False

/-- **An upload and a commit of one slot.** -/
def Conflicts (call call' : AttachmentCall) : Prop :=
  ∃ slot, call.Uploads slot ∧ call'.Commits slot ∨ call.Commits slot ∧ call'.Uploads slot

end AttachmentCall

/-- What a call does to the committed state and the files: final bytes are replaced only where bytes
are uploaded, only an upload of the slot makes those, and only a commit of the slot makes its
object. -/
structure CallEffect (settings : AttachmentSettings) (call : AttachmentCall) (st : Store)
    (files : Files) (st' : Store) (files' : Files) : Prop where
  issued : st.issued ≤ st'.issued
  final : ∀ n, files (uploadPath settings (newId "obj" n)) = none →
    files' (finalPath settings n) = files (finalPath settings n)
  upload : ∀ n, files' (uploadPath settings (newId "obj" n)) =
      files (uploadPath settings (newId "obj" n)) ∨
    files' (uploadPath settings (newId "obj" n)) = none ∨ call.Uploads (newId "slot" n)
  commit : ∀ n, st'.HasObject n → st.HasObject n ∨ call.Commits (newId "slot" n)

/-- Nothing is done. -/
theorem CallEffect.refl {call : AttachmentCall} (st : Store) (files : Files) :
    CallEffect settings call st files st files :=
  ⟨le_refl _, fun _ _ ↦ rfl, fun _ ↦ .inl rfl, fun _ ↦ .inl⟩

/-- To commit a state without a new object is such an effect. -/
theorem Updated.effect {call : AttachmentCall} {own : Store} (h : Updated settings st own) :
    CallEffect settings call st files own files :=
  ⟨h.issued, fun _ _ ↦ rfl, fun _ ↦ .inl rfl, fun _ hhas ↦ .inl (h.hasObject.mp hhas)⟩

/-- What a call counts on. -/
abbrev Others (settings : AttachmentSettings) (call : AttachmentCall) : Effect Store Files :=
  FileWorld.Rely (BytesKept settings) (CallEffect settings) AttachmentCall.Conflicts call

/-- **The obligation of a call** from a statement on. -/
abbrev Keeps (settings : AttachmentSettings) {α : Type} (call : AttachmentCall)
    (p : FileStatements α) (A : Assertion Store Files) : Prop :=
  p.Guarantees (BytesKept settings) (Others settings call) (CallEffect settings call) A

/-- What has been written makes no object. -/
def Harmless (settings : AttachmentSettings) : Assertion Store Files :=
  fun st own _ ↦ Updated settings st (own.getD st)

variable {call : AttachmentCall}

/-- What has been written is not committed, so the others do not see it. -/
theorem stable_harmless : Stable (Others settings call) (Harmless settings) := by
  intro st own files st' files' hA _ hlock
  cases own with
  | none => exact Updated.refl st'
  | some own =>
    rw [hlock rfl]
    exact hA

/-- A call that has made no object may end. -/
theorem keeps_return {α : Type} {a : α} : Keeps settings call (pure a) (Harmless settings) :=
  fun _ _ _ hJ hA ↦ ⟨hJ.updated hA, Updated.effect hA⟩

/-- A look at the tables. -/
theorem keeps_query {α β : Type} {h : Store → α} {k : α → FileStatements β}
    {A : Assertion Store Files} (hstable : Stable (Others settings call) A)
    (hk : ∀ a, Keeps settings call (k a) A) : Keeps settings call (.query h >>= k) A :=
  FileProgram.guarantees_query fun _ _ _ _ hA ↦ ⟨A, hstable, hA, hk _⟩

/-- A write that makes no object. -/
theorem keeps_write {β : Type} {g : Store → Result Store} {k : Unit → FileStatements β}
    (hg : ∀ st own, g st = .ok own → Updated settings st own)
    (hk : Keeps settings call (k ()) (Harmless settings)) :
    Keeps settings call (.write g >>= k) (Harmless settings) :=
  FileProgram.guarantees_write fun _ _ _ _ _ hA hown ↦
    ⟨_, stable_harmless, hA.trans (hg _ _ hown), hk⟩

/-- Bytes that were uploaded are removed. -/
theorem keeps_unlinkIfExists {β : Type} {k : Unit → FileStatements β} {n : ℕ}
    (hk : Keeps settings call (k ()) (Harmless settings)) :
    Keeps settings call (unlinkIfExists (uploadPath settings (newId "obj" n)) >>= k)
      (Harmless settings) := by
  let path := uploadPath settings (newId "obj" n)
  show Keeps settings call ((.inspect fun files ↦ .ok (files path).isSome) >>= fun found ↦
    .onlyIf found (.change (unlink path)) >>= k) (Harmless settings)
  refine FileProgram.guarantees_inspect (G := CallEffect settings call)
    (fun _ _ ↦ CallEffect.refl _ _) fun _ _ _ found _ hA _ ↦ ⟨_, stable_harmless, hA, ?_⟩
  cases found with
  | false => exact hk
  | true =>
    refine FileProgram.guarantees_change fun st own files files' hJ hA hunlink ↦ ?_
    obtain ⟨data, -, hfiles'⟩ := bind_eq_ok.mp hunlink
    obtain rfl := pure_eq_ok.mp hfiles'
    have hfinal : ∀ m, Function.update files (uploadPath settings (newId "obj" n)) none
        (finalPath settings m) = files (finalPath settings m) := fun m ↦
      Function.update_of_ne (uploadPath_ne_finalPath settings n m).symm _ _
    have hupload : ∀ m, Function.update files (uploadPath settings (newId "obj" n)) none
        (uploadPath settings (newId "obj" m)) = files (uploadPath settings (newId "obj" m)) ∨
        Function.update files (uploadPath settings (newId "obj" n)) none
          (uploadPath settings (newId "obj" m)) = none := fun m ↦ by
      by_cases hm : uploadPath settings (newId "obj" m) = uploadPath settings (newId "obj" n)
      · rw [hm]
        exact .inr (Function.update_self ..)
      · exact .inl (Function.update_of_ne hm _ _)
    refine ⟨hJ.of_files (fun m _ ↦ hfinal m) fun m hhas ↦ ?_,
      ⟨le_refl _, fun m _ ↦ hfinal m, fun m ↦ (hupload m).imp_right .inl, fun _ ↦ .inl⟩, _,
      stable_harmless, hA, hk⟩
    exact (hupload m).elim (fun h ↦ h.trans (hJ.moved hhas)) id

/-! ### Every call meets its obligation -/

/-- Nothing has been written. -/
def NoWrite : Assertion Store Files := fun _ own _ ↦ own = none

/-- An obligation that allows earlier writes is met without any. -/
theorem Keeps.of_harmless {α : Type} {p : FileStatements α}
    (h : Keeps settings call p (Harmless settings)) : Keeps settings call p NoWrite :=
  h.of_imp fun st own _ hown ↦ by
    obtain rfl : own = none := hown
    exact Updated.refl st

/-- A new slot is at the paths of its number, and open. -/
theorem isSlot_newSlot {req : AttachmentRequest} {params : Obj} {owner : String}
    {slot : AttachmentSlot} (h : newSlot settings req params owner n = .ok slot) :
    IsSlot settings n slot := by
  simp only [newSlot, bind_eq_ok, pure_eq_ok] at h
  obtain ⟨_, -, _, -, _, -, _, -, rfl⟩ := h
  exact ⟨rfl, rfl, rfl⟩

/-- A slot is inserted under a number nobody else has. -/
theorem Updated.insertSlot {own own' : Store} {slot : AttachmentSlot} (h : Updated settings st own)
    (hle : st.issued ≤ n) (hlt : n < own.issued) (hslot : IsSlot settings n slot)
    (hown' : Awiki.insertSlot slot own = .ok own') : Updated settings st own' := by
  simp only [Awiki.insertSlot, bind_eq_ok, pure_eq_ok, orRaise_eq_ok,
    Table.insert?_eq_some] at hown'
  obtain ⟨-, -, rows, ⟨-, rfl⟩, rfl⟩ := hown'
  refine ⟨h.issued, h.objects, fun slot' hslot' ↦ ?_⟩
  rcases List.mem_append.mp hslot' with hslot' | hslot'
  · exact h.slots slot' hslot'
  · rw [List.mem_singleton.mp hslot']
    exact .inl ⟨n, hle, hlt, hslot⟩

/-- Under the lock nobody else draws a number. -/
def Drawn (settings : AttachmentSettings) (n : ℕ) : Assertion Store Files := fun st own _ ↦
  ∃ own', own = some own' ∧ Updated settings st own' ∧ st.issued ≤ n ∧ own'.issued = n + 1

/-- The number stays its own. -/
theorem stable_drawn : Stable (Others settings call) (Drawn settings n) := by
  rintro st _ files st' files' ⟨own, rfl, hown⟩ _ hlock
  rw [hlock rfl]
  exact ⟨own, rfl, hown⟩

/-- To draw a number takes the write lock. -/
theorem keeps_drawNumber {β : Type} {k : ℕ → FileStatements β}
    (hk : ∀ n, Keeps settings call (k n) (Drawn settings n)) :
    Keeps settings call (drawNumber >>= k) NoWrite := by
  show Keeps settings call (.write (fun st ↦ .ok { st with issued := st.issued + 1 }) >>= fun _ ↦
    .query Store.issued >>= fun issued ↦ k (issued - 1)) NoWrite
  refine FileProgram.guarantees_write fun st own files own' _ hown hown' ↦
    ⟨_, stable_drawn (n := st.issued), ?_, ?_⟩
  · obtain rfl : own = none := hown
    obtain rfl := Except.ok.inj hown'
    exact ⟨_, rfl, ⟨Nat.le_succ _, rfl, fun slot hslot ↦
      .inr ⟨slot, hslot, rfl, rfl, rfl, fun _ ↦ id⟩⟩, le_refl _, rfl⟩
  · refine FileProgram.guarantees_query fun st₁ _ files₁ _ hdrawn ↦ ⟨_, stable_drawn, hdrawn, ?_⟩
    obtain ⟨own₁, rfl, -, -, hissued⟩ := hdrawn
    show Keeps settings call (k (own₁.issued - 1)) _
    rw [hissued]
    exact hk st.issued

/-- `attachment_create_slot` touches no file. -/
theorem keeps_createSlot {req : AttachmentRequest} {params : Obj} :
    Keeps settings call (attachmentCreateSlot settings req params) NoWrite := by
  refine FileProgram.guarantees_ofExcept fun owner _ ↦ FileProgram.guarantees_ofExcept fun _ _ ↦
    keeps_drawNumber fun n ↦ FileProgram.guarantees_ofExcept fun slot hslot ↦ ?_
  refine FileProgram.guarantees_write fun st own files own' _ hdrawn hown' ↦
    ⟨_, stable_harmless, ?_, keeps_return⟩
  obtain ⟨own, rfl, hupdated, hle, hissued⟩ := hdrawn
  exact hupdated.insertSlot hle (by omega) (isSlot_newSlot hslot) hown'

/-- `attachment_abort` removes what was uploaded, and closes the slot. -/
theorem keeps_abort {req : AttachmentRequest} {params : Obj} :
    Keeps settings call (attachmentAbort req params) NoWrite := by
  refine Keeps.of_harmless ?_
  refine FileProgram.guarantees_ofExcept fun owner _ ↦ FileProgram.guarantees_ofExcept fun _ _ ↦
    FileProgram.guarantees_ofExcept fun slotId _ ↦ ?_
  refine FileProgram.guarantees_query fun st own files hJ hA ↦ ⟨_, stable_harmless, hA, ?_⟩
  refine FileProgram.guarantees_ofExcept fun row hrow ↦ ?_
  obtain ⟨n, -, hslot⟩ := (hJ.updated hA).slots row
    (List.mem_of_find?_eq_some (orRaise_eq_ok.mp hrow))
  rw [hslot.path]
  refine keeps_unlinkIfExists (keeps_write (fun st own hown ↦ ?_) keeps_return)
  exact Except.ok.inj hown ▸ updated_setSlotStatus (.inl (.inr rfl))

/-- The loop of the cleanup removes what was uploaded, slot by slot. -/
theorem keeps_removeSlots {β : Type} {k : Unit → FileStatements β} {rows : List AttachmentSlot}
    (hrows : ∀ row ∈ rows, ∃ n, IsSlot settings n row)
    (hk : Keeps settings call (k ()) (Harmless settings)) :
    Keeps settings call (removeSlots rows >>= k) (Harmless settings) := by
  induction rows with
  | nil => exact hk
  | cons row rest ih =>
    obtain ⟨n, hslot⟩ := hrows row List.mem_cons_self
    have hrest := ih fun row hrow ↦ hrows row (List.mem_cons_of_mem _ hrow)
    show Keeps settings call ((unlinkIfExists row.path >>= fun _ ↦
      .write (fun st ↦ .ok (st.deleteSlot row.slotId)) >>= fun _ ↦ removeSlots rest) >>= k)
      (Harmless settings)
    simp only [FileProgram.bind_assoc, hslot.path]
    refine keeps_unlinkIfExists (keeps_write (fun st own hown ↦ ?_) hrest)
    exact Except.ok.inj hown ▸ updated_deleteSlot

/-- The cleanup removes no bytes of an object. -/
theorem keeps_cleanup {now : String} :
    Keeps settings call (cleanupExpiredAttachments now) NoWrite := by
  refine Keeps.of_harmless ?_
  refine FileProgram.guarantees_query fun st own files hJ hA ↦ ⟨_, stable_harmless, hA, ?_⟩
  refine keeps_removeSlots (fun row hrow ↦ ?_) ?_
  · obtain ⟨n, -, hslot⟩ := (hJ.updated hA).slots row (List.mem_filter.mp hrow).1
    exact ⟨n, hslot⟩
  · refine keeps_write (fun st own hown ↦ Except.ok.inj hown ▸ Updated.refl st) ?_
    refine keeps_query stable_harmless fun tickets ↦ keeps_write (fun st own hown ↦ ?_) keeps_return
    obtain rfl := Except.ok.inj hown
    exact ⟨le_refl _, rfl, fun slot hslot ↦ .inr ⟨slot, hslot, rfl, rfl, rfl, fun _ ↦ id⟩⟩

/-- A slot that was open when it was read still has no object, and nothing has been written. -/
def Vacant (slot : AttachmentSlot) (n : ℕ) : Assertion Store Files := fun st own _ ↦
  own = none ∧ (¬ slot.status.Closed → ¬ st.HasObject n)

/-- While an upload runs nobody commits its slot. -/
theorem stable_vacant {slot : AttachmentSlot} (hcall : call.Uploads (newId "slot" n)) :
    Stable (Others settings call) (Vacant slot n) := by
  rintro st own files st' files' ⟨hown, hvacant⟩ ⟨-, -, call', hapart, heffect⟩ -
  refine ⟨hown, fun hopen hhas ↦ ?_⟩
  rcases heffect.commit n hhas with hhas | hcommits
  · exact hvacant hopen hhas
  · exact hapart ⟨_, .inl ⟨hcall, hcommits⟩⟩

/-- `upload_slot` writes where nobody commits. -/
theorem keeps_upload {req : AttachmentRequest} {slotId token : String} {data : List UInt8} :
    Keeps settings (.upload req slotId token data) (uploadSlot settings req slotId token data)
      NoWrite := by
  refine FileProgram.guarantees_query fun st own files hJ hown ↦ ?_
  obtain rfl : own = none := hown
  dsimp only [Option.getD_none]
  -- A slot that is not found raises at the next statement, so nothing is owed.
  cases hfound : st.attachmentSlots.find? fun s ↦
      decide (s.slotId = slotId ∧ s.uploadToken = token) with
  | none => exact ⟨fun _ _ _ ↦ True, fun _ _ _ _ _ _ _ _ ↦ trivial, trivial, trivial⟩
  | some row =>
    have hrow := List.mem_of_find?_eq_some hfound
    have hid : row.slotId = slotId ∧ row.uploadToken = token := by
      simpa using List.find?_some hfound
    obtain ⟨n, -, hslot⟩ := hJ.slots row hrow
    have hcall : AttachmentCall.Uploads (.upload req slotId token data) (newId "slot" n) :=
      hid.1.symm.trans hslot.slotId
    refine ⟨Vacant row n, stable_vacant hcall,
      ⟨rfl, hJ.not_hasObject hrow hslot.objectId⟩, ?_⟩
    refine FileProgram.guarantees_ofExcept fun row' hrow' ↦ ?_
    obtain rfl := Except.ok.inj hrow'
    refine FileProgram.guarantees_ofExcept fun _ hstatus ↦ FileProgram.guarantees_ofExcept fun _ _ ↦
      FileProgram.guarantees_ofExcept fun _ _ ↦ ?_
    -- The status was read once, at the start. That nobody commits this slot in between makes it
    -- count at the write.
    have hopen : ¬ row.status.Closed := by
      rcases (by simpa using require_eq_ok.mp hstatus : row.status = .open ∨ row.status = .uploaded)
        with h | h <;> simp [SlotStatus.Closed, h]
    rw [hslot.path]
    refine FileProgram.guarantees_change fun st₁ own₁ files₁ files' hJ₁ hvacant hwrite ↦ ?_
    obtain rfl := Except.ok.inj hwrite
    -- The write hits the upload path of this slot and no other file.
    have hfinal : ∀ m, Function.update files₁ (uploadPath settings (newId "obj" n)) (some data)
        (finalPath settings m) = files₁ (finalPath settings m) := fun m ↦
      Function.update_of_ne (uploadPath_ne_finalPath settings n m).symm _ _
    have hupload : ∀ m, m ≠ n → Function.update files₁ (uploadPath settings (newId "obj" n))
        (some data) (uploadPath settings (newId "obj" m)) =
          files₁ (uploadPath settings (newId "obj" m)) := fun m hm ↦
      Function.update_of_ne (fun h ↦ hm (uploadPath_inj settings h)) _ _
    refine ⟨hJ₁.of_files (fun m _ ↦ hfinal m) fun m hhas ↦ ?_, ⟨le_refl _, fun m _ ↦ hfinal m,
      fun m ↦ ?_, fun _ ↦ .inl⟩, _, stable_vacant hcall, hvacant, ?_⟩
    · have hm : m ≠ n := by
        rintro rfl
        exact hvacant.2 hopen hhas
      rw [hupload m hm]
      exact hJ₁.moved hhas
    · by_cases hm : m = n
      · subst hm
        exact .inr (.inr hcall)
      · exact .inl (hupload m hm)
    · refine FileProgram.guarantees_write fun st₂ own₂ files₂ own' hJ₂ hvacant₂ hown' ↦
        ⟨_, stable_harmless, ?_, keeps_return⟩
      obtain ⟨rfl, hvacant₂⟩ := hvacant₂
      obtain rfl := Except.ok.inj hown'
      refine updated_setSlotStatus (.inr ?_)
      rintro slot hmem hslotId ⟨m, hobjectId, hhas⟩
      obtain ⟨k, -, hnamed⟩ := hJ₂.slots slot hmem
      obtain rfl : k = m := newId_injective "obj" (hnamed.objectId.symm.trans hobjectId)
      obtain rfl : k = n := newId_injective "slot"
        (hnamed.slotId.symm.trans (hslotId.trans (hid.1.symm.trans hslot.slotId)))
      exact hvacant₂ hopen hhas

/-- Bytes that pass have the length and the digest that are recorded. -/
theorem digest_of_checkUpload {req : AttachmentRequest} {params : Obj} {row : AttachmentSlot}
    {data : List UInt8} {digest contentType : String}
    (h : checkUpload settings req params row data = .ok (digest, contentType)) :
    digest = settings.sha256Hexdigest data := by
  simp only [checkUpload, bind_eq_ok, pure_eq_ok, Prod.mk.injEq] at h
  obtain ⟨_, -, _, -, _, -, _, -, _, -, _, -, hdigest, -⟩ := h
  exact hdigest.symm

/-- A commit with nothing between its statements but its own request. -/
def afterCommit (n : ℕ) (object : AttachmentObject) (st : Store) : Store :=
  { st with attachmentObjects := st.attachmentObjects ++ [object] }.setSlotStatus (newId "slot" n)
    .committed

/-- **A commit keeps the invariant** where the bytes of its object are in place. -/
theorem BytesKept.commit (h : BytesKept settings st files) (hn : n < st.issued)
    {object : AttachmentObject} (hid : object.objectId = newId "obj" n)
    (hpath : object.path = finalPath settings n) (hintact : Intact settings files object)
    (hmoved : files (uploadPath settings (newId "obj" n)) = none) :
    BytesKept settings (afterCommit n object st) files := by
  -- a slot is as before, or it is the one that is committed
  have hslots : ∀ slot ∈ (afterCommit n object st).attachmentSlots, ∃ slot₀ ∈ st.attachmentSlots,
      slot.slotId = slot₀.slotId ∧ slot.objectId = slot₀.objectId ∧ slot.path = slot₀.path ∧
        (slot₀.status.Closed ∨ slot₀.slotId = newId "slot" n → slot.status.Closed) :=
          fun slot hslot ↦ by
    obtain ⟨slot₀, hslot₀, rfl⟩ := Table.mem_updateWhere.mp hslot
    refine ⟨slot₀, hslot₀, ?_⟩
    split
    · exact ⟨rfl, rfl, rfl, fun _ ↦ .inl rfl⟩
    · rename_i hne
      exact ⟨rfl, rfl, rfl, fun hclosed ↦ hclosed.resolve_right (by simpa using hne)⟩
  refine ⟨fun slot hslot ↦ ?_, fun object' hobject' ↦ ?_⟩
  · obtain ⟨slot₀, hslot₀, hid₀, hobj₀, hpath₀, -⟩ := hslots slot hslot
    obtain ⟨m, hm, hnamed⟩ := h.slots slot₀ hslot₀
    exact ⟨m, hm, hid₀.trans hnamed.slotId, hobj₀.trans hnamed.objectId, hpath₀.trans hnamed.path⟩
  · rcases List.mem_append.mp hobject' with hold | hnew
    · obtain ⟨m, hm, hobject⟩ := h.objects object' hold
      refine ⟨m, hm, hobject.objectId, hobject.path, hobject.intact, hobject.moved,
        fun slot hslot hid' ↦ ?_⟩
      obtain ⟨slot₀, hslot₀, -, hobj₀, -, hclosed⟩ := hslots slot hslot
      exact hclosed (.inl (hobject.closed slot₀ hslot₀ (hobj₀.symm.trans hid')))
    · obtain rfl := List.mem_singleton.mp hnew
      refine ⟨n, hn, hid, hpath, hintact, hmoved, fun slot hslot hid' ↦ ?_⟩
      obtain ⟨slot₀, hslot₀, -, hobj₀, -, hclosed⟩ := hslots slot hslot
      obtain ⟨m, -, hnamed⟩ := h.slots slot₀ hslot₀
      obtain rfl : m = n := newId_injective "obj"
        (hnamed.objectId.symm.trans (hobj₀.symm.trans hid'))
      exact hclosed (.inr hnamed.slotId)

/-- Nothing has been written, and there are no other bytes to be moved than those that were read. -/
def Checked (settings : AttachmentSettings) (n : ℕ) (data : Option (List UInt8)) :
    Assertion Store Files := fun st own files ↦
  own = none ∧ n < st.issued ∧ ∀ bytes, data = some bytes →
    files (uploadPath settings (newId "obj" n)) = some bytes ∨
      files (uploadPath settings (newId "obj" n)) = none

/-- While a commit runs nobody uploads into its slot. -/
theorem stable_checked {data : Option (List UInt8)} (hcall : call.Commits (newId "slot" n)) :
    Stable (Others settings call) (Checked settings n data) := by
  rintro st own files st' files' ⟨hown, hn, hdata⟩ ⟨-, -, call', hapart, heffect⟩ -
  refine ⟨hown, hn.trans_le heffect.issued, fun bytes hbytes ↦ ?_⟩
  rcases heffect.upload n with hsame | hgone | huploads
  · rw [hsame]
    exact hdata bytes hbytes
  · exact .inr hgone
  · exact absurd ⟨_, .inr ⟨hcall, huploads⟩⟩ hapart

/-- The bytes are in their final place, and `written` is what the commit has written. -/
def InPlace (settings : AttachmentSettings) (n : ℕ) (data : List UInt8)
    (written : Store → Option Store) : Assertion Store Files := fun st own files ↦
  own = written st ∧ n < st.issued ∧ files (finalPath settings n) = some data ∧
    files (uploadPath settings (newId "obj" n)) = none

/-- Nobody touches them there, since nothing is uploaded that could be moved over them. -/
theorem stable_inPlace {data : List UInt8} {written : Store → Option Store}
    (hwritten : (∀ st, written st = none) ∨ ∀ st, (written st).isSome)
    (hcall : call.Commits (newId "slot" n)) :
    Stable (Others settings call) (InPlace settings n data written) := by
  rintro st own files st' files' ⟨hown, hn, hdata, hmoved⟩ ⟨-, -, call', hapart, heffect⟩ hlock
  refine ⟨?_, hn.trans_le heffect.issued, (heffect.final n hmoved).trans hdata, ?_⟩
  · rcases hwritten with hnone | hsome
    · rw [hown, hnone, hnone]
    · rw [hlock (hown ▸ hsome st), hown]
  · rcases heffect.upload n with hsame | hgone | huploads
    · exact hsame.trans hmoved
    · exact hgone
    · exact absurd ⟨_, .inr ⟨hcall, huploads⟩⟩ hapart

/-- What a move does, when the bytes are those that were read. -/
def afterMove (settings : AttachmentSettings) (n : ℕ) (data : List UInt8) (files : Files) : Files :=
  Function.update (Function.update files (uploadPath settings (newId "obj" n)) none)
    (finalPath settings n) (some data)

/-- The bytes that were checked are moved to their place. -/
theorem of_move {row : AttachmentSlot} (hslot : IsSlot settings n row) {data : List UInt8}
    {own : Option Store} (hA : Checked settings n (some data) st own files)
    (h : move row.path (withSuffix ".bin" row.path) files = .ok files') :
    files (uploadPath settings (newId "obj" n)) = some data ∧
      files' = afterMove settings n data files := by
  rw [hslot.path] at h
  obtain ⟨found, hfound, hfiles'⟩ := bind_eq_ok.mp h
  have hfound := orRaise_eq_ok.mp hfound
  obtain rfl : data = found := by
    rcases hA.2.2 data rfl with hsame | hgone
    · exact Option.some.inj (hsame.symm.trans hfound)
    · exact absurd (hgone.symm.trans hfound) nofun
  exact ⟨hfound, (pure_eq_ok.mp hfiles').symm⟩

/-- A move leaves the other objects alone. -/
theorem finalPath_move {data : List UInt8} {m : ℕ} (hm : m ≠ n) :
    afterMove settings n data files (finalPath settings m) = files (finalPath settings m) := by
  rw [afterMove, Function.update_of_ne (fun h ↦ hm (finalPath_inj settings h)),
    Function.update_of_ne (uploadPath_ne_finalPath settings n m).symm]

/-- Nothing is left where the bytes were. -/
theorem uploadPath_move_self {data : List UInt8} :
    afterMove settings n data files (uploadPath settings (newId "obj" n)) = none := by
  rw [afterMove, Function.update_of_ne (uploadPath_ne_finalPath settings n n), Function.update_self]

/-- A move uploads nothing. -/
theorem uploadPath_move {data : List UInt8} (m : ℕ) :
    afterMove settings n data files (uploadPath settings (newId "obj" m)) = none ∨
      afterMove settings n data files (uploadPath settings (newId "obj" m)) =
        files (uploadPath settings (newId "obj" m)) := by
  by_cases hm : m = n
  · exact .inl (hm ▸ uploadPath_move_self)
  · refine .inr ?_
    rw [afterMove, Function.update_of_ne (uploadPath_ne_finalPath settings m n),
      Function.update_of_ne fun h ↦ hm (uploadPath_inj settings h)]

/-- The object of a commit describes the bytes it has read. -/
theorem of_newObject {req : AttachmentRequest} {params : Obj} {row : AttachmentSlot}
    (hslot : IsSlot settings n row) {data : List UInt8} {digest contentType : String}
    {object : AttachmentObject}
    (h : newObject settings req params row data digest contentType = .ok object) :
    object.objectId = newId "obj" n ∧ object.path = finalPath settings n ∧
      object.size = data.length ∧ object.sha256 = digest := by
  simp only [newObject, bind_eq_ok, pure_eq_ok] at h
  obtain ⟨_, -, rfl⟩ := h
  exact ⟨hslot.objectId, congrArg (withSuffix ".bin") hslot.path, rfl, rfl⟩

/-- `attachment_commit` moves the bytes it has checked. -/
theorem keeps_commit {req : AttachmentRequest} {params : Obj} :
    Keeps settings (.commit req params) (attachmentCommit settings req params) NoWrite := by
  refine FileProgram.guarantees_ofExcept fun owner _ ↦
    FileProgram.guarantees_ofExcept fun binding hbinding ↦ ?_
  obtain ⟨slotId, commitToken⟩ := binding
  refine FileProgram.guarantees_query fun st own files hJ hown ↦ ?_
  obtain rfl : own = none := hown
  dsimp only [Option.getD_none]
  -- A slot that is found is one this server has issued, and the call relies on that from here on.
  cases hfound : st.attachmentSlots.find? fun s ↦
      decide (some s.slotId = slotId ∧ some s.commitToken = commitToken ∧
        some s.ownerDid = owner) with
  | none => exact ⟨fun _ _ _ ↦ True, fun _ _ _ _ _ _ _ _ ↦ trivial, trivial, trivial⟩
  | some row =>
    obtain ⟨n, hn, hslot⟩ := hJ.slots row (List.mem_of_find?_eq_some hfound)
    have hcall : AttachmentCall.Commits (.commit req params) (newId "slot" n) := by
      have hid : some row.slotId = slotId := by
        have hboth := List.find?_some hfound
        simp only [decide_eq_true_eq] at hboth
        exact hboth.1
      simp only [commitBinding, bind_eq_ok, pure_eq_ok, Prod.mk.injEq] at hbinding
      obtain ⟨_, -, _, -, bound, hbound, _, -, rfl, -⟩ := hbinding
      rw [AttachmentCall.Commits, hbound, ← hid, hslot.slotId]
    refine ⟨Checked settings n none, stable_checked hcall, ⟨rfl, hn, fun _ h ↦ nomatch h⟩, ?_⟩
    refine FileProgram.guarantees_ofExcept fun row' hrow' ↦ ?_
    obtain rfl := Except.ok.inj hrow'
    refine FileProgram.guarantees_ofExcept fun _ _ ↦ FileProgram.guarantees_ofExcept fun _ _ ↦ ?_
    refine FileProgram.guarantees_inspect (G := CallEffect settings _) CallEffect.refl
      fun _ _ _ _ _ hA _ ↦ ⟨_, stable_checked hcall, hA, ?_⟩
    refine FileProgram.guarantees_inspect (G := CallEffect settings _) CallEffect.refl
      fun _ _ files₁ data _ hA hread ↦ ⟨Checked settings n (some data), stable_checked hcall,
        ?_, ?_⟩
    · refine ⟨hA.1, hA.2.1, fun bytes hbytes ↦ ?_⟩
      obtain rfl := Option.some.inj hbytes
      exact .inl (hslot.path ▸ orRaise_eq_ok.mp hread)
    -- The bytes were read and checked before they are moved; no upload comes between.
    refine FileProgram.guarantees_ofExcept fun checked hchecked ↦ ?_
    obtain ⟨digest, contentType⟩ := checked
    obtain rfl := digest_of_checkUpload hchecked
    refine FileProgram.guarantees_change fun st₂ own₂ files₂ files₃ hJ₂ hA₂ hmove ↦ ?_
    obtain ⟨hupload, rfl⟩ := of_move hslot hA₂ hmove
    refine ⟨hJ₂.of_files (fun m hhas ↦ finalPath_move fun h ↦ ?_) fun m hhas ↦ ?_,
      ⟨le_refl _, fun m hm ↦ finalPath_move fun h ↦ ?_, fun m ↦ ?_, fun _ ↦ .inl⟩,
      InPlace settings n data fun _ ↦ none, stable_inPlace (.inl fun _ ↦ rfl) hcall,
      ⟨hA₂.1, hA₂.2.1, Function.update_self .., uploadPath_move_self⟩, ?_⟩
    · exact absurd ((hJ₂.moved (h ▸ hhas)).symm.trans hupload) nofun
    · exact (uploadPath_move m).elim id fun h ↦ h.trans (hJ₂.moved hhas)
    · exact absurd ((h ▸ hm).symm.trans hupload) nofun
    · exact (uploadPath_move m).elim (.inr ∘ .inl) .inl
    -- The file is in place. The row of the object and the status of the slot follow in one
    -- transaction.
    refine FileProgram.guarantees_ofExcept fun object hobject ↦ ?_
    obtain ⟨hid, hpath, hsize, hsha⟩ := of_newObject hslot hobject
    refine FileProgram.guarantees_write fun st₄ own₄ files₄ own' _ hA₄ hinsert ↦
      ⟨InPlace settings n data fun st ↦
        some { st with attachmentObjects := st.attachmentObjects ++ [object] },
        stable_inPlace (.inr fun _ ↦ rfl) hcall, ⟨?_, hA₄.2⟩, ?_⟩
    · obtain ⟨rfl, -⟩ := hA₄
      simp only [insertObject, Option.getD_none, bind_eq_ok, pure_eq_ok, orRaise_eq_ok,
        Table.insert?_eq_some] at hinsert
      obtain ⟨rows, ⟨-, rfl⟩, rfl⟩ := hinsert
      rfl
    refine FileProgram.guarantees_write fun st₅ own₅ files₅ own' _ hA₅ hupdate ↦
      ⟨InPlace settings n data fun st ↦ some (afterCommit n object st),
        stable_inPlace (.inr fun _ ↦ rfl) hcall, ⟨?_, hA₅.2⟩, ?_⟩
    · obtain ⟨rfl, -⟩ := hA₅
      obtain rfl := Except.ok.inj hupdate
      rw [hslot.slotId]
      rfl
    rintro st₆ own₆ files₆ hJ₆ ⟨hown₆, hn₆, hdata₆, hmoved₆⟩
    obtain rfl := Option.some.inj hown₆
    refine ⟨hJ₆.commit hn₆ hid hpath ⟨data, hpath ▸ hdata₆, hsize.symm, hsha.symm⟩ hmoved₆,
      ⟨le_refl _, fun _ _ ↦ rfl, fun _ ↦ .inl rfl, fun m hhas ↦ ?_⟩⟩
    obtain ⟨object', hobject', hid'⟩ := hhas
    rcases List.mem_append.mp hobject' with hold | hnew
    · exact .inl ⟨object', hold, hid'⟩
    · obtain rfl := List.mem_singleton.mp hnew
      obtain rfl : n = m := newId_injective "obj" (hid.symm.trans hid')
      exact .inr hcall

/-- **Every call meets its obligation.** -/
theorem prog_keeps (call : AttachmentCall) : Keeps settings call (call.prog settings) NoWrite := by
  cases call with
  | createSlot req params => exact keeps_createSlot
  | upload req slotId token data => exact keeps_upload
  | commit req params => exact keeps_commit
  | abort req params => exact keeps_abort
  | cleanup now => exact keeps_cleanup

/-! ### Every interleaving -/

/-- The server, with the calls it is serving. -/
abbrev AttachmentWorld := FileWorld ℕ AttachmentCall Store Files AwikiError Obj

/-- **Committed bytes stay intact.** In any interleaving of calls about attachments in which no
upload and commit of one slot run together, every object's file has the size and the digest of its
row. -/
theorem attachment_bytes_intact {st : Store} {files : Files} {w : AttachmentWorld}
    (hslots : st.attachmentSlots = []) (hobjects : st.attachmentObjects = [])
    (h : Runs.ReachesWith (FileWorld.Step (AttachmentCall.prog settings))
      (FileWorld.StartsApart AttachmentCall.Conflicts) (FileWorld.idle st files) w) :
    ∀ object ∈ w.committed.attachmentObjects, Intact settings w.files object := by
  have hstart : BytesKept settings st files :=
    ⟨fun slot hslot ↦ absurd (hslots ▸ hslot) List.not_mem_nil,
      fun object hobject ↦ absurd (hobjects ▸ hobject) List.not_mem_nil⟩
  have hkept : BytesKept settings w.committed w.files :=
    FileWorld.rely_guarantee hstart prog_keeps h
  intro object hobject
  obtain ⟨n, -, hobject'⟩ := hkept.objects object hobject
  exact hobject'.intact

/-- Alice opens a slot and uploads the byte `a`. While the commit is served, a second slot of hers
is aborted between its reads, and a cleanup runs between the move of the file and the row of the
object. -/
def commitBeside : List (FileEvent ℕ AttachmentCall) :=
  FileEvent.serve 0 .sampleCreate 4 ++ FileEvent.serve 0 (.sampleUpload 0 [97]) 4 ++
    FileEvent.serve 1 .sampleCreate 4 ++ FileEvent.serve 0 (.sampleCommit 0) 3 ++
    FileEvent.serve 1 (.sampleAbort 1) 6 ++ [.advance 0] ++
    FileEvent.serve 1 (.cleanup "2026-01-01T00:40:00Z") 9 ++ List.replicate 3 (.advance 0)

/-- What the second connection serves neither uploads nor commits. -/
theorem neither_of_start_mem_commitBeside {i : ℕ} {call : AttachmentCall}
    (h : .start i call ∈ commitBeside) (hi : i ≠ 0) (slot : String) :
    ¬ call.Uploads slot ∧ ¬ call.Commits slot := by
  have hcalls : call = .sampleCreate ∨ call = .sampleAbort 1 ∨
      call = .cleanup "2026-01-01T00:40:00Z" := by
    simp only [commitBeside, FileEvent.serve, List.mem_append, List.mem_cons, List.mem_replicate,
      FileEvent.start.injEq, reduceCtorEq, and_false, or_false, List.not_mem_nil, hi,
      false_and, false_or] at h
    tauto
  rcases hcalls with rfl | rfl | rfl <;> exact ⟨id, id⟩

/-- In this schedule no upload and commit of one slot run together. -/
theorem commitBeside_apart (i : ℕ) (call : AttachmentCall) (j : ℕ) (call' : AttachmentCall)
    (hi : .start i call ∈ commitBeside) (hj : .start j call' ∈ commitBeside) (hij : i ≠ j) :
    ¬ call.Conflicts call' := by
  rintro ⟨slot, hconflict⟩
  by_cases h0 : i = 0
  · have hneither := neither_of_start_mem_commitBeside hj (h0 ▸ hij.symm) slot
    exact hconflict.elim (fun h ↦ hneither.2 h.2) fun h ↦ hneither.1 h.2
  · have hneither := neither_of_start_mem_commitBeside hi h0 slot
    exact hconflict.elim (fun h ↦ hneither.1 h.1) fun h ↦ hneither.2 h.1

/-- The bytes of Alice's object are intact at the end, beside all of this. -/
theorem attachment_bytes_intact_beside :
    let w := FileWorld.runAll (AttachmentCall.prog .sample)
      (FileWorld.idle {} fun _ ↦ none) commitBeside
    w.committed.attachmentObjects.length = 1 ∧
      ∀ object ∈ w.committed.attachmentObjects, Intact .sample w.files object :=
  ⟨by decide +kernel, attachment_bytes_intact rfl rfl
    (FileWorld.reachesWith_apart commitBeside commitBeside_apart)⟩

/-- The commit has read the byte `a` when a second upload leaves no bytes at all. -/
def uploadBeneath : List (FileEvent ℕ AttachmentCall) :=
  FileEvent.serve 0 .sampleCreate 4 ++ FileEvent.serve 0 (.sampleUpload 0 [97]) 4 ++
    FileEvent.serve 1 (.sampleCommit 0) 3 ++ FileEvent.serve 2 (.sampleUpload 0 []) 4 ++
    List.replicate 4 (.advance 1)

/-- **An upload beneath a commit**: the object is of one byte, and its file is empty. -/
theorem attachment_bytes_replaced :
    ¬ ∀ (settings : AttachmentSettings) (w : AttachmentWorld),
      Runs.Reaches (FileWorld.Step (AttachmentCall.prog settings))
        (FileWorld.idle {} fun _ ↦ none) w →
      ∀ object ∈ w.committed.attachmentObjects, Intact settings w.files object := by
  intro h
  have hrun := h .sample _ (FileWorld.reachesWith_runAll uploadBeneath
    (Runs.Reaches.refl _) fun _ _ _ _ ↦ trivial)
  have hobject : (FileWorld.runAll (AttachmentCall.prog .sample) (FileWorld.idle {} fun _ ↦ none)
      uploadBeneath).committed.attachmentObjects.any (fun object ↦ decide (object.size = 1 ∧
        (FileWorld.runAll (AttachmentCall.prog .sample) (FileWorld.idle {} fun _ ↦ none)
          uploadBeneath).files object.path = some [])) = true := by
    decide +kernel
  obtain ⟨object, hmem, hbytes⟩ := List.any_eq_true.mp hobject
  obtain ⟨hsize, hfile⟩ := of_decide_eq_true hbytes
  obtain ⟨data, hdata, hlength, -⟩ := hrun object hmem
  obtain rfl := Option.some.inj (hfile.symm.trans hdata)
  rw [hsize] at hlength
  cases hlength

end Awiki
