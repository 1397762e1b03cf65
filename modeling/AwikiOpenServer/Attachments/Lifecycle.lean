import AwikiOpenServer.Attachments.Slots

/-!
# The life of an attachment slot

A slot is opened, takes uploads, and is committed or aborted; one that expires uncommitted is
deleted. Each handler checks for itself what it starts from, and **`attachment_abort` does not**: it
aborts a committed slot, and the next cleanup then deletes it, although the object stays.

What the calls do to a slot is the relation `SlotStep` between its row before and after. Where
nobody aborts a committed slot, every call of every sequence makes such a step, and a committed slot
and its object stay as they are for good.

## Calls in sequence

The calls are served one after the other here (`CallStep`): what two of them do to each other's
files is the subject of `Attachments/Bytes.lean`, and needs a condition of its own. A call that is
refused, or cut off between two statements, is a step too, and leaves the tables as they were.

## The shape of the argument

`CallMoves` says of every slot at once what a call leaves behind: each makes a `SlotStep`, and no
object is lost. It is proved once for each call, by following its statements, from four lemmas about
what a statement does to the tables (`SlotsKept.setSlotStatus`, `SlotsKept.delete`,
`SlotsKept.open`, `SlotsKept.insertObject`). They rest on `SlotsKept`: slots are found by their id,
and a committed slot has its object.

The condition of a run is on the state before an abort (`AbortsNoneCommitted`), since it is the
abort that fails to look. `slots_live_unless_aborted` is about all the runs that meet it;
`slots_aborted_after_commit` is the run that does not.
-/

namespace Awiki

open Py Transactions Runs

/-! ### One call after the other -/

/-- `SELECT * FROM attachment_slots WHERE slot_id = ?`. -/
def Store.slot? (st : Store) (slotId : String) : Option AttachmentSlot :=
  Table.row? AttachmentSlot.slotId slotId st.attachmentSlots

/-- `SELECT * FROM attachment_objects WHERE object_id = ?`. -/
def Store.object? (st : Store) (objectId : String) : Option AttachmentObject :=
  Table.row? AttachmentObject.objectId objectId st.attachmentObjects

/-- A call is served alone: it leaves the database and the files so. -/
def CallStep (settings : AttachmentSettings) (σ : Store × Files) (call : AttachmentCall)
    (σ' : Store × Files) : Prop :=
  ((call.prog settings).run σ.1 σ.2).2 = σ'

/-- The ways of a status. -/
inductive SlotStatus.Moves : SlotStatus → SlotStatus → Prop where
  | stays (status : SlotStatus) : Moves status status
  | upload : Moves .open .uploaded
  | commit : Moves .uploaded .committed
  | abortOpen : Moves .open .aborted
  | abortUploaded : Moves .uploaded .aborted

/-- **What a call may do to a slot**: open it, move its status on and nothing else, or delete it in
a cleanup, when it has expired and is not committed. -/
def SlotStep (call : AttachmentCall) : Option AttachmentSlot → Option AttachmentSlot → Prop
  | none, none => True
  | none, some row => row.status = .open
  | some row, some row' => ∃ status, row.status.Moves status ∧ row' = { row with status := status }
  | some row, none => ∃ now, call = .cleanup now ∧ row.isLeftover now = true

/-- The call aborts the slot, if it gets that far. -/
def AttachmentCall.Aborts : AttachmentCall → AttachmentSlot → Prop
  | abort req params, row =>
    bindText req.outside.reprFloat (params.get "slot_id") = .ok (some row.slotId) ∧
      currentDid req.toRequest true = .ok (some row.ownerDid)
  | _, _ => False

/-- **The condition**: no committed slot is aborted. -/
def AbortsNoneCommitted (σ : Store × Files) (call : AttachmentCall) : Prop :=
  ∀ row ∈ σ.1.attachmentSlots, call.Aborts row → row.status ≠ .committed

/-- A slot is found by its id, and a committed one has its object. -/
structure SlotsKept (st : Store) : Prop where
  keyed : Table.Keyed AttachmentSlot.slotId st.attachmentSlots
  committed : ∀ row ∈ st.attachmentSlots, row.status = .committed → (st.object? row.objectId).isSome

/-- What a call leaves behind. -/
structure CallMoves (call : AttachmentCall) (st st' : Store) : Prop where
  kept : SlotsKept st'
  slots : ∀ k, SlotStep call (st.slot? k) (st'.slot? k)
  objects : st.attachmentObjects <+: st'.attachmentObjects

variable {settings : AttachmentSettings} {call : AttachmentCall} {st st' : Store}

/-- A call may leave a slot alone. -/
theorem SlotStep.refl (row? : Option AttachmentSlot) : SlotStep call row? row? := by
  cases row? with
  | none => trivial
  | some row => exact ⟨row.status, .stays _, rfl⟩

/-- A call may leave everything alone. -/
theorem CallMoves.refl (h : SlotsKept st) : CallMoves call st st :=
  ⟨h, fun _ ↦ SlotStep.refl _, List.prefix_refl _⟩

/-- A status moves on. -/
theorem SlotsKept.setSlotStatus (h : SlotsKept st) {row : AttachmentSlot} {status : SlotStatus}
    (hrow : row ∈ st.attachmentSlots) (hmoves : row.status.Moves status)
    (hobject : status = .committed → (st.object? row.objectId).isSome) :
    CallMoves call st (st.setSlotStatus row.slotId status) := by
  refine ⟨⟨h.keyed.updateWhere fun _ _ ↦ rfl, fun row' hrow' hcommitted ↦ ?_⟩, fun k ↦ ?_,
    List.prefix_refl _⟩
  · obtain ⟨row₀, hrow₀, rfl⟩ := Table.mem_updateWhere.mp hrow'
    split at hcommitted
    · rename_i hid
      obtain rfl : row₀ = row := h.keyed.eq_of_key_eq hrow₀ hrow (of_decide_eq_true hid)
      rw [if_pos hid]
      exact hobject hcommitted
    · rename_i hid
      rw [if_neg hid]
      exact h.committed row₀ hrow₀ hcommitted
  · have hafter : (st.setSlotStatus row.slotId status).slot? k = (st.slot? k).map fun r ↦
        if decide (r.slotId = row.slotId) then { r with status := status } else r :=
      Table.row?_updateWhere fun _ _ ↦ rfl
    rw [hafter]
    cases hfound : st.slot? k with
    | none => trivial
    | some row' =>
      rw [Option.map_some]
      split
      · rename_i hid
        obtain rfl : row' = row :=
          h.keyed.eq_of_key_eq (Table.mem_of_row? hfound) hrow (of_decide_eq_true hid)
        exact ⟨status, hmoves, rfl⟩
      · exact SlotStep.refl (some row')

/-- Slots that are left over are deleted. -/
theorem SlotsKept.delete {now : String} {keep : AttachmentSlot → Bool} (h : SlotsKept st)
    (hkeep : ∀ row ∈ st.attachmentSlots, keep row = false → row.isLeftover now = true)
    (hslots : st'.attachmentSlots = st.attachmentSlots.filter keep)
    (hobjects : st'.attachmentObjects = st.attachmentObjects) :
    CallMoves (.cleanup now) st st' := by
  have hobject : ∀ k, st'.object? k = st.object? k := fun k ↦ by
    rw [Store.object?, hobjects, Store.object?]
  refine ⟨⟨hslots ▸ h.keyed.filter keep, fun row hrow hcommitted ↦ ?_⟩, fun k ↦ ?_,
    hobjects ▸ List.prefix_refl _⟩
  · rw [hobject]
    exact h.committed row (List.mem_filter.mp (hslots ▸ hrow)).1 hcommitted
  · have hafter : st'.slot? k = (st.slot? k).filter keep := by
      rw [Store.slot?, hslots, h.keyed.row?_filter, Store.slot?]
    rw [hafter]
    cases hfound : st.slot? k with
    | none => trivial
    | some row =>
      rw [Option.filter_some]
      split
      · exact SlotStep.refl (some row)
      · rename_i hdropped
        exact ⟨now, rfl, hkeep row (Table.mem_of_row? hfound) (Bool.eq_false_iff.mpr hdropped)⟩

/-- A slot is opened. -/
theorem SlotsKept.open (h : SlotsKept st) {row : AttachmentSlot} (hopen : row.status = .open)
    (hfresh : ∀ row' ∈ st.attachmentSlots, row'.slotId ≠ row.slotId)
    (hslots : st'.attachmentSlots = st.attachmentSlots ++ [row])
    (hobjects : st'.attachmentObjects = st.attachmentObjects) : CallMoves call st st' := by
  have hobject : ∀ k, st'.object? k = st.object? k := fun k ↦ by
    rw [Store.object?, hobjects, Store.object?]
  refine ⟨⟨hslots ▸ h.keyed.append hfresh, fun row' hrow' hcommitted ↦ ?_⟩, fun k ↦ ?_,
    hobjects ▸ List.prefix_refl _⟩
  · rw [hobject]
    rcases List.mem_append.mp (hslots ▸ hrow') with hold | hnew
    · exact h.committed row' hold hcommitted
    · rw [List.mem_singleton.mp hnew, hopen] at hcommitted
      cases hcommitted
  · have hafter : st'.slot? k = (st.slot? k).or (if row.slotId = k then some row else none) := by
      rw [Store.slot?, hslots, Table.row?_append, Store.slot?]
    rw [hafter]
    cases hfound : st.slot? k with
    | some row' => exact SlotStep.refl (some row')
    | none =>
      rw [Option.none_or]
      split
      · exact hopen
      · trivial

/-- An object is added. -/
theorem SlotsKept.insertObject (h : SlotsKept st) {object : AttachmentObject}
    (hok : Awiki.insertObject object st = .ok st') :
    SlotsKept st' ∧ st'.attachmentSlots = st.attachmentSlots ∧
      st.attachmentObjects <+: st'.attachmentObjects ∧ (st'.object? object.objectId).isSome := by
  simp only [Awiki.insertObject, bind_eq_ok, pure_eq_ok, orRaise_eq_ok,
    Table.insert?_eq_some] at hok
  obtain ⟨rows, ⟨-, rfl⟩, rfl⟩ := hok
  have hprefix : st.attachmentObjects <+: st.attachmentObjects ++ [object] := List.prefix_append _ _
  refine ⟨⟨h.keyed, fun row hrow hcommitted ↦ ?_⟩, rfl, hprefix,
    Table.row?_isSome_of_mem (List.mem_append_right _ (List.mem_singleton_self object))⟩
  obtain ⟨found, hfound⟩ := Option.isSome_iff_exists.mp (h.committed row hrow hcommitted)
  exact Option.isSome_iff_exists.mpr ⟨found, Table.row?_of_prefix hprefix hfound⟩

/-! ### Each call -/

/-- Removing a file changes no table. -/
theorem leaves_unlinkIfExists {α : Type} {Q : Store → Prop} {path : String}
    {k : Unit → FileStatements α} (h : (k ()).Leaves Q st) :
    (unlinkIfExists path >>= k).Leaves Q st := by
  rw [unlinkIfExists, FileProgram.bind_assoc]
  exact FileProgram.leaves_bind_inspect fun _ _ _ ↦ FileProgram.leaves_bind_onlyIf
    (FileProgram.leaves_bind_change h) h

/-- `attachment_create_slot` opens a slot. -/
theorem createSlot_moves (h : SlotsKept st) {req : AttachmentRequest} {params : Obj} :
    (attachmentCreateSlot settings req params).Leaves (CallMoves call st) st := by
  refine FileProgram.leaves_bind_ofExcept fun owner _ ↦
    FileProgram.leaves_bind_ofExcept fun _ _ ↦ ?_
  rintro st₁ hdrawn
  obtain rfl := Except.ok.inj hdrawn
  refine FileProgram.leaves_bind_ofExcept fun slot hslot ↦ ?_
  intro st₂ hinsert
  simp only [insertSlot, bind_eq_ok, pure_eq_ok, orRaise_eq_ok, Table.insert?_eq_some] at hinsert
  obtain ⟨-, -, rows, ⟨hfresh, rfl⟩, rfl⟩ := hinsert
  simp only [newSlot, bind_eq_ok, pure_eq_ok] at hslot
  obtain ⟨_, -, _, -, _, -, _, -, rfl⟩ := hslot
  exact h.open rfl hfresh rfl rfl

/-- `upload_slot` moves an open slot on. -/
theorem upload_moves (h : SlotsKept st) {req : AttachmentRequest} {slotId token : String}
    {data : List UInt8} :
    (uploadSlot settings req slotId token data).Leaves (CallMoves call st) st := by
  refine FileProgram.leaves_bind_query.mpr (FileProgram.leaves_bind_ofExcept fun row hrow ↦
    FileProgram.leaves_bind_ofExcept fun _ hstatus ↦ FileProgram.leaves_bind_ofExcept fun _ _ ↦
    FileProgram.leaves_bind_ofExcept fun _ _ ↦ FileProgram.leaves_bind_change ?_)
  intro st' hset
  obtain rfl := Except.ok.inj hset
  have hfound := orRaise_eq_ok.mp hrow
  obtain ⟨rfl, -⟩ : row.slotId = slotId ∧ row.uploadToken = token := by
    simpa using List.find?_some hfound
  refine h.setSlotStatus (List.mem_of_find?_eq_some hfound) ?_ nofun
  rcases (by simpa using require_eq_ok.mp hstatus : row.status = .open ∨ row.status = .uploaded)
    with hopen | huploaded
  · exact hopen ▸ .upload
  · exact huploaded ▸ .stays _

/-- `attachment_commit` moves a slot on, and adds its object. -/
theorem commit_moves (h : SlotsKept st) {req : AttachmentRequest} {params : Obj} :
    (attachmentCommit settings req params).Leaves (CallMoves call st) st := by
  refine FileProgram.leaves_bind_ofExcept fun owner _ ↦ FileProgram.leaves_bind_ofExcept
    fun binding _ ↦ FileProgram.leaves_bind_query.mpr (FileProgram.leaves_bind_ofExcept
      fun row hrow ↦
    FileProgram.leaves_bind_ofExcept fun _ hstatus ↦ FileProgram.leaves_bind_ofExcept fun _ _ ↦
    FileProgram.leaves_bind_inspect fun _ _ _ ↦ FileProgram.leaves_bind_inspect fun _ data _ ↦
    FileProgram.leaves_bind_ofExcept fun checked _ ↦ FileProgram.leaves_bind_change
    (FileProgram.leaves_bind_ofExcept fun object hobject ↦ ?_))
  intro st₁ hinsert st₂ hset
  obtain rfl := Except.ok.inj hset
  obtain ⟨hkept, hslots, hobjects, hfound⟩ := h.insertObject hinsert
  have huploaded : row.status = .uploaded := by simpa using require_eq_ok.mp hstatus
  have hid : object.objectId = row.objectId := by
    simp only [newObject, bind_eq_ok, pure_eq_ok] at hobject
    obtain ⟨_, -, rfl⟩ := hobject
    rfl
  have hmoves : CallMoves call st₁ (st₁.setSlotStatus row.slotId .committed) :=
    hkept.setSlotStatus (hslots ▸ List.mem_of_find?_eq_some (orRaise_eq_ok.mp hrow))
      (huploaded ▸ .commit) fun _ ↦ hid ▸ hfound
  refine ⟨hmoves.kept, fun k ↦ ?_, hobjects.trans hmoves.objects⟩
  have hbefore : st.slot? k = st₁.slot? k := by rw [Store.slot?, ← hslots, Store.slot?]
  exact hbefore ▸ hmoves.slots k

/-- `attachment_abort` moves a slot on that is not committed. -/
theorem abort_moves (h : SlotsKept st) {req : AttachmentRequest} {params : Obj} {files : Files}
    (hnot : AbortsNoneCommitted (st, files) (.abort req params)) :
    (attachmentAbort req params).Leaves (CallMoves call st) st := by
  refine FileProgram.leaves_bind_ofExcept fun owner howner ↦ FileProgram.leaves_bind_ofExcept
    fun _ _ ↦ FileProgram.leaves_bind_ofExcept fun slotId hslotId ↦
      FileProgram.leaves_bind_query.mpr
    (FileProgram.leaves_bind_ofExcept fun row hrow ↦ leaves_unlinkIfExists ?_)
  intro st' hset
  obtain rfl := Except.ok.inj hset
  have hfound := orRaise_eq_ok.mp hrow
  have hmem := List.mem_of_find?_eq_some hfound
  obtain ⟨hid, hown⟩ : some row.slotId = slotId ∧ some row.ownerDid = owner := by
    simpa using List.find?_some hfound
  have hstatus : row.status ≠ .committed :=
    hnot row hmem ⟨hslotId.trans (congrArg Except.ok hid.symm),
      howner.trans (congrArg Except.ok hown.symm)⟩
  refine h.setSlotStatus hmem ?_ nofun
  cases hs : row.status with
  | «open» => exact .abortOpen
  | uploaded => exact .abortUploaded
  | committed => exact absurd hs hstatus
  | aborted => exact .stays _

/-- The loop deletes the slots it is given. -/
theorem leaves_removeSlots {α : Type} {Q : Store → Prop} {k : Unit → FileStatements α}
    {rows : List AttachmentSlot}
    (h : (k ()).Leaves Q { st with
      attachmentSlots := st.attachmentSlots.filter fun s ↦
        (rows.all fun row ↦ !decide (s.slotId = row.slotId)) }) :
    (removeSlots rows >>= k).Leaves Q st := by
  induction rows generalizing st with
  | nil =>
    show (k ()).Leaves Q st
    simpa using h
  | cons row rest ih =>
    show ((unlinkIfExists row.path >>= fun _ ↦ .write (fun st ↦ .ok (st.deleteSlot row.slotId)) >>=
      fun _ ↦ removeSlots rest) >>= k).Leaves Q st
    simp only [FileProgram.bind_assoc]
    refine leaves_unlinkIfExists ?_
    intro st' hdelete
    obtain rfl := Except.ok.inj hdelete
    refine ih ?_
    simpa [Store.deleteSlot, List.filter_filter, Bool.and_comm] using h

/-- The cleanup deletes slots that are left over. -/
theorem cleanup_moves (h : SlotsKept st) {now : String} :
    (cleanupExpiredAttachments now).Leaves (CallMoves (.cleanup now) st) st := by
  refine FileProgram.leaves_bind_query.mpr (leaves_removeSlots ?_)
  rintro _ ⟨⟩
  refine FileProgram.leaves_bind_query.mpr ?_
  rintro _ ⟨⟩
  refine h.delete (fun row hrow hdropped ↦ ?_) rfl rfl
  -- a slot with the id of one that is left over is that one
  obtain ⟨row', hmem, hleftover, hid⟩ : ∃ row' ∈ st.attachmentSlots,
      row'.isLeftover now = true ∧ row.slotId = row'.slotId := by simpa using hdropped
  exact h.keyed.eq_of_key_eq hrow hmem hid ▸ hleftover

/-! ### Every sequence of calls -/

/-- **What one call does**, when it aborts no committed slot. -/
theorem CallStep.moves {σ σ' : Store × Files} (h : CallStep settings σ call σ')
    (hkept : SlotsKept σ.1) (hnot : AbortsNoneCommitted σ call) : CallMoves call σ.1 σ'.1 := by
  obtain rfl := h
  have hleaves : (call.prog settings).Leaves (CallMoves call σ.1) σ.1 := by
    cases call with
    | createSlot req params => exact createSlot_moves hkept
    | upload req slotId token data => exact upload_moves hkept
    | commit req params => exact commit_moves hkept
    | abort req params => exact abort_moves hkept hnot
    | cleanup now => exact cleanup_moves hkept
  have hrun : ((call.prog settings).run σ.1 σ.2).2.1 = σ.1 ∨
      CallMoves call σ.1 ((call.prog settings).run σ.1 σ.2).2.1 := hleaves.runFrom σ.2
  rcases hrun with hrollback | hmoves
  · rw [hrollback]
    exact CallMoves.refl hkept
  · exact hmoves

/-- A committed slot and its object stay. -/
theorem CallMoves.committed_stays (h : CallMoves call st st') {k : String} {row : AttachmentSlot}
    {object : AttachmentObject} (hrow : st.slot? k = some row)
    (hcommitted : row.status = .committed) (hobject : st.object? row.objectId = some object) :
    st'.slot? k = some row ∧ st'.object? row.objectId = some object := by
  refine ⟨?_, Table.row?_of_prefix h.objects hobject⟩
  have hstep := h.slots k
  rw [hrow] at hstep
  cases hafter : st'.slot? k with
  | none =>
    rw [hafter] at hstep
    obtain ⟨now, -, hleftover⟩ := hstep
    simp [AttachmentSlot.isLeftover, hcommitted] at hleftover
  | some row' =>
    rw [hafter] at hstep
    obtain ⟨status, hmoves, rfl⟩ := hstep
    rw [hcommitted] at hmoves
    cases hmoves
    rw [← hcommitted]

/-- **The life cycle**, in every sequence of calls that meet `C`: each call makes a step of each
slot, and a committed slot and its object stay as they are. -/
def SlotLifeCycle (settings : AttachmentSettings) (C : Store × Files → AttachmentCall → Prop) :
    Prop :=
  ∀ σ₀ σ : Store × Files, σ₀.1.attachmentSlots = [] → ReachesWith (CallStep settings) C σ₀ σ →
    (∀ call σ', C σ call → CallStep settings σ call σ' →
      ∀ k, SlotStep call (σ.1.slot? k) (σ'.1.slot? k)) ∧
    ∀ σ', ReachesWith (CallStep settings) C σ σ' →
      ∀ k row, σ.1.slot? k = some row → row.status = .committed →
        ∃ object, σ.1.object? row.objectId = some object ∧ σ'.1.slot? k = some row ∧
          σ'.1.object? row.objectId = some object

/-- **Slots live so where no committed slot is aborted.** -/
theorem slots_live_unless_aborted (settings : AttachmentSettings) :
    SlotLifeCycle settings AbortsNoneCommitted := by
  intro σ₀ σ hnone h
  have hstart : SlotsKept σ₀.1 := by
    refine ⟨?_, fun row hrow ↦ absurd (hnone ▸ hrow) List.not_mem_nil⟩
    rw [hnone]
    exact List.nodup_nil
  have hkept : SlotsKept σ.1 :=
    h.invariant hstart fun hi hnot hstep ↦ (CallStep.moves hstep hi hnot).kept
  refine ⟨fun call σ' hnot hstep k ↦ (hstep.moves hkept hnot).slots k,
    fun σ' hlater k row hrow hcommitted ↦ ?_⟩
  obtain ⟨object, hobject⟩ := Option.isSome_iff_exists.mp
    (hkept.committed row (Table.mem_of_row? hrow) hcommitted)
  refine ⟨object, hobject, ?_⟩
  have hboth : SlotsKept σ'.1 ∧ σ'.1.slot? k = some row ∧
      σ'.1.object? row.objectId = some object :=
    hlater.invariant (I := fun σ ↦ SlotsKept σ.1 ∧ σ.1.slot? k = some row ∧
        σ.1.object? row.objectId = some object)
      ⟨hkept, hrow, hobject⟩ fun hi hnot hstep ↦
        have hmoves := CallStep.moves hstep hi.1 hnot
        ⟨hmoves.kept, hmoves.committed_stays hi.2.1 hcommitted hi.2.2⟩
  exact hboth.2

/-- The database and the files after the calls. -/
def afterCalls (settings : AttachmentSettings) (calls : List AttachmentCall) : Store × Files :=
  calls.foldl (fun σ call ↦ ((call.prog settings).run σ.1 σ.2).2) ({}, fun _ ↦ none)

/-- Calls that meet the condition whatever the state is make a run. -/
theorem reaches_afterCalls {C : Store × Files → AttachmentCall → Prop} (calls : List AttachmentCall)
    (h : ∀ call ∈ calls, ∀ σ, C σ call) :
    ReachesWith (CallStep settings) C ({}, fun _ ↦ none) (afterCalls settings calls) := by
  refine List.foldlRecOn (motive := fun σ : Store × Files ↦
    ReachesWith (CallStep settings) C ({}, fun _ ↦ none) σ)
    calls _ (ReachesWith.refl _) fun σ hσ call hcall ↦ hσ.tail (l := call) (h call hcall σ) rfl

/-- Alice's slot, committed, -/
def committedSlot : Store × Files :=
  afterCalls .sample [.sampleCreate, .sampleUpload 0 [97], .sampleCommit 0]

/-- and then aborted. -/
def abortedSlot : Store × Files :=
  (((AttachmentCall.sampleAbort 0).prog .sample).run committedSlot.1 committedSlot.2).2

/-- **A committed slot is aborted** by a call of its owner. -/
theorem slots_aborted_after_commit :
    ¬ ∀ settings, SlotLifeCycle settings fun _ _ ↦ True := by
  intro h
  have hcommitted : (committedSlot.1.slot? "slot_0").any (fun row ↦
      decide (row.status = .committed)) = true := by
    decide +kernel
  have haborted : (abortedSlot.1.slot? "slot_0").all (fun row ↦
      decide (row.status = .aborted)) = true := by
    decide +kernel
  obtain ⟨row, hrow, hstatus⟩ := (Option.any_eq_true ..).mp hcommitted
  obtain ⟨-, hstays⟩ := h .sample _ committedSlot rfl
    (reaches_afterCalls _ fun _ _ _ ↦ trivial)
  have hstep : ReachesWith (CallStep .sample) (fun _ _ ↦ True) committedSlot abortedSlot :=
    (ReachesWith.refl _).tail (l := .sampleAbort 0) trivial rfl
  obtain ⟨object, -, hafter, -⟩ := hstays abortedSlot hstep "slot_0" row hrow
    (of_decide_eq_true hstatus)
  rw [hafter] at haborted
  have hboth : row.status = .committed ∧ row.status = .aborted :=
    ⟨of_decide_eq_true hstatus, of_decide_eq_true haborted⟩
  exact absurd (hboth.1.symm.trans hboth.2) nofun

/-- Alice has opened a second slot, -/
def secondSlot : Store × Files :=
  afterCalls .sample [.sampleCreate, .sampleUpload 0 [97], .sampleCommit 0, .sampleCreate]

/-- aborts it, -/
def secondAborted : Store × Files :=
  (((AttachmentCall.sampleAbort 1).prog .sample).run secondSlot.1 secondSlot.2).2

/-- and it is cleaned up, half an hour later. -/
def secondDeleted : Store × Files :=
  (((AttachmentCall.cleanup "2026-01-01T00:40:00Z").prog .sample).run
    secondAborted.1 secondAborted.2).2

/-- The second slot is opened in such a run. -/
theorem reaches_secondSlot :
    ReachesWith (CallStep .sample) AbortsNoneCommitted ({}, fun _ ↦ none) secondSlot := by
  refine reaches_afterCalls _ fun call hcall σ row _ haborts ↦ ?_
  simp only [List.mem_cons, List.not_mem_nil, or_false] at hcall
  rcases hcall with rfl | rfl | rfl | rfl <;> exact haborts.elim

/-- It is aborted and cleaned up in such a run: it was never committed. -/
theorem reaches_secondDeleted :
    ReachesWith (CallStep .sample) AbortsNoneCommitted secondSlot secondDeleted := by
  have hopen : ∀ row ∈ secondSlot.1.attachmentSlots,
      row.slotId = newId "slot" 1 → row.status ≠ .committed := by
    decide +kernel
  have hapart : AbortsNoneCommitted secondSlot (.sampleAbort 1) := by
    rintro row hrow ⟨hid, -⟩
    exact hopen row hrow (Option.some.inj (Except.ok.inj hid)).symm
  exact ((ReachesWith.refl _).tail (l := .sampleAbort 1) hapart rfl).tail
    (l := .cleanup "2026-01-01T00:40:00Z") (fun _ _ haborts ↦ haborts.elim) rfl

/-- Through both the first slot stays committed, and its object stays. -/
theorem slots_live_unless_aborted_beside :
    secondDeleted.1.slot? "slot_1" = none ∧ ∃ row object,
      secondSlot.1.slot? "slot_0" = some row ∧ row.status = .committed ∧
      secondSlot.1.object? row.objectId = some object ∧
      secondDeleted.1.slot? "slot_0" = some row ∧
      secondDeleted.1.object? row.objectId = some object := by
  have hcommitted : (secondSlot.1.slot? "slot_0").any (fun row ↦
      decide (row.status = .committed)) = true := by
    decide +kernel
  obtain ⟨row, hrow, hstatus⟩ := (Option.any_eq_true ..).mp hcommitted
  have hstatus := of_decide_eq_true hstatus
  obtain ⟨object, hobject, hrow', hobject'⟩ := (slots_live_unless_aborted .sample _ _ rfl
    reaches_secondSlot).2 _ reaches_secondDeleted "slot_0" row hrow hstatus
  exact ⟨by decide +kernel, row, object, hrow, hstatus, hobject, hrow', hobject'⟩

end Awiki
