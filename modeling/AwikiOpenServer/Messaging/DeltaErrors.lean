import AwikiOpenServer.Messaging.SyncLog
import AwikiOpenServer.Messaging.SyncDelta

/-!
# What `sync.delta` is not refused with

`sync_delta_v2` answers `sync.retained_log_incomplete` in one place: when a number is missing among
the scanned rows and the client has not negotiated snapshots. The rows after a cursor of a gapless
log are numbered consecutively, so the place is never reached; and nothing else the handler calls
raises that error (`Quiet`), which is checked function by function. Only the canonical encoding and
the digest are not the server's own, so they are asked not to raise it either.

## Why function by function

An error of a handler is a value here, with its message and data, and the result is about one
message. That the message is written in one place of the source does not settle it: the handler
calls some thirty functions, directly or not, and an error of any of them becomes its own. `Quiet x`
says that `x` does not end with this error. It goes through `bind`, `require` and the other ways of
putting computations together, so the lemma about a function follows the function's body and uses
the lemmas about what it calls; each is a few lines, and **one that a change of the source breaks
names the function that has changed**.

The scan itself does not raise the error either: it reports a missing number as its result, and the
page turns that into a snapshot or into the error. So `deltaPage_quiet` is the one place that needs
the log to be gapless, through `scanRows_ne_gap`.

## Logs without gaps

`Gapless` is the invariant of the log, kept by all of its writers (`Messaging/SyncLog.lean`). What
is derived from it here is the form a reader needs: the rows of an owner after a number are the log
without its first so many (`GaplessFor.logAfter_eq`), and a page of them carries on the numbers from
the cursor (`GaplessFor.take_numbers`).
-/

namespace Awiki

open Py

/-! ### The rows after a cursor -/

/-- In a list numbered from `start + 1` on, the elements after a number are a tail. -/
theorem filter_lt_eq_drop {α : Type*} {f : α → ℕ} {l : List α} {start : ℕ} (k : ℕ)
    (h : l.map f = List.range' (start + 1) l.length) :
    l.filter (fun a ↦ decide (start + k < f a)) = l.drop k := by
  induction l generalizing start k with
  | nil => simp
  | cons a rest ih =>
    have hall : ∀ b ∈ a :: rest, start < f b := fun b hb ↦ by
      have hmem := List.mem_map_of_mem (f := f) hb
      rw [h, List.mem_range'_1] at hmem
      omega
    rw [List.map_cons, List.length_cons, List.range'_succ, List.cons.injEq] at h
    cases k with
    | zero => exact List.filter_eq_self.mpr fun b hb ↦ by simpa using hall b hb
    | succ k =>
      rw [List.filter_cons_of_neg (by simp [h.1]), List.drop_succ_cons, ← ih k h.2]
      refine List.filter_congr fun b _ ↦ ?_
      rw [Nat.add_assoc start 1 k, Nat.add_comm 1 k]

/-- The rows of an owner after a number. -/
def logAfter (log : List SyncEvent) (owner : String) (after : ℕ) : List SyncEvent :=
  log.filter fun e ↦ decide (e.ownerDid = owner ∧ after < e.eventSeq)

/-- In a gapless log they are all but the first so many. -/
theorem GaplessFor.logAfter_eq {log : List SyncEvent} {owner : String} (h : GaplessFor log owner)
    (after : ℕ) : logAfter log owner after = (ownLog log owner).drop after := by
  have hnumbers : (ownLog log owner).map SyncEvent.eventSeq =
      List.range' (0 + 1) (ownLog log owner).length := by
    simpa [GaplessFor, logNumbers] using h
  rw [← filter_lt_eq_drop after hnumbers, ownLog, List.filter_filter, logAfter]
  refine List.filter_congr fun e _ ↦ ?_
  simp [Bool.and_comm]

/-- The page of a gapless log after a number. -/
theorem GaplessFor.eventsAfter_eq {st : Store} {owner : String}
    (h : GaplessFor st.syncEvents owner) (after limit : ℕ) :
    eventsAfter st owner after limit = (logAfter st.syncEvents owner after).take limit := by
  have hsorted : (logAfter st.syncEvents owner after).Pairwise
      fun a b ↦ a.eventSeq ≤ b.eventSeq := by
    refine List.pairwise_map.mp ?_
    rw [h.logAfter_eq, List.map_drop]
    refine List.Pairwise.drop ?_
    rw [show (ownLog st.syncEvents owner).map SyncEvent.eventSeq = _ from h]
    exact List.pairwise_le_range'
  exact congrArg (List.take limit) hsorted.insertionSort_eq

/-- **A page of a gapless log is numbered consecutively** from the cursor on. -/
theorem GaplessFor.take_numbers {log : List SyncEvent} {owner : String} (h : GaplessFor log owner)
    (after limit : ℕ) :
    ((logAfter log owner after).take limit).map SyncEvent.eventSeq =
      List.range' (after + 1) ((logAfter log owner after).take limit).length := by
  rw [h.logAfter_eq, List.map_take, List.map_drop,
    show (ownLog log owner).map SyncEvent.eventSeq = _ from h, List.drop_range', logNumbers,
    List.length_map, List.length_take, List.length_drop, Nat.mul_one, Nat.add_comm 1]
  rcases le_total ((ownLog log owner).length - after) limit with hle | hle
  · rw [List.take_range'_of_length_le hle, min_eq_right hle]
  · rw [List.take_range'_of_length_ge hle, min_eq_left hle]

/-- The scan of consecutive rows finds every number. -/
theorem scanRows_ne_gap {req : DeviceRequest} {s : SyncSubject} {epoch : String} {expected : ℕ}
    {rows : List SyncEvent} {st st' : Store}
    (hrows : rows.map SyncEvent.eventSeq = List.range' expected rows.length) :
    scanRows req s epoch expected rows st ≠ .ok (.gap, st') := by
  induction rows generalizing expected st st' with
  | nil => simp [scanRows]
  | cons row rest ih =>
    rw [List.map_cons, List.length_cons, List.range'_succ, List.cons.injEq] at hrows
    intro h
    rw [scanRows, if_neg (not_not.mpr hrows.1)] at h
    obtain ⟨⟨event, st₁⟩, -, h⟩ := bind_eq_ok.mp h
    obtain ⟨visible, -, h⟩ := bind_eq_ok.mp h
    obtain ⟨⟨scan, st₂⟩, hscan, h⟩ := bind_eq_ok.mp h
    cases scan with
    | gap => exact ih hrows.2 hscan
    | events events => cases pure_eq_ok.mp h

/-! ### Errors that are not about the log -/

/-- The error of a log with a missing number. -/
def LogIncomplete (e : AwikiError) : Prop := e.message = "sync.retained_log_incomplete"

/-- The computation does not raise it. -/
@[reducible] def Quiet {α : Type} (x : Result α) : Prop := RaisesOnly (fun e ↦ ¬ LogIncomplete e) x

section Messages

variable {message : String} {data : Obj} {code : ℤ}

/-- What decides is the message of an error, whatever its kind. -/
@[simp] theorem logIncomplete_type :
    LogIncomplete (.type message) ↔ message = "sync.retained_log_incomplete" := Iff.rfl

/-- Likewise, a `KeyError`. -/
@[simp] theorem logIncomplete_key :
    LogIncomplete (.key message) ↔ message = "sync.retained_log_incomplete" := Iff.rfl

/-- Likewise, a `ValueError`. -/
@[simp] theorem logIncomplete_value :
    LogIncomplete (.value message) ↔ message = "sync.retained_log_incomplete" := Iff.rfl

/-- Likewise, an `IntegrityError`. -/
@[simp] theorem logIncomplete_integrity :
    LogIncomplete (.integrity message) ↔ message = "sync.retained_log_incomplete" := Iff.rfl

/-- Likewise, a refusal of the parameters. -/
@[simp] theorem logIncomplete_invalidParams :
    LogIncomplete (.invalidParams message data) ↔ message = "sync.retained_log_incomplete" :=
  Iff.rfl

/-- Likewise, one of the caller. -/
@[simp] theorem logIncomplete_unauthorized :
    LogIncomplete (.unauthorized message data) ↔ message = "sync.retained_log_incomplete" := Iff.rfl

/-- Likewise, one of the method. -/
@[simp] theorem logIncomplete_notSupported :
    LogIncomplete (.notSupported message data) ↔ message = "sync.retained_log_incomplete" := Iff.rfl

/-- Likewise, one of the sync protocol. -/
@[simp] theorem logIncomplete_syncProtocol :
    LogIncomplete (.syncProtocol message code data) ↔ message = "sync.retained_log_incomplete" :=
  Iff.rfl

end Messages

/-! ### Rendering rows -/

/-- Drawing a reference fails when a reference is taken already. -/
theorem conversationRef_quiet (outside : Outside) (st : Store) (owner peer : String) :
    Quiet (conversationRef outside st owner peer) := by
  unfold conversationRef
  dsimp only
  split <;> simp

/-- SQLite refuses what it cannot store, and says something else. -/
theorem bindText_quiet (reprFloat : PyFloat → String) (v : Json) :
    Quiet (bindText reprFloat v) := by
  unfold bindText
  split
  case h_4 n =>
    refine raisesOnly_map.mpr ?_
    unfold bindInt
    split <;> simp
  all_goals simp

/-- It refuses `NULL` where a column takes none. -/
theorem bindTextNotNull_quiet (reprFloat : PyFloat → String) (v : Json) :
    Quiet (bindTextNotNull reprFloat v) := by
  simp [bindTextNotNull, bindText_quiet]

/-- The events of direct messages. -/
theorem messageBranch_quiet (outside : Outside) (st : Store) (row : SyncEvent) (owner : String) :
    Quiet (messageBranch outside st row owner) := by
  unfold messageBranch
  dsimp only
  split <;> simp [conversationRef_quiet]

/-- The group an event was recorded with. -/
theorem frozenGroup_quiet (outside : Outside) (st : Store) (row : SyncEvent) (v : Json) :
    Quiet (frozenGroup outside st row v) := by
  unfold frozenGroup
  split
  · simp
  · split
    · simp only [raisesOnly_bind, bindText_quiet, true_and]
      intro text _
      split <;> simp
    · simp

/-- Events of every kind. -/
theorem syncV2Event_quiet (outside : Outside) (st : Store) (row : SyncEvent)
    (owner accountId epoch : String) :
    Quiet (syncV2Event outside st row owner accountId epoch) := by
  have hbranch : Quiet (syncV2Branch outside st row owner) := by
    unfold syncV2Branch
    split
    · exact messageBranch_quiet outside st row owner
    · split
      · simp [readStateBranch]
      · split
        · simp [groupBranch, frozenGroup_quiet]
        · simp
  simp [syncV2Event, hbranch]

/-- The watermarks of a snapshot. -/
theorem readStateDtos_quiet (outside : Outside) (owner : String) (rows : List ThreadReadState)
    (st : Store) : Quiet (readStateDtos outside owner rows st) := by
  induction rows generalizing st with
  | nil => simp [readStateDtos]
  | cons row rest ih =>
    have hdto : Quiet (readStateDto outside st owner row) := by
      unfold readStateDto
      dsimp only
      split <;> simp [conversationRef_quiet]
    simp [readStateDtos, hdto, ih]

/-- A message looked up for a snapshot. -/
theorem hydratedSyncV2Message_quiet (req : DeviceRequest) (st : Store) (owner messageId : String)
    (groupDid : Option Json) : Quiet (hydratedSyncV2Message req st owner messageId groupDid) := by
  unfold hydratedSyncV2Message
  split
  · split
    · simp [directSyncMessage, conversationRef_quiet]
    · simp
  · split
    · simp only [raisesOnly_bind, bindTextNotNull_quiet, true_and]
      intro text _
      split <;> simp
    · simp

/-- The loop over the recent messages. -/
theorem recentPlainMessages_quiet (req : DeviceRequest) (s : SyncSubject) (epoch cutoff : String)
    (rows : List SyncEvent) (st : Store) :
    Quiet (recentPlainMessages req s epoch cutoff rows st) := by
  induction rows generalizing st with
  | nil => simp [recentPlainMessages]
  | cons row rest ih =>
    have hrow : Quiet (recentPlainMessage req st s epoch cutoff row) := by
      simp only [recentPlainMessage, raisesOnly_bind, syncV2Event_quiet, true_and]
      intro r _
      split
      · simp
      · simp [hydratedSyncV2Message_quiet]
    simp [recentPlainMessages, hrow, ih]

/-- Whether an event is shown. -/
theorem isVisible_quiet (outside : Outside) (st : Store) (owner : String) (e : SyncV2Event) :
    Quiet (isVisible outside st owner e) := by
  unfold isVisible
  split
  · simp only [raisesOnly_bind, bindText_quiet, true_and]
    intro groupDid _
    cases groupDid with
    | none => simp
    | some groupDid =>
      dsimp only
      split <;> simp
  · simp

/-- **The scan**, by induction on its rows. -/
theorem scanRows_quiet (req : DeviceRequest) (s : SyncSubject) (epoch : String) (expected : ℕ)
    (rows : List SyncEvent) (st : Store) : Quiet (scanRows req s epoch expected rows st) := by
  induction rows generalizing expected st with
  | nil => simp [scanRows]
  | cons row rest ih =>
    unfold scanRows
    split
    · simp
    · simp only [raisesOnly_bind, syncV2Event_quiet, isVisible_quiet, ih, true_and]
      intro _ _ _ _ r _
      obtain ⟨scan, st'⟩ := r
      cases scan <;> simp

/-! ### Reading the request -/

/-- Who asks. -/
theorem syncV2Identity_quiet (req : DeviceRequest) (params : Obj) :
    Quiet (syncV2Identity req params) := by
  have hcurrent : Quiet (currentDid req.toRequest true) := by
    unfold currentDid
    split <;> simp
  simp [syncV2Identity, hcurrent]

/-- What is asked for. -/
theorem deltaRequest_quiet (body : Obj) : Quiet (deltaRequest body) := by
  have hcursor : ∀ v positive field, field ∈ ["stream_epoch", "scan_seq"] →
      Quiet (decimalCursor v field positive) := by
    intro v positive field hfield
    have hmessage : "sync." ++ field ++ "_invalid" ≠ "sync.retained_log_incomplete" := by
      revert field
      decide
    simp [decimalCursor, hmessage]
  have hreason : ∀ v, Quiet (knownReason v) := by
    intro v
    unfold knownReason inSet
    split <;> simp
  simp only [deltaRequest, raisesOnly_bind, raisesOnly_require, raisesOnly_orRaise]
  refine ⟨by simp, fun _ _ ↦ ⟨by simp, fun cursor _ ↦ ⟨hcursor _ _ _ (by simp), fun _ _ ↦
    ⟨by simp, fun _ _ ↦ ⟨hcursor _ _ _ (by simp), fun _ _ ↦ ?_⟩⟩⟩⟩⟩
  split
  · split <;> simp [hreason]
  · simp

/-- The lanes of a compatible client. -/
theorem emptyCompatDeltaLanes_quiet (body : Obj) (negotiated : List String)
    (clientInstanceId : String) :
    Quiet (emptyCompatDeltaLanes body negotiated clientInstanceId) := by
  have hlane : ∀ entry, Quiet (validateCompatLane entry) := by
    intro entry
    simp [validateCompatLane, invalidRequest]
  unfold emptyCompatDeltaLanes
  dsimp only
  split
  · simp [invalidRequest]
  · simp only [raisesOnly_bind, raisesOnly_orRaise, raisesOnly_forM fun k ↦ hlane _]
    refine ⟨by simp [invalidRequest], fun lanes _ ↦ ⟨trivial, fun _ _ ↦ ?_⟩⟩
    split <;> simp [invalidRequest]

/-! ### Issuing a snapshot -/

section Outside

variable {outside : Outside} (hsize : ∀ o, Quiet (outside.canonicalSize o))
  (hdigest : ∀ v, Quiet (outside.sha256Digest v))

include hsize in
/-- The size of an item is that of its canonical encoding. -/
theorem encodedSize_quiet (item : Obj) : Quiet (encodedSize outside item) := by
  simp [encodedSize, hsize]

include hsize in
/-- One page is filled. -/
theorem fillBatch_quiet (items : List Obj) (count encoded : ℕ) :
    Quiet (fillBatch outside items count encoded) := by
  induction items generalizing count encoded with
  | nil => simp [fillBatch]
  | cons item rest ih =>
    unfold fillBatch
    split
    · simp only [raisesOnly_bind, encodedSize_quiet hsize, true_and]
      intro size _
      split <;> simp [ih]
    · simp

include hsize in
/-- A section is cut into pages. -/
theorem paginateItems_quiet (name : SnapshotSection) (rounds : ℕ) (items : List Obj)
    (pages : List Page) : Quiet (paginateItems outside name rounds items pages) := by
  induction rounds generalizing items pages with
  | zero => simp [paginateItems]
  | succ rounds ih =>
    cases items with
    | nil => simp [paginateItems]
    | cons item rest => simp [paginateItems, fillBatch_quiet hsize, requiredStateTooLarge, ih]

include hsize in
/-- All sections are. -/
theorem paginateNonemptySections_quiet (sections : Sections) :
    Quiet (paginateNonemptySections outside sections) := by
  simp [paginateNonemptySections, sectionOrder, paginateItems_quiet hsize]

include hsize in
/-- Messages are selected within the budget. -/
theorem selectMessages_quiet (items bytes pages : ℕ) (selected : List Obj) (encoded : ℕ)
    (rest : List Obj) : Quiet (selectMessages outside items bytes pages selected encoded rest) := by
  induction rest generalizing selected encoded with
  | nil => simp [selectMessages]
  | cons item rest ih =>
    simp only [selectMessages, raisesOnly_bind, encodedSize_quiet hsize, true_and]
    intro size _
    split
    · simp
    · split
      · simp
      · simp only [raisesOnly_bind, pageCountForSections, paginateNonemptySections_quiet hsize,
          raisesOnly_pure, implies_true, true_and]
        intro count _
        split <;> simp [ih]

include hsize in
/-- A package is selected; one that is too large is refused by another name. -/
theorem selectSnapshotPackage_quiet (a b c d : List Obj) :
    Quiet (selectSnapshotPackage outside a b c d) := by
  have hsizes : ∀ l, Quiet (encodedSizes outside l) := by
    intro l
    induction l with
    | nil => simp [encodedSizes]
    | cons item rest ih => simp [encodedSizes, encodedSize_quiet hsize, ih]
  have holdest : ∀ l, Quiet (oldestEventSeq outside l) := by
    intro l
    cases l <;> simp [oldestEventSeq]
  simp [selectSnapshotPackage, requiredBudget, hsizes, holdest, requiredStateTooLarge,
    selectMessages_quiet hsize, pageCountForSections, paginateNonemptySections_quiet hsize]

include hdigest in
/-- Pages are given their tokens. -/
theorem signPages_quiet (keys : SnapshotKeys) (b : SessionBinding) (position : ℕ)
    (pages : List DecoratedPage) : Quiet (signPages keys outside b position pages) := by
  induction pages generalizing position with
  | nil => simp [signPages]
  | cons page rest ih => simp [signPages, claimsAt, hdigest, ih]

include hsize hdigest in
/-- The manifest is put together. -/
theorem buildManifest_quiet (frozenAt cutoff : String) (cursor : Obj) (package : Sections)
    (totalPages : ℕ) (budget : RecoveryBudget) (history : HistoryPolicy) :
    Quiet (buildManifest outside frozenAt cursor package totalPages budget history cutoff) := by
  have hsections : ∀ names, Quiet (manifestSections outside package names) := by
    intro names
    induction names with
    | nil => simp [manifestSections]
    | cons name rest ih => simp [manifestSections, hdigest, ih]
  simp [buildManifest, hsections, hsize, hdigest]

end Outside

/-- The answer is completed. -/
theorem attachStandardBootstrapFields_quiet (result : Obj) (paging : Bool) (requested : List String)
    (clientInstanceId : String) :
    Quiet (attachStandardBootstrapFields result paging requested clientInstanceId) := by
  simp [attachStandardBootstrapFields]

/-! ### The handler -/

section Handler

variable {keys : SnapshotKeys} {settings : Settings} {st : Store} {req : DeviceRequest}
  {s : SyncSubject} (hsize : ∀ o, Quiet (req.outside.canonicalSize o))
  (hdigest : ∀ v, Quiet (req.outside.sha256Digest v))

include hsize hdigest

/-- A snapshot is issued. -/
theorem issueSnapshotRecovery_quiet (clientInstanceId epoch : String) (highest : ℕ) :
    Quiet (issueSnapshotRecovery keys settings st req s clientInstanceId epoch highest) := by
  have hdecorate : ∀ pages, Quiet (decoratePages req.outside pages) := by
    intro pages
    induction pages with
    | nil => simp [decoratePages]
    | cons page rest ih => simp [decoratePages, hdigest, ih]
  simp [issueSnapshotRecovery, frozenPackage, sessionRow, readStateDtos_quiet,
    recentPlainMessages_quiet, selectSnapshotPackage_quiet hsize, paginateSections,
    paginateNonemptySections_quiet hsize, requiredStateTooLarge, hdecorate,
    buildManifest_quiet hsize hdigest, signPages_quiet hdigest, attachStandardBootstrapFields_quiet]

/-- A recovery answers with a snapshot, or with the error it was called with. -/
theorem recoveryAnswer_quiet {clientInstanceId epoch : String} {highest : ℕ} {error : AwikiError}
    (herror : ¬ LogIncomplete error) :
    Quiet (recoveryAnswer keys settings st req s clientInstanceId epoch highest error) := by
  unfold recoveryAnswer
  split
  · simp [issueSnapshotRecovery_quiet hsize hdigest]
  · simpa using herror

/-- **A page.** This is where the log has to be gapless. -/
theorem deltaPage_quiet (hlog : Gapless st.syncEvents) (binding : SyncV2Binding) (d : DeltaRequest)
    (lanes : Obj) : Quiet (deltaPage keys settings st req s binding d lanes) := by
  unfold deltaPage
  dsimp only
  split
  · exact recoveryAnswer_quiet hsize hdigest (by simp)
  · simp only [raisesOnly_bind, raisesOnly_require, scanRows_quiet, true_and]
    refine ⟨by simp, fun _ _ r hscan ↦ ?_⟩
    obtain ⟨scan, st'⟩ := r
    cases scan with
    | gap =>
      refine absurd hscan (scanRows_ne_gap ?_)
      rw [(hlog s.owner).eventsAfter_eq, List.take_take]
      exact (hlog s.owner).take_numbers ..
    | events events => simp

/-- **A gapless log is never called incomplete.** -/
theorem syncDeltaV2_quiet (hlog : Gapless st.syncEvents) (params : Obj) :
    Quiet (syncDeltaV2 keys settings st req params) := by
  simp only [syncDeltaV2, raisesOnly_bind, syncV2Identity_quiet, deltaRequest_quiet,
    emptyCompatDeltaLanes_quiet, deltaPage_quiet hsize hdigest hlog, raisesOnly_orRaise, true_and]
  simp

end Handler

end Awiki
