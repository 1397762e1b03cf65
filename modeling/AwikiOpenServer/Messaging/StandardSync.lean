import AwikiOpenServer.Lib.Packing
import AwikiOpenServer.Shared.Runtime

/-!
# Snapshot packages and their pages

A client that cannot be served from the log recovers from a **snapshot**: its read states, groups
and notifications, which are required, and as much of its message history as still fits. The package
is frozen, cut into pages section by section, and described by a manifest.

The budgets are three: items, encoded bytes, and pages. Selection counts pages by running the very
pagination that later cuts the package, once on the required sections and once for every message it
tries; the package is then cut as a whole, with the messages between two required sections. The two
agree because **a page never mixes sections**, so page counts add.

Both counts are compared in `Messaging/SnapshotBudget.lean` with an algorithm-free number, the least
number of pages a section can be cut into (`Packing.minBins`).

## How the loops are written

`_paginate_nonempty_sections` is a loop over the sections around a loop over the items of each, and
the inner of its statements fills one page. Here these are `paginateItems` and `fillBatch`; the
outer loop has no measure of its own in the source, so it is given as many rounds as there are
items, and each round takes one away at least. The selection loop is a recursion on the messages
offered.

Sizes come from the canonical encoding, which is outside of the repository, and so does the failure
to encode something; every function here fails when it does (`encodedSize`).

## Errors

There is one error about sizes, `sync.snapshot_required_state_too_large`, with details that say what
was too large: a required state over one of its limits, or more pages than `MAX_PAGES`. The latter
is checked in the page counter itself, so the trial count of a long history can raise it too.
-/

namespace Awiki

open Py Packing

/-! ### The limits -/

/-- `MAX_PAGE_ITEMS`. -/
def maxPageItems : ℕ := 100

/-- `MAX_PAGE_BYTES`. -/
def maxPageBytes : ℕ := 1048576

/-- `MAX_PACKAGE_ITEMS`. -/
def maxPackageItems : ℕ := 10000

/-- `MAX_PACKAGE_BYTES`. -/
def maxPackageBytes : ℕ := 67108864

/-- `MAX_PAGES`. -/
def maxPages : ℕ := 100

/-! ### Sections and pages -/

/-- The sections of a package. -/
inductive SnapshotSection where
  | readStates
  | groups
  | recentPlainMessages
  | unexpiredSystemNotifications
  deriving DecidableEq, Repr

/-- The name of a section. -/
def SnapshotSection.text : SnapshotSection → String
  | readStates => "read_states"
  | groups => "groups"
  | recentPlainMessages => "recent_plain_messages"
  | unexpiredSystemNotifications => "unexpired_system_notifications"

/-- `SECTION_ORDER`. -/
def sectionOrder : List SnapshotSection :=
  [.readStates, .groups, .recentPlainMessages, .unexpiredSystemNotifications]

/-- The items of each section; a section that is absent has none. -/
abbrev Sections := SnapshotSection → List Obj

/-- A package, or a part of one, with these four sections. -/
def Sections.of (readStates groups messages notifications : List Obj) : Sections
  | .readStates => readStates
  | .groups => groups
  | .recentPlainMessages => messages
  | .unexpiredSystemNotifications => notifications

/-- A page as pagination cuts it. -/
structure Page where
  name : SnapshotSection
  items : List Obj
  returnedEncodedBytes : ℕ

/-- `encoded_size`. -/
def encodedSize (outside : Outside) (item : Obj) : Result ℕ := do
  let size ← outside.canonicalSize item
  require (size ≤ maxPageBytes)
    (.syncProtocol "sync.snapshot_item_too_large" 4221 [("encoded_bytes", .int size)])
  return size

/-- `sync.snapshot_required_state_too_large`. -/
def requiredStateTooLarge (details : Obj) : AwikiError :=
  .syncProtocol "sync.snapshot_required_state_too_large" 4222 details

/-- The inner loop of `_paginate_nonempty_sections`: the items that join a batch which already holds
`count` of them, and the encoded size of the whole batch. -/
def fillBatch (outside : Outside) : List Obj → ℕ → ℕ → Result (List Obj × ℕ)
  | [], _, encoded => .ok ([], encoded)
  | item :: rest, count, encoded =>
    if count < maxPageItems then do
      let size ← encodedSize outside item
      if 0 < count ∧ maxPageBytes < encoded + size then return ([], encoded)
      let (batch, total) ← fillBatch outside rest (count + 1) (encoded + size)
      return (item :: batch, total)
    else .ok ([], encoded)

/-- The outer loop: the remaining items of a section become pages. Every batch takes an item, so as
many rounds as there are items are enough. -/
def paginateItems (outside : Outside) (name : SnapshotSection) :
    ℕ → List Obj → List Page → Result (List Page)
  | 0, _, pages => .ok pages
  | _, [], pages => .ok pages
  | rounds + 1, items, pages => do
    let (batch, encoded) ← fillBatch outside items 0 0
    let pages := pages ++ [⟨name, batch, encoded⟩]
    require (pages.length ≤ maxPages) (requiredStateTooLarge [("total_pages", .int pages.length)])
    paginateItems outside name rounds (items.drop batch.length) pages

/-- `_paginate_nonempty_sections`. -/
def paginateNonemptySections (outside : Outside) (sections : Sections) : Result (List Page) :=
  sectionOrder.foldlM (fun pages name ↦
    paginateItems outside name (sections name).length (sections name) pages) []

/-- `_page_count_for_sections`. -/
def pageCountForSections (outside : Outside) (sections : Sections) : Result ℕ := do
  let pages ← paginateNonemptySections outside sections
  return pages.length

/-- The page of an empty package. -/
def emptyPage : Page := ⟨.readStates, [], 0⟩

/-- `paginate_sections`. -/
def paginateSections (outside : Outside) (sections : Sections) : Result (List Page) := do
  let pages ← paginateNonemptySections outside sections
  let pages := if pages.isEmpty then [emptyPage] else pages
  require (pages.length ≤ maxPages) (requiredStateTooLarge [("total_pages", .int pages.length)])
  return pages

/-! ### Selection -/

/-- Why the history stops where it does. -/
inductive Truncation where
  | maxItems
  | maxEncodedBytes
  | maxPages
  deriving DecidableEq, Repr

/-- The word for it in a manifest. -/
def Truncation.text : Truncation → String
  | maxItems => "max_items"
  | maxEncodedBytes => "max_encoded_bytes"
  | maxPages => "max_pages"

/-- `history_policy` of a manifest, with the members `_history_policy` computes. -/
structure HistoryPolicy where
  returnedItems : ℕ
  returnedEncodedBytes : ℕ
  returnedPages : ℕ
  oldestIncludedEventSeq : Option String
  excludedOlderMessages : ℕ
  truncationReason : Option Truncation

/-- `recovery_budget` of a manifest. -/
structure RecoveryBudget where
  requiredStateItems : ℕ
  requiredStateEncodedBytes : ℕ
  requiredStatePages : ℕ

/-- `_history_policy`. -/
def HistoryPolicy.document (h : HistoryPolicy) : Obj :=
  [("selection", .str "newest_complete_suffix"), ("returned_items", .int h.returnedItems),
    ("returned_encoded_bytes", .int h.returnedEncodedBytes),
    ("returned_pages", .int h.returnedPages),
    ("oldest_included_event_seq", (h.oldestIncludedEventSeq.map Json.str).getD .null),
    ("excluded_older_messages", .int h.excludedOlderMessages),
    ("older_history_excluded", .bool (0 < h.excludedOlderMessages)),
    ("truncation_reason", (h.truncationReason.map fun t ↦ Json.str t.text).getD .null),
    ("complete_within_policy", .bool true)]

/-- The budget in a manifest. -/
def RecoveryBudget.document (b : RecoveryBudget) : Obj :=
  [("max_items", .int maxPackageItems), ("max_encoded_bytes", .int maxPackageBytes),
    ("max_pages", .int maxPages), ("required_state_items", .int b.requiredStateItems),
    ("required_state_encoded_bytes", .int b.requiredStateEncodedBytes),
    ("required_state_pages", .int b.requiredStatePages)]

/-- The sizing loop over the required items: their encoded sizes added up. -/
def encodedSizes (outside : Outside) : List Obj → Result ℕ
  | [] => .ok 0
  | item :: rest => do
    let size ← encodedSize outside item
    let total ← encodedSizes outside rest
    return size + total

/-- The required sections alone. -/
def requiredSections (readStates groups notifications : List Obj) : Sections :=
  .of readStates groups [] notifications

/-- The messages alone. -/
def messageSection (messages : List Obj) : Sections := .of [] [] messages []

/-- What selection keeps: the messages newest first, their encoded size, and why it stopped. -/
abbrev Selected := List Obj × ℕ × Option Truncation

/-- The selection loop: messages are taken newest first while every budget allows. -/
def selectMessages (outside : Outside) (items bytes pages : ℕ) :
    List Obj → ℕ → List Obj → Result Selected
  | selected, encoded, [] => .ok (selected, encoded, none)
  | selected, encoded, item :: rest => do
    let size ← encodedSize outside item
    if items ≤ selected.length then return (selected, encoded, some .maxItems)
    if bytes < encoded + size then return (selected, encoded, some .maxEncodedBytes)
    let trialOldest := (selected ++ [item]).reverse
    let count ← pageCountForSections outside (messageSection trialOldest)
    if pages < count then return (selected, encoded, some .maxPages)
    selectMessages outside items bytes pages (selected ++ [item]) (encoded + size) rest

/-- `str(messages[0]["event"]["event_seq"])`, when there is a message. -/
def oldestEventSeq (outside : Outside) : List Obj → Result (Option String)
  | [] => .ok none
  | item :: _ => do
    let event ← orRaise (.key "event") (item.lookup "event")
    let event ← orRaise (.type "'event' is not a dictionary") event.obj?
    let seq ← orRaise (.key "event_seq") (event.lookup "event_seq")
    return some (outside.str seq)

/-- The part of `select_snapshot_package` about the required state: it is sized, counted and held
against the limits. -/
def requiredBudget (outside : Outside) (readStates groups notifications : List Obj) :
    Result RecoveryBudget := do
  let required := readStates ++ groups ++ notifications
  let bytes ← encodedSizes outside required
  require (required.length ≤ maxPackageItems && bytes ≤ maxPackageBytes)
    (requiredStateTooLarge [("required_state_items", .int required.length),
      ("required_state_encoded_bytes", .int bytes)])
  let pages ← pageCountForSections outside (requiredSections readStates groups notifications)
  require (pages ≤ maxPages) (requiredStateTooLarge [("required_state_pages", .int pages)])
  return ⟨required.length, bytes, pages⟩

/-- `select_snapshot_package`. -/
def selectSnapshotPackage (outside : Outside)
    (readStates groups notifications messages : List Obj) :
    Result (Sections × RecoveryBudget × HistoryPolicy) := do
  let budget ← requiredBudget outside readStates groups notifications
  let (selectedNewest, messageBytes, truncation) ← selectMessages outside
    (maxPackageItems - budget.requiredStateItems)
    (maxPackageBytes - budget.requiredStateEncodedBytes)
    (maxPages - budget.requiredStatePages) [] 0 messages
  let selectedMessages := selectedNewest.reverse
  let oldest ← oldestEventSeq outside selectedMessages
  let pages ← pageCountForSections outside (messageSection selectedMessages)
  return (.of readStates groups selectedMessages notifications, budget, {
    returnedItems := selectedMessages.length
    returnedEncodedBytes := messageBytes
    returnedPages := pages
    oldestIncludedEventSeq := oldest
    excludedOlderMessages := messages.length - selectedMessages.length
    truncationReason := truncation })

/-! ### The manifest -/

/-- The package as a document. -/
def Sections.document (package : Sections) : Obj :=
  sectionOrder.map fun name ↦ (name.text, .arr ((package name).map Json.obj))

/-- The entries of `sections` in a manifest. -/
def manifestSections (outside : Outside) (package : Sections) : List SnapshotSection → Result Obj
  | [] => .ok []
  | name :: rest => do
    let digest ← outside.sha256Digest (.arr ((package name).map Json.obj))
    let entries ← manifestSections outside package rest
    return (name.text,
      .obj [("item_count", .int (package name).length), ("digest", .str digest)]) :: entries

/-- `build_manifest`. -/
def buildManifest (outside : Outside) (frozenAt : String) (snapshotCursor : Obj)
    (package : Sections) (totalPages : ℕ) (budget : RecoveryBudget) (history : HistoryPolicy)
    (messageCutoff : String) : Result Obj := do
  let sections ← manifestSections outside package sectionOrder
  let totalBytes ← outside.canonicalSize package.document
  let scanSeq ← orRaise (.key "scan_seq") (snapshotCursor.lookup "scan_seq")
  let manifest : Obj :=
    [("manifest_schema", .int 1), ("frozen_at", .str frozenAt),
      ("snapshot_cursor", .obj snapshotCursor), ("sections", .obj sections),
      ("recovery_budget", .obj budget.document), ("history_policy", .obj history.document),
      ("message_policy", .obj [("server_cutoff", .str messageCutoff),
        ("selection", .str "ordinary_plain_only")]),
      ("system_notification_policy", .obj [("scope", .str "exact_device_unexpired"),
        ("complete_through_scan_seq", scanSeq), ("complete", .bool true)]),
      ("excluded", .obj [("e2ee_messages", .bool true),
        ("plain_messages_before_cutoff", .bool true)]),
      ("total_items", .int (sectionOrder.map fun name ↦ (package name).length).sum),
      ("total_encoded_bytes", .int totalBytes), ("total_pages", .int totalPages)]
  let digest ← outside.sha256Digest (.obj manifest)
  return manifest ++ [("manifest_digest", .str digest)]

/-- `sections[name]["item_count"]` of a manifest. -/
def manifestItemCount (manifest : Obj) (name : SnapshotSection) : Json :=
  let sections := (manifest.get "sections").obj?.getD []
  ((Obj.get sections name.text).obj?.getD [] : Obj).get "item_count"

end Awiki
