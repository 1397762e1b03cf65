import AwikiOpenServer.Messaging.SnapshotSelection

/-!
# The budget a manifest advertises

A manifest carries the limits of its package, `recovery_budget`, and the totals of what the package
holds. Items and pages are counted the same way on both sides. Bytes are not: selection adds up the
sizes of the items, one by one, and the manifest reports the size of the package as one document,
with the section names, the brackets and the commas between the items around them.

**The two measures differ by a fixed frame and a comma between neighbours** (`packageBytes`). A
history that fills the byte budget to the last hundred bytes is therefore selected, and its manifest
exceeds the limit it states. The manifest keeps its budget exactly when every beginning of the
history that fits the budgets also fits as a document (`manifest_within_budget_iff`).

## Sizes

The sizes of canonical JSON come from outside the repository; what is relied on is how the size of a
list or of an object follows from the sizes of its members (`CanonicalSizes`). It is documented
behaviour of the encoding (no white space, members apart by one comma, a colon behind a key), and it
says nothing about the sizes of numbers and texts. `Outside.sized` is a world in which it holds: for
documents without floats its sizes are the real ones, and the examples compute with them.

## The condition

The condition is about the input of the selection: the required state and the history that is
offered. The selected messages are the longest beginning that fits, and the size of the document
grows with the messages (`packageBytes_mono`), so to ask it of every beginning that fits is to ask
it of the selected one; the statement avoids naming what the selection computes. The other totals
need no condition (`withinAdvertisedBudget_iff_packageBytes`).

Two histories at the end are on either side: sixty-four messages of a page each fill the budget
exactly when nothing else is required, and with a read state beside them the last message is left
out, and what is left respects the budget.
-/

namespace Awiki

open Py Packing

variable {outside : Outside} {size : Json → Result ℕ}

/-! ### Sizes of canonical JSON -/

/-- A member name that canonical JSON writes as it is. -/
def PlainKey (key : String) : Prop := ∀ c ∈ key.toList, c.isAlpha = true ∨ c = '_'

instance (key : String) : Decidable (PlainKey key) := List.decidableBAll _ _

/-- `size` is the size of a value in canonical JSON: there is no white space, members are separated
by commas, and a name stands in quotes before a colon. -/
structure CanonicalSizes (outside : Outside) (size : Json → Result ℕ) : Prop where
  document : ∀ o, outside.canonicalSize o = size (.obj o)
  array : ∀ items sizes, List.Forall₂ (fun item n ↦ size item = .ok n) items sizes →
    size (.arr items) = .ok (2 + (items.length - 1) + sizes.sum)
  object : ∀ (fields : Obj) sizes, (fields.map Prod.fst).Nodup → (∀ p ∈ fields, PlainKey p.1) →
    List.Forall₂ (fun p n ↦ size p.2 = .ok n) fields sizes →
    size (.obj fields) = .ok (2 + (fields.length - 1) +
      (fields.map fun p ↦ p.1.length + 3).sum + sizes.sum)

/-- The size of a package as one document: four named lists, and a comma between neighbours. -/
def packageBytes (outside : Outside) (package : Sections) : ℕ :=
  93 + (sectionOrder.map fun name ↦
    totalBytes outside (package name) + ((package name).length - 1)).sum

/-- The names of the sections are such keys. -/
theorem plainKey_text (name : SnapshotSection) : PlainKey name.text := by
  cases name <;> decide

/-- The size of an item is the one selection has counted. -/
theorem EncodesWithin.canonicalSize {items : List Obj} (h : EncodesWithin outside items) :
    ∀ item ∈ items, outside.canonicalSize item = .ok (itemBytes outside item) := by
  intro item hitem
  obtain ⟨n, hn, -⟩ := h item hitem
  rw [itemBytes, hn]

/-- The list of a section. -/
theorem CanonicalSizes.size_items (h : CanonicalSizes outside size) {items : List Obj}
    (hitems : EncodesWithin outside items) :
    size (.arr (items.map Json.obj)) =
      .ok (2 + (items.length - 1) + totalBytes outside items) := by
  have hsizes : List.Forall₂ (fun item n ↦ size item = .ok n) (items.map Json.obj)
      (items.map (itemBytes outside)) := by
    rw [List.forall₂_map_left_iff, List.forall₂_map_right_iff, List.forall₂_same]
    intro item hitem
    rw [← h.document, hitems.canonicalSize item hitem]
  rw [h.array _ _ hsizes, List.length_map]
  rfl

/-- **The size of a package as a document.** -/
theorem CanonicalSizes.canonicalSize_document (h : CanonicalSizes outside size) {package : Sections}
    (hitems : package.EncodesWithin outside) :
    outside.canonicalSize package.document = .ok (packageBytes outside package) := by
  have hnames : (package.document.map Prod.fst).Nodup := by
    show (sectionOrder.map SnapshotSection.text).Nodup
    decide
  have hplain : ∀ p ∈ package.document, PlainKey p.1 := by
    intro p hp
    obtain ⟨name, -, rfl⟩ := List.mem_map.mp hp
    exact plainKey_text name
  have hsizes : List.Forall₂ (fun p n ↦ size p.2 = .ok n) package.document
      (sectionOrder.map fun name ↦
        2 + ((package name).length - 1) + totalBytes outside (package name)) := by
    rw [Sections.document, List.forall₂_map_left_iff, List.forall₂_map_right_iff,
      List.forall₂_same]
    exact fun name _ ↦ h.size_items (hitems name)
  rw [h.document, h.object _ _ hnames hplain hsizes]
  have hframe : (package.document.map fun p ↦ p.1.length + 3).sum = 80 := by
    show (sectionOrder.map fun name ↦ name.text.length + 3).sum = 80
    decide
  have hcount : package.document.length = 4 := rfl
  rw [hframe, hcount, packageBytes]
  simp only [sectionOrder, List.map_cons, List.map_nil, List.sum_cons, List.sum_nil]
  congr 1
  omega

/-- More messages, more bytes. -/
theorem packageBytes_mono (readStates groups notifications : List Obj) {newest longer : List Obj}
    (h : newest <+: longer) :
    packageBytes outside (.of readStates groups newest.reverse notifications) ≤
      packageBytes outside (.of readStates groups longer.reverse notifications) := by
  obtain ⟨older, rfl⟩ := h
  simp only [packageBytes, sectionOrder, Sections.of, List.map_cons, List.map_nil, List.sum_cons,
    List.sum_nil, totalBytes_reverse, totalBytes_append, List.length_reverse, List.length_append]
  omega

/-! ### The manifest against its budget -/

/-- A total of the manifest is within a limit of its budget. -/
def KeepsLimit (manifest : Obj) (total limit : String) : Prop :=
  ∃ budget : Obj, ∃ n m : ℤ, manifest.get "recovery_budget" = .obj budget ∧
    manifest.get total = .int n ∧ budget.get limit = .int m ∧ n ≤ m

/-- The manifest respects the budget it advertises. -/
structure WithinAdvertisedBudget (manifest : Obj) : Prop where
  items : KeepsLimit manifest "total_items" "max_items"
  pages : KeepsLimit manifest "total_pages" "max_pages"
  bytes : KeepsLimit manifest "total_encoded_bytes" "max_encoded_bytes"

/-- The messages, newest first, fit what the required state leaves of the three budgets. -/
def FitsBesides (outside : Outside) (readStates groups notifications newest : List Obj) : Prop :=
  FitsBudgets outside
    (maxPackageItems - (budgetOf outside readStates groups notifications).requiredStateItems)
    (maxPackageBytes - (budgetOf outside readStates groups notifications).requiredStateEncodedBytes)
    (maxPages - (budgetOf outside readStates groups notifications).requiredStatePages) newest

/-- What a manifest says of its budget, and the totals it reports. -/
theorem buildManifest_totals {frozenAt cutoff : String} {cursor manifest : Obj} {package : Sections}
    {totalPages : ℕ} {budget : RecoveryBudget} {history : HistoryPolicy}
    (h : buildManifest outside frozenAt cursor package totalPages budget history cutoff =
      .ok manifest) :
    manifest.get "recovery_budget" = .obj budget.document ∧
      manifest.get "total_items" =
        .int (sectionOrder.map fun name ↦ (package name).length).sum ∧
      manifest.get "total_pages" = .int totalPages ∧
      ∃ bytes : ℕ, outside.canonicalSize package.document = .ok bytes ∧
        manifest.get "total_encoded_bytes" = .int bytes := by
  obtain ⟨sections, -, h⟩ := bind_eq_ok.mp h
  obtain ⟨bytes, hbytes, h⟩ := bind_eq_ok.mp h
  obtain ⟨scanSeq, -, h⟩ := bind_eq_ok.mp h
  obtain ⟨digest, -, h⟩ := bind_eq_ok.mp h
  obtain rfl := pure_eq_ok.mp h
  exact ⟨rfl, rfl, rfl, bytes, hbytes, rfl⟩

/-- **Only the bytes can exceed the budget.** -/
theorem withinAdvertisedBudget_iff_packageBytes
    {readStates groups notifications messages : List Obj}
    {package : Sections} {budget : RecoveryBudget} {history : HistoryPolicy} {pages : List Page}
    {frozenAt cutoff : String} {cursor manifest : Obj} (hsizes : CanonicalSizes outside size)
    (hselect : selectSnapshotPackage outside readStates groups notifications messages =
      .ok (package, budget, history))
    (hpages : paginateSections outside package = .ok pages)
    (hmanifest : buildManifest outside frozenAt cursor package pages.length budget history cutoff =
      .ok manifest) :
    WithinAdvertisedBudget manifest ↔ packageBytes outside package ≤ maxPackageBytes := by
  have hencodes := selectSnapshotPackage_encodesWithin hselect
  obtain ⟨hbudget, hitems, hcount, bytes, hbytes, hreported⟩ := buildManifest_totals hmanifest
  rw [hsizes.canonicalSize_document hencodes] at hbytes
  obtain rfl := Except.ok.inj hbytes
  constructor
  · rintro ⟨-, -, budget', n, m, hbudget', hn, hm, hle⟩
    rw [hbudget] at hbudget'
    obtain rfl := Json.obj.inj hbudget'
    rw [hreported] at hn
    obtain rfl := Json.int.inj hn
    obtain rfl : (maxPackageBytes : ℤ) = m := Json.int.inj hm
    exact Int.ofNat_le.mp hle
  · intro hle
    have hitemsLe := selectSnapshotPackage_items_le hselect
    have hpagesLe := (paginateSections_eq_ok hencodes hpages).1
    exact ⟨⟨_, _, _, hbudget, hitems, rfl, Int.ofNat_le.mpr hitemsLe⟩,
      ⟨_, _, _, hbudget, hcount, rfl, Int.ofNat_le.mpr hpagesLe⟩,
      ⟨_, _, _, hbudget, hreported, rfl, Int.ofNat_le.mpr hle⟩⟩

/-- The selected package is the largest that fits by the item, so it stands for all of them. -/
theorem packageBytes_selected_le_iff {readStates groups notifications messages : List Obj}
    {package : Sections} {budget : RecoveryBudget} {history : HistoryPolicy} (limit : ℕ)
    (hselect : selectSnapshotPackage outside readStates groups notifications messages =
      .ok (package, budget, history)) :
    packageBytes outside package ≤ limit ↔
      ∀ newest, newest <+: messages →
        FitsBesides outside readStates groups notifications newest →
        packageBytes outside (.of readStates groups newest.reverse notifications) ≤ limit := by
  obtain ⟨taken, older, hmessages, -, rfl, hkept, hover, rfl, -⟩ :=
    selectSnapshotPackage_eq_ok hselect
  have htaken : taken <+: messages := ⟨older, hmessages.symm⟩
  refine ⟨fun hle newest hnewest hfits ↦ ?_, fun hall ↦ hall taken htaken hkept.fitsBudgets⟩
  -- A beginning that fits is not longer than what was taken.
  have hlength : newest.length ≤ taken.length := by
    by_contra hlonger
    exact not_fitsBudgets_of_longer hmessages hover hnewest (Nat.not_le.mp hlonger) hfits
  have hbegins := List.prefix_of_prefix_length_le hnewest htaken hlength
  exact (packageBytes_mono readStates groups notifications hbegins).trans hle

/-! ### A history that fills the byte budget -/

/-- A plain key takes two quotation marks more. -/
theorem jcsTextSize_of_plainKey {key : String} (h : PlainKey key) :
    jcsTextSize key = key.length + 2 := by
  have hchar : ∀ c ∈ key.toList, jcsCharSize c = 1 := by
    intro c hc
    rcases h c hc with halpha | rfl
    · have hcode : (65 ≤ c.toNat ∧ c.toNat ≤ 90) ∨ (97 ≤ c.toNat ∧ c.toNat ≤ 122) :=
        ((Bool.or_eq_true _ _).mp halpha).imp isUpper_iff.mp isLower_iff.mp
      have hascii : c.utf8Size = 1 := by
        rw [Char.utf8Size_eq_one_iff, UInt32.le_iff_toNat_le]
        show c.toNat ≤ 127
        omega
      rw [jcsCharSize, if_neg (by simp only [List.mem_cons, List.not_mem_nil, or_false]; omega),
        if_neg (by omega), hascii]
    · decide
  rw [jcsTextSize, List.map_congr_left hchar, List.map_const', List.sum_replicate_nat,
    String.length_toList, Nat.mul_one, Nat.add_comm]

/-- The sizes of the items of a list, added up. -/
theorem jcsItemsSize_eq_sum (items : List Json) : jcsItemsSize items = (items.map jcsSize).sum := by
  induction items with
  | nil => rfl
  | cons v rest ih => rw [jcsItemsSize, ih, List.map_cons, List.sum_cons]

/-- The sizes of the members of an object, added up. -/
theorem jcsFieldsSize_eq_sum (fields : List (String × Json)) :
    jcsFieldsSize fields = (fields.map fun p ↦ jcsTextSize p.1 + 1 + jcsSize p.2).sum := by
  induction fields with
  | nil => rfl
  | cons p rest ih => rw [jcsFieldsSize, ih, List.map_cons, List.sum_cons]

/-- These sizes follow from those of the members. -/
theorem sized_canonicalSizes : CanonicalSizes Outside.sized fun v ↦ .ok (jcsSize v) where
  document _ := rfl
  array items sizes h := by
    have hsizes : items.map jcsSize = sizes := by
      rw [← List.forall₂_eq_eq_eq, List.forall₂_map_left_iff]
      exact h.imp fun _ _ hn ↦ Except.ok.inj hn
    rw [jcsSize, jcsItemsSize_eq_sum, hsizes]
  object fields sizes _ hplain h := by
    have hsizes : fields.map (fun p ↦ jcsSize p.2) = sizes := by
      rw [← List.forall₂_eq_eq_eq, List.forall₂_map_left_iff]
      exact h.imp fun _ _ hn ↦ Except.ok.inj hn
    have hnames : ∀ p ∈ fields, jcsTextSize p.1 + 1 + jcsSize p.2 = p.1.length + 3 + jcsSize p.2 :=
      fun p hp ↦ by rw [jcsTextSize_of_plainKey (hplain p hp)]
    rw [jcsSize, jcsFieldsSize_eq_sum, List.map_congr_left hnames, List.sum_map_add, hsizes,
      Nat.add_assoc, Nat.add_assoc, Nat.add_assoc]

/-- A text that makes a message exactly as large as a page. -/
def pageContent : String := String.ofList (List.replicate 1048521 'a')

/-- Sixty-four messages, newest first, of a page each: `MAX_PACKAGE_BYTES` together. -/
def pageHistory : List Obj := (List.range 64).map fun i ↦ messageItem (1064 - i) pageContent

/-- The size of the text. -/
theorem jcsTextSize_pageContent : jcsTextSize pageContent = 1048523 := jcsTextSize_replicate 1048521

/-- Each of them is as large as a page, -/
theorem canonicalSize_pageHistory :
    ∀ m ∈ pageHistory, Outside.sized.canonicalSize m = .ok maxPageBytes := by
  have hseq : ∀ i ∈ List.range 64, jcsTextSize (toString (1064 - i)) = 6 := by decide +kernel
  intro m hm
  obtain ⟨i, hi, rfl⟩ := List.mem_map.mp hm
  show Except.ok (jcsSize _) = _
  rw [jcsSize_messageItem, jcsTextSize_pageContent, hseq i hi, maxPageBytes]

/-- brings its event, -/
theorem pageHistory_carriesEvent : ∀ m ∈ pageHistory, CarriesEvent m := by
  intro m hm
  obtain ⟨i, -, rfl⟩ := List.mem_map.mp hm
  exact messageItem_carriesEvent _ _

/-- and can be put on one. -/
theorem pageHistory_encodesWithin : EncodesWithin Outside.sized pageHistory :=
  fun m hm ↦ ⟨maxPageBytes, canonicalSize_pageHistory m hm, le_rfl⟩

/-- A beginning of the history is as large as its messages. -/
theorem totalBytes_of_beginning {newest : List Obj} (h : newest <+: pageHistory) :
    totalBytes Outside.sized newest = newest.length * maxPageBytes :=
  totalBytes_of_canonicalSize fun m hm ↦ canonicalSize_pageHistory m (h.subset hm)

/-- The whole is as large as a package. -/
theorem totalBytes_pageHistory : totalBytes Outside.sized pageHistory = maxPackageBytes := by
  have hcount : pageHistory.length = 64 := by rw [pageHistory, List.length_map, List.length_range]
  rw [totalBytes_of_beginning List.prefix_rfl, hcount, maxPageBytes, maxPackageBytes]

/-- They fit, when nothing is required beside them. -/
theorem pageHistory_fitsBesides : FitsBesides Outside.sized [] [] [] pageHistory := by
  have hnone : budgetOf Outside.sized [] [] [] = ⟨0, 0, 0⟩ := by simp [budgetOf]
  rw [FitsBesides, hnone]
  refine Affordable.fitsBudgets ⟨pageHistory_encodesWithin, by simp [pageHistory, maxPackageItems],
    totalBytes_pageHistory.le, ?_⟩
  · have hle := pageHistory_encodesWithin.reverse.minPages_le
    have hcount : pageHistory.reverse.length = 64 := by simp [pageHistory]
    show _ ≤ 100
    omega

/-- Without required state, every beginning of this history is affordable. -/
theorem pageHistory_selected :
    ∃ package budget history, selectSnapshotPackage Outside.sized [] [] [] pageHistory =
      .ok (package, budget, history) := by
  have hloop : ∃ r, selectHistory Outside.sized [] [] [] pageHistory = .ok r := by
    refine (selectMessages_returns_iff _ _ [] (Nat.sub_le _ _) pageHistory_encodesWithin
      (.nil _ _ _)).mpr (.inr fun newest hnewest _ _ ↦ ?_)
    have hle := (pageHistory_encodesWithin.mono hnewest.subset).reverse.minPages_le
    have hlength : newest.reverse.length ≤ 64 := by simpa [pageHistory] using hnewest.length_le
    rw [List.nil_append, maxPages]
    omega
  obtain ⟨newest, budget, history, -, hselect⟩ := (selectSnapshotPackage_returns
    empty_requiredWithinLimits pageHistory_carriesEvent).mpr hloop
  exact ⟨_, budget, history, hselect⟩

/-- The size of a package, by its sections. -/
theorem packageBytes_of (readStates groups messages notifications : List Obj) :
    packageBytes outside (.of readStates groups messages.reverse notifications) =
      93 + totalBytes outside readStates + totalBytes outside groups +
        totalBytes outside messages + totalBytes outside notifications +
        ((readStates.length - 1) + (groups.length - 1) + (messages.length - 1) +
          (notifications.length - 1)) := by
  simp only [packageBytes, sectionOrder, Sections.of, List.map_cons, List.map_nil, List.sum_cons,
    List.sum_nil, totalBytes_reverse, List.length_reverse]
  omega

/-- What a selection leads to is paged and described. -/
theorem sized_manifest {readStates groups notifications messages : List Obj}
    {package : Sections} {budget : RecoveryBudget} {history : HistoryPolicy}
    (hselect : selectSnapshotPackage Outside.sized readStates groups notifications messages =
      .ok (package, budget, history)) :
    ∃ pages manifest, paginateSections Outside.sized package = .ok pages ∧
      buildManifest Outside.sized "2026-05-01T00:00:00Z" [("scan_seq", .str "9")] package
        pages.length budget history "2026-04-29T00:00:00Z" = .ok manifest := by
  obtain ⟨pages, hpages, -⟩ := paginateSections_of_sectionPages_le
    (selectSnapshotPackage_encodesWithin hselect) (selectSnapshotPackage_pages hselect).2
  exact ⟨pages, _, hpages, rfl⟩

/-- **When a manifest respects its own budget.** For every input that selection succeeds on: the
totals of the manifest are within the limits it advertises if and only if no beginning of the
history that fits what the required state leaves of the budgets makes the package, encoded as a
whole, larger than `MAX_PACKAGE_BYTES`. -/
theorem manifest_within_budget_iff {readStates groups notifications messages : List Obj}
    {package : Sections} {budget : RecoveryBudget} {history : HistoryPolicy} {pages : List Page}
    {frozenAt cutoff : String} {cursor manifest : Obj} (hsizes : CanonicalSizes outside size)
    (hselect : selectSnapshotPackage outside readStates groups notifications messages =
      .ok (package, budget, history))
    (hpages : paginateSections outside package = .ok pages)
    (hmanifest : buildManifest outside frozenAt cursor package pages.length budget history cutoff =
      .ok manifest) :
    WithinAdvertisedBudget manifest ↔
      ∀ newest, newest <+: messages →
        FitsBesides outside readStates groups notifications newest →
        packageBytes outside (.of readStates groups newest.reverse notifications) ≤
          maxPackageBytes := by
  rw [withinAdvertisedBudget_iff_packageBytes hsizes hselect hpages hmanifest,
    packageBytes_selected_le_iff maxPackageBytes hselect]

/-- The read state is small. -/
theorem totalBytes_sampleReadState : totalBytes Outside.sized [sampleReadState] = 43 := by
  decide +kernel

/-- Beside a read state no more than sixty-three messages of a page fit. -/
theorem length_lt_of_fitsBesides {newest : List Obj} (hnewest : newest <+: pageHistory)
    (h : FitsBesides Outside.sized [sampleReadState] [] [] newest) : newest.length < 64 := by
  have hbytes := h.bytes_le
  rw [totalBytes_of_beginning hnewest] at hbytes
  simp only [budgetOf, List.append_nil, totalBytes_sampleReadState, maxPageBytes,
    maxPackageBytes] at hbytes
  omega

/-- The manifest of a client with a read state and sixty-four messages of a page each respects its
budget: the last message is left out, and the frame fits where it would have been. -/
theorem manifest_within_budget_sample :
    ∃ package budget history pages manifest,
      selectSnapshotPackage Outside.sized [sampleReadState] [] [] pageHistory =
        .ok (package, budget, history) ∧
      paginateSections Outside.sized package = .ok pages ∧
      buildManifest Outside.sized "2026-05-01T00:00:00Z" [("scan_seq", .str "9")] package
        pages.length budget history "2026-04-29T00:00:00Z" = .ok manifest ∧
      WithinAdvertisedBudget manifest := by
  have hlimits := sampleReadState_withinLimits
  have hpos := requiredPages_pos hlimits.encodes (by simp)
  have hloop : ∃ r, selectHistory Outside.sized [sampleReadState] [] [] pageHistory = .ok r :=
    (selectMessages_returns_iff _ _ [] (Nat.sub_le _ _) pageHistory_encodesWithin
      (.nil _ _ _)).mpr (.inl (Nat.sub_lt (by decide) hpos))
  obtain ⟨newest, budget, history, -, hselect⟩ :=
    (selectSnapshotPackage_returns hlimits pageHistory_carriesEvent).mpr hloop
  obtain ⟨pages, manifest, hpages, hmanifest⟩ := sized_manifest hselect
  refine ⟨_, budget, history, pages, manifest, hselect, hpages, hmanifest,
    (manifest_within_budget_iff sized_canonicalSizes hselect hpages hmanifest).mpr
      fun taken htaken hfits ↦ ?_⟩
  have hcount := length_lt_of_fitsBesides htaken hfits
  have hmessages : taken.length * maxPageBytes ≤ 63 * maxPageBytes :=
    Nat.mul_le_mul_right _ (Nat.le_of_lt_succ hcount)
  have hlimit : maxPackageBytes = 64 * maxPageBytes := rfl
  have hframe : 200 ≤ maxPageBytes := by decide
  rw [packageBytes_of, totalBytes_sampleReadState, totalBytes_of_beginning htaken]
  simp only [totalBytes_nil, List.length_cons, List.length_nil]
  omega

/-- **Sixty-four messages of a page each make a package larger than advertised.** -/
theorem full_package_exceeds_budget :
    ¬ ∀ (outside : Outside) (size : Json → Result ℕ) (readStates groups notifications messages :
        List Obj) (package : Sections) (budget : RecoveryBudget) (history : HistoryPolicy)
        (pages : List Page) (frozenAt cutoff : String) (cursor manifest : Obj),
      CanonicalSizes outside size →
      selectSnapshotPackage outside readStates groups notifications messages =
        .ok (package, budget, history) →
      paginateSections outside package = .ok pages →
      buildManifest outside frozenAt cursor package pages.length budget history cutoff =
        .ok manifest →
      WithinAdvertisedBudget manifest := by
  intro hall
  obtain ⟨package, budget, history, hselect⟩ := pageHistory_selected
  obtain ⟨pages, manifest, hpages, hmanifest⟩ := sized_manifest hselect
  have hwithin := hall _ _ [] [] [] pageHistory package budget history pages _ _ _ manifest
    sized_canonicalSizes hselect hpages hmanifest
  rw [withinAdvertisedBudget_iff_packageBytes sized_canonicalSizes hselect hpages hmanifest,
    packageBytes_selected_le_iff maxPackageBytes hselect] at hwithin
  have hle := hwithin pageHistory (List.prefix_refl _) pageHistory_fitsBesides
  rw [packageBytes_of, totalBytes_pageHistory, totalBytes_nil] at hle
  have hover : ∀ bytes count : ℕ, ¬ 93 + 0 + 0 + bytes + 0 + count ≤ bytes :=
    fun bytes count ↦ by omega
  exact hover _ _ hle

end Awiki
