import AwikiOpenServer.Messaging.StandardSync

/-!
# The budgets of a snapshot

Two results about `select_snapshot_package`, both for packages of every size.

* **The accounting is exact** (`snapshot_budget_exact`): a package that was selected is cut into
  exactly the pages that were budgeted for it, and the manifest counts what the pages hold.
* **History can fail a snapshot after all** (`optional_history_returns_iff`). A trial page
  count raises on its own past `MAX_PAGES`, before it is compared with the pages that remain. One
  message adds at most one page, so this stays out of reach as soon as the required state takes a
  page; with no required state, a history that needs more than `MAX_PAGES` pages is refused instead
  of cut.

## Pages

A page holds items of one section, a hundred at most and a megabyte at most (`FitsPage`). Pagination
is two nested loops over a section, and a loop over the sections around them. The inner one extends
a batch by the longest beginning of what is left that still fits (`fillBatch_spec`), so the outer
one cuts a section **greedily**, and a greedy cut is as short as any: that is the general fact about
`minPages`, in `Lib/Packing.lean`. Both loops are written with a bound on their rounds here, and the
specifications show that the bound is never reached.

So the number of pages of a package is a sum over its sections (`pageCountForSections_eq`), it does
not depend on what order the loops go in, and it can be read off the items. Everything about budgets
is arithmetic from there on.

## Selection

The required state has to be within the limits, or there is no snapshot (`RequiredWithinLimits`). Of
the history, newest first, one message after the other is tried, and the loop stops in front of the
first that does not fit what is left of the items, the bytes, or the pages. `selectMessages_eq_ok`
is what it has kept, and `selectMessages_returns_iff` when it gets there at all.

## Sizes

The size of an item in canonical JSON is a parameter, and an item that cannot be encoded, or is
larger than a page, raises. `EncodesWithin` is the case that none does; it is no hypothesis of the
main results, since a selection that succeeded has shown it (`selectSnapshotPackage_encodesWithin`).
For the examples the real sizes are computed, by a function on documents without floats.
-/

namespace Awiki

open Py Packing

variable {outside : Outside}

/-! ### Sizes and fitting -/

/-- The encoded size of an item, when it can be encoded. -/
def itemBytes (outside : Outside) (item : Obj) : ℕ :=
  match outside.canonicalSize item with
  | .ok size => size
  | .error _ => 0

/-- The encoded sizes of the items, added up. -/
def totalBytes (outside : Outside) (items : List Obj) : ℕ := (items.map (itemBytes outside)).sum

/-- Each item encodes to at most `MAX_PAGE_BYTES`. -/
def EncodesWithin (outside : Outside) (items : List Obj) : Prop :=
  ∀ item ∈ items, ∃ size, outside.canonicalSize item = .ok size ∧ size ≤ maxPageBytes

/-- The items fit on one page. -/
def FitsPage (outside : Outside) (items : List Obj) : Prop :=
  items.length ≤ maxPageItems ∧ totalBytes outside items ≤ maxPageBytes

/-- The least number of pages these items can be cut into. -/
noncomputable def minPages (outside : Outside) (items : List Obj) : ℕ :=
  minBins (FitsPage outside) items

/-- Nothing is of no size. -/
@[simp] theorem totalBytes_nil : totalBytes outside [] = 0 := rfl

/-- Sizes add up, -/
@[simp] theorem totalBytes_cons (item : Obj) (items : List Obj) :
    totalBytes outside (item :: items) = itemBytes outside item + totalBytes outside items := rfl

/-- for lists as well, -/
@[simp] theorem totalBytes_append (a b : List Obj) :
    totalBytes outside (a ++ b) = totalBytes outside a + totalBytes outside b := by
  simp [totalBytes]

/-- in either order. -/
@[simp] theorem totalBytes_reverse (items : List Obj) :
    totalBytes outside items.reverse = totalBytes outside items := by
  simp [totalBytes, List.map_reverse, List.sum_reverse]

/-- Items of one size. -/
theorem totalBytes_of_canonicalSize {items : List Obj} {size : ℕ}
    (h : ∀ item ∈ items, outside.canonicalSize item = .ok size) :
    totalBytes outside items = items.length * size := by
  induction items with
  | nil => rw [totalBytes_nil, List.length_nil, Nat.zero_mul]
  | cons item rest ih =>
    have hitem := h item List.mem_cons_self
    rw [totalBytes_cons, itemBytes, hitem, ih fun x hx ↦ h x (List.mem_cons_of_mem item hx),
      List.length_cons, Nat.succ_mul, Nat.add_comm]

/-- An item whose size was found fits a page. -/
theorem encodedSize_eq_ok {item : Obj} {size : ℕ} (h : encodedSize outside item = .ok size) :
    itemBytes outside item = size ∧ EncodesWithin outside [item] := by
  obtain ⟨size', hsize, h⟩ := bind_eq_ok.mp h
  obtain ⟨u, hle, h⟩ := bind_eq_ok.mp h
  obtain rfl := pure_eq_ok.mp h
  have hbound : size' ≤ maxPageBytes := of_decide_eq_true (require_eq_ok.mp hle)
  exact ⟨by rw [itemBytes, hsize], by simpa [EncodesWithin] using ⟨size', hsize, hbound⟩⟩

/-- Where every item fits a page, sizes are found. -/
theorem EncodesWithin.encodedSize {items : List Obj} (h : EncodesWithin outside items) {item : Obj}
    (hitem : item ∈ items) : encodedSize outside item = .ok (itemBytes outside item) := by
  obtain ⟨size, hsize, hle⟩ := h item hitem
  simp [Awiki.encodedSize, itemBytes, hsize, hle, pure, Except.pure]

/-- So it is with fewer items, -/
theorem EncodesWithin.mono {a b : List Obj} (h : EncodesWithin outside b) (hsub : a ⊆ b) :
    EncodesWithin outside a :=
  fun item hitem ↦ h item (hsub hitem)

/-- and with more that fit. -/
theorem EncodesWithin.append {a b : List Obj} (ha : EncodesWithin outside a)
    (hb : EncodesWithin outside b) : EncodesWithin outside (a ++ b) := by
  intro item hitem
  rcases List.mem_append.mp hitem with hitem | hitem
  · exact ha item hitem
  · exact hb item hitem

/-- An item on its own fits a page. -/
theorem EncodesWithin.fitsPage {items : List Obj} (h : EncodesWithin outside items) {item : Obj}
    (hitem : item ∈ items) : FitsPage outside [item] := by
  obtain ⟨size, hsize, hle⟩ := h item hitem
  refine ⟨by simp [maxPageItems], ?_⟩
  simpa [itemBytes, hsize] using hle

/-- A part of what fits a page fits a page. -/
theorem fitsPage_infixClosed : InfixClosed (FitsPage outside) := by
  rintro b c ⟨s, t, rfl⟩ ⟨hlen, hbytes⟩
  simp only [List.length_append, totalBytes_append] at hlen hbytes
  exact ⟨by omega, by omega⟩

/-- Items that fit one by one can be cut into pages somehow. -/
theorem EncodesWithin.packable {items : List Obj} (h : EncodesWithin outside items) :
    ∃ k, Packable (FitsPage outside) k items := by
  refine ⟨_, items.map fun item ↦ [item], ⟨?_, ?_⟩, le_rfl⟩
  · induction items with
    | nil => rfl
    | cons item rest ih =>
      simpa using ih (h.mono (List.subset_cons_self item rest))
  · intro b hb
    obtain ⟨item, hitem, rfl⟩ := List.mem_map.mp hb
    exact h.fitsPage hitem

/-! ### One section -/

/-- The inner loop extends what the batch holds to the longest page that fits. -/
theorem fillBatch_spec (held : List Obj) {items : List Obj} (h : EncodesWithin outside items)
    (hheld : FitsPage outside held) :
    ∃ batch rest, items = batch ++ rest ∧
      fillBatch outside items held.length (totalBytes outside held) =
        .ok (batch, totalBytes outside (held ++ batch)) ∧
      FitsPage outside (held ++ batch) ∧
      ∀ y ∈ rest.head?, ¬ FitsPage outside (held ++ batch ++ [y]) := by
  induction items generalizing held with
  | nil => exact ⟨[], [], rfl, by simp [fillBatch], by simpa using hheld, by simp⟩
  | cons item rest ih =>
    have hsize := h.encodedSize (List.mem_cons_self (a := item) (l := rest))
    have hsnoc : totalBytes outside (held ++ [item]) =
        totalBytes outside held + itemBytes outside item := by simp
    by_cases hfits : FitsPage outside (held ++ [item])
    · obtain ⟨batch, left, hitems, hfill, hbatch, hfull⟩ :=
        ih _ (h.mono (List.subset_cons_self item rest)) hfits
      have hcount : held.length < maxPageItems := by
        have := hfits.1
        simp only [List.length_append, List.length_singleton] at this
        omega
      have hroom : ¬ (0 < held.length ∧
          maxPageBytes < totalBytes outside held + itemBytes outside item) := by
        have := hfits.2
        omega
      rw [List.append_assoc, List.singleton_append] at hfill hbatch
      refine ⟨item :: batch, left, by rw [hitems]; rfl, ?_, hbatch, ?_⟩
      · rw [fillBatch, if_pos hcount, hsize, ok_bind, if_neg hroom]
        simp only [List.length_append, List.length_singleton, hsnoc] at hfill
        rw [hfill]
        rfl
      · simpa using hfull
    · refine ⟨[], item :: rest, rfl, ?_, by simpa using hheld, by simpa using hfits⟩
      rw [fillBatch]
      split
      · rename_i hcount
        have hover : maxPageBytes < totalBytes outside held + itemBytes outside item := by
          by_contra hle
          exact hfits ⟨by rw [List.length_append]; exact hcount, by rw [hsnoc]; omega⟩
        -- A single item fits a page, so the batch is not empty here.
        have hpos : 0 < held.length := by
          refine List.length_pos_iff.mpr fun hnil ↦ ?_
          have hone := (h.fitsPage (List.mem_cons_self (a := item) (l := rest))).2
          simp only [hnil, totalBytes_nil, totalBytes_cons] at hover hone
          omega
        rw [hsize, ok_bind, if_pos ⟨hpos, hover⟩]
        simp
        rfl
      · simp

/-- The page of a batch. -/
def pageOf (outside : Outside) (name : SnapshotSection) (batch : List Obj) : Page :=
  ⟨name, batch, totalBytes outside batch⟩

/-- **The outer loop cuts greedily**, and raises where the pages run out. It takes as many rounds as
there are items at most, so more of them change nothing. -/
theorem paginateItems_spec {items : List Obj} (h : EncodesWithin outside items)
    (name : SnapshotSection) :
    ∃ bins, Greedy (FitsPage outside) items bins ∧
      ∀ rounds, items.length ≤ rounds → ∀ pages : List Page, pages.length ≤ maxPages →
        paginateItems outside name rounds items pages =
          if pages.length + bins.length ≤ maxPages then
            .ok (pages ++ bins.map (pageOf outside name))
          else .error (requiredStateTooLarge [("total_pages", .int (maxPages + 1 : ℕ))]) := by
  -- By the length of what is left: a batch is not empty, so the rest is shorter.
  induction hn : items.length using Nat.strong_induction_on generalizing items with
  | _ n ih =>
    subst hn
    cases items with
    | nil =>
      refine ⟨[], .nil, fun rounds _ pages hpages ↦ ?_⟩
      cases rounds <;> simp [paginateItems, hpages]
    | cons item more =>
      obtain ⟨batch, rest, hitems, hfill, hbatch, hfull⟩ :=
        fillBatch_spec [] h ⟨Nat.zero_le _, Nat.zero_le _⟩
      simp only [List.length_nil, totalBytes_nil, List.nil_append] at hfill hbatch hfull
      have hne : batch ≠ [] := by
        rintro rfl
        rw [List.nil_append] at hitems
        exact hfull item (by rw [← hitems]; rfl) (h.fitsPage List.mem_cons_self)
      have hshort : rest.length < (item :: more).length := by
        have hpos := List.length_pos_iff.mpr hne
        rw [hitems, List.length_append]
        omega
      have hrest : EncodesWithin outside rest :=
        h.mono (hitems ▸ List.subset_append_right batch rest)
      obtain ⟨bins, hbins, hpaginate⟩ := ih _ hshort hrest rfl
      refine ⟨batch :: bins, hitems ▸ .cons hne hbatch hfull hbins, fun rounds hrounds ↦ ?_⟩
      obtain ⟨rounds, rfl⟩ : ∃ r, rounds = r + 1 :=
        Nat.exists_eq_add_one.mpr (Nat.lt_of_lt_of_le (by simp) hrounds)
      intro pages hpages
      have hdrop : (item :: more).drop batch.length = rest := by rw [hitems, List.drop_left]
      rw [paginateItems, hfill, ok_bind]
      · dsimp only
        rw [hdrop]
        have hlength : (pages ++ [(⟨name, batch, totalBytes outside batch⟩ : Page)]).length =
            pages.length + 1 := by simp
        simp only [hlength]
        by_cases hroom : pages.length + 1 ≤ maxPages
        · rw [decide_eq_true hroom, require_true, ok_bind,
            hpaginate rounds (by omega) _ (by rw [hlength]; exact hroom), hlength,
            List.length_cons, Nat.add_right_comm, Nat.add_assoc, List.map_cons, List.append_assoc]
          rfl
        · have hlast : pages.length = maxPages := by omega
          rw [decide_eq_false hroom, if_neg (by rw [List.length_cons]; omega), hlast]
          rfl
      · rintro ⟨⟩

/-! ### All sections -/

/-- The items of a section, collected from the pages in order. -/
def collected (pages : List Page) (name : SnapshotSection) : List Obj :=
  (pages.filter fun page ↦ decide (page.name = name)).flatMap Page.items

/-- The pages the sections need, each on its own. -/
noncomputable def sectionPages (outside : Outside) (sections : Sections) : ℕ :=
  (sectionOrder.map fun name ↦ minPages outside (sections name)).sum

/-- Every item of the package can be put on a page. -/
def Sections.EncodesWithin (outside : Outside) (sections : Sections) : Prop :=
  ∀ name, Awiki.EncodesWithin outside (sections name)

/-- Pages one after the other. -/
theorem collected_append (a b : List Page) (name : SnapshotSection) :
    collected (a ++ b) name = collected a name ++ collected b name := by
  simp [collected]

/-- The pages of one section hold what was cut. -/
theorem collected_pageOf (bins : List (List Obj)) (name other : SnapshotSection) :
    collected (bins.map (pageOf outside name)) other =
      if other = name then bins.flatten else [] := by
  induction bins with
  | nil => simp [collected]
  | cons batch bins ih =>
    rw [List.map_cons, ← List.singleton_append, collected_append, ih, List.flatten_cons]
    by_cases hname : other = name
    · simp [collected, pageOf, hname]
    · simp [collected, pageOf, hname, Ne.symm hname]

/-- The pages of the sections `names`, each section cut into its own bins. -/
def cutPages (outside : Outside) (bins : SnapshotSection → List (List Obj))
    (names : List SnapshotSection) : List Page :=
  names.flatMap fun name ↦ (bins name).map (pageOf outside name)

/-- The pages are counted section by section. -/
theorem length_cutPages (bins : SnapshotSection → List (List Obj)) (names : List SnapshotSection) :
    (cutPages outside bins names).length = (names.map fun name ↦ (bins name).length).sum := by
  simp [cutPages, List.length_flatMap]

/-- Every section is found again on its pages. -/
theorem collected_cutPages (bins : SnapshotSection → List (List Obj)) (name : SnapshotSection) :
    collected (cutPages outside bins sectionOrder) name = (bins name).flatten := by
  simp only [cutPages, sectionOrder, List.flatMap_cons, List.flatMap_nil, collected_append,
    collected_pageOf]
  cases name <;> simp [collected]

/-- The fold over the sections, from any pages so far. -/
theorem paginate_foldlM {sections : Sections} {bins : SnapshotSection → List (List Obj)}
    (hsection : ∀ name, ∀ pages : List Page, pages.length ≤ maxPages →
      paginateItems outside name (sections name).length (sections name) pages =
        if pages.length + (bins name).length ≤ maxPages then
          .ok (pages ++ (bins name).map (pageOf outside name))
        else .error (requiredStateTooLarge [("total_pages", .int (maxPages + 1 : ℕ))]))
    (names : List SnapshotSection) {pages : List Page} (hpages : pages.length ≤ maxPages) :
    names.foldlM (fun pages name ↦
        paginateItems outside name (sections name).length (sections name) pages) pages =
      if pages.length + (cutPages outside bins names).length ≤ maxPages then
        .ok (pages ++ cutPages outside bins names)
      else .error (requiredStateTooLarge [("total_pages", .int (maxPages + 1 : ℕ))]) := by
  induction names generalizing pages with
  | nil => simp [cutPages, hpages, pure, Except.pure]
  | cons name names ih =>
    have hcut : cutPages outside bins (name :: names) =
        (bins name).map (pageOf outside name) ++ cutPages outside bins names := rfl
    rw [List.foldlM_cons, hsection name pages hpages, hcut, List.length_append, List.length_map]
    by_cases hroom : pages.length + (bins name).length ≤ maxPages
    · have hpages' : (pages ++ (bins name).map (pageOf outside name)).length ≤ maxPages := by
        simpa using hroom
      rw [if_pos hroom, ok_bind, ih hpages', List.length_append, List.length_map, Nat.add_assoc,
        List.append_assoc]
    · rw [if_neg hroom, error_bind, if_neg (by omega)]

/-- Pagination cuts every section greedily. -/
theorem paginateNonemptySections_greedy {sections : Sections} (h : sections.EncodesWithin outside) :
    ∃ bins : SnapshotSection → List (List Obj),
      (∀ name, Greedy (FitsPage outside) (sections name) (bins name)) ∧
      (cutPages outside bins sectionOrder).length = sectionPages outside sections ∧
      paginateNonemptySections outside sections =
        if (cutPages outside bins sectionOrder).length ≤ maxPages then
          .ok (cutPages outside bins sectionOrder)
        else .error (requiredStateTooLarge [("total_pages", .int (maxPages + 1 : ℕ))]) := by
  choose bins hgreedy hpaginate using fun name ↦ paginateItems_spec (h name) name
  refine ⟨bins, hgreedy, ?_, ?_⟩
  · rw [length_cutPages, sectionPages]
    simp only [minPages, (hgreedy _).length_eq fitsPage_infixClosed]
  · have hnone : ([] : List Page).length ≤ maxPages := Nat.zero_le _
    have hfold := paginate_foldlM (fun name ↦ hpaginate name _ le_rfl) sectionOrder hnone
    rwa [List.length_nil, Nat.zero_add, List.nil_append] at hfold

/-- **Page counts add.** The package is cut section by section, into as few pages as each section
allows, and every section is found again on its pages; past `MAX_PAGES` pagination raises. -/
theorem paginateNonemptySections_spec {sections : Sections} (h : sections.EncodesWithin outside) :
    ∃ cut : List Page, cut.length = sectionPages outside sections ∧
      (∀ name, collected cut name = sections name) ∧
      paginateNonemptySections outside sections =
        if cut.length ≤ maxPages then .ok cut
        else .error (requiredStateTooLarge [("total_pages", .int (maxPages + 1 : ℕ))]) := by
  obtain ⟨bins, hgreedy, hlength, hcut⟩ := paginateNonemptySections_greedy h
  refine ⟨_, hlength, fun name ↦ ?_, hcut⟩
  rw [collected_cutPages, (hgreedy name).isPacking.flatten]

/-- The page counter: the pages the sections need, or an exception past `MAX_PAGES`. -/
theorem pageCountForSections_eq {sections : Sections} (h : sections.EncodesWithin outside) :
    pageCountForSections outside sections =
      if sectionPages outside sections ≤ maxPages then .ok (sectionPages outside sections)
      else .error (requiredStateTooLarge [("total_pages", .int (maxPages + 1 : ℕ))]) := by
  obtain ⟨cut, hlength, -, hcut⟩ := paginateNonemptySections_spec h
  rw [pageCountForSections, hcut, ← hlength]
  split
  · rfl
  · rfl

/-- A page count that is found is the number of pages, and within the limit. -/
theorem pageCountForSections_eq_ok {sections : Sections} (h : sections.EncodesWithin outside)
    {pages : ℕ} (hpages : pageCountForSections outside sections = .ok pages) :
    pages = sectionPages outside sections ∧ pages ≤ maxPages := by
  rw [pageCountForSections_eq h] at hpages
  split at hpages
  · rename_i hle
    obtain rfl := Except.ok.inj hpages
    exact ⟨rfl, hle⟩
  · cases hpages

/-- The pages of a package, section by section. -/
theorem sectionPages_of (readStates groups messages notifications : List Obj) :
    sectionPages outside (.of readStates groups messages notifications) =
      minPages outside readStates + minPages outside groups + minPages outside messages +
        minPages outside notifications := by
  simp [sectionPages, sectionOrder, Sections.of, Nat.add_assoc]

/-- Nothing takes no pages. -/
@[simp] theorem minPages_nil : minPages outside [] = 0 := minBins_nil

/-- The pages of the history alone. -/
theorem sectionPages_messageSection (messages : List Obj) :
    sectionPages outside (messageSection messages) = minPages outside messages := by
  simp [messageSection, sectionPages_of]

/-- A package of items that fit is one that can be paged. -/
theorem Sections.EncodesWithin.of {readStates groups messages notifications : List Obj}
    (hrequired : Awiki.EncodesWithin outside (readStates ++ groups ++ notifications))
    (hmessages : Awiki.EncodesWithin outside messages) :
    (Sections.of readStates groups messages notifications).EncodesWithin outside := by
  intro name item hitem
  cases name with
  | readStates => exact hrequired item (by simp [show item ∈ readStates from hitem])
  | groups => exact hrequired item (by simp [show item ∈ groups from hitem])
  | recentPlainMessages => exact hmessages item hitem
  | unexpiredSystemNotifications =>
    exact hrequired item (by simp [show item ∈ notifications from hitem])

/-- So is the history alone. -/
theorem messageSection_encodesWithin {messages : List Obj}
    (h : Awiki.EncodesWithin outside messages) :
    (messageSection messages).EncodesWithin outside :=
  .of (by simp [EncodesWithin]) h

/-! ### Selection -/

/-- The messages, newest first, fit the item, byte and page budgets together. -/
structure FitsBudgets (outside : Outside) (items bytes pages : ℕ) (newest : List Obj) : Prop where
  items_le : newest.length ≤ items
  bytes_le : totalBytes outside newest ≤ bytes
  pages_le : Packable (FitsPage outside) pages newest.reverse

/-- The selected messages, newest first, are within what the required state leaves over. -/
structure Affordable (outside : Outside) (items bytes pages : ℕ) (selected : List Obj) : Prop where
  encodes : EncodesWithin outside selected
  items_le : selected.length ≤ items
  bytes_le : totalBytes outside selected ≤ bytes
  pages_le : minPages outside selected.reverse ≤ pages

/-- No messages are always affordable. -/
theorem Affordable.nil (items bytes pages : ℕ) : Affordable outside items bytes pages [] :=
  ⟨by simp [EncodesWithin], Nat.zero_le _, Nat.zero_le _, by simp⟩

/-- The trial page count of the history. -/
theorem pageCountForSections_messages {messages : List Obj}
    (h : Awiki.EncodesWithin outside messages) :
    pageCountForSections outside (messageSection messages) =
      if minPages outside messages ≤ maxPages then .ok (minPages outside messages)
      else .error (requiredStateTooLarge [("total_pages", .int (maxPages + 1 : ℕ))]) := by
  rw [pageCountForSections_eq (messageSection_encodesWithin h), sectionPages_messageSection]

/-- The order makes no difference. -/
theorem EncodesWithin.reverse {items : List Obj} (h : EncodesWithin outside items) :
    EncodesWithin outside items.reverse :=
  h.mono fun _ hitem ↦ List.mem_reverse.mp hitem

/-- What the selection loop keeps is affordable, and a beginning of the messages offered. It stops
in front of a message that is not affordable any more, and says so. -/
theorem selectMessages_eq_ok {items bytes pages : ℕ} {selected rest kept : List Obj} {encoded : ℕ}
    {truncation : Option Truncation} (hselected : Affordable outside items bytes pages selected)
    (h : selectMessages outside items bytes pages selected (totalBytes outside selected) rest =
      .ok (kept, encoded, truncation)) :
    Affordable outside items bytes pages kept ∧ encoded = totalBytes outside kept ∧
      ∃ newest older, rest = newest ++ older ∧ kept = selected ++ newest ∧
        (truncation = none ↔ older = []) ∧
        ∀ item ∈ older.head?, ¬ FitsBudgets outside items bytes pages (kept ++ [item]) := by
  induction rest generalizing selected with
  | nil =>
    obtain ⟨rfl, rfl, rfl⟩ : selected = kept ∧ totalBytes outside selected = encoded ∧
        none = truncation := by
      simpa [selectMessages] using h
    exact ⟨hselected, rfl, [], [], rfl, by simp, by simp, by simp⟩
  | cons item rest ih =>
    rw [selectMessages] at h
    obtain ⟨size, hsize, h⟩ := bind_eq_ok.mp h
    obtain ⟨rfl, hitem⟩ := encodedSize_eq_ok hsize
    -- Wherever the loop stops, it keeps what it had, and the message in front is the reason.
    have hstop : ∀ reason : Truncation,
        (pure (selected, totalBytes outside selected, some reason) : Result Selected) =
          .ok (kept, encoded, truncation) →
        ¬ FitsBudgets outside items bytes pages (selected ++ [item]) →
        Affordable outside items bytes pages kept ∧ encoded = totalBytes outside kept ∧
          ∃ newest older, item :: rest = newest ++ older ∧ kept = selected ++ newest ∧
            (truncation = none ↔ older = []) ∧
            ∀ item ∈ older.head?, ¬ FitsBudgets outside items bytes pages (kept ++ [item]) := by
      rintro reason ⟨⟩ hover
      exact ⟨hselected, rfl, [], item :: rest, rfl, by simp, by simp, by simpa using hover⟩
    have htotal : totalBytes outside selected + itemBytes outside item =
        totalBytes outside (selected ++ [item]) := by simp
    rw [htotal] at h
    split at h
    · rename_i hitems
      refine hstop _ h fun hroom ↦ ?_
      have hlength := hroom.items_le
      rw [List.length_append, List.length_singleton] at hlength
      omega
    split at h
    · rename_i hbytes
      exact hstop _ h fun hroom ↦ absurd hroom.bytes_le (Nat.not_le.mpr hbytes)
    rename_i hitems hbytes
    obtain ⟨count, hcount, h⟩ := bind_eq_ok.mp h
    have hencodes := hselected.encodes.append hitem
    obtain ⟨rfl, -⟩ :=
      pageCountForSections_eq_ok (messageSection_encodesWithin hencodes.reverse) hcount
    rw [sectionPages_messageSection] at h
    split at h
    · rename_i hpages
      exact hstop _ h fun hroom ↦ absurd (minBins_le hroom.pages_le) (Nat.not_le.mpr hpages)
    rename_i hpages
    -- The message is taken; the loop goes on from a selection that is longer by it.
    have htaken : Affordable outside items bytes pages (selected ++ [item]) :=
      ⟨hencodes, by rw [List.length_append, List.length_singleton]; omega, by omega, by omega⟩
    obtain ⟨hkept, hencoded, newest, older, hrest, hnewest, hreason, hover⟩ := ih htaken h
    refine ⟨hkept, hencoded, item :: newest, older, by rw [hrest, List.cons_append], ?_, hreason,
      hover⟩
    rw [hnewest, List.append_assoc, List.singleton_append]

/-- One more message raises the page count by at most one. -/
theorem minPages_snoc_le {selected : List Obj} {item : Obj}
    (h : EncodesWithin outside (selected ++ [item])) :
    minPages outside (selected ++ [item]).reverse ≤ minPages outside selected.reverse + 1 := by
  rw [List.reverse_append]
  exact minBins_cons_le (h.fitsPage (by simp))
    (h.mono (List.subset_append_left selected [item])).reverse.packable

/-- **When the selection loop returns**: always, while a page is left over for one message too
many; else exactly when no affordable beginning of the history needs more than `MAX_PAGES`. -/
theorem selectMessages_returns_iff (items bytes : ℕ) {pages : ℕ} (selected : List Obj)
    {rest : List Obj}
    (hpages : pages ≤ maxPages) (hrest : EncodesWithin outside rest)
    (hselected : Affordable outside items bytes pages selected) :
    (∃ r, selectMessages outside items bytes pages selected (totalBytes outside selected) rest =
        .ok r) ↔
      pages < maxPages ∨ ∀ newest, newest <+: rest → (selected ++ newest).length ≤ items →
        totalBytes outside (selected ++ newest) ≤ bytes →
          minPages outside (selected ++ newest).reverse ≤ maxPages := by
  induction rest generalizing selected with
  | nil =>
    refine iff_of_true ⟨_, rfl⟩ (.inr fun newest hnewest _ _ ↦ ?_)
    rw [List.prefix_nil.mp hnewest, List.append_nil]
    exact hselected.pages_le.trans hpages
  | cons item rest ih =>
    have hnil : minPages outside (selected ++ []).reverse ≤ maxPages := by
      rw [List.append_nil]
      exact hselected.pages_le.trans hpages
    have hitem : EncodesWithin outside [item] := hrest.mono (by simp)
    have hencodes := hselected.encodes.append hitem
    have htotal : totalBytes outside (selected ++ [item]) =
        totalBytes outside selected + itemBytes outside item := by simp
    rw [selectMessages, hrest.encodedSize List.mem_cons_self, ok_bind]
    split
    · rename_i hfull
      refine iff_of_true ⟨_, rfl⟩ (.inr fun newest hnewest hlength _ ↦ ?_)
      rcases List.prefix_cons_iff.mp hnewest with rfl | ⟨more, rfl, -⟩
      · exact hnil
      · simp only [List.length_append, List.length_cons] at hlength
        omega
    split
    · rename_i hfull
      refine iff_of_true ⟨_, rfl⟩ (.inr fun newest hnewest _ hbytes ↦ ?_)
      rcases List.prefix_cons_iff.mp hnewest with rfl | ⟨more, rfl, -⟩
      · exact hnil
      · simp only [totalBytes_append, totalBytes_cons] at hbytes
        omega
    rename_i hitems hbytes
    dsimp only
    rw [pageCountForSections_messages hencodes.reverse]
    -- One message more is one page more at most, so the count can pass `MAX_PAGES` only from there.
    have hone := minPages_snoc_le hencodes
    by_cases hmax : minPages outside (selected ++ [item]).reverse ≤ maxPages
    · rw [if_pos hmax, ok_bind]
      split
      · exact iff_of_true ⟨_, rfl⟩ (.inl (by omega))
      · have htaken : Affordable outside items bytes pages (selected ++ [item]) :=
          ⟨hencodes, by rw [List.length_append, List.length_singleton]; omega, by omega, by omega⟩
        rw [← htotal, ih _ (hrest.mono (List.subset_cons_self item rest)) htaken]
        refine or_congr_right ⟨fun h newest hnewest ↦ ?_, fun h newest hnewest ↦ ?_⟩
        · rcases List.prefix_cons_iff.mp hnewest with rfl | ⟨more, rfl, hmore⟩
          · exact fun _ _ ↦ hnil
          · simpa using h more hmore
        · simpa using h (item :: newest) (List.cons_prefix_cons.mpr ⟨rfl, hnewest⟩)
    · rw [if_neg hmax, error_bind]
      refine iff_of_false (by rintro ⟨r, ⟨⟩⟩) ?_
      rintro (hlt | hall)
      · have := hselected.pages_le
        omega
      · refine hmax (hall [item] (by simp) ?_ ?_)
        · rw [List.length_append, List.length_singleton]
          omega
        · omega

/-! ### The required state -/

/-- Sizes that were found are those of the items. -/
theorem encodedSizes_eq_ok {items : List Obj} {bytes : ℕ}
    (h : encodedSizes outside items = .ok bytes) :
    EncodesWithin outside items ∧ bytes = totalBytes outside items := by
  induction items generalizing bytes with
  | nil => exact ⟨by simp [EncodesWithin], (Except.ok.inj h).symm⟩
  | cons item rest ih =>
    obtain ⟨size, hsize, h⟩ := bind_eq_ok.mp h
    obtain ⟨total, htotal, h⟩ := bind_eq_ok.mp h
    obtain ⟨rfl, hitem⟩ := encodedSize_eq_ok hsize
    obtain ⟨hrest, rfl⟩ := ih htotal
    obtain rfl := pure_eq_ok.mp h
    exact ⟨hitem.append hrest, rfl⟩

/-- Where every item fits a page, they are found. -/
theorem EncodesWithin.encodedSizes {items : List Obj} (h : EncodesWithin outside items) :
    encodedSizes outside items = .ok (totalBytes outside items) := by
  induction items with
  | nil => rfl
  | cons item rest ih =>
    rw [Awiki.encodedSizes, h.encodedSize List.mem_cons_self, ok_bind,
      ih (h.mono (List.subset_cons_self item rest)), ok_bind]
    rfl

/-- The required state is within its limits: items, bytes and pages. -/
structure RequiredWithinLimits (outside : Outside) (readStates groups notifications : List Obj) :
    Prop where
  encodes : EncodesWithin outside (readStates ++ groups ++ notifications)
  items_le : (readStates ++ groups ++ notifications).length ≤ maxPackageItems
  bytes_le : totalBytes outside (readStates ++ groups ++ notifications) ≤ maxPackageBytes
  pages_le : minPages outside readStates + minPages outside groups +
    minPages outside notifications ≤ maxPages

/-- The pages of the required state. -/
theorem sectionPages_requiredSections (readStates groups notifications : List Obj) :
    sectionPages outside (requiredSections readStates groups notifications) =
      minPages outside readStates + minPages outside groups + minPages outside notifications := by
  simp [requiredSections, sectionPages_of]

/-- A required state whose items fit can be paged. -/
theorem requiredSections_encodesWithin {readStates groups notifications : List Obj}
    (h : EncodesWithin outside (readStates ++ groups ++ notifications)) :
    (requiredSections readStates groups notifications).EncodesWithin outside :=
  .of h (by simp [EncodesWithin])

/-- What a required state within its limits is budgeted with. -/
noncomputable def budgetOf (outside : Outside) (readStates groups notifications : List Obj) :
    RecoveryBudget where
  requiredStateItems := (readStates ++ groups ++ notifications).length
  requiredStateEncodedBytes := totalBytes outside (readStates ++ groups ++ notifications)
  requiredStatePages := minPages outside readStates + minPages outside groups +
    minPages outside notifications

/-- **A required state gets a budget exactly when it is within its limits.** -/
theorem requiredBudget_eq_ok_iff {readStates groups notifications : List Obj}
    {budget : RecoveryBudget} :
    requiredBudget outside readStates groups notifications = .ok budget ↔
      RequiredWithinLimits outside readStates groups notifications ∧
        budget = budgetOf outside readStates groups notifications := by
  constructor
  · intro h
    obtain ⟨bytes, hbytes, h⟩ := bind_eq_ok.mp h
    obtain ⟨_, hlimits, h⟩ := bind_eq_ok.mp h
    obtain ⟨pages, hpages, h⟩ := bind_eq_ok.mp h
    obtain ⟨-, -, h⟩ := bind_eq_ok.mp h
    obtain ⟨hencodes, rfl⟩ := encodedSizes_eq_ok hbytes
    obtain ⟨rfl, hle⟩ :=
      pageCountForSections_eq_ok (requiredSections_encodesWithin hencodes) hpages
    rw [sectionPages_requiredSections] at hle h
    have hlimits := require_eq_ok.mp hlimits
    rw [Bool.and_eq_true, decide_eq_true_eq, decide_eq_true_eq] at hlimits
    exact ⟨⟨hencodes, hlimits.1, hlimits.2, hle⟩, (pure_eq_ok.mp h).symm⟩
  · rintro ⟨h, rfl⟩
    have hcount := pageCountForSections_eq (requiredSections_encodesWithin h.encodes)
    rw [sectionPages_requiredSections, if_pos h.pages_le] at hcount
    have hlimits : (decide ((readStates ++ groups ++ notifications).length ≤ maxPackageItems) &&
        decide (totalBytes outside (readStates ++ groups ++ notifications) ≤ maxPackageBytes)) =
          true := by
      rw [Bool.and_eq_true, decide_eq_true_eq, decide_eq_true_eq]
      exact ⟨h.items_le, h.bytes_le⟩
    rw [requiredBudget, h.encodes.encodedSizes, ok_bind, hlimits, require_true, ok_bind, hcount,
      ok_bind, decide_eq_true h.pages_le, require_true, ok_bind]
    rfl

/-! ### Exact accounting -/

/-- A manifest counts the items of each section. -/
theorem buildManifest_itemCount {frozenAt cutoff : String} {cursor manifest : Obj}
    {package : Sections} {totalPages : ℕ} {budget : RecoveryBudget} {history : HistoryPolicy}
    (h : buildManifest outside frozenAt cursor package totalPages budget history cutoff =
      .ok manifest) (name : SnapshotSection) :
    manifestItemCount manifest name = .int (package name).length := by
  obtain ⟨sections, hsections, h⟩ := bind_eq_ok.mp h
  obtain ⟨bytes, -, h⟩ := bind_eq_ok.mp h
  obtain ⟨scanSeq, -, h⟩ := bind_eq_ok.mp h
  obtain ⟨digest, -, h⟩ := bind_eq_ok.mp h
  obtain rfl := pure_eq_ok.mp h
  have hget : ∀ names : List SnapshotSection, ∀ entries : Obj, name ∈ names →
      manifestSections outside package names = .ok entries →
      ∃ entry, entries.get name.text = .obj entry ∧
        Obj.get entry "item_count" = .int (package name).length := by
    intro names
    induction names with
    | nil => simp
    | cons first names ih =>
      intro entries hname hentries
      obtain ⟨firstDigest, -, hentries⟩ := bind_eq_ok.mp hentries
      obtain ⟨rest, hrest, hentries⟩ := bind_eq_ok.mp hentries
      obtain rfl := pure_eq_ok.mp hentries
      by_cases heq : name = first
      · subst heq
        exact ⟨_, by rw [Obj.get_cons, if_pos rfl], rfl⟩
      · obtain ⟨entry, hentry, hcount⟩ :=
          ih rest (List.mem_of_ne_of_mem heq hname) hrest
        refine ⟨entry, ?_, hcount⟩
        rw [Obj.get_cons,
          if_neg (by cases name <;> cases first <;> simp_all [SnapshotSection.text]), hentry]
  obtain ⟨entry, hentry, hcount⟩ := hget sectionOrder sections (by cases name <;> decide) hsections
  show Obj.get ((Obj.get ((Json.obj sections).obj?.getD []) name.text).obj?.getD []) _ = _
  rw [Json.obj?_obj, Option.getD_some, hentry]
  exact hcount

/-- What a selected package consists of, and what its history policy tells of the messages. -/
theorem selectSnapshotPackage_eq_ok {readStates groups notifications messages : List Obj}
    {package : Sections} {budget : RecoveryBudget} {history : HistoryPolicy}
    (h : selectSnapshotPackage outside readStates groups notifications messages =
      .ok (package, budget, history)) :
    ∃ newest older, messages = newest ++ older ∧
      RequiredWithinLimits outside readStates groups notifications ∧
      budget = budgetOf outside readStates groups notifications ∧
      Affordable outside (maxPackageItems - budget.requiredStateItems)
        (maxPackageBytes - budget.requiredStateEncodedBytes)
        (maxPages - budget.requiredStatePages) newest ∧
      (∀ item ∈ older.head?, ¬ FitsBudgets outside (maxPackageItems - budget.requiredStateItems)
        (maxPackageBytes - budget.requiredStateEncodedBytes)
        (maxPages - budget.requiredStatePages) (newest ++ [item])) ∧
      package = .of readStates groups newest.reverse notifications ∧
      history.returnedPages = minPages outside newest.reverse ∧
      history.excludedOlderMessages = older.length ∧
      (history.truncationReason = none ↔ older = []) ∧
      oldestEventSeq outside newest.reverse = .ok history.oldestIncludedEventSeq := by
  obtain ⟨budget', hbudget, h⟩ := bind_eq_ok.mp h
  obtain ⟨hlimits, hbudget'⟩ := requiredBudget_eq_ok_iff.mp hbudget
  obtain ⟨⟨kept, encoded, truncation⟩, hselect, h⟩ := bind_eq_ok.mp h
  obtain ⟨hkept, -, newest, older, hmessages, hnil, hreason, hover⟩ :=
    selectMessages_eq_ok (.nil _ _ _) hselect
  obtain rfl : kept = newest := hnil
  obtain ⟨oldest, holdest, h⟩ := bind_eq_ok.mp h
  obtain ⟨pages, hpages, h⟩ := bind_eq_ok.mp h
  obtain ⟨rfl, -⟩ :=
    pageCountForSections_eq_ok (messageSection_encodesWithin hkept.encodes.reverse) hpages
  have hresult := pure_eq_ok.mp h
  simp only [Prod.mk.injEq] at hresult
  obtain ⟨rfl, rfl, rfl⟩ := hresult
  exact ⟨kept, older, hmessages, hlimits, hbudget', hkept, hover, rfl,
    sectionPages_messageSection _, by simp [hmessages], hreason, holdest⟩

/-- Whatever was selected fits its pages, item by item. -/
theorem selectSnapshotPackage_encodesWithin {readStates groups notifications messages : List Obj}
    {package : Sections} {budget : RecoveryBudget} {history : HistoryPolicy}
    (h : selectSnapshotPackage outside readStates groups notifications messages =
      .ok (package, budget, history)) : package.EncodesWithin outside := by
  obtain ⟨newest, older, -, hlimits, -, hkept, -, hpackage, -⟩ := selectSnapshotPackage_eq_ok h
  exact hpackage ▸ .of hlimits.encodes hkept.encodes.reverse

/-- A selected package is within its item limit. -/
theorem selectSnapshotPackage_items_le {readStates groups notifications messages : List Obj}
    {package : Sections} {budget : RecoveryBudget} {history : HistoryPolicy}
    (h : selectSnapshotPackage outside readStates groups notifications messages =
      .ok (package, budget, history)) :
    (sectionOrder.map fun name ↦ (package name).length).sum ≤ maxPackageItems := by
  obtain ⟨newest, older, -, hlimits, rfl, hkept, -, rfl, -⟩ := selectSnapshotPackage_eq_ok h
  have hroom := hkept.items_le
  have hrequired := hlimits.items_le
  simp only [budgetOf, List.length_append] at hroom hrequired
  simp only [sectionOrder, Sections.of, List.map_cons, List.map_nil, List.sum_cons, List.sum_nil,
    List.length_reverse]
  omega

/-- The pages of a package: not too many, at least one, and every section is found again on them. -/
theorem paginateSections_eq_ok {package : Sections} (h : package.EncodesWithin outside)
    {pages : List Page} (hpages : paginateSections outside package = .ok pages) :
    pages.length ≤ maxPages ∧ pages ≠ [] ∧ ∀ name, collected pages name = package name := by
  obtain ⟨cut, -, hitems, hcut⟩ := paginateNonemptySections_spec h
  unfold paginateSections at hpages
  obtain ⟨cut', hok, hpages⟩ := bind_eq_ok.mp hpages
  obtain ⟨_, hle, hpages⟩ := bind_eq_ok.mp hpages
  obtain rfl := pure_eq_ok.mp hpages
  refine ⟨of_decide_eq_true (require_eq_ok.mp hle), ?_⟩
  rw [hcut] at hok
  split at hok
  · obtain rfl := Except.ok.inj hok
    split
    · -- Nothing at all: the empty package still has a page to be served.
      rename_i hempty
      obtain rfl := List.isEmpty_iff.mp hempty
      refine ⟨by simp, fun name ↦ ?_⟩
      rw [← hitems name]
      cases name <;> rfl
    · rename_i hfull
      exact ⟨by simpa using hfull, hitems⟩
  · cases hok

/-- A package that can do with `MAX_PAGES` pages is paged: into as many as its sections need, or
into one empty page when there is nothing at all. -/
theorem paginateSections_of_sectionPages_le {package : Sections}
    (h : package.EncodesWithin outside) (hle : sectionPages outside package ≤ maxPages) :
    ∃ pages, paginateSections outside package = .ok pages ∧
      ((∃ name, package name ≠ []) → pages.length = sectionPages outside package) ∧
      ((∀ name, package name = []) →
        sectionPages outside package = 0 ∧ pages = [emptyPage]) := by
  obtain ⟨cut, hlength, hitems, hcut⟩ := paginateNonemptySections_spec h
  rw [if_pos (hlength.trans_le hle)] at hcut
  by_cases hnil : cut = []
  -- Nothing at all: the empty package still has a page to be served.
  · refine ⟨[emptyPage], ?_, fun ⟨name, hname⟩ ↦ ?_, fun _ ↦ ⟨?_, rfl⟩⟩
    · rw [paginateSections, hcut, ok_bind, hnil]
      rfl
    · refine absurd ?_ hname
      rw [← hitems name, hnil]
      rfl
    · rw [← hlength, hnil, List.length_nil]
  · have hfalse : cut.isEmpty = false := by simpa using hnil
    refine ⟨cut, ?_, fun _ ↦ hlength, fun hempty ↦ ?_⟩
    · rw [paginateSections, hcut, ok_bind]
      simp only [hfalse, Bool.false_eq_true, if_false, decide_eq_true (hlength.trans_le hle),
        require_true, ok_bind]
      rfl
    · refine absurd (List.eq_nil_of_length_eq_zero ?_) hnil
      rw [hlength, sectionPages]
      simp [hempty]

/-- A selected package needs the pages budgeted for the required state and for the history, and
these are within the page limit. -/
theorem selectSnapshotPackage_pages {readStates groups notifications messages : List Obj}
    {package : Sections} {budget : RecoveryBudget} {history : HistoryPolicy}
    (h : selectSnapshotPackage outside readStates groups notifications messages =
      .ok (package, budget, history)) :
    budget.requiredStatePages + history.returnedPages = sectionPages outside package ∧
      sectionPages outside package ≤ maxPages := by
  obtain ⟨newest, older, -, hlimits, rfl, hkept, -, rfl, hreturned, -⟩ :=
    selectSnapshotPackage_eq_ok h
  have hroom := hkept.pages_le
  have hrequired := hlimits.pages_le
  rw [hreturned, sectionPages_of]
  simp only [budgetOf] at hroom ⊢
  omega

/-- **A selected package is paged exactly as budgeted.** Whatever the sizes: pagination does not
raise, the pages are those budgeted for the required state and for the history (or one empty page
when there is nothing at all), the package is within its item and byte limits, and each section of
the manifest counts exactly the items found by concatenating the pages. -/
theorem snapshot_budget_exact {readStates groups notifications messages : List Obj}
    {package : Sections} {budget : RecoveryBudget} {history : HistoryPolicy}
    (h : selectSnapshotPackage outside readStates groups notifications messages =
      .ok (package, budget, history)) :
    ∃ pages, paginateSections outside package = .ok pages ∧ pages.length ≤ maxPages ∧
      ((∃ name, package name ≠ []) →
        budget.requiredStatePages + history.returnedPages = pages.length) ∧
      ((∀ name, package name = []) →
        budget.requiredStatePages = 0 ∧ history.returnedPages = 0 ∧ pages = [emptyPage]) ∧
      (sectionOrder.map fun name ↦ (package name).length).sum ≤ maxPackageItems ∧
      (sectionOrder.map fun name ↦ totalBytes outside (package name)).sum ≤ maxPackageBytes ∧
      package.EncodesWithin outside ∧ (∀ name, collected pages name = package name) ∧
      ∀ frozenAt cursor cutoff manifest,
        buildManifest outside frozenAt cursor package pages.length budget history cutoff =
          .ok manifest →
        ∀ name, manifestItemCount manifest name = .int (collected pages name).length := by
  have hencodes := selectSnapshotPackage_encodesWithin h
  obtain ⟨hsum, hle⟩ := selectSnapshotPackage_pages h
  obtain ⟨pages, hpages, hfull, hempty⟩ := paginateSections_of_sectionPages_le hencodes hle
  obtain ⟨hpagesLe, -, hitems⟩ := paginateSections_eq_ok hencodes hpages
  refine ⟨pages, hpages, hpagesLe, fun hsome ↦ by rw [hsum, hfull hsome], fun hnone ↦ ?_,
    selectSnapshotPackage_items_le h, ?_, hencodes, hitems,
    fun frozenAt cursor cutoff manifest hbuild name ↦ ?_⟩
  · obtain ⟨hzero, hone⟩ := hempty hnone
    exact ⟨by omega, by omega, hone⟩
  · obtain ⟨newest, older, -, hlimits, rfl, hkept, -, rfl, -⟩ := selectSnapshotPackage_eq_ok h
    have hroom := hkept.bytes_le
    have hrequired := hlimits.bytes_le
    simp only [budgetOf, totalBytes_append] at hroom hrequired
    simp only [sectionOrder, Sections.of, List.map_cons, List.map_nil, List.sum_cons,
      List.sum_nil, totalBytes_reverse]
    omega
  · rw [hitems name, buildManifest_itemCount hbuild]

/-! ### When the history is cut, and when it fails the snapshot -/

/-- A message item of a snapshot brings its event. -/
def CarriesEvent (item : Obj) : Prop :=
  ∃ event seq, item.lookup "event" = some (.obj event) ∧ Obj.get event "event_seq" = .str seq

/-- Where every message brings its event, the oldest one is found. -/
theorem oldestEventSeq_of_carriesEvent {messages : List Obj} (h : ∀ m ∈ messages, CarriesEvent m) :
    ∃ oldest, oldestEventSeq outside messages = .ok oldest := by
  cases messages with
  | nil => exact ⟨none, rfl⟩
  | cons item rest =>
    obtain ⟨event, seq, hevent, hseq⟩ := h item List.mem_cons_self
    refine ⟨some seq, ?_⟩
    rw [oldestEventSeq, hevent, orRaise_some, ok_bind, Json.obj?_obj, orRaise_some, ok_bind,
      Obj.lookup_of_get_eq_str hseq]
    rfl

/-- The messages the required state leaves room for, selected newest first. -/
noncomputable def selectHistory (outside : Outside)
    (readStates groups notifications messages : List Obj) : Result Selected :=
  selectMessages outside (maxPackageItems - (readStates ++ groups ++ notifications).length)
    (maxPackageBytes - totalBytes outside (readStates ++ groups ++ notifications))
    (maxPages - (minPages outside readStates + minPages outside groups +
      minPages outside notifications)) [] 0 messages

/-- Only the selection loop can fail a required state within its limits. -/
theorem selectSnapshotPackage_returns {readStates groups notifications messages : List Obj}
    (hrequired : RequiredWithinLimits outside readStates groups notifications)
    (hevents : ∀ m ∈ messages, CarriesEvent m) :
    (∃ newest budget history, newest <+: messages ∧
        selectSnapshotPackage outside readStates groups notifications messages =
          .ok (.of readStates groups newest.reverse notifications, budget, history)) ↔
      ∃ r, selectHistory outside readStates groups notifications messages = .ok r := by
  have hbudget := requiredBudget_eq_ok_iff.mpr ⟨hrequired, rfl⟩
  constructor
  · rintro ⟨newest, budget, history, -, h⟩
    obtain ⟨budget', hbudget', h⟩ := bind_eq_ok.mp h
    obtain ⟨-, rfl⟩ := requiredBudget_eq_ok_iff.mp hbudget'
    obtain ⟨r, hr, -⟩ := bind_eq_ok.mp h
    exact ⟨r, hr⟩
  · rintro ⟨⟨kept, encoded, truncation⟩, hr⟩
    obtain ⟨hkept, -, newest, older, hmessages, hnil, -⟩ := selectMessages_eq_ok (.nil _ _ _) hr
    have hnewest : newest <+: messages := ⟨older, hmessages.symm⟩
    obtain rfl : kept = newest := hnil
    obtain ⟨oldest, holdest⟩ : ∃ oldest, oldestEventSeq outside kept.reverse = .ok oldest :=
      oldestEventSeq_of_carriesEvent fun m hm ↦ hevents m (hnewest.subset (List.mem_reverse.mp hm))
    have hpages := pageCountForSections_messages hkept.encodes.reverse
    rw [if_pos (hkept.pages_le.trans (Nat.sub_le _ _))] at hpages
    refine ⟨kept, budgetOf outside readStates groups notifications, {
      returnedItems := kept.reverse.length
      returnedEncodedBytes := encoded
      returnedPages := minPages outside kept.reverse
      oldestIncludedEventSeq := oldest
      excludedOlderMessages := messages.length - kept.reverse.length
      truncationReason := truncation }, hnewest, ?_⟩
    rw [selectHistory] at hr
    rw [selectSnapshotPackage, hbudget, ok_bind]
    simp only [budgetOf]
    rw [hr, ok_bind]
    dsimp only
    rw [holdest, ok_bind, hpages, ok_bind]
    rfl

/-- A required state that is not empty takes a page. -/
theorem requiredPages_pos {readStates groups notifications : List Obj}
    (h : EncodesWithin outside (readStates ++ groups ++ notifications))
    (hne : readStates ++ groups ++ notifications ≠ []) :
    0 < minPages outside readStates + minPages outside groups +
      minPages outside notifications := by
  by_contra hzero
  have hempty : ∀ items, items ⊆ readStates ++ groups ++ notifications →
      minPages outside items = 0 → items = [] := fun items hsub hpages ↦ by
    by_contra hitems
    exact (minBins_pos (h.mono hsub).packable hitems).ne' hpages
  refine hne ?_
  rw [hempty readStates (by simp) (by omega), hempty groups (by simp) (by omega),
    hempty notifications (by simp) (by omega)]
  rfl

/-- **When a snapshot survives its history.** For every required state within its limits and every
list of messages that each fit a page, selection returns the required state with a beginning of the
history if and only if there is some required state, or no beginning of the history within the item
and byte limits needs more than `MAX_PAGES` pages. -/
theorem optional_history_returns_iff {readStates groups notifications messages : List Obj}
    (hrequired : RequiredWithinLimits outside readStates groups notifications)
    (hmessages : EncodesWithin outside messages) (hevents : ∀ m ∈ messages, CarriesEvent m) :
    (∃ newest budget history, newest <+: messages ∧
        selectSnapshotPackage outside readStates groups notifications messages =
          .ok (.of readStates groups newest.reverse notifications, budget, history)) ↔
      readStates ++ groups ++ notifications ≠ [] ∨
        ∀ newest, newest <+: messages → newest.length ≤ maxPackageItems →
          totalBytes outside newest ≤ maxPackageBytes →
            minPages outside newest.reverse ≤ maxPages := by
  rw [selectSnapshotPackage_returns hrequired hevents]
  have hloop := selectMessages_returns_iff
    (maxPackageItems - (readStates ++ groups ++ notifications).length)
    (maxPackageBytes - totalBytes outside (readStates ++ groups ++ notifications)) []
    (Nat.sub_le maxPages (minPages outside readStates + minPages outside groups +
      minPages outside notifications)) hmessages (.nil _ _ _)
  refine hloop.trans ?_
  by_cases hnil : readStates ++ groups ++ notifications = []
  -- Nothing required: the full budget is left to the history.
  · obtain ⟨rfl, rfl, rfl⟩ : readStates = [] ∧ groups = [] ∧ notifications = [] := by
      simpa using hnil
    simp
  · have hroom := Nat.sub_lt (show 0 < maxPages by decide)
      (requiredPages_pos hrequired.encodes hnil)
    exact iff_of_true (.inl hroom) (.inl hnil)

/-! ### A history of long messages -/

/-- Bytes of a character inside a canonical JSON string. -/
def jcsCharSize (c : Char) : ℕ :=
  if c.toNat = 34 ∨ c.toNat = 92 ∨ c.toNat ∈ [8, 9, 10, 12, 13] then 2
  else if c.toNat < 32 then 6
  else c.utf8Size

/-- Bytes of a canonical JSON string. -/
def jcsTextSize (s : String) : ℕ := 2 + (s.toList.map jcsCharSize).sum

mutual

/-- Bytes of the canonical JSON of a document without floats and repeated keys. -/
def jcsSize : Json → ℕ
  | .null => 4
  | .bool b => if b then 4 else 5
  | .int n => (toString n).length
  | .float _ => 0
  | .str s => jcsTextSize s
  | .arr items => 2 + (items.length - 1) + jcsItemsSize items
  | .obj fields => 2 + (fields.length - 1) + jcsFieldsSize fields

/-- Items of a list, with a comma behind each. -/
def jcsItemsSize : List Json → ℕ
  | [] => 0
  | v :: rest => jcsSize v + jcsItemsSize rest

/-- Members of an object, with a colon and a comma each. -/
def jcsFieldsSize : List (String × Json) → ℕ
  | [] => 0
  | (k, v) :: rest => jcsTextSize k + 1 + jcsSize v + jcsFieldsSize rest

end

/-- The honest world, with real encoded sizes. -/
def Outside.sized : Outside :=
  { Outside.honest with canonicalSize := fun o ↦ .ok (jcsSize (.obj o)) }

/-- A message item with this content. -/
def messageItem (seq : ℕ) (content : String) : Obj :=
  [("event", .obj [("event_seq", .str (toString seq))]),
    ("message", .obj [("content", .str content)])]

/-- A long text. -/
def longContent : String := String.ofList (List.replicate 524234 'a')

/-- A hundred and one messages, newest first, each of half a page and one byte. -/
def longHistory : List Obj := (List.range 101).map fun i ↦ messageItem (1101 - i) longContent

/-- The size of such an item. -/
theorem jcsSize_messageItem (seq : ℕ) (content : String) :
    jcsSize (.obj (messageItem seq content)) =
      jcsTextSize (toString seq) + jcsTextSize content + 47 := by
  have hkeys : jcsTextSize "event" = 7 ∧ jcsTextSize "event_seq" = 11 ∧
      jcsTextSize "message" = 9 ∧ jcsTextSize "content" = 9 := by decide
  obtain ⟨hevent, hseq, hmessage, hcontent⟩ := hkeys
  simp only [messageItem, jcsSize, jcsFieldsSize, List.length_cons, List.length_nil, hevent, hseq,
    hmessage, hcontent]
  omega

/-- A letter takes a byte. -/
theorem jcsTextSize_replicate (n : ℕ) :
    jcsTextSize (String.ofList (List.replicate n 'a')) = n + 2 := by
  have hchar : jcsCharSize 'a' = 1 := by decide
  rw [jcsTextSize, String.toList_ofList, List.map_replicate, List.sum_replicate_nat, hchar,
    Nat.mul_one, Nat.add_comm]

/-- The size of the text. -/
theorem jcsTextSize_longContent : jcsTextSize longContent = 524236 := jcsTextSize_replicate 524234

/-- A message item brings its event. -/
theorem messageItem_carriesEvent (seq : ℕ) (content : String) :
    CarriesEvent (messageItem seq content) :=
  ⟨_, _, rfl, rfl⟩

/-- Each message is of a bit more than half a page. -/
theorem canonicalSize_longHistory :
    ∀ m ∈ longHistory, Outside.sized.canonicalSize m = .ok 524289 ∧ CarriesEvent m := by
  have hseq : ∀ i ∈ List.range 101, jcsTextSize (toString (1101 - i)) = 6 := by decide +kernel
  intro m hm
  obtain ⟨i, hi, rfl⟩ := List.mem_map.mp hm
  refine ⟨?_, messageItem_carriesEvent _ _⟩
  show Except.ok (jcsSize _) = _
  rw [jcsSize_messageItem, jcsTextSize_longContent, hseq i hi]

/-- Each fits a page, -/
theorem longHistory_encodesWithin : EncodesWithin Outside.sized longHistory :=
  fun m hm ↦ ⟨524289, (canonicalSize_longHistory m hm).1, by simp [maxPageBytes]⟩

/-- and any of them together are so long. -/
theorem totalBytes_longHistory {items : List Obj} (h : items ⊆ longHistory) :
    totalBytes Outside.sized items = items.length * 524289 :=
  totalBytes_of_canonicalSize fun m hm ↦ (canonicalSize_longHistory m (h hm)).1

/-- Two of the messages do not fit on one page, so the history takes a hundred and one. -/
theorem maxPages_lt_longHistory : maxPages < minPages Outside.sized longHistory.reverse := by
  have hcount : longHistory.reverse.length ≤ minPages Outside.sized longHistory.reverse * 1 := by
    refine length_le_minBins_mul (fun b hsub hfits ↦ ?_) longHistory_encodesWithin.reverse.packable
    have hbytes := hfits.2
    rw [totalBytes_longHistory fun x hx ↦ List.mem_reverse.mp (hsub hx), maxPageBytes] at hbytes
    omega
  rw [List.length_reverse, longHistory, List.length_map, List.length_range] at hcount
  rw [maxPages, longHistory]
  omega

/-- Items that fit a page each need at most as many pages as there are items. -/
theorem EncodesWithin.minPages_le {items : List Obj} (h : EncodesWithin outside items) :
    minPages outside items ≤ items.length := by
  induction items with
  | nil => rw [minPages_nil, List.length_nil]
  | cons item rest ih =>
    have hrest := h.mono (List.subset_cons_self item rest)
    have hone := minBins_cons_le (h.fitsPage List.mem_cons_self) hrest.packable
    exact hone.trans (Nat.succ_le_succ (ih hrest))

/-- Items that fit a page each are no longer than so many pages. -/
theorem EncodesWithin.totalBytes_le {items : List Obj} (h : EncodesWithin outside items) :
    totalBytes outside items ≤ items.length * maxPageBytes := by
  induction items with
  | nil => exact Nat.zero_le _
  | cons item rest ih =>
    have hrest := ih (h.mono (List.subset_cons_self item rest))
    have hone : itemBytes outside item ≤ maxPageBytes := by
      obtain ⟨n, hn, hle⟩ := h item List.mem_cons_self
      rw [itemBytes, hn]
      exact hle
    rw [totalBytes_cons, List.length_cons, Nat.succ_mul, Nat.add_comm]
    exact Nat.add_le_add hrest hone

/-- Few items that fit a page each are within all limits. -/
theorem requiredWithinLimits_of_few {readStates groups notifications : List Obj}
    (h : EncodesWithin outside (readStates ++ groups ++ notifications))
    (hfew : (readStates ++ groups ++ notifications).length ≤ 64) :
    RequiredWithinLimits outside readStates groups notifications := by
  refine ⟨h, hfew.trans (by decide), ?_, ?_⟩
  · exact h.totalBytes_le.trans ((Nat.mul_le_mul_right _ hfew).trans (by decide))
  · have hpages : ∀ items, items ⊆ readStates ++ groups ++ notifications →
        minPages outside items ≤ items.length := fun items hsub ↦ (h.mono hsub).minPages_le
    have hread := hpages readStates (by simp)
    have hgroups := hpages groups (by simp)
    have hnotifications := hpages notifications (by simp)
    simp only [List.length_append] at hfew
    rw [maxPages]
    omega

/-- No required state is within the limits. -/
theorem empty_requiredWithinLimits : RequiredWithinLimits Outside.sized [] [] [] :=
  ⟨by simp [EncodesWithin], Nat.zero_le _, Nat.zero_le _, by simp⟩

/-- **A client with nothing but a long history gets no snapshot.** -/
theorem long_history_fails_snapshot :
    ¬ ∀ (outside : Outside) (readStates groups notifications messages : List Obj),
      RequiredWithinLimits outside readStates groups notifications →
      EncodesWithin outside messages → (∀ m ∈ messages, CarriesEvent m) →
      ∃ newest budget history, newest <+: messages ∧
        selectSnapshotPackage outside readStates groups notifications messages =
          .ok (.of readStates groups newest.reverse notifications, budget, history) := by
  intro hall
  have hreturns := hall Outside.sized [] [] [] longHistory empty_requiredWithinLimits
    longHistory_encodesWithin fun m hm ↦ (canonicalSize_longHistory m hm).2
  obtain ⟨r, hr⟩ := (selectSnapshotPackage_returns empty_requiredWithinLimits
    fun m hm ↦ (canonicalSize_longHistory m hm).2).mp hreturns
  have hloop := (selectMessages_returns_iff _ _ []
    (Nat.sub_le maxPages (minPages Outside.sized [] + minPages Outside.sized [] +
      minPages Outside.sized [])) longHistory_encodesWithin (.nil _ _ _)).mp ⟨r, hr⟩
  rcases hloop with hlt | hpages
  · simp at hlt
  · have hfull := hpages longHistory (List.prefix_refl _)
      (by simp [longHistory, maxPackageItems])
      (by rw [List.nil_append, totalBytes_longHistory (List.Subset.refl _)]
          simp [longHistory, maxPackageBytes])
    exact absurd maxPages_lt_longHistory (Nat.not_lt.mpr hfull)

/-- A read state to go with it. -/
def sampleReadState : Obj := [("thread_key", .str "conv_1"), ("state_version", .str "1")]

/-- One read state is. -/
theorem sampleReadState_withinLimits :
    RequiredWithinLimits Outside.sized [sampleReadState] [] [] := by
  refine requiredWithinLimits_of_few ?_ (by decide)
  intro item hitem
  obtain rfl := List.mem_singleton.mp hitem
  exact ⟨_, rfl, by decide +kernel⟩

/-- With a single read state the same history is cut, and the snapshot is returned. -/
theorem optional_history_cut_sample :
    ∃ newest budget history, newest <+: longHistory ∧
      selectSnapshotPackage Outside.sized [sampleReadState] [] [] longHistory =
        .ok (.of [sampleReadState] [] newest.reverse [], budget, history) :=
  (optional_history_returns_iff sampleReadState_withinLimits longHistory_encodesWithin
    fun m hm ↦ (canonicalSize_longHistory m hm).2).mpr (.inl (by simp))

/-- The state of a group, -/
def sampleGroupState : Obj :=
  [("group_did", .str "did:wba:host.example:groups:grp_0"), ("group_state_version", .str "3")]

/-- and a notification. -/
def unreadNotice : Obj := [("notification_id", .str "note_1"), ("kind", .str "group.join")]

/-- So are the three of them. -/
theorem threeSections_withinLimits :
    RequiredWithinLimits Outside.sized [sampleReadState] [sampleGroupState]
      [unreadNotice] := by
  refine requiredWithinLimits_of_few ?_ (by decide)
  intro item hitem
  simp only [List.cons_append, List.nil_append, List.mem_cons, List.not_mem_nil, or_false] at hitem
  rcases hitem with rfl | rfl | rfl <;> exact ⟨_, rfl, by decide +kernel⟩

/-- A client with something in each of the three required sections and a hundred and one long
messages: what is left of the history is paged as budgeted, and nothing of any section is lost. -/
theorem snapshot_budget_exact_sample :
    ∃ newest budget history pages, newest <+: longHistory ∧
      selectSnapshotPackage Outside.sized [sampleReadState] [sampleGroupState]
          [unreadNotice] longHistory =
        .ok (.of [sampleReadState] [sampleGroupState] newest.reverse [unreadNotice], budget,
          history) ∧
      paginateSections Outside.sized
          (.of [sampleReadState] [sampleGroupState] newest.reverse [unreadNotice]) =
        .ok pages ∧ pages.length ≤ maxPages ∧
      budget.requiredStatePages + history.returnedPages = pages.length ∧
      collected pages .recentPlainMessages = newest.reverse ∧
      collected pages .groups = [sampleGroupState] := by
  have hlimits := threeSections_withinLimits
  have hpos := requiredPages_pos hlimits.encodes (by simp)
  have hloop : ∃ r, selectHistory Outside.sized [sampleReadState] [sampleGroupState]
      [unreadNotice] longHistory = .ok r :=
    (selectMessages_returns_iff _ _ [] (Nat.sub_le _ _) longHistory_encodesWithin
      (.nil _ _ _)).mpr (.inl (Nat.sub_lt (by decide) hpos))
  obtain ⟨newest, budget, history, hnewest, hselect⟩ := (selectSnapshotPackage_returns hlimits
    fun m hm ↦ (canonicalSize_longHistory m hm).2).mpr hloop
  obtain ⟨pages, hpages, hle, hsum, -, -, -, -, hcollected, -⟩ := snapshot_budget_exact hselect
  exact ⟨newest, budget, history, pages, hnewest, hselect, hpages, hle,
    hsum ⟨.readStates, List.cons_ne_nil _ _⟩, hcollected _, hcollected _⟩

end Awiki
