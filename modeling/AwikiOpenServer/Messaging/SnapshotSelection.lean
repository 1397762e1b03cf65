import AwikiOpenServer.Messaging.SnapshotBudget

/-!
# Which messages a snapshot takes, and how it is paged

`SnapshotBudget` compares page counts with the least number of pages. Here the pages themselves are
described (`pages_partition`), and the messages that a package takes (`newest_complete_suffix`).

**Both rest on the greedy cut.** The pages of a section are a greedy cut of its items, so they are
in order, lose nothing and are as few as any cut's. The selection loop tries one message more at a
time and stops at the first that does not fit; that no longer beginning of the history fits either
is monotonicity: items and bytes only add up, and a cut of the longer history, which is paged oldest
first, restricts to a cut of its newer end (`Packable.suffix`).

## The longest beginning

Selection has no look-ahead, so it is not clear at first that it takes as much as it could: a
message that does not fit might be followed by one that does. It need not be searched for, because
the history is taken without gaps, as a beginning of the list that is offered. `FitsBudgets` says of
any beginning that it is within what the required state has left, in items, in bytes and in pages,
and `FitsBudgets.beginning` that it passes on to shorter ones; so the first that fails is the last
that has to be tried (`not_fitsBudgets_of_longer`).

## The history policy

What is told of the selection, whether it is complete, how many messages were left out, and from
which event on the history is there, is part of the statement: a client that trusts it asks for
nothing it has been given, and knows what it has not.
-/

namespace Awiki

open Py Packing

variable {outside : Outside}

/-! ### The pages of a package -/

/-- The pages of one section among all pages. -/
theorem filter_cutPages (bins : SnapshotSection → List (List Obj)) (name : SnapshotSection) :
    (cutPages outside bins sectionOrder).filter (fun page ↦ decide (page.name = name)) =
      (bins name).map (pageOf outside name) := by
  have hsection : ∀ other, ((bins other).map (pageOf outside other)).filter
      (fun page ↦ decide (page.name = name)) =
        if other = name then (bins other).map (pageOf outside other) else [] := fun other ↦ by
    by_cases hname : other = name
    · simp [pageOf, hname, List.filter_map, Function.comp_def]
    · simp [pageOf, hname, List.filter_map, Function.comp_def]
  simp only [cutPages, sectionOrder, List.flatMap_cons, List.flatMap_nil, List.filter_append,
    hsection]
  cases name <;> simp

/-- **Pagination is an order-preserving partition into the fewest pages.** For all sections whose
items each fit a page and that can do with `MAX_PAGES` pages: the pages of a section, concatenated,
are the section; every page holds an item, keeps both page limits and counts its own bytes; the
pages follow the order of the sections; no cut of a section within the page limits is shorter; and
the loop over a section has come to its end, more rounds of it would change nothing. -/
theorem pages_partition {sections : Sections} (hitems : sections.EncodesWithin outside)
    (hpages : sectionPages outside sections ≤ maxPages) :
    ∃ pages, paginateNonemptySections outside sections = .ok pages ∧ pages.length ≤ maxPages ∧
      (∀ name rounds, (sections name).length ≤ rounds → ∀ before : List Page,
        before.length ≤ maxPages →
          paginateItems outside name rounds (sections name) before =
            paginateItems outside name (sections name).length (sections name) before) ∧
      (∀ name, collected pages name = sections name) ∧
      (∀ page ∈ pages, page.items ≠ [] ∧ page.items.length ≤ maxPageItems ∧
        page.returnedEncodedBytes = totalBytes outside page.items ∧
        page.returnedEncodedBytes ≤ maxPageBytes) ∧
      pages = sectionOrder.flatMap (fun name ↦
        pages.filter fun page ↦ decide (page.name = name)) ∧
      ∀ name bins, IsPacking (FitsPage outside) bins (sections name) →
        (pages.filter fun page ↦ decide (page.name = name)).length ≤ bins.length := by
  obtain ⟨bins, hgreedy, hlength, hpaginate⟩ := paginateNonemptySections_greedy hitems
  have hle : (cutPages outside bins sectionOrder).length ≤ maxPages := hlength.trans_le hpages
  rw [if_pos hle] at hpaginate
  refine ⟨_, hpaginate, hle, ?_, fun name ↦ ?_, ?_, ?_, fun name cs hcs ↦ ?_⟩
  · intro name rounds hrounds before hbefore
    obtain ⟨_, -, hsame⟩ := paginateItems_spec (hitems name) name
    rw [hsame rounds hrounds before hbefore, hsame _ le_rfl before hbefore]
  · rw [collected_cutPages, (hgreedy name).isPacking.flatten]
  · intro page hpage
    obtain ⟨name, -, hpage⟩ := List.mem_flatMap.mp hpage
    obtain ⟨bin, hbin, rfl⟩ := List.mem_map.mp hpage
    have hfits := (hgreedy name).isPacking.fits bin hbin
    exact ⟨(hgreedy name).ne_nil bin hbin, hfits.1, rfl, hfits.2⟩
  · simp only [filter_cutPages]
    rfl
  · rw [filter_cutPages, List.length_map]
    exact (hgreedy name).length_le fitsPage_infixClosed (List.suffix_refl _) hcs

/-- Two messages of half a page and one byte each. -/
def twoPages : Sections :=
  messageSection [messageItem 1100 longContent, messageItem 1101 longContent]

/-- Each fits a page, -/
theorem twoPages_encodesWithin : twoPages.EncodesWithin Outside.sized := by
  refine messageSection_encodesWithin (longHistory_encodesWithin.mono fun m hm ↦ ?_)
  simp only [List.mem_cons, List.not_mem_nil, or_false] at hm
  refine List.mem_map.mpr ?_
  rcases hm with rfl | rfl
  · exact ⟨1, by simp, rfl⟩
  · exact ⟨0, by simp, rfl⟩

/-- and two pages are few enough. -/
theorem sectionPages_twoPages : sectionPages Outside.sized twoPages ≤ maxPages := by
  have hencodes : EncodesWithin Outside.sized _ := twoPages_encodesWithin .recentPlainMessages
  have htail := hencodes.mono (List.subset_cons_self _ _)
  have hnil : ∃ k, Packable (FitsPage Outside.sized) k [] := ⟨0, [], ⟨rfl, by simp⟩, le_rfl⟩
  have hsecond := minBins_cons_le (htail.fitsPage List.mem_cons_self) hnil
  have hfirst := minBins_cons_le (hencodes.fitsPage List.mem_cons_self) htail.packable
  rw [minBins_nil] at hsecond
  rw [twoPages, sectionPages_messageSection, minPages, maxPages]
  omega

/-- Two messages that share no page are paged, and found again. -/
theorem pages_partition_sample :
    ∃ pages, paginateNonemptySections Outside.sized twoPages = .ok pages ∧
      collected pages .recentPlainMessages = twoPages .recentPlainMessages := by
  obtain ⟨pages, hpages, -, -, hitems, -⟩ :=
    pages_partition twoPages_encodesWithin sectionPages_twoPages
  exact ⟨pages, hpages, hitems _⟩

/-! ### The messages of a package -/

/-- Where a longer history fits the budgets, so does every beginning of it. -/
theorem FitsBudgets.beginning {items bytes pages : ℕ} {newest longer : List Obj}
    (h : FitsBudgets outside items bytes pages longer) (hbegins : newest <+: longer) :
    FitsBudgets outside items bytes pages newest := by
  refine ⟨hbegins.length_le.trans h.items_le, ?_, h.pages_le.suffix fitsPage_infixClosed ?_⟩
  · obtain ⟨older, rfl⟩ := hbegins
    have hbytes := h.bytes_le
    rw [totalBytes_append] at hbytes
    omega
  · exact List.reverse_suffix.mpr hbegins

/-- What was selected is within its budgets. -/
theorem Affordable.fitsBudgets {items bytes pages : ℕ} {newest : List Obj}
    (h : Affordable outside items bytes pages newest) :
    FitsBudgets outside items bytes pages newest := by
  refine ⟨h.items_le, h.bytes_le, ?_⟩
  obtain ⟨bins, hbins, hlen⟩ := Nat.sInf_mem h.encodes.reverse.packable
  exact ⟨bins, hbins, hlen.trans h.pages_le⟩

/-- Where the loop stopped, no longer history fits. -/
theorem not_fitsBudgets_of_longer {items bytes pages : ℕ} {messages newest older longer : List Obj}
    (hmessages : messages = newest ++ older)
    (hover : ∀ item ∈ older.head?, ¬ FitsBudgets outside items bytes pages (newest ++ [item]))
    (hlonger : longer <+: messages) (hlength : newest.length < longer.length) :
    ¬ FitsBudgets outside items bytes pages longer := by
  intro hfits
  obtain ⟨more, rfl⟩ : newest <+: longer :=
    List.prefix_of_prefix_length_le ⟨older, hmessages.symm⟩ hlonger hlength.le
  cases more with
  | nil => simp at hlength
  | cons item more =>
    -- The message in front of which the loop stopped.
    have hitem : item ∈ older.head? := by
      rw [hmessages] at hlonger
      obtain ⟨rest, hrest⟩ := (List.prefix_append_right_inj newest).mp hlonger
      rw [← hrest]
      rfl
    exact hover item hitem (hfits.beginning ⟨more, by simp⟩)

/-- The event sequence a history policy names is that of the first, the oldest, message. -/
theorem oldestEventSeq_eq_ok {messages : List Obj} {oldest : Option String}
    (h : oldestEventSeq outside messages = .ok oldest) :
    (messages = [] → oldest = none) ∧ ∀ item ∈ messages.head?, ∃ event seq,
      item.lookup "event" = some (.obj event) ∧ event.lookup "event_seq" = some seq ∧
        oldest = some (outside.str seq) := by
  cases messages with
  | nil => exact ⟨fun _ ↦ (Except.ok.inj h).symm, by simp⟩
  | cons first rest =>
    refine ⟨by simp, fun item hitem ↦ ?_⟩
    obtain rfl : first = item := by simpa using hitem
    obtain ⟨event, hevent, h⟩ := bind_eq_ok.mp h
    obtain ⟨fields, hfields, h⟩ := bind_eq_ok.mp h
    obtain ⟨seq, hseq, h⟩ := bind_eq_ok.mp h
    obtain rfl := pure_eq_ok.mp h
    have hobj : event = .obj fields := Json.obj?_eq_some.mp (orRaise_eq_ok.mp hfields)
    exact ⟨fields, seq, hobj ▸ orRaise_eq_ok.mp hevent, orRaise_eq_ok.mp hseq, rfl⟩

/-- **A snapshot takes the newest complete suffix of the history.** Whatever the required state and
the sizes, a selection that succeeds takes a beginning of the messages, newest first, that fits what
the required state leaves of the item, byte and page budgets, and no longer beginning fits all
three. The history policy counts the messages left out, gives a reason exactly when there are some,
and names the event of the last message taken. -/
theorem newest_complete_suffix {readStates groups notifications messages : List Obj}
    {package : Sections} {budget : RecoveryBudget} {history : HistoryPolicy}
    (h : selectSnapshotPackage outside readStates groups notifications messages =
      .ok (package, budget, history)) :
    ∃ newest older, messages = newest ++ older ∧
      package .recentPlainMessages = newest.reverse ∧
      FitsBudgets outside (maxPackageItems - budget.requiredStateItems)
        (maxPackageBytes - budget.requiredStateEncodedBytes)
        (maxPages - budget.requiredStatePages) newest ∧
      (∀ longer, longer <+: messages → newest.length < longer.length →
        ¬ FitsBudgets outside (maxPackageItems - budget.requiredStateItems)
          (maxPackageBytes - budget.requiredStateEncodedBytes)
          (maxPages - budget.requiredStatePages) longer) ∧
      history.excludedOlderMessages = older.length ∧
      (history.truncationReason = none ↔ history.excludedOlderMessages = 0) ∧
      (newest = [] → history.oldestIncludedEventSeq = none) ∧
      ∀ last ∈ newest.getLast?, ∃ event seq, last.lookup "event" = some (.obj event) ∧
        event.lookup "event_seq" = some seq ∧
        history.oldestIncludedEventSeq = some (outside.str seq) := by
  obtain ⟨newest, older, hmessages, -, -, hkept, hover, hpackage, -, hexcluded, hreason, holdest⟩ :=
    selectSnapshotPackage_eq_ok h
  obtain ⟨hnone, hsome⟩ := oldestEventSeq_eq_ok holdest
  rw [List.head?_reverse] at hsome
  refine ⟨newest, older, hmessages, by rw [hpackage]; rfl, hkept.fitsBudgets,
    fun longer ↦ not_fitsBudgets_of_longer hmessages hover, hexcluded, ?_,
    fun hnil ↦ hnone (by rw [hnil]; rfl), hsome⟩
  rw [hreason, hexcluded, List.length_eq_zero_iff]

/-- A client with one read state and a hundred and one long messages gets a package. -/
theorem longHistory_selected :
    ∃ package budget history,
      selectSnapshotPackage Outside.sized [sampleReadState] [] [] longHistory =
        .ok (package, budget, history) := by
  have hlimits := sampleReadState_withinLimits
  have hpos := requiredPages_pos hlimits.encodes (by simp)
  have hroom : maxPages - (minPages Outside.sized [sampleReadState] + minPages Outside.sized [] +
      minPages Outside.sized []) < maxPages := by
    have : 0 < maxPages := by decide
    omega
  have hloop : ∃ r, selectHistory Outside.sized [sampleReadState] [] [] longHistory = .ok r :=
    (selectMessages_returns_iff _ _ [] (Nat.sub_le _ _) longHistory_encodesWithin
      (.nil _ _ _)).mpr (.inl hroom)
  obtain ⟨newest, budget, history, -, hselect⟩ := (selectSnapshotPackage_returns hlimits
    fun m hm ↦ (canonicalSize_longHistory m hm).2).mpr hloop
  exact ⟨_, budget, history, hselect⟩

/-- The newest part of a long history, with the required state of one read state. -/
theorem newest_complete_suffix_sample :
    ∃ package budget history newest older,
      selectSnapshotPackage Outside.sized [sampleReadState] [] [] longHistory =
        .ok (package, budget, history) ∧ longHistory = newest ++ older ∧
      package .recentPlainMessages = newest.reverse := by
  obtain ⟨package, budget, history, hselect⟩ := longHistory_selected
  obtain ⟨newest, older, hmessages, hpackage, -⟩ := newest_complete_suffix hselect
  exact ⟨package, budget, history, newest, older, hselect, hmessages, hpackage⟩

end Awiki
