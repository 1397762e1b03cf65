import AwikiOpenServer.Messaging.GroupLists

/-!
# Whether the lists are complete

A client reads a list by calling again with the `next_cursor` of each page. While the store is the
same, its pages make up the list that every call puts together (`Listing.reads`), so **what is
missing from that list is missing from every reading of it**, and the `total` of a page does not
tell.

The list of groups is put together with limits: a hundred hosted groups, a hundred projections, a
hundred of both and a hundred legacy groups. The members of a hosted or a projected group are read
without one, those of a legacy group with a limit of a hundred. A list is complete exactly when its
limits cut nothing off, and a list of groups names no group twice exactly when no legacy group is
hosted or projected too (`lists_complete_iff`).

## Readings

`Listing answers cursor pages` is a client at work: the cursor of each page is the next request, up
to a page without one. Which pages are answers is a parameter, so the two lists share it, and so do
the three facts about readings: they go through the list by offsets, there is one to every list, and
one is complete exactly when the list is (`Listing.listsAll_iff`). What is needed of an answer is
only that it is the page at the offset of its cursor, of a list that does not depend on the request;
`GroupAnswer.eq_pageAt` and `MemberAnswer.eq_pageAt` are this for the two handlers.

Both directions of the result need answers as well: that a page is served at every offset
(`groupAnswer_pageAt`, `memberAnswer_pageAt`). For the members this rests on the right of the owner
to list them (`MayList`), which is what the handler checks in its three branches.

## Completeness

What ought to be listed is said without the handlers: the rows of the tables that make the owner a
member, in any order (`ownGroups`, `memberEntries`). A list put together with limits is a
permutation of it exactly when the limits are long enough, since `take` loses nothing then and
something otherwise; the tables being within their primary keys, no entry is there twice within one
of them.

A projected group is refreshed from its Host before its members are listed. What that comes to is
left open, as long as the store is the same afterwards: a reading is of one state.
-/

namespace Awiki

open Py

variable {st : Store} {owner : String} {limit : ℕ} {cursor : Json}

/-! ### Following the cursor -/

/-- What a client looks at in a page of either list. -/
structure CursorPage where
  items : List Obj
  total : ℕ
  nextCursor : Option String

/-- A page of groups, as a page. -/
def GroupPage.cursorPage (page : GroupPage) : CursorPage :=
  ⟨page.groups, page.total, page.nextCursor⟩

/-- A page of members, as a page. -/
def MemberPage.cursorPage (page : MemberPage) : CursorPage :=
  ⟨page.members, page.total, page.nextCursor⟩

/-- **A reading of a list**: the client goes on with the cursor of each page until there is none.
`answers` says which pages are answers to a cursor. -/
inductive Listing (answers : Json → CursorPage → Prop) : Json → List CursorPage → Prop where
  | last {cursor : Json} {page : CursorPage} (hanswer : answers cursor page)
      (hlast : page.nextCursor = none) : Listing answers cursor [page]
  | more {cursor : Json} {page : CursorPage} {next : String} {pages : List CursorPage}
      (hanswer : answers cursor page) (hnext : page.nextCursor = some next)
      (hrest : Listing answers (.str next) pages) : Listing answers cursor (page :: pages)

/-- The page of a list at an offset. -/
def cursorPageAt (word : String) (items : List Obj) (offset limit : ℕ) : CursorPage :=
  ⟨Offsets.page items offset limit, items.length, nextCursor word items offset limit⟩

/-- The cursor names an offset. -/
def IsOffset (word : String) (cursor : Json) (offset : ℕ) : Prop :=
  ∀ error, cursorOffset cursor word error = .ok (offset : ℤ)

/-- Without a cursor a reading starts at the front. -/
theorem isOffset_null (word : String) : IsOffset word .null 0 := fun _ ↦ rfl

/-- The cursor of a page names the offset it was made for. -/
theorem isOffset_next (word : String) (offset : ℕ) :
    IsOffset word (.str (word ++ toString offset)) offset := by
  intro error
  have hword : ((Json.str (word ++ toString offset)).str?.filter (startsWith word)) =
      some (word ++ toString offset) := by
    show Option.filter _ (some _) = _
    rw [Option.filter_some, if_pos (startsWith_append word _)]
  show (orRaise _ _ >>= _) = _
  rw [hword, orRaise_some, ok_bind, withoutHead_append, ofText?_toString, orRaise_some]

section Listing

variable {answers : Json → CursorPage → Prop} {word : String} {items : List Obj} {offset : ℕ}
  {pages : List CursorPage}

/-- **A client reads the list by offsets.** -/
theorem Listing.reads (h : Listing answers cursor pages)
    (hanswers : ∀ {cursor offset page}, IsOffset word cursor offset → answers cursor page →
      page = cursorPageAt word items offset limit)
    (hcursor : IsOffset word cursor offset) :
    Offsets.Reads items limit offset (pages.map CursorPage.items) ∧
      ∀ page ∈ pages, page.total = items.length := by
  induction h generalizing offset with
  | last hanswer hlast =>
    obtain rfl := hanswers hcursor hanswer
    refine ⟨.last fun hmore ↦ ?_, fun page hpage ↦ ?_⟩
    · exact Option.some_ne_none _ ((if_pos hmore).symm.trans hlast)
    · rw [List.mem_singleton.mp hpage]
      rfl
  | more hanswer hnext hrest ih =>
    obtain rfl := hanswers hcursor hanswer
    by_cases hmore : Offsets.next items offset limit < items.length
    · obtain rfl := Option.some.inj ((if_pos hmore).symm.trans hnext)
      obtain ⟨hreads, htotal⟩ := ih (isOffset_next word _)
      refine ⟨.more hmore hreads, fun page hpage ↦ ?_⟩
      rcases List.mem_cons.mp hpage with rfl | hpage
      · rfl
      · exact htotal page hpage
    · exact absurd ((if_neg hmore).symm.trans hnext) (Option.some_ne_none _).symm

/-- **Every list can be read to its end.** -/
theorem exists_listing (hlimit : 1 ≤ limit)
    (hanswers : ∀ {cursor offset}, IsOffset word cursor offset → offset ≤ items.length →
      answers cursor (cursorPageAt word items offset limit)) :
    ∃ pages, Listing answers .null pages := by
  have hall : ∀ offset, offset ≤ items.length → ∀ cursor, IsOffset word cursor offset →
      ∃ pages, Listing answers cursor pages := by
    refine Offsets.next_induction hlimit
      (fun offset (hend : ¬ Offsets.next items offset limit < items.length) ↦ ?_)
      fun offset hmore ih ↦ ?_
    · intro hle cursor hcursor
      exact ⟨_, .last (hanswers hcursor hle) (if_neg hend)⟩
    · intro hle cursor hcursor
      obtain ⟨pages, hpages⟩ := ih hmore.le _ (isOffset_next word _)
      exact ⟨_, .more (hanswers hcursor hle) (if_pos hmore) hpages⟩
  exact hall 0 (Nat.zero_le _) .null (isOffset_null word)

/-- **The pages list every entry once**, and each of them counts all. -/
structure ListsAll (did : String) (entries : List Obj) (pages : List CursorPage) : Prop where
  perm : (pages.flatMap CursorPage.items).Perm entries
  once : ((pages.flatMap CursorPage.items).map (Obj.get · did)).Nodup
  total : ∀ page ∈ pages, page.total = entries.length

/-- A reading is complete exactly when the list is. -/
theorem Listing.listsAll_iff (h : Listing answers .null pages)
    (hanswers : ∀ {cursor offset page}, IsOffset word cursor offset → answers cursor page →
      page = cursorPageAt word items offset limit) (did : String) (entries : List Obj) :
    ListsAll did entries pages ↔
      items.Perm entries ∧ (entries.map (Obj.get · did)).Nodup := by
  obtain ⟨hreads, htotal⟩ := h.reads hanswers (isOffset_null word)
  have hflatten : pages.flatMap CursorPage.items = items := by
    rw [List.flatMap_def, hreads.flatten, List.drop_zero]
  constructor
  · rintro ⟨hentries, honce, -⟩
    rw [hflatten] at hentries honce
    exact ⟨hentries, (hentries.map _).nodup_iff.mp honce⟩
  · rintro ⟨hperm, honce⟩
    refine ⟨hflatten ▸ hperm, ?_, fun page hpage ↦ ?_⟩
    · rw [hflatten]
      exact (hperm.map _).nodup_iff.mpr honce
    · rw [htotal page hpage, hperm.length_eq]

end Listing

/-! ### The list of groups -/

/-- The hosted groups, the last updated first. -/
def hostedByAge (st : Store) (owner : String) : List (HostedGroup × HostedMember) :=
  (hostedMemberships st owner).insertionSort fun a b ↦
    b.1.updatedAt < a.1.updatedAt ∨ a.1.updatedAt = b.1.updatedAt ∧ a.1.groupDid ≤ b.1.groupDid

/-- The projections, the last updated first. -/
def viewsByAge (st : Store) (owner : String) : List GroupView :=
  (activeViews st owner).insertionSort fun a b ↦
    b.updatedAt < a.updatedAt ∨ a.updatedAt = b.updatedAt ∧ a.groupDid ≤ b.groupDid

/-- The legacy groups, by their names. -/
def legacyByName (st : Store) (owner : String) : List LegacyGroup :=
  (legacyMemberships st owner).insertionSort fun a b ↦ a.displayName ≤ b.displayName

/-- The key of a hosted membership in the list. -/
abbrev membershipDid (p : HostedGroup × HostedMember) : String := p.1.groupDid

/-- The projections of groups that are not hosted here. -/
def projectedOnly (st : Store) (owner : String) : List GroupView :=
  Offsets.fresh membershipDid GroupView.groupDid (hostedMemberships st owner) (activeViews st owner)

/-- **Every group an owner is an active member of**, as an entry of the list. -/
def ownGroups (st : Store) (owner : String) : List Obj :=
  ((hostedMemberships st owner).map (hostedListEntry st) ++
    (projectedOnly st owner).map (projectedListEntry st) ++
    (legacyMemberships st owner).map LegacyGroup.row).map withOwnStanding

/-- The list every call of `group.list` puts together. -/
def listedGroups (st : Store) (owner : String) : List Obj :=
  ((((hostedByAge st owner).take 100).map (hostedListEntry st) ++
    (Offsets.fresh membershipDid GroupView.groupDid ((hostedByAge st owner).take 100)
      ((viewsByAge st owner).take 100)).map (projectedListEntry st)).take 100 ++
    ((legacyByName st owner).take 100).map LegacyGroup.row).map withOwnStanding

/-- A caller asks for a page of a list. -/
structure AsksGroups (owner : String) (limit : ℕ) (cursor : Json) (req : Request) (params : Obj) :
    Prop where
  caller : requiredDid req = .ok owner
  limit : groupListLimit params = .ok limit
  cursor : params.get "cursor" = cursor

/-- The answers of `group.list` to an owner. -/
def GroupAnswer (st : Store) (owner : String) (limit : ℕ) (cursor : Json) (p : CursorPage) : Prop :=
  ∃ req params page, AsksGroups owner limit cursor req params ∧
    groupListDispatch st req params = .ok page ∧ page.cursorPage = p

/-- What `group.list` passes on has the limit of a hundred. -/
theorem groupListLimit_unpaged (params : Obj) :
    groupListLimit ((params.set "limit" (.int 100)).erase "cursor") = .ok 100 := by
  have hget : ((params.set "limit" (.int 100)).erase "cursor").getD "limit" (.int 50) =
      .int 100 := by
    rw [Obj.getD, Obj.lookup_erase, if_neg (by decide), Obj.lookup_set, if_pos rfl]
    rfl
  rw [groupListLimit, hget]
  rfl

/-- A hundred is a limit that passes. -/
theorem parseLocalViewLimit_hundred (default : ℕ) :
    parseLocalViewLimit (.int 100) default = .ok 100 := rfl

/-- The limit a handler reads is the one `group.list` has put there. -/
theorem unpaged_get_limit (params : Obj) :
    ((params.set "limit" (.int 100)).erase "cursor").get "limit" = .int 100 := by
  rw [Obj.get, Obj.getD, Obj.lookup_erase, if_neg (by decide), Obj.lookup_set, if_pos rfl]
  rfl

/-- The hosted and the projected part. -/
theorem hostedGroupList_unpaged {req : Request} (hcaller : requiredDid req = .ok owner)
    (params : Obj) :
    hostedGroupList st req ((params.set "limit" (.int 100)).erase "cursor") =
      .ok ((((hostedByAge st owner).take 100).map (hostedListEntry st) ++
        (Offsets.fresh membershipDid GroupView.groupDid ((hostedByAge st owner).take 100)
          ((viewsByAge st owner).take 100)).map (projectedListEntry st)).take 100) := by
  unfold hostedGroupList
  rw [hcaller, ok_bind, groupListLimit_unpaged, ok_bind]
  rfl

/-- **Every answer is a page of the list.** -/
theorem GroupAnswer.eq_pageAt {offset : ℕ} {p : CursorPage}
    (hcursor : IsOffset "groups:" cursor offset) (h : GroupAnswer st owner limit cursor p) :
    p = cursorPageAt "groups:" (listedGroups st owner) offset limit := by
  obtain ⟨req, params, page, ⟨hcaller, hlimit, rfl⟩, h, rfl⟩ := h
  unfold groupListDispatch at h
  rw [hlimit, ok_bind, hcursor, ok_bind] at h
  obtain ⟨_, -, h⟩ := bind_eq_ok.mp h
  obtain ⟨legacy, hlegacy, h⟩ := bind_eq_ok.mp h
  obtain ⟨hosted, hhosted, h⟩ := bind_eq_ok.mp h
  obtain ⟨_, -, h⟩ := bind_eq_ok.mp h
  obtain rfl := pure_eq_ok.mp h
  rw [hostedGroupList_unpaged hcaller] at hhosted
  obtain rfl := Except.ok.inj hhosted
  unfold groupList at hlegacy
  rw [hcaller, ok_bind, unpaged_get_limit] at hlegacy
  obtain ⟨_, -, hlegacy⟩ := bind_eq_ok.mp hlegacy
  rw [parseLocalViewLimit_hundred, ok_bind] at hlegacy
  obtain rfl := pure_eq_ok.mp hlegacy
  rfl

/-- A request with nothing but a limit and a cursor. -/
def listParams (limit : ℕ) (cursor : Json) : Obj := [("limit", .int limit), ("cursor", cursor)]

/-- A client with a bearer token. -/
def bearerRequest (owner : String) : Request :=
  { surface := .localRpc, credentials := .bearer owner, outside := Outside.honest }

/-- The limit of such a request is read back. -/
theorem groupListLimit_listParams (hlimit : 1 ≤ limit ∧ limit ≤ 100) :
    groupListLimit (listParams limit cursor) = .ok limit := by
  have hrange : ¬ ((limit : ℤ) < 1 ∨ 100 < (limit : ℤ)) := by omega
  exact if_neg hrange

/-- **Every offset within the list is answered.** -/
theorem groupAnswer_pageAt {offset : ℕ} (hlimit : 1 ≤ limit ∧ limit ≤ 100)
    (hcursor : IsOffset "groups:" cursor offset) (hle : offset ≤ (listedGroups st owner).length) :
    GroupAnswer st owner limit cursor
      (cursorPageAt "groups:" (listedGroups st owner) offset limit) := by
  have hcaller : requiredDid (bearerRequest owner) = .ok owner := rfl
  have hlegacy : groupList st (bearerRequest owner)
      (((listParams limit cursor).set "limit" (.int 100)).erase "cursor") =
        .ok (((legacyByName st owner).take 100).map LegacyGroup.row) := rfl
  have hgiven : (listParams limit cursor).get "cursor" = cursor := rfl
  have hwithin : decide ((offset : ℤ) ≤ ((listedGroups st owner).length : ℤ)) = true :=
    decide_eq_true (Int.ofNat_le.mpr hle)
  have hpositive : decide ((0 : ℤ) ≤ offset) = true := decide_eq_true (Int.natCast_nonneg offset)
  have hok : groupListDispatch st (bearerRequest owner) (listParams limit cursor) = .ok {
      groups := Offsets.page (listedGroups st owner) offset limit
      total := (listedGroups st owner).length
      hasMore := decide
        (Offsets.next (listedGroups st owner) offset limit < (listedGroups st owner).length)
      nextCursor := nextCursor "groups:" (listedGroups st owner) offset limit } := by
    unfold groupListDispatch
    rw [groupListLimit_listParams hlimit, ok_bind, hgiven, hcursor, ok_bind, hpositive,
      require_true, ok_bind]
    exact bind_eq_ok.mpr ⟨_, hlegacy, bind_eq_ok.mpr ⟨_, hostedGroupList_unpaged hcaller _,
      bind_eq_ok.mpr ⟨(), require_eq_ok.mpr hwithin, rfl⟩⟩⟩
  exact ⟨_, _, _, ⟨hcaller, groupListLimit_listParams hlimit, hgiven⟩, hok, rfl⟩

/-- **The limits cut nothing off the list of groups**, and no legacy group is another one too. -/
structure GroupListsFit (st : Store) (owner : String) : Prop where
  networked : (hostedMemberships st owner).length + (projectedOnly st owner).length ≤ 100
  views : ∀ v ∈ (viewsByAge st owner).drop 100,
    v.groupDid ∈ (hostedMemberships st owner).map membershipDid
  legacy : (legacyMemberships st owner).length ≤ 100
  apart : ∀ g ∈ legacyMemberships st owner,
    g.groupDid ∉ (hostedMemberships st owner).map membershipDid ∧
      g.groupDid ∉ (activeViews st owner).map GroupView.groupDid

/-- The primary keys of the tables the lists are read from. -/
structure ListKeys (st : Store) : Prop where
  hostedGroups : Table.Keyed HostedGroup.groupDid st.hostedGroups
  hostedGroupMembers : Table.Keyed HostedMember.key st.hostedGroupMembers
  groups : Table.Keyed LegacyGroup.groupDid st.groups
  groupMembers : Table.Keyed LegacyMember.key st.groupMembers
  groupViews : Table.Keyed GroupView.key st.groupViews
  groupMemberViews : Table.Keyed GroupMemberView.key st.groupMemberViews

/-- Sorting the hosted groups loses none. -/
theorem hostedByAge_perm (st : Store) (owner : String) :
    (hostedByAge st owner).Perm (hostedMemberships st owner) :=
  List.perm_insertionSort _ _

/-- Nor does sorting the projections, -/
theorem viewsByAge_perm (st : Store) (owner : String) :
    (viewsByAge st owner).Perm (activeViews st owner) :=
  List.perm_insertionSort _ _

/-- nor sorting the legacy groups. -/
theorem legacyByName_perm (st : Store) (owner : String) :
    (legacyByName st owner).Perm (legacyMemberships st owner) :=
  List.perm_insertionSort _ _

/-- The projections that are not hosted, in the order of the list. -/
theorem fresh_byAge_perm (st : Store) (owner : String) :
    (Offsets.fresh membershipDid GroupView.groupDid (hostedByAge st owner)
      (viewsByAge st owner)).Perm (projectedOnly st owner) :=
  Offsets.fresh_perm _ _ (hostedByAge_perm st owner) (viewsByAge_perm st owner)

/-- **The list holds every group** exactly when its limits cut nothing off. -/
theorem listedGroups_perm_iff (st : Store) (owner : String) :
    (listedGroups st owner).Perm (ownGroups st owner) ↔
      (hostedMemberships st owner).length + (projectedOnly st owner).length ≤ 100 ∧
        (∀ v ∈ (viewsByAge st owner).drop 100,
          v.groupDid ∈ (hostedMemberships st owner).map membershipDid) ∧
        (legacyMemberships st owner).length ≤ 100 := by
  have hhosted := hostedByAge_perm st owner
  have hfresh := fresh_byAge_perm st owner
  have hlegacy := legacyByName_perm st owner
  have hkeys : ∀ d, d ∈ (hostedByAge st owner).map membershipDid ↔
      d ∈ (hostedMemberships st owner).map membershipDid := fun d ↦ (hhosted.map _).mem_iff
  have hcapped := Offsets.length_capped_le membershipDid GroupView.groupDid (hostedByAge st owner)
    (viewsByAge st owner) 100
  have hcut := Offsets.length_capped_eq_iff membershipDid GroupView.groupDid (hostedByAge st owner)
    (viewsByAge st owner) 100
  rw [hhosted.length_eq, hfresh.length_eq] at hcapped hcut
  simp only [hkeys] at hcut
  constructor
  · intro hperm
    have hlength := hperm.length_eq
    simp only [listedGroups, ownGroups, List.length_map, List.length_append, List.length_take,
      hlegacy.length_eq] at hlength
    rw [List.length_take] at hcapped hcut
    obtain ⟨hwithin, hviews⟩ := hcut.mp (by omega)
    exact ⟨hwithin, hviews, by omega⟩
  · rintro ⟨hwithin, hviews, hfew⟩
    obtain ⟨htake, hrest⟩ := Offsets.capped_of_length_le membershipDid GroupView.groupDid
      (hostedByAge st owner) (viewsByAge st owner) 100
      (by rwa [hhosted.length_eq, hfresh.length_eq]) (by simpa only [hkeys] using hviews)
    rw [listedGroups, ownGroups, hrest, htake, List.take_of_length_le, List.take_of_length_le]
    · exact (((hhosted.map _).append (hfresh.map _)).append (hlegacy.map _)).map _
    · rwa [hlegacy.length_eq]
    · rwa [List.length_append, List.length_map, List.length_map, hhosted.length_eq,
        hfresh.length_eq]

/-- The standing of the owner is added under other keys. -/
theorem get_withOwnStanding (group : Obj) :
    (withOwnStanding group).get "group_did" = group.get "group_did" := by
  have hset : ∀ (c : Bool) (o : Obj) {k : String} (v : Json), "group_did" ≠ k →
      Obj.get (if c then o.set k v else o) "group_did" = o.get "group_did" := by
    intro c o k v hk
    split
    · exact Obj.get_set_of_ne o v hk
    · rfl
  unfold withOwnStanding
  dsimp only
  rw [hset _ _ _ (by decide), hset _ _ _ (by decide)]

/-- The groups of an owner by their DIDs. -/
theorem map_did_ownGroups (st : Store) (owner : String) :
    (ownGroups st owner).map (Obj.get · "group_did") =
      ((hostedMemberships st owner).map membershipDid ++
        (projectedOnly st owner).map GroupView.groupDid ++
        (legacyMemberships st owner).map LegacyGroup.groupDid).map Json.str := by
  have hstanding : (Obj.get · "group_did") ∘ withOwnStanding = (Obj.get · "group_did") :=
    funext get_withOwnStanding
  rw [ownGroups, List.map_map, hstanding]
  simp only [List.map_append, List.map_map]
  rfl

/-- Rows with a key that is fixed but for a part of it. -/
theorem nodup_map_of_keyed {ρ κ ι : Type*} {t : List ρ} {key : ρ → κ} {part : ρ → ι} (whole : ι → κ)
    (hkeyed : Table.Keyed key t) (hkey : ∀ r ∈ t, key r = whole (part r)) :
    (t.map part).Nodup := by
  have hmap : (t.map part).map whole = t.map key := by
    rw [List.map_map]
    exact List.map_congr_left fun r hr ↦ (hkey r hr).symm
  exact List.Nodup.of_map whole (hmap ▸ hkeyed)

/-- An owner has one membership of a hosted group. -/
theorem ListKeys.hosted_nodup (h : ListKeys st) (owner : String) :
    ((hostedMemberships st owner).map membershipDid).Nodup := by
  have hjoin : ((hostedMemberships st owner).map membershipDid).Sublist
      (st.hostedGroups.map HostedGroup.groupDid) := by
    refine Table.sublist_join (fun g p hp ↦ ?_) (fun g ↦ ?_) st.hostedGroups
    · obtain ⟨m, -, rfl⟩ := List.mem_map.mp hp
      rfl
    · rw [List.length_map]
      exact h.hostedGroupMembers.length_filter_le_one fun m hm ↦ (of_decide_eq_true hm).1
  exact h.hostedGroups.sublist hjoin

/-- An owner is in a legacy group once. -/
theorem ListKeys.legacy_nodup (h : ListKeys st) (owner : String) :
    ((legacyMemberships st owner).map LegacyGroup.groupDid).Nodup := by
  have hjoin : ((legacyMemberships st owner).map LegacyGroup.groupDid).Sublist
      (st.groups.map LegacyGroup.groupDid) := by
    refine Table.sublist_join (fun g p hp ↦ ?_) (fun g ↦ ?_) st.groups
    · obtain ⟨m, -, rfl⟩ := List.mem_map.mp hp
      rfl
    · rw [List.length_map]
      exact h.groupMembers.length_filter_le_one fun m hm ↦ of_decide_eq_true hm
  exact h.groups.sublist hjoin

/-- An owner has one projection of a group. -/
theorem ListKeys.views_nodup (h : ListKeys st) (owner : String) :
    ((activeViews st owner).map GroupView.groupDid).Nodup := by
  have hkeyed : Table.Keyed GroupView.key (activeViews st owner) := h.groupViews.filter _
  refine nodup_map_of_keyed (fun did ↦ (owner, did)) hkeyed fun v hv ↦ ?_
  obtain ⟨howner, -⟩ := of_decide_eq_true (List.mem_filter.mp hv).2
  rw [GroupView.key, howner]

/-- **No group is listed twice** exactly when no legacy group is hosted or projected too. -/
theorem ownGroups_nodup_iff (h : ListKeys st) (owner : String) :
    ((ownGroups st owner).map (Obj.get · "group_did")).Nodup ↔
      ∀ g ∈ legacyMemberships st owner,
        g.groupDid ∉ (hostedMemberships st owner).map membershipDid ∧
          g.groupDid ∉ (activeViews st owner).map GroupView.groupDid := by
  have hhosted := h.hosted_nodup owner
  have hlegacy := h.legacy_nodup owner
  have hprojected : ((projectedOnly st owner).map GroupView.groupDid).Nodup :=
    (h.views_nodup owner).sublist (List.filter_sublist.map _)
  have hfresh : ∀ d ∈ (hostedMemberships st owner).map membershipDid,
      ∀ d' ∈ (projectedOnly st owner).map GroupView.groupDid, d ≠ d' := by
    rintro d hd _ hdid rfl
    obtain ⟨v, hv, rfl⟩ := List.mem_map.mp hdid
    exact ((Offsets.mem_fresh _ _ _ _).mp hv).2 hd
  have hinjective : Function.Injective Json.str := fun _ _ heq ↦ Json.str.inj heq
  rw [map_did_ownGroups, List.nodup_map_iff hinjective, List.nodup_append, List.nodup_append]
  constructor
  · rintro ⟨-, -, hapart⟩ g hg
    have hdid := List.mem_map_of_mem (f := LegacyGroup.groupDid) hg
    have hnot : g.groupDid ∉ (hostedMemberships st owner).map membershipDid :=
      fun hmem ↦ hapart _ (List.mem_append_left _ hmem) _ hdid rfl
    refine ⟨hnot, fun hmem ↦ ?_⟩
    obtain ⟨v, hv, heq⟩ := List.mem_map.mp hmem
    have hfreshView : v ∈ projectedOnly st owner :=
      (Offsets.mem_fresh _ _ _ _).mpr ⟨hv, heq ▸ hnot⟩
    exact hapart _ (List.mem_append_right _ (List.mem_map_of_mem hfreshView)) _ hdid heq
  · intro hapart
    refine ⟨⟨hhosted, hprojected, hfresh⟩, hlegacy, ?_⟩
    rintro d hd _ hdid rfl
    obtain ⟨g, hg, rfl⟩ := List.mem_map.mp hdid
    obtain ⟨hnotHosted, hnotView⟩ := hapart g hg
    rcases List.mem_append.mp hd with hd | hd
    · exact hnotHosted hd
    · exact hnotView ((List.filter_sublist.map _).subset hd)

/-- **When every reading of the list of groups is complete.** -/
theorem groupListing_complete_iff (h : ListKeys st) {pages : List CursorPage}
    (hlisting : Listing (GroupAnswer st owner limit) .null pages) :
    ListsAll "group_did" (ownGroups st owner) pages ↔ GroupListsFit st owner := by
  rw [hlisting.listsAll_iff fun hcursor hanswer ↦ hanswer.eq_pageAt hcursor,
    listedGroups_perm_iff, ownGroups_nodup_iff h]
  exact ⟨fun ⟨⟨hwithin, hviews, hfew⟩, hapart⟩ ↦ ⟨hwithin, hviews, hfew, hapart⟩,
    fun ⟨hwithin, hviews, hfew, hapart⟩ ↦ ⟨⟨hwithin, hviews, hfew⟩, hapart⟩⟩

/-! ### The list of members -/

/-- The members of a hosted group, the first to join first. -/
def hostedByJoining (st : Store) (groupDid : String) : List HostedMember :=
  (st.activeMembers groupDid).insertionSort fun a b ↦
    a.joinedAt < b.joinedAt ∨ a.joinedAt = b.joinedAt ∧ a.agentDid ≤ b.agentDid

/-- The members of a projected group, -/
def viewsByJoining (st : Store) (owner groupDid : String) : List GroupMemberView :=
  (activeMemberViews st owner groupDid).insertionSort fun a b ↦
    nullsFirst a.joinedAt b.joinedAt ∨ a.joinedAt = b.joinedAt ∧ a.agentDid ≤ b.agentDid

/-- and of a legacy group. -/
def legacyByJoining (st : Store) (groupDid : String) : List LegacyMember :=
  (legacyMembers st groupDid).insertionSort fun a b ↦ a.joinedAt ≤ b.joinedAt

/-- **Every active member of a group**, as an entry of the list. A group that is hosted here is read
as such, any other from the projection of the owner, if there is one. -/
def memberEntries (st : Store) (owner groupDid : String) : List Obj :=
  match st.hostedGroup? groupDid, st.activeView? owner groupDid with
  | some group, _ => (st.activeMembers groupDid).map (hostedMemberEntry group.wireProfile)
  | none, some view =>
    (activeMemberViews st owner groupDid).map (projectedMemberEntry view.wireProfile)
  | none, none => (legacyMembers st groupDid).map LegacyMember.row

/-- The list every call of `group.list_members` puts together. -/
def listedMembers (st : Store) (owner groupDid : String) : List Obj :=
  match st.hostedGroup? groupDid, st.activeView? owner groupDid with
  | some group, _ => (hostedByJoining st groupDid).map (hostedMemberEntry group.wireProfile)
  | none, some view =>
    (viewsByJoining st owner groupDid).map (projectedMemberEntry view.wireProfile)
  | none, none => ((legacyByJoining st groupDid).take 100).map LegacyMember.row

/-- A caller asks for a page of the members of a group. -/
structure AsksMembers (owner groupDid : String) (limit : ℕ) (cursor : Json) (req : Request)
    (params : Obj) : Prop where
  caller : requiredDid req = .ok owner
  groupDid : params.get "group_did" = .str groupDid
  limit : parseLocalViewLimit (params.get "limit") 100 = .ok limit
  cursor : params.get "cursor" = cursor

/-- The answers of `group.list_members` that leave the store as it is. -/
def MemberAnswer (st : Store) (owner groupDid : String) (limit : ℕ) (cursor : Json)
    (p : CursorPage) : Prop :=
  ∃ req params answer page, AsksMembers owner groupDid limit cursor req params ∧
    groupMembersDispatch st req params answer = .ok (page, st) ∧ page.cursorPage = p

section Members

variable {req : Request} {params : Obj} {groupDid : String} {members : List Obj}

/-- A text is true unless it is empty. -/
theorem truthy_str_iff {s : String} : (Json.str s).truthy = true ↔ s ≠ "" := by
  simp [Json.truthy]

/-- Where the members of a hosted group are listed, the caller is one. -/
theorem hostedGroupListMembers_eq_ok (hcaller : requiredDid req = .ok owner)
    (hgroup : params.get "group_did" = .str groupDid)
    (h : hostedGroupListMembers st req params = .ok members) :
    ∃ group, st.hostedGroup? groupDid = some group ∧
      members = (hostedByJoining st groupDid).map (hostedMemberEntry group.wireProfile) := by
  unfold hostedGroupListMembers at h
  rw [hcaller, ok_bind] at h
  obtain ⟨did, hdid, h⟩ := bind_eq_ok.mp h
  obtain rfl := Json.str.inj (hgroup.symm.trans (requireText_eq_ok hdid))
  obtain ⟨group, hrow, h⟩ := bind_eq_ok.mp h
  obtain ⟨_, -, h⟩ := bind_eq_ok.mp h
  obtain rfl := pure_eq_ok.mp h
  obtain ⟨group', hgroup', hrow⟩ := bind_eq_ok.mp hrow
  obtain ⟨_, -, hrow⟩ := bind_eq_ok.mp hrow
  obtain rfl := pure_eq_ok.mp hrow
  exact ⟨group', orRaise_eq_ok.mp hgroup', rfl⟩

/-- Where the members of a projected group are listed, the caller has joined it. -/
theorem projectedGroupListMembers_eq_ok (hcaller : requiredDid req = .ok owner)
    (hgroup : params.get "group_did" = .str groupDid)
    (h : projectedGroupListMembers st req params = .ok members) :
    ∃ view, st.activeView? owner groupDid = some view ∧
      members = (viewsByJoining st owner groupDid).map (projectedMemberEntry view.wireProfile) := by
  unfold projectedGroupListMembers at h
  rw [hcaller, ok_bind] at h
  obtain ⟨did, hdid, h⟩ := bind_eq_ok.mp h
  obtain rfl := Json.str.inj (hgroup.symm.trans (requireText_eq_ok hdid))
  obtain ⟨view, hview, h⟩ := bind_eq_ok.mp h
  exact ⟨view, orRaise_eq_ok.mp hview, (pure_eq_ok.mp h).symm⟩

/-- The members of a legacy group are listed up to the limit. -/
theorem groupMembers_eq_ok (hgroup : params.get "group_did" = .str groupDid)
    (hlimit : params.get "limit" = .int 100) (h : groupMembers st req params = .ok members) :
    groupDid ≠ "" ∧ members = ((legacyByJoining st groupDid).take 100).map LegacyMember.row := by
  unfold groupMembers at h
  obtain ⟨_, -, h⟩ := bind_eq_ok.mp h
  dsimp only at h
  rw [hgroup, hlimit, parseLocalViewLimit_hundred] at h
  obtain ⟨_, hgiven, h⟩ := bind_eq_ok.mp h
  obtain ⟨_, -, h⟩ := bind_eq_ok.mp h
  rw [ok_bind] at h
  obtain ⟨did, hdid, h⟩ := bind_eq_ok.mp h
  obtain rfl : groupDid = did := Except.ok.inj hdid
  obtain ⟨_, -, h⟩ := bind_eq_ok.mp h
  obtain ⟨_, -, h⟩ := bind_eq_ok.mp h
  exact ⟨truthy_str_iff.mp (require_eq_ok.mp hgiven), (pure_eq_ok.mp h).symm⟩

/-- A group is hosted when its row is there. -/
theorem isHostedGroup_str (outside : Outside) (hne : groupDid ≠ "") :
    isHostedGroup st outside (.str groupDid) = .ok (st.hostedGroup? groupDid).isSome :=
  if_pos (truthy_str_iff.mpr hne)

/-- A group is projected when its row is there, and active. -/
theorem hasGroupProjection_str (hcaller : requiredDid req = .ok owner) (hne : groupDid ≠ "") :
    hasGroupProjection st req (.str groupDid) =
      .ok (st.activeView? owner groupDid).isSome := by
  rw [hasGroupProjection, if_pos (truthy_str_iff.mpr hne), hcaller]
  rfl

/-- **What is put together**, whatever the refresh of a projection came to, as long as the store is
the same after it. -/
theorem membersOfGroup_eq_ok {answer : Result Obj} {list : MemberList}
    (hcaller : requiredDid req = .ok owner) (hgroup : params.get "group_did" = .str groupDid)
    (h : membersOfGroup st req params answer = .ok (list, st)) :
    list.members = listedMembers st owner groupDid := by
  have hgroup' : (params.set "limit" (.int 100)).get "group_did" = .str groupDid := by
    rw [Obj.get_set_of_ne _ _ (by decide), hgroup]
  have hlimit' : (params.set "limit" (.int 100)).get "limit" = .int 100 := by
    rw [Obj.get, Obj.getD, Obj.lookup_set, if_pos rfl, Option.getD_some]
  unfold membersOfGroup at h
  dsimp only at h
  rw [hgroup] at h
  by_cases hempty : groupDid = ""
  · -- No group is named, and the last of the three handlers says so.
    subst hempty
    obtain ⟨members, hmembers, -⟩ := bind_eq_ok.mp (show (groupMembers st req _ >>= _) = _ from h)
    exact absurd rfl (groupMembers_eq_ok hgroup' hlimit' hmembers).1
  rw [isHostedGroup_str _ hempty, ok_bind, hasGroupProjection_str hcaller hempty] at h
  unfold listedMembers
  -- The first of the three handlers that knows the group, in the order of the source.
  cases hhosted : st.hostedGroup? groupDid with
  | some group =>
    rw [hhosted] at h
    obtain ⟨members, hmembers, h⟩ := bind_eq_ok.mp (show (hostedGroupListMembers st req _ >>= _) = _
      from h)
    obtain ⟨_, -, h⟩ := bind_eq_ok.mp h
    obtain ⟨_, -, h⟩ := bind_eq_ok.mp h
    obtain ⟨rfl, -⟩ := Prod.mk.inj (pure_eq_ok.mp h)
    obtain ⟨group', hgroup'', rfl⟩ := hostedGroupListMembers_eq_ok hcaller hgroup' hmembers
    obtain rfl := Option.some.inj (hhosted.symm.trans hgroup'')
    rfl
  | none =>
    rw [hhosted] at h
    cases hview : st.activeView? owner groupDid with
    | some view =>
      rw [hview] at h
      obtain ⟨_, -, h⟩ := bind_eq_ok.mp (show (orRaise _ _ >>= _) = _ from h)
      obtain ⟨⟨status, st'⟩, -, h⟩ := bind_eq_ok.mp h
      obtain ⟨members, hmembers, h⟩ := bind_eq_ok.mp h
      obtain ⟨rfl, rfl⟩ := Prod.mk.inj (pure_eq_ok.mp h)
      obtain ⟨view', hview', rfl⟩ := projectedGroupListMembers_eq_ok hcaller hgroup' hmembers
      obtain rfl := Option.some.inj (hview.symm.trans hview')
      rfl
    | none =>
      rw [hview] at h
      obtain ⟨members, hmembers, h⟩ := bind_eq_ok.mp (show (groupMembers st req _ >>= _) = _ from h)
      obtain ⟨rfl, -⟩ := Prod.mk.inj (pure_eq_ok.mp h)
      exact (groupMembers_eq_ok hgroup' hlimit' hmembers).2

/-- **Every answer is a page of the list.** -/
theorem MemberAnswer.eq_pageAt {offset : ℕ} {p : CursorPage}
    (hcursor : IsOffset "members:" cursor offset)
    (h : MemberAnswer st owner groupDid limit cursor p) :
    p = cursorPageAt "members:" (listedMembers st owner groupDid) offset limit := by
  obtain ⟨req, params, answer, page, ⟨hcaller, hgroup, hlimit, rfl⟩, h, rfl⟩ := h
  unfold groupMembersDispatch at h
  obtain ⟨⟨list, st'⟩, hlist, h⟩ := bind_eq_ok.mp h
  dsimp only at h
  rw [hlimit, ok_bind, hcursor, ok_bind] at h
  obtain ⟨_, -, h⟩ := bind_eq_ok.mp h
  obtain ⟨rfl, rfl⟩ := Prod.mk.inj (pure_eq_ok.mp h)
  rw [← membersOfGroup_eq_ok hcaller hgroup hlist]
  rfl

/-- **Where the list of members has no limit, or keeps it**: hosted and projected groups, and legacy
groups of at most a hundred. -/
def MemberListFits (st : Store) (owner groupDid : String) : Prop :=
  (st.hostedGroup? groupDid).isSome ∨ (st.activeView? owner groupDid).isSome ∨
    (legacyMembers st groupDid).length ≤ 100

/-- **The list holds every member** exactly where its limit cuts nothing off. -/
theorem listedMembers_perm_iff (st : Store) (owner groupDid : String) :
    (listedMembers st owner groupDid).Perm (memberEntries st owner groupDid) ↔
      MemberListFits st owner groupDid := by
  unfold listedMembers memberEntries MemberListFits
  cases st.hostedGroup? groupDid with
  | some group => exact iff_of_true ((List.perm_insertionSort _ _).map _) (.inl rfl)
  | none =>
    cases st.activeView? owner groupDid with
    | some view => exact iff_of_true ((List.perm_insertionSort _ _).map _) (.inr (.inl rfl))
    | none =>
      have hperm : (legacyByJoining st groupDid).Perm (legacyMembers st groupDid) :=
        List.perm_insertionSort _ _
      simp only [Option.isSome_none, Bool.false_eq_true, false_or]
      constructor
      · intro h
        have hlength := h.length_eq
        rw [List.length_map, List.length_map, List.length_take, hperm.length_eq] at hlength
        omega
      · intro hfew
        rw [List.take_of_length_le (by rwa [hperm.length_eq])]
        exact hperm.map _

/-- An entry is known by the DID of the member. -/
theorem get_memberEntry (profile : WireProfile) (fields : Obj) :
    (memberEntry profile fields).get "member_did" = fields.get "member_did" := by
  unfold memberEntry
  split
  · rw [Obj.get, Obj.getD, Obj.lookup_without, if_neg (by decide)]
    rfl
  · rfl

/-- **No member is listed twice.** -/
theorem memberEntries_nodup (h : ListKeys st) (owner groupDid : String) :
    ((memberEntries st owner groupDid).map (Obj.get · "member_did")).Nodup := by
  have hinjective : Function.Injective Json.str := fun _ _ heq ↦ Json.str.inj heq
  unfold memberEntries
  cases st.hostedGroup? groupDid with
  | some group =>
    have hdid : (Obj.get · "member_did") ∘ hostedMemberEntry group.wireProfile =
        Json.str ∘ HostedMember.agentDid := funext fun m ↦ get_memberEntry _ _
    have hkeyed : Table.Keyed HostedMember.key (st.activeMembers groupDid) :=
      h.hostedGroupMembers.filter _
    have hnodup : ((st.activeMembers groupDid).map HostedMember.agentDid).Nodup := by
      refine nodup_map_of_keyed (fun did ↦ (groupDid, did)) hkeyed fun m hm ↦ ?_
      rw [HostedMember.key, (of_decide_eq_true (List.mem_filter.mp hm).2).1]
    rw [List.map_map, hdid, ← List.map_map]
    exact hnodup.map hinjective
  | none =>
    cases st.activeView? owner groupDid with
    | some view =>
      have hdid : (Obj.get · "member_did") ∘ projectedMemberEntry view.wireProfile =
          Json.str ∘ GroupMemberView.agentDid := funext fun v ↦ get_memberEntry _ _
      have hkeyed : Table.Keyed GroupMemberView.key (activeMemberViews st owner groupDid) :=
        h.groupMemberViews.filter _
      have hnodup : ((activeMemberViews st owner groupDid).map GroupMemberView.agentDid).Nodup := by
        refine nodup_map_of_keyed (fun did ↦ (owner, groupDid, did)) hkeyed fun v hv ↦ ?_
        obtain ⟨howner, hgroup, -⟩ := of_decide_eq_true (List.mem_filter.mp hv).2
        rw [GroupMemberView.key, howner, hgroup]
      rw [List.map_map, hdid, ← List.map_map]
      exact hnodup.map hinjective
    | none =>
      have hdid : (Obj.get · "member_did") ∘ LegacyMember.row = Json.str ∘ LegacyMember.memberDid :=
        rfl
      have hkeyed : Table.Keyed LegacyMember.key (legacyMembers st groupDid) :=
        h.groupMembers.filter _
      have hnodup : ((legacyMembers st groupDid).map LegacyMember.memberDid).Nodup := by
        refine nodup_map_of_keyed (fun did ↦ (groupDid, did)) hkeyed fun m hm ↦ ?_
        rw [LegacyMember.key, of_decide_eq_true (List.mem_filter.mp hm).2]
      rw [List.map_map, hdid, ← List.map_map]
      exact hnodup.map hinjective

/-- **When every reading of a list of members is complete.** -/
theorem memberListing_complete_iff (h : ListKeys st) {pages : List CursorPage}
    (hlisting : Listing (MemberAnswer st owner groupDid limit) .null pages) :
    ListsAll "member_did" (memberEntries st owner groupDid) pages ↔
      MemberListFits st owner groupDid := by
  rw [hlisting.listsAll_iff fun hcursor hanswer ↦ hanswer.eq_pageAt hcursor,
    listedMembers_perm_iff]
  exact and_iff_left (memberEntries_nodup h owner groupDid)

/-! ### Who may list the members -/

/-- An owner may list the members: as an active member of the hosted group, with an active
projection, or as a member of the legacy group. -/
def MayList (st : Store) (owner groupDid : String) : Prop :=
  isBlank groupDid = false ∧
    match st.hostedGroup? groupDid, st.activeView? owner groupDid with
    | some _, _ => ∃ m, st.hostedMember? groupDid owner = some m ∧ m.status = .active
    | none, some _ => True
    | none, none => (∃ g ∈ st.groups, g.groupDid = groupDid) ∧
        ∃ m ∈ st.groupMembers, m.key = (groupDid, owner)

/-- A request for the members of a group, with nothing but a limit and a cursor. -/
def memberParams (groupDid : String) (limit : ℕ) (cursor : Json) : Obj :=
  [("group_did", .str groupDid), ("limit", .int limit), ("cursor", cursor)]

/-- The Host could not be asked. -/
def noAnswer : Result Obj := .error (.invalidParams "remote_group_snapshot_failed")

section Allowed

variable {params : Obj} (hblank : isBlank groupDid = false)
  (hgroup : params.get "group_did" = .str groupDid)

include hblank in
/-- A text is a text. -/
theorem requireText_str (error : String) : requireText (.str groupDid) error = .ok groupDid := by
  rw [requireText, hblank]
  rfl

include hblank hgroup

/-- An active member of a hosted group gets a list. -/
theorem hostedGroupListMembers_ok {group : HostedGroup} {m : HostedMember}
    (hhosted : st.hostedGroup? groupDid = some group)
    (hm : st.hostedMember? groupDid owner = some m) (hactive : m.status = .active) :
    ∃ members, hostedGroupListMembers st (bearerRequest owner) params = .ok members := by
  have hcaller : requiredDid (bearerRequest owner) = .ok owner := rfl
  have hrow : groupRow st groupDid none false = .ok group := by
    rw [groupRow, hhosted]
    rfl
  have hmember : activeMember st groupDid owner = .ok m := by
    rw [activeMember, hm, Option.filter_some, if_pos (decide_eq_true hactive), orRaise_some]
  unfold hostedGroupListMembers
  rw [hcaller, ok_bind, hgroup, requireText_str hblank, ok_bind, hrow, ok_bind, hmember, ok_bind]
  exact ⟨_, rfl⟩

/-- Whoever has joined a projected group gets one, -/
theorem projectedGroupListMembers_ok {view : GroupView}
    (hview : st.activeView? owner groupDid = some view) :
    ∃ members, projectedGroupListMembers st (bearerRequest owner) params = .ok members := by
  have hcaller : requiredDid (bearerRequest owner) = .ok owner := rfl
  unfold projectedGroupListMembers
  rw [hcaller, ok_bind, hgroup, requireText_str hblank, ok_bind, hview]
  exact ⟨_, rfl⟩

end Allowed

/-- and so does a member of a legacy group. -/
theorem groupMembers_ok (hempty : groupDid ≠ "") (hgroup : ∃ g ∈ st.groups, g.groupDid = groupDid)
    (hmember : ∃ m ∈ st.groupMembers, m.key = (groupDid, owner)) (limit : ℕ) (cursor : Json) :
    ∃ members, groupMembers st (bearerRequest owner)
      ((memberParams groupDid limit cursor).set "limit" (.int 100)) = .ok members := by
  obtain ⟨g, hg, hgDid⟩ := hgroup
  obtain ⟨m, hm, hmKey⟩ := hmember
  have hcaller : requiredDid (bearerRequest owner) = .ok owner := rfl
  have hgiven : ((memberParams groupDid limit cursor).set "limit" (.int 100)).get "group_did" =
      .str groupDid := rfl
  have htruthy : (Json.str groupDid).truthy = true := truthy_str_iff.mpr hempty
  have hknown : (st.groups.any fun g ↦ decide (g.groupDid = groupDid)) = true :=
    List.any_eq_true.mpr ⟨g, hg, decide_eq_true hgDid⟩
  have hmember : (st.groupMembers.any fun m ↦ decide (m.key = (groupDid, owner))) = true :=
    List.any_eq_true.mpr ⟨m, hm, decide_eq_true hmKey⟩
  unfold groupMembers
  dsimp only
  rw [hcaller, ok_bind, hgiven, htruthy, require_true, ok_bind]
  exact ⟨_, bind_eq_ok.mpr ⟨(), rfl, bind_eq_ok.mpr ⟨100, rfl, bind_eq_ok.mpr ⟨groupDid, rfl,
    bind_eq_ok.mpr ⟨(), require_eq_ok.mpr hknown, bind_eq_ok.mpr
      ⟨(), require_eq_ok.mpr hmember, rfl⟩⟩⟩⟩⟩⟩

/-- **Who may list the members gets a list**, and the store is the same after it when the Host could
not be asked. -/
theorem membersOfGroup_ok (hmay : MayList st owner groupDid) (limit : ℕ) (cursor : Json) :
    ∃ list, membersOfGroup st (bearerRequest owner) (memberParams groupDid limit cursor) noAnswer =
      .ok (list, st) := by
  obtain ⟨hblank, hstanding⟩ := hmay
  have hempty : groupDid ≠ "" := by
    rintro rfl
    cases hblank
  have hcaller : requiredDid (bearerRequest owner) = .ok owner := rfl
  have hgroup : (memberParams groupDid limit cursor).get "group_did" = .str groupDid := rfl
  have hgroup' : ((memberParams groupDid limit cursor).set "limit" (.int 100)).get "group_did" =
      .str groupDid := rfl
  unfold membersOfGroup
  dsimp only
  rw [hgroup, isHostedGroup_str _ hempty, ok_bind, hasGroupProjection_str hcaller hempty]
  cases hhosted : st.hostedGroup? groupDid with
  | some group =>
    rw [hhosted] at hstanding
    obtain ⟨m, hm, hactive⟩ := hstanding
    obtain ⟨members, hmembers⟩ := hostedGroupListMembers_ok hblank hgroup' hhosted hm hactive
    exact ⟨_, bind_eq_ok.mpr ⟨members, hmembers, bind_eq_ok.mpr ⟨groupDid, rfl,
      bind_eq_ok.mpr ⟨group, orRaise_eq_ok.mpr hhosted, rfl⟩⟩⟩⟩
  | none =>
    rw [hhosted] at hstanding
    cases hview : st.activeView? owner groupDid with
    | some view =>
      have hgiven : (Json.str groupDid).str?.filter (· ≠ "") = some groupDid := by
        show Option.filter _ (some groupDid) = _
        rw [Option.filter_some, if_pos (decide_eq_true hempty)]
      obtain ⟨members, hmembers⟩ := projectedGroupListMembers_ok hblank hgroup' hview
      exact ⟨_, bind_eq_ok.mpr ⟨true, rfl, bind_eq_ok.mpr ⟨groupDid, orRaise_eq_ok.mpr hgiven,
        bind_eq_ok.mpr ⟨(_, st), rfl, bind_eq_ok.mpr ⟨members, hmembers, rfl⟩⟩⟩⟩⟩
    | none =>
      rw [hview] at hstanding
      obtain ⟨members, hmembers⟩ := groupMembers_ok hempty hstanding.1 hstanding.2 limit cursor
      exact ⟨_, bind_eq_ok.mpr ⟨false, rfl, bind_eq_ok.mpr ⟨members, hmembers, rfl⟩⟩⟩

/-- **Every offset within the list is answered.** -/
theorem memberAnswer_pageAt (hmay : MayList st owner groupDid) (hlimit : 1 ≤ limit ∧ limit ≤ 100)
    {offset : ℕ} (hcursor : IsOffset "members:" cursor offset)
    (hle : offset ≤ (listedMembers st owner groupDid).length) :
    MemberAnswer st owner groupDid limit cursor
      (cursorPageAt "members:" (listedMembers st owner groupDid) offset limit) := by
  obtain ⟨list, hlist⟩ := membersOfGroup_ok hmay limit cursor
  have hcaller : requiredDid (bearerRequest owner) = .ok owner := rfl
  have hgiven : (memberParams groupDid limit cursor).get "cursor" = cursor := rfl
  have hparsed : parseLocalViewLimit ((memberParams groupDid limit cursor).get "limit") 100 =
      .ok limit := by
    have hnumber : parseNonNegativeInt (.int limit) "limit" 100 = .ok limit := by
      show (if (limit : ℤ) < 0 then (.error (.invalidParams ("limit" ++ "_invalid")) : Result ℕ)
        else .ok (limit : ℤ).toNat) = _
      rw [if_neg (by omega), Int.toNat_natCast]
    have hbound : decide (limit ≤ 100) = true := decide_eq_true hlimit.2
    show parseLocalViewLimit (.int limit) 100 = _
    rw [parseLocalViewLimit, hnumber, ok_bind]
    dsimp only
    rw [if_neg (by omega), hbound, require_true, ok_bind]
    rfl
  have hmembers := membersOfGroup_eq_ok hcaller rfl hlist
  have hrange : (decide ((0 : ℤ) ≤ offset) &&
      decide ((offset : ℤ) ≤ (listedMembers st owner groupDid).length)) = true := by
    rw [Bool.and_eq_true, decide_eq_true_iff, decide_eq_true_iff]
    exact ⟨Int.natCast_nonneg offset, Int.ofNat_le.mpr hle⟩
  have hok : ∃ page, groupMembersDispatch st (bearerRequest owner)
      (memberParams groupDid limit cursor) noAnswer = .ok (page, st) ∧
        page.cursorPage =
          cursorPageAt "members:" (listedMembers st owner groupDid) offset limit := by
    unfold groupMembersDispatch
    rw [hlist, ok_bind]
    dsimp only
    rw [hparsed, ok_bind, hgiven, hcursor, ok_bind, hmembers, hrange, require_true, ok_bind]
    exact ⟨_, rfl, rfl⟩
  obtain ⟨page, hpage, hat⟩ := hok
  exact ⟨_, _, _, page, ⟨hcaller, rfl, hparsed, hgiven⟩, hpage, hat⟩

end Members

/-! ### A hundred and one -/

/-- A group that alice has joined, hosted elsewhere. -/
def farGroup (n : ℕ) : GroupView where
  ownerDid := alice
  groupDid := "did:wba:far.example:groups:" ++ toString n
  hostServiceDid := "did:wba:far.example"
  profile := []
  policy := []
  groupStateVersion := 1
  groupEventSeq := 1
  memberRole := "member"
  membershipStatus := .active
  updatedAt := "2026-05-01T00:00:00Z"
  wireProfile := .v1
  observedEventSeq := 1
  observedStateVersion := 1

/-- Alice has joined a hundred and one groups. -/
def farGroups : Store := { groupViews := (List.range 101).map farGroup }

/-- A group from before hosted groups. -/
def villageDid : String := "did:wba:host.example:groups:village"

/-- A legacy group. -/
def village : LegacyGroup := ⟨villageDid, "Village", none, "open_join", "2026-05-01T00:00:00Z"⟩

/-- Its members are numbered. -/
def villager (n : ℕ) : LegacyMember :=
  ⟨villageDid, "did:wba:host.example:user:" ++ toString n, "member", "2026-05-01T00:00:00Z"⟩

/-- The group has a hundred and one members. -/
def fullVillage : Store := { groups := [village], groupMembers := (List.range 101).map villager }

/-- Rows with a number in their key. -/
theorem keyed_numbered {ρ κ : Type*} {row : ℕ → ρ} {key : ρ → κ} {word : String}
    (part : κ → String) (hpart : ∀ n, part (key (row n)) = word ++ toString n) (count : ℕ) :
    Table.Keyed key ((List.range count).map row) := by
  have hinjective : Function.Injective fun n ↦ key (row n) := by
    intro a b heq
    have htext : word ++ toString a = word ++ toString b := by
      rw [← hpart a, ← hpart b]
      exact congrArg part heq
    have hdigits := congrArg (withoutHead word) htext
    rw [withoutHead_append, withoutHead_append] at hdigits
    exact toString_nat_inj hdigits
  rw [Table.Keyed, List.map_map]
  exact List.nodup_range.map hinjective

/-- These tables keep their keys. -/
theorem farGroups_keys : ListKeys farGroups where
  hostedGroups := List.nodup_nil
  hostedGroupMembers := List.nodup_nil
  groups := List.nodup_nil
  groupMembers := List.nodup_nil
  groupViews := keyed_numbered Prod.snd (fun _ ↦ rfl) 101
  groupMemberViews := List.nodup_nil

/-- So do these. -/
theorem fullVillage_keys : ListKeys fullVillage where
  hostedGroups := List.nodup_nil
  hostedGroupMembers := List.nodup_nil
  groups := List.nodup_singleton _
  groupMembers := keyed_numbered Prod.snd (fun _ ↦ rfl) 101
  groupViews := List.nodup_nil
  groupMemberViews := List.nodup_nil

/-- All of them are projections of groups hosted elsewhere. -/
theorem projectedOnly_farGroups :
    projectedOnly farGroups alice = (List.range 101).map farGroup := by
  have hactive : activeViews farGroups alice = (List.range 101).map farGroup := by
    refine List.filter_eq_self.mpr fun v hv ↦ decide_eq_true ?_
    obtain ⟨n, -, rfl⟩ := List.mem_map.mp hv
    exact ⟨rfl, rfl⟩
  rw [projectedOnly, hactive]
  exact List.filter_eq_self.mpr fun v _ ↦ decide_eq_true List.not_mem_nil

/-- The members of the village are its villagers. -/
theorem legacyMembers_fullVillage :
    legacyMembers fullVillage villageDid = (List.range 101).map villager := by
  refine List.filter_eq_self.mpr fun m hm ↦ decide_eq_true ?_
  obtain ⟨n, -, rfl⟩ := List.mem_map.mp hm
  rfl

/-- The first villager may list the members. -/
theorem fullVillage_mayList : MayList fullVillage (villager 0).memberDid villageDid :=
  ⟨by decide, ⟨village, List.mem_singleton_self _, rfl⟩,
    villager 0, List.mem_map_of_mem (List.mem_range.mpr (by decide)), rfl⟩

/-- **When the lists are complete.** For every store within its primary keys, every owner and every
limit from 1 to 100: the list of groups can be read to its end, and every reading of it, page after
page, enumerates the groups the owner is an active member of, each once and with the true total,
exactly when the limits inside cut nothing off and no legacy group is hosted or projected too. Who
may list the members of a group can read them to the end, and every reading enumerates the active
members, each once and with the true total, exactly when the group is hosted or projected, or is a
legacy group of at most a hundred. -/
theorem lists_complete_iff (h : ListKeys st) (owner : String) (hlimit : 1 ≤ limit ∧ limit ≤ 100) :
    (∃ pages, Listing (GroupAnswer st owner limit) .null pages) ∧
      (∀ pages, Listing (GroupAnswer st owner limit) .null pages →
        (ListsAll "group_did" (ownGroups st owner) pages ↔ GroupListsFit st owner)) ∧
      ∀ groupDid, (MayList st owner groupDid →
          ∃ pages, Listing (MemberAnswer st owner groupDid limit) .null pages) ∧
        ∀ pages, Listing (MemberAnswer st owner groupDid limit) .null pages →
          (ListsAll "member_did" (memberEntries st owner groupDid) pages ↔
            MemberListFits st owner groupDid) :=
  ⟨exists_listing hlimit.1 (groupAnswer_pageAt hlimit),
    fun _ hlisting ↦ groupListing_complete_iff h hlisting,
    fun _ ↦ ⟨fun hmay ↦ exists_listing hlimit.1 (memberAnswer_pageAt hmay hlimit),
      fun _ hlisting ↦ memberListing_complete_iff h hlisting⟩⟩

/-- Alice is in the village, with one neighbour, and in a group elsewhere. -/
def smallWorld : Store :=
  { groups := [village], groupMembers := [{ villager 0 with memberDid := alice }, villager 1],
    groupViews := [farGroup 0] }

/-- Its tables keep their keys. -/
theorem smallWorld_keys : ListKeys smallWorld where
  hostedGroups := List.nodup_nil
  hostedGroupMembers := List.nodup_nil
  groups := List.nodup_singleton _
  groupMembers := List.pairwise_pair.mpr (by decide +kernel)
  groupViews := List.nodup_singleton _
  groupMemberViews := List.nodup_nil

/-- Alice may list the members of the village. -/
theorem smallWorld_mayList : MayList smallWorld alice villageDid :=
  ⟨by decide, ⟨village, List.mem_singleton_self _, rfl⟩,
    { villager 0 with memberDid := alice }, List.mem_cons_self, rfl⟩

/-- Her groups are listed one by one, both, and so are the members of the village, both. -/
theorem lists_complete_sample :
    (∃ pages, Listing (GroupAnswer smallWorld alice 1) .null pages ∧
      ListsAll "group_did" (ownGroups smallWorld alice) pages) ∧
    ∃ pages, Listing (MemberAnswer smallWorld alice villageDid 1) .null pages ∧
      ListsAll "member_did" (memberEntries smallWorld alice villageDid) pages ∧
      (memberEntries smallWorld alice villageDid).length = 2 := by
  have hlimit : 1 ≤ 1 ∧ 1 ≤ 100 := by decide
  obtain ⟨⟨pages, hpages⟩, hcomplete, hmembers⟩ := lists_complete_iff smallWorld_keys alice hlimit
  obtain ⟨hread, hmembersComplete⟩ := hmembers villageDid
  obtain ⟨memberPages, hmemberPages⟩ := hread smallWorld_mayList
  refine
    ⟨⟨pages, hpages, (hcomplete pages hpages).mpr ⟨by decide +kernel, ?_, by decide +kernel, ?_⟩⟩,
    memberPages, hmemberPages, (hmembersComplete memberPages hmemberPages).mpr (.inr (.inr ?_)), ?_⟩
  · intro v hv
    cases hv
  · decide +kernel
  · decide +kernel
  · decide +kernel

/-- **The hundred and first is missing**: a group of a member of a hundred and one, a member of a
legacy group of a hundred and one. -/
theorem hundred_first_missing :
    (¬ ∀ (st : Store) (owner : String) (limit : ℕ), ListKeys st → 1 ≤ limit ∧ limit ≤ 100 →
      ∀ pages, Listing (GroupAnswer st owner limit) .null pages →
        ListsAll "group_did" (ownGroups st owner) pages) ∧
    ¬ ∀ (st : Store) (owner groupDid : String) (limit : ℕ), ListKeys st →
      MayList st owner groupDid → 1 ≤ limit ∧ limit ≤ 100 →
      ∀ pages, Listing (MemberAnswer st owner groupDid limit) .null pages →
        ListsAll "member_did" (memberEntries st owner groupDid) pages := by
  have hlimit : 1 ≤ 100 ∧ 100 ≤ 100 := by decide
  constructor
  · intro hall
    obtain ⟨pages, hpages⟩ : ∃ pages, Listing (GroupAnswer farGroups alice 100) .null pages :=
      exists_listing hlimit.1 (groupAnswer_pageAt hlimit)
    have hfits := (groupListing_complete_iff farGroups_keys hpages).mp
      (hall farGroups alice 100 farGroups_keys hlimit pages hpages)
    have hwithin := hfits.networked
    rw [projectedOnly_farGroups, List.length_map, List.length_range] at hwithin
    omega
  · intro hall
    obtain ⟨pages, hpages⟩ := exists_listing hlimit.1
      (memberAnswer_pageAt fullVillage_mayList hlimit)
    have hfits := (memberListing_complete_iff fullVillage_keys hpages).mp
      (hall fullVillage _ villageDid 100 fullVillage_keys fullVillage_mayList hlimit pages hpages)
    rcases hfits with hhosted | hview | hfew
    · cases hhosted
    · cases hview
    · rw [legacyMembers_fullVillage, List.length_map, List.length_range] at hfew
      omega

end Awiki
