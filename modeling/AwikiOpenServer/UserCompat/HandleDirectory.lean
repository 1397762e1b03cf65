import AwikiOpenServer.Lib.Directory
import AwikiOpenServer.UserCompat.Handles
import AwikiOpenServer.UserCompat.Revocation

/-!
# The handle directory

The tables of identities, read as one `Directory`: **handles are bound to DIDs one to one**, and
every identity has a standing, the generation of its binding and whether it is revoked. What each
transaction does to the tables is an entry of that directory: a registration enrolls its handle, a
revocation raises the standing, and nothing else is entered at all.

So the committed history tells the directory at every moment, whatever the statements of the
requests interleave to (`directory_follows_history`), and the readers of bindings tell what it
holds. A handle that was bound once stays bound to the same identity, and gone when it is revoked
(`binding_is_permanent`); the handle a DID confirms leads back to it (`confirmed_handle_resolves`).

## An abstract model and a refinement

`Lib/Directory.lean` is the abstract model: a partial bijection between names and owners, a standing
for each owner that may only rise, and entries. It knows nothing of tables. `Store.directory` reads
one off a store whose tables are in order (`DirectoryOk`); that they are is an invariant, kept by
the primary keys and by what each transaction writes.

The refinement goes transaction by transaction. `DirectoryStep` is the step of a commit: the tables
are still in order, and the directory has made the step of the entry. For most requests the entry is
empty and the lemma is that nothing the directory reads has changed (`SameDirectory`); for a
registration and a revocation it is an equation of directories (`EnrollsUser.directory_eq`,
`directory_revoke`). `serveIdentity_enters` is that every request owes its step, whatever it
interleaves with.

## The readers

Each reader of a binding is a query of its own, joining two or three tables from one end or the
other: the two well-known documents and their routes, the look-up of the RPC by handle or by DID,
and groups. `ReadsDirectory` has one field for each, with what it answers as a function of the
directory; they are proved from the same few lemmas about joins on keyed tables. In this way that
**the readers agree with each other** needs no proof of its own.

## What is asked of handles

A handle is a text in several forms, and a look-up splits it before it looks. That the text of a
confirmed handle splits into its own parts is a matter of plain local parts
(`UserCompat/Handles.lean`), and only `confirmed_handle_resolves` asks for it.
-/

namespace Table

variable {ρ κ α : Type} [DecidableEq κ] {key : ρ → κ} {k : κ} {t : List ρ}

/-- On a keyed table, a join from one key starts at one row. -/
theorem Keyed.findSome?_eq (hk : Keyed key t) (g : ρ → Option α) :
    (t.findSome? fun r ↦ if key r = k then g r else none) = (row? key k t).bind g := by
  induction t with
  | nil => rfl
  | cons r rest ih =>
    rw [Keyed, List.map_cons, List.nodup_cons] at hk
    rw [List.findSome?_cons, row?, List.find?_cons]
    by_cases hkey : key r = k
    · have hother : (rest.findSome? fun r ↦ if key r = k then g r else none) = none := by
        refine List.findSome?_eq_none_iff.mpr fun r' hr' ↦ if_neg fun hkey' ↦ hk.1 ?_
        exact List.mem_map.mpr ⟨r', hr', hkey'.trans hkey.symm⟩
      rw [hother]
      cases hg : g r <;> simp [hkey, hg]
    · simpa [hkey, row?] using ih hk.2

end Table

namespace Awiki

open Py Transactions

/-! ### Standings -/

/-- The generation of a binding, and whether it is revoked. -/
structure BindingStanding where
  generation : String
  revoked : Bool
  deriving DecidableEq

namespace BindingStanding

/-- The generation stays, and so does a revocation. -/
instance : Preorder BindingStanding where
  le s t := s.generation = t.generation ∧ (s.revoked = true → t.revoked = true)
  le_refl _ := ⟨rfl, id⟩
  le_trans _ _ _ h h' := ⟨h.1.trans h'.1, fun hr ↦ h'.2 (h.2 hr)⟩

/-- A new identity. -/
def registered : BindingStanding := ⟨"1", false⟩

/-- It is revoked now. -/
def revoke (s : BindingStanding) : BindingStanding := { s with revoked := true }

/-- A revocation raises the standing. -/
theorem le_revoke (s : BindingStanding) : s ≤ s.revoke := ⟨rfl, fun _ ↦ rfl⟩

end BindingStanding

/-- Handles, DIDs and their standings. -/
abbrev HandleDirectory := Directory String String BindingStanding

/-- **What a committed request enters.** -/
def IdentityCall.entry (c : IdentityCall) (a : IdentityReply) : Directory.Entry String String :=
  match c, a with
  | .revoke _ did, _ => .raised did
  | _, .registered r => .enrolled r.storedHandle r.did
  | _, _ => .other

/-- The step of an entry. -/
abbrev HandleDirectory.Step : HandleDirectory → Directory.Entry String String → HandleDirectory →
    Prop :=
  Directory.Step BindingStanding.registered BindingStanding.revoke

/-- A directory that has followed a history. -/
abbrev HandleDirectory.Follows (d : HandleDirectory) (history : List (IdentityCall × IdentityReply))
    (d' : HandleDirectory) : Prop :=
  Directory.Follows BindingStanding.registered BindingStanding.revoke d
    (history.map fun e ↦ e.1.entry e.2) d'

/-! ### The tables as a directory -/

/-- The columns of a user that say whose handle is whose. -/
def User.binding (u : User) : String × String × String × Option String :=
  (u.did, u.handle, u.handleBindingGeneration, u.revokedAt)

/-- And these say how they stand. -/
def User.standing (u : User) : BindingStanding := ⟨u.handleBindingGeneration, u.revokedAt.isSome⟩

/-- The document of an identity is revoked with its user. -/
def DidDocument.Matches (d : DidDocument) (u : User) : Prop :=
  u.revokedAt = none ∧ d.status = .active ∧ d.revokedAt = none ∨
    u.revokedAt.isSome ∧ d.status = .revoked

/-- **The tables are in order**: the keys are unique, a profile repeats the handle of its user, and
every user has a document that goes with it. -/
structure DirectoryOk (st : Store) : Prop where
  users : Table.Keyed User.did st.users
  handles : Table.Keyed User.handle st.users
  documents : Table.Keyed DidDocument.did st.didDocuments
  profiles : (st.profiles.map fun p ↦ (p.did, p.handle)).Perm
    (st.users.map fun u ↦ (u.did, u.handle))
  generations : ∀ u ∈ st.users, u.handleBindingGeneration ≠ ""
  documented : ∀ u ∈ st.users, ∃ d ∈ st.didDocuments, d.did = u.did ∧ d.Matches u

section Tables

variable {st : Store} {did handle : String} {s : BindingStanding}

/-- Profiles and users have the same handles. -/
theorem DirectoryOk.mem_profiles (hok : DirectoryOk st) :
    (⟨did, handle⟩ : ProfileRow) ∈ st.profiles ↔
      ∃ u ∈ st.users, u.did = did ∧ u.handle = handle := by
  have hmem := hok.profiles.mem_iff (a := (did, handle))
  rw [List.mem_map, List.mem_map] at hmem
  simp only [Prod.mk.injEq] at hmem
  refine Iff.trans ⟨fun h ↦ ⟨_, h, rfl, rfl⟩, ?_⟩ hmem
  rintro ⟨⟨_, _⟩, hp, rfl, rfl⟩
  exact hp

/-- A DID has one profile, -/
theorem DirectoryOk.keyedProfiles (hok : DirectoryOk st) :
    Table.Keyed ProfileRow.did st.profiles := by
  have hperm := hok.profiles.map Prod.fst
  rw [List.map_map, List.map_map] at hperm
  exact hperm.nodup_iff.mpr hok.users

/-- and so has a handle. -/
theorem DirectoryOk.keyedHandles (hok : DirectoryOk st) :
    Table.Keyed ProfileRow.handle st.profiles := by
  have hperm := hok.profiles.map Prod.snd
  rw [List.map_map, List.map_map] at hperm
  exact hperm.nodup_iff.mpr hok.handles

/-- The profile of a handle names its user. -/
theorem handle_mem_row? (hok : DirectoryOk st) :
    did ∈ (Table.row? ProfileRow.handle handle st.profiles).map ProfileRow.did ↔
      ∃ u ∈ st.users, u.did = did ∧ u.handle = handle := by
  rw [← hok.mem_profiles, Option.mem_def, Option.map_eq_some_iff]
  simp only [hok.keyedHandles.row?_eq_some]
  constructor
  · rintro ⟨⟨_, _⟩, ⟨hp, rfl⟩, rfl⟩
    exact hp
  · exact fun h ↦ ⟨_, ⟨h, rfl⟩, rfl⟩

/-- The profile of a DID names its handle. -/
theorem did_mem_row? (hok : DirectoryOk st) :
    handle ∈ (Table.row? ProfileRow.did did st.profiles).map ProfileRow.handle ↔
      ∃ u ∈ st.users, u.did = did ∧ u.handle = handle := by
  rw [← hok.mem_profiles, Option.mem_def, Option.map_eq_some_iff]
  simp only [hok.keyedProfiles.row?_eq_some]
  constructor
  · rintro ⟨⟨_, _⟩, ⟨hp, rfl⟩, rfl⟩
    exact hp
  · exact fun h ↦ ⟨_, ⟨h, rfl⟩, rfl⟩

/-- The user of a DID says how it stands. -/
theorem standing_mem_row? (hok : DirectoryOk st) :
    s ∈ (Table.row? User.did did st.users).map User.standing ↔
      ∃ u ∈ st.users, u.did = did ∧ u.standing = s := by
  rw [Option.mem_def, Option.map_eq_some_iff]
  simp only [hok.users.row?_eq_some, and_assoc]

/-- **The directory of a store.** -/
def Store.directory (st : Store) (hok : DirectoryOk st) : HandleDirectory where
  owner :=
    { toFun := fun handle ↦
        (Table.row? ProfileRow.handle handle st.profiles).map ProfileRow.did
      invFun := fun did ↦ (Table.row? ProfileRow.did did st.profiles).map ProfileRow.handle
      inv := fun _ _ ↦ (did_mem_row? hok).trans (handle_mem_row? hok).symm }
  standing did := (Table.row? User.did did st.users).map User.standing
  isSome_standing did := by
    rw [Bool.eq_iff_iff, Option.isSome_iff_exists, Option.isSome_iff_exists]
    constructor
    · rintro ⟨s, hs⟩
      obtain ⟨u, hu, hdid, -⟩ := (standing_mem_row? hok).mp hs
      exact ⟨u.handle, (did_mem_row? hok).mpr ⟨u, hu, hdid, rfl⟩⟩
    · rintro ⟨handle, hhandle⟩
      obtain ⟨u, hu, hdid, -⟩ := (did_mem_row? hok).mp hhandle
      exact ⟨u.standing, (standing_mem_row? hok).mpr ⟨u, hu, hdid, rfl⟩⟩

/-- Whose handle it is, a user says. -/
theorem mem_owner_directory (hok : DirectoryOk st) :
    did ∈ (st.directory hok).owner handle ↔ ∃ u ∈ st.users, u.did = did ∧ u.handle = handle :=
  handle_mem_row? hok

/-- How a DID stands, its user says. -/
theorem mem_standing_directory (hok : DirectoryOk st) :
    s ∈ (st.directory hok).standing did ↔ ∃ u ∈ st.users, u.did = did ∧ u.standing = s :=
  standing_mem_row? hok

/-- Those with a standing are the users. -/
theorem isSome_standing_directory (hok : DirectoryOk st) :
    ((st.directory hok).standing did).isSome ↔ ∃ u ∈ st.users, u.did = did := by
  rw [Option.isSome_iff_exists]
  constructor
  · rintro ⟨s, hs⟩
    obtain ⟨u, hu, hdid, -⟩ := (mem_standing_directory hok).mp hs
    exact ⟨u, hu, hdid⟩
  · rintro ⟨u, hu, hdid⟩
    exact ⟨u.standing, (mem_standing_directory hok).mpr ⟨u, hu, hdid, rfl⟩⟩

/-- A directory is free where no user is. -/
theorem owner_directory_eq_none (hok : DirectoryOk st) (h : ∀ u ∈ st.users, u.handle ≠ handle) :
    (st.directory hok).owner handle = none := by
  refine Option.eq_none_iff_forall_not_mem.mpr fun did hdid ↦ ?_
  obtain ⟨u, hu, -, hhandle⟩ := (mem_owner_directory hok).mp hdid
  exact h u hu hhandle

/-- Who is no user has no handle. -/
theorem owner_symm_directory_eq_none (hok : DirectoryOk st) (h : ∀ u ∈ st.users, u.did ≠ did) :
    (st.directory hok).owner.symm did = none := by
  refine Option.eq_none_iff_forall_not_mem.mpr fun handle hhandle ↦ ?_
  rw [PEquiv.mem_iff_mem] at hhandle
  obtain ⟨u, hu, hdid, -⟩ := (mem_owner_directory hok).mp hhandle
  exact h u hu hdid

end Tables

/-! ### What each transaction enters -/

/-- **The step of a commit.** -/
def DirectoryStep (c : IdentityCall) (s : Store) (a : IdentityReply) (s' : Store) : Prop :=
  ∃ (hok : DirectoryOk s) (hok' : DirectoryOk s'),
    HandleDirectory.Step (s.directory hok) (c.entry a) (s'.directory hok')

/-- Nothing that the directory says has changed. -/
structure SameDirectory (s s' : Store) : Prop where
  profiles : s'.profiles = s.profiles
  users : s'.users.map User.binding = s.users.map User.binding
  documents : Table.Keyed DidDocument.did s.didDocuments →
    Table.Keyed DidDocument.did s'.didDocuments
  documented : ∀ d ∈ s.didDocuments, ∃ d' ∈ s'.didDocuments,
    d'.did = d.did ∧ d'.status = d.status ∧ d'.revokedAt = d.revokedAt

section Same

variable {s s' : Store}

/-- A table of users with the same columns has the same users, as far as the directory reads. -/
theorem exists_user_of_map {users users' : List User}
    (h : users'.map User.binding = users.map User.binding) {u : User} (hu : u ∈ users') :
    ∃ v ∈ users, v.did = u.did ∧ v.handle = u.handle ∧
      v.handleBindingGeneration = u.handleBindingGeneration ∧ v.revokedAt = u.revokedAt := by
  have hmem : u.binding ∈ users.map User.binding := h ▸ List.mem_map_of_mem hu
  obtain ⟨v, hv, heq⟩ := List.mem_map.mp hmem
  exact ⟨v, hv, by simpa [User.binding] using heq⟩

/-- Users have the same columns. -/
theorem SameDirectory.map_users (h : SameDirectory s s') {α : Type}
    (f : String × String × String × Option String → α) :
    s'.users.map (f ∘ User.binding) = s.users.map (f ∘ User.binding) := by
  rw [← List.map_map, h.users, List.map_map]

/-- The tables are in order still. -/
theorem SameDirectory.directoryOk (h : SameDirectory s s') (hok : DirectoryOk s) :
    DirectoryOk s' where
  users := by
    have hmap := h.map_users fun b ↦ b.1
    exact (congrArg List.Nodup hmap).mpr hok.users
  handles := by
    have hmap := h.map_users fun b ↦ b.2.1
    exact (congrArg List.Nodup hmap).mpr hok.handles
  documents := h.documents hok.documents
  profiles := by
    have hmap := h.map_users fun b ↦ (b.1, b.2.1)
    rw [h.profiles]
    exact hok.profiles.trans (.of_eq hmap.symm)
  generations u hu := by
    obtain ⟨v, hv, -, -, hgeneration, -⟩ := exists_user_of_map h.users hu
    exact hgeneration ▸ hok.generations v hv
  documented u hu := by
    obtain ⟨v, hv, hdid, -, -, hrevoked⟩ := exists_user_of_map h.users hu
    obtain ⟨d, hd, hsame, hmatches⟩ := hok.documented v hv
    obtain ⟨d', hd', hdid', hstatus, hrevoked'⟩ := h.documented d hd
    refine ⟨d', hd', hdid'.trans (hsame.trans hdid), ?_⟩
    rw [DidDocument.Matches, hstatus, hrevoked', ← hrevoked]
    exact hmatches

/-- **Then the directory is the same.** -/
theorem SameDirectory.directory_eq (h : SameDirectory s s') (hok : DirectoryOk s) :
    s'.directory (h.directoryOk hok) = s.directory hok := by
  refine Directory.ext_mem (fun handle did ↦ ?_) fun did standing ↦ ?_
  · rw [mem_owner_directory, mem_owner_directory]
    constructor
    · rintro ⟨u, hu, rfl, rfl⟩
      obtain ⟨v, hv, hdid, hhandle, -, -⟩ := exists_user_of_map h.users hu
      exact ⟨v, hv, hdid, hhandle⟩
    · rintro ⟨u, hu, rfl, rfl⟩
      obtain ⟨v, hv, hdid, hhandle, -, -⟩ := exists_user_of_map h.users.symm hu
      exact ⟨v, hv, hdid, hhandle⟩
  · rw [mem_standing_directory, mem_standing_directory]
    constructor
    · rintro ⟨u, hu, rfl, rfl⟩
      obtain ⟨v, hv, hdid, -, hgeneration, hrevoked⟩ := exists_user_of_map h.users hu
      exact ⟨v, hv, hdid, by rw [User.standing, User.standing, hgeneration, hrevoked]⟩
    · rintro ⟨u, hu, rfl, rfl⟩
      obtain ⟨v, hv, hdid, -, hgeneration, hrevoked⟩ := exists_user_of_map h.users.symm hu
      exact ⟨v, hv, hdid, by rw [User.standing, User.standing, hgeneration, hrevoked]⟩

/-- Such a commit enters nothing. -/
theorem SameDirectory.step (h : SameDirectory s s') (hok : DirectoryOk s) {c : IdentityCall}
    {a : IdentityReply} (hentry : c.entry a = .other) : DirectoryStep c s a s' := by
  refine ⟨hok, h.directoryOk hok, ?_⟩
  rw [hentry, h.directory_eq hok]
  exact .other

/-- Documents may change in what the directory does not read. -/
theorem SameDirectory.of_documents (hprofiles : s'.profiles = s.profiles)
    (husers : s'.users = s.users) {p : DidDocument → Bool} {f : DidDocument → DidDocument}
    (hdocuments : s'.didDocuments = Table.updateWhere p f s.didDocuments)
    (hf : ∀ d, (f d).did = d.did ∧ (f d).status = d.status ∧ (f d).revokedAt = d.revokedAt) :
    SameDirectory s s' where
  profiles := hprofiles
  users := by rw [husers]
  documents hkeyed := by
    rw [hdocuments]
    exact hkeyed.updateWhere fun d _ ↦ (hf d).1
  documented d hd := by
    rw [hdocuments]
    refine ⟨_, Table.mem_updateWhere.mpr ⟨d, hd, rfl⟩, ?_⟩
    split
    · exact hf d
    · exact ⟨rfl, rfl, rfl⟩

/-- The tables may be the same. -/
theorem SameDirectory.of_eq (hprofiles : s'.profiles = s.profiles) (husers : s'.users = s.users)
    (hdocuments : s'.didDocuments = s.didDocuments) : SameDirectory s s' where
  profiles := hprofiles
  users := by rw [husers]
  documents hkeyed := hdocuments ▸ hkeyed
  documented d hd := ⟨d, hdocuments ▸ hd, rfl, rfl, rfl⟩

end Same

section Transactions

variable {s s' : Store}

/-- A nonce is no entry, -/
theorem consumeAuthNonce_same {req : IdentityRequest} {keyId : String} {m : SignatureMetadata}
    {a : Unit} (h : consumeAuthNonce req keyId m s = .ok (a, s')) : SameDirectory s s' := by
  obtain ⟨_, -, h⟩ := bind_eq_ok.mp h
  obtain ⟨rows, -, h⟩ := bind_eq_ok.mp h
  obtain ⟨-, rfl⟩ := Prod.mk.inj (pure_eq_ok.mp h)
  exact .of_eq rfl rfl rfl

/-- and a token that is drawn is not. -/
theorem drawAccessToken_profiles {out : IdentityOutside} {req : IdentityRequest} {did : String}
    {signed : Option SingleDeviceAccount} {manifest : Option SingleDeviceManifest}
    {drawn : String × String × Store}
    (h : drawAccessToken out req did signed manifest s = .ok drawn) :
    drawn.2.2.profiles = s.profiles := by
  unfold drawAccessToken at h
  split at h
  · obtain rfl := Except.ok.inj h
    rfl
  · obtain ⟨_, -, h⟩ := bind_eq_ok.mp h
    obtain ⟨s₁, hbind, h⟩ := bind_eq_ok.mp h
    obtain rfl := pure_eq_ok.mp h
    obtain ⟨-, -, accounts, rfl⟩ := bindDeviceAccount_eq_ok hbind
    rfl

/-- A rotation writes tokens. -/
theorem rotateTokensForDid_same {out : IdentityOutside} {req : IdentityRequest} {did : String}
    {signed : Option SingleDeviceAccount} {p : TokenPayload}
    (h : rotateTokensForDid out req did signed s = .ok (p, s')) : SameDirectory s s' := by
  obtain ⟨-, -, -, hdocuments, husers⟩ := rotateTokensForDid_eq_ok h
  have hprofiles : s'.profiles = s.profiles := by
    obtain ⟨_, -, h⟩ := bind_eq_ok.mp h
    obtain ⟨manifest, -, h⟩ := bind_eq_ok.mp h
    obtain ⟨drawn, hdraw, h⟩ := bind_eq_ok.mp h
    obtain ⟨s₂, hset, h⟩ := bind_eq_ok.mp h
    obtain ⟨-, rfl⟩ := Prod.mk.inj (pure_eq_ok.mp h)
    obtain ⟨_, -, hset⟩ := bind_eq_ok.mp hset
    obtain rfl := pure_eq_ok.mp hset
    exact drawAccessToken_profiles hdraw
  refine ⟨hprofiles, ?_, fun hkeyed ↦ hdocuments ▸ hkeyed, fun d hd ↦
    ⟨d, hdocuments ▸ hd, rfl, rfl, rfl⟩⟩
  rw [husers]
  exact Table.map_key_updateWhere fun _ _ ↦ rfl

/-- A publication keeps whose document it is. -/
theorem publishDocument_same {out : IdentityOutside} {p : Publication} {now : String}
    {a : PublishOutcome} (h : publishDocument out p now s = .ok (a, s')) : SameDirectory s s' := by
  obtain ⟨old, hash, -, -, -, hwritten, hkept, -, -⟩ := publishDocument_eq_ok h
  cases hw : a.written with
  | false =>
    obtain ⟨-, rfl⟩ := hkept hw
    exact .of_eq rfl rfl rfl
  | true =>
    obtain ⟨-, -, rfl⟩ := hwritten hw
    exact .of_documents rfl rfl rfl fun _ ↦ ⟨rfl, rfl, rfl⟩

/-- An agent's document comes under a DID without one, so it is no user's. -/
theorem consumeAgentToken_same {r : AgentTokenRequest} {row row' : AgentRegistrationToken}
    (h : consumeAgentToken r row s = .ok (row', s')) : SameDirectory s s' := by
  obtain ⟨_, -, h⟩ := bind_eq_ok.mp h
  split at h
  · obtain ⟨-, rfl⟩ := Prod.mk.inj (pure_eq_ok.mp h)
    exact .of_eq rfl rfl rfl
  · obtain ⟨s₁, hs₁, h⟩ := bind_eq_ok.mp h
    obtain ⟨rows, hrows, hs₁⟩ := bind_eq_ok.mp hs₁
    obtain ⟨hfresh, rfl⟩ := Table.insert?_eq_some.mp (orRaise_eq_ok.mp hrows)
    obtain rfl := pure_eq_ok.mp hs₁
    obtain ⟨-, rfl⟩ := Prod.mk.inj (pure_eq_ok.mp h)
    exact
      { profiles := rfl
        users := rfl
        documents := fun hkeyed ↦ hkeyed.append hfresh
        documented := fun d hd ↦ ⟨d, List.mem_append_left _ hd, rfl, rfl, rfl⟩ }

/-- One more user, active, under a DID and a handle that nobody has. -/
structure EnrollsUser (u : User) (s s' : Store) : Prop where
  free : ∀ v ∈ s.users, v.did ≠ u.did ∧ v.handle ≠ u.handle
  standing : u.standing = .registered
  users : s'.users = s.users ++ [u]
  profiles : s'.profiles = s.profiles ++ [⟨u.did, u.handle⟩]
  documents : ∃ d : DidDocument, d.did = u.did ∧ d.status = .active ∧ d.revokedAt = none ∧
    (∀ e ∈ s.didDocuments, e.did ≠ u.did) ∧ s'.didDocuments = s.didDocuments ++ [d]

namespace EnrollsUser

variable {u : User}

/-- One user more. -/
theorem mem_users (h : EnrollsUser u s s') {v : User} : v ∈ s'.users ↔ v ∈ s.users ∨ v = u := by
  rw [h.users, List.mem_append, List.mem_singleton]

/-- The tables are in order still. -/
theorem directoryOk (h : EnrollsUser u s s') (hok : DirectoryOk s) : DirectoryOk s' := by
  obtain ⟨d, hdid, hactive, hunrevoked, hfresh, hdocuments⟩ := h.documents
  have hgeneration : u.handleBindingGeneration = "1" :=
    congrArg BindingStanding.generation h.standing
  have hrevoked : u.revokedAt = none := by
    simpa [User.standing, BindingStanding.registered] using
      congrArg BindingStanding.revoked h.standing
  exact
    { users := h.users ▸ hok.users.append fun v hv ↦ (h.free v hv).1
      handles := h.users ▸ hok.handles.append fun v hv ↦ (h.free v hv).2
      documents := hdocuments ▸ hok.documents.append fun e he ↦ hdid ▸ hfresh e he
      profiles := by
        rw [h.profiles, h.users, List.map_append, List.map_append, List.map_singleton,
          List.map_singleton]
        exact hok.profiles.append_right _
      generations := fun v hv ↦ by
        rcases h.mem_users.mp hv with hold | rfl
        · exact hok.generations v hold
        · rw [hgeneration]
          decide
      documented := fun v hv ↦ by
        rw [hdocuments]
        rcases h.mem_users.mp hv with hold | rfl
        · obtain ⟨e, he, hmatches⟩ := hok.documented v hold
          exact ⟨e, List.mem_append_left _ he, hmatches⟩
        · exact ⟨d, by simp, hdid, .inl ⟨hrevoked, hactive, hunrevoked⟩⟩ }

/-- The handle was free, -/
theorem owner_eq_none (h : EnrollsUser u s s') (hok : DirectoryOk s) :
    (s.directory hok).owner u.handle = none :=
  owner_directory_eq_none hok fun v hv ↦ (h.free v hv).2

/-- and so was the DID. -/
theorem owner_symm_eq_none (h : EnrollsUser u s s') (hok : DirectoryOk s) :
    (s.directory hok).owner.symm u.did = none :=
  owner_symm_directory_eq_none hok fun v hv ↦ (h.free v hv).1

/-- **The directory has enrolled it.** -/
theorem directory_eq (h : EnrollsUser u s s') (hok : DirectoryOk s) :
    s'.directory (h.directoryOk hok) = (s.directory hok).enroll u.handle u.did .registered
      (h.owner_eq_none hok) (h.owner_symm_eq_none hok) := by
  refine Directory.ext_mem (fun handle did ↦ ?_) fun did standing ↦ ?_
  · rw [Directory.mem_owner_enroll, mem_owner_directory, mem_owner_directory]
    constructor
    · rintro ⟨v, hv, rfl, rfl⟩
      rcases h.mem_users.mp hv with hold | rfl
      · exact .inl ⟨v, hold, rfl, rfl⟩
      · exact .inr ⟨rfl, rfl⟩
    · rintro (⟨v, hv, rfl, rfl⟩ | ⟨rfl, rfl⟩)
      · exact ⟨v, h.mem_users.mpr (.inl hv), rfl, rfl⟩
      · exact ⟨u, h.mem_users.mpr (.inr rfl), rfl, rfl⟩
  · rw [Directory.standing_enroll, mem_standing_directory]
    split
    · rename_i hsame
      subst hsame
      -- the DID was free, so what stands under it is the new user's
      rw [Option.mem_some_iff]
      constructor
      · rintro ⟨v, hv, hdid, rfl⟩
        rcases h.mem_users.mp hv with hold | rfl
        · exact absurd hdid (h.free v hold).1
        · exact h.standing.symm
      · rintro rfl
        exact ⟨u, h.mem_users.mpr (.inr rfl), rfl, h.standing⟩
    · rename_i hother
      rw [mem_standing_directory]
      constructor
      · rintro ⟨v, hv, rfl, rfl⟩
        rcases h.mem_users.mp hv with hold | rfl
        · exact ⟨v, hold, rfl, rfl⟩
        · exact absurd rfl hother
      · rintro ⟨v, hv, rfl, rfl⟩
        exact ⟨v, h.mem_users.mpr (.inl hv), rfl, rfl⟩

end EnrollsUser

/-- **The rows of a registration**: a handle that nobody has, for a DID that has none. -/
theorem commitRegistration_rows {req : RegistrationRequest} {r r' : Registration}
    (h : commitRegistration req r s = .ok (r', s')) :
    r' = r ∧ ∃ u : User, u.did = r.did ∧ u.handle = r.storedHandle ∧ EnrollsUser u s s' := by
  obtain ⟨s₁, hs₁, h⟩ := bind_eq_ok.mp h
  obtain ⟨otps, rfl⟩ := checkPhone_eq_ok hs₁
  split at h
  · cases h
  · obtain ⟨_, -, h⟩ := bind_eq_ok.mp h
    obtain ⟨s₂, hs₂, h⟩ := bind_eq_ok.mp h
    obtain ⟨_, hunique, hs₂⟩ := bind_eq_ok.mp hs₂
    obtain rfl := pure_eq_ok.mp hs₂
    obtain ⟨s₃, hs₃, h⟩ := bind_eq_ok.mp h
    obtain ⟨accounts, rfl⟩ := bindRegisteredDevice_eq_ok hs₃
    obtain ⟨s₄, hs₄, h⟩ := bind_eq_ok.mp h
    obtain ⟨profiles, hprofiles, hs₄⟩ := bind_eq_ok.mp hs₄
    obtain ⟨documents, hdocuments, hs₄⟩ := bind_eq_ok.mp hs₄
    obtain rfl := pure_eq_ok.mp hs₄
    obtain ⟨rfl, rfl⟩ := Prod.mk.inj (pure_eq_ok.mp h)
    obtain ⟨-, rfl⟩ := Table.insert?_eq_some.mp (orRaise_eq_ok.mp hprofiles)
    obtain ⟨hdocument, rfl⟩ := Table.insert?_eq_some.mp (orRaise_eq_ok.mp hdocuments)
    have hfree : ∀ u ∈ s.users, u.did ≠ r.did ∧ u.handle ≠ r.storedHandle := fun u hu ↦ by
      have hrow := List.all_eq_true.mp (require_eq_ok.mp hunique) u hu
      simp only [Bool.and_eq_true, decide_eq_true_eq] at hrow
      exact ⟨hrow.1.1.1, hrow.1.1.2⟩
    exact ⟨rfl, _, rfl, rfl, hfree, rfl, rfl, rfl, _, rfl, rfl, rfl, hdocument, rfl⟩

/-- **A registration enrolls its handle.** -/
theorem commitRegistration_step {req : RegistrationRequest} {r r' : Registration}
    (h : commitRegistration req r s = .ok (r', s')) (hok : DirectoryOk s) :
    DirectoryStep (.register req) s (.registered r') s' := by
  obtain ⟨rfl, u, hdid, hhandle, henrolls⟩ := commitRegistration_rows h
  refine ⟨hok, henrolls.directoryOk hok, ?_⟩
  have hentry : IdentityCall.entry (.register req) (.registered r') = .enrolled u.handle u.did := by
    rw [hdid, hhandle]
    rfl
  rw [hentry, henrolls.directory_eq hok]
  exact .enrolled (henrolls.owner_eq_none hok) (henrolls.owner_symm_eq_none hok)

/-- A user after a revocation. -/
theorem mem_users_revoke {did now : String} {v : User} :
    v ∈ (revokeDocument did now (revokeUser did now s)).users ↔
      ∃ u ∈ s.users, (if u.did = did ∧ u.revokedAt = none then { u with revokedAt := some now }
        else u) = v := by
  show v ∈ Table.updateWhere _ _ s.users ↔ _
  simp [Table.mem_updateWhere]

/-- The tables are in order after a revocation. -/
theorem DirectoryOk.revoke (hok : DirectoryOk s) (did now : String) :
    DirectoryOk (revokeDocument did now (revokeUser did now s)) := by
  have hbinding : ∀ {α : Type} (f : String × String × String → α),
      (revokeDocument did now (revokeUser did now s)).users.map
        (fun u ↦ f (u.did, u.handle, u.handleBindingGeneration)) =
      s.users.map fun u ↦ f (u.did, u.handle, u.handleBindingGeneration) := fun f ↦
    Table.map_key_updateWhere fun _ _ ↦ rfl
  exact
    { users := (congrArg List.Nodup (hbinding fun b ↦ b.1)).mpr hok.users
      handles := (congrArg List.Nodup (hbinding fun b ↦ b.2.1)).mpr hok.handles
      documents := hok.documents.updateWhere fun _ _ ↦ rfl
      profiles := hok.profiles.trans (.of_eq (hbinding fun b ↦ (b.1, b.2.1)).symm)
      generations := fun v hv ↦ by
        obtain ⟨u, hu, rfl⟩ := mem_users_revoke.mp hv
        split
        · exact hok.generations u hu
        · exact hok.generations u hu
      documented := fun v hv ↦ by
        obtain ⟨u, hu, rfl⟩ := mem_users_revoke.mp hv
        obtain ⟨d, hd, hdid, hmatches⟩ := hok.documented u hu
        refine ⟨_, Table.mem_updateWhere.mpr ⟨d, hd, rfl⟩, ?_⟩
        by_cases hsame : u.did = did
        · rw [if_pos (decide_eq_true (hdid.trans hsame))]
          -- a user revoked before keeps that time; the document is written again
          split
          · exact ⟨hdid, .inr ⟨rfl, rfl⟩⟩
          · rename_i hrevoked
            have hsome : u.revokedAt.isSome := Option.ne_none_iff_isSome.mp fun hnone ↦
              hrevoked ⟨hsame, hnone⟩
            exact ⟨hdid, .inr ⟨hsome, rfl⟩⟩
        · rw [if_neg (by simpa [hdid] using hsame), if_neg fun hboth ↦ hsame hboth.1]
          exact ⟨hdid, hmatches⟩ }

/-- **The directory has raised the standing.** -/
theorem directory_revoke (hok : DirectoryOk s) (did now : String) :
    (revokeDocument did now (revokeUser did now s)).directory (hok.revoke did now) =
      (s.directory hok).amend did BindingStanding.revoke := by
  refine Directory.ext rfl (funext fun i ↦ ?_)
  rw [Directory.standing_amend]
  have hrow : Table.row? User.did i (revokeDocument did now (revokeUser did now s)).users =
      (Table.row? User.did i s.users).map fun u ↦
        if decide (u.did = did ∧ u.revokedAt = none) then { u with revokedAt := some now }
        else u := Table.row?_updateWhere fun _ _ ↦ rfl
  show (Table.row? User.did i _).map User.standing =
    if i = did then
      ((Table.row? User.did did s.users).map User.standing).map BindingStanding.revoke
    else (Table.row? User.did i s.users).map User.standing
  rw [hrow, Option.map_map]
  split
  · rename_i hsame
    subst hsame
    rw [Option.map_map]
    refine Option.map_congr fun u hu ↦ ?_
    have hdid : u.did = i := Table.key_of_row? hu
    cases hrevoked : u.revokedAt with
    | none => simp [hdid, hrevoked, User.standing, BindingStanding.revoke]
    | some time => simp [hrevoked, User.standing, BindingStanding.revoke]
  · rename_i hother
    refine Option.map_congr fun u hu ↦ ?_
    have hdid : u.did = i := Table.key_of_row? hu
    simp [hdid, hother]

/-- **A revocation raises the standing.** -/
theorem revoke_step {did : String} (req : IdentityRequest) (hok : DirectoryOk s)
    (hknown : ∃ u ∈ s.users, u.did = did) :
    DirectoryStep (.revoke req did) s .revoked
      (revokeDocument did req.now (revokeUser did req.now s)) := by
  refine ⟨hok, hok.revoke did req.now, ?_⟩
  rw [directory_revoke hok]
  exact .raised ((isSome_standing_directory hok).mpr hknown)

end Transactions

/-! ### The server -/

/-- What requests may rely on: users stay. -/
def KeepsUsers (s s' : Store) : Prop :=
  ∀ did, (∃ u ∈ s.users, u.did = did) → ∃ u ∈ s'.users, u.did = did

/-- **What a commit is**: a step of the directory. A registration is one that was checked. -/
structure Entered (out : IdentityOutside)
    (C : List (IdentityCall × IdentityReply) → IdentityCall → Option Store → Store → Prop)
    (h : List (IdentityCall × IdentityReply)) (c : IdentityCall) (s : Store) (a : IdentityReply)
    (s' : Store) : Prop where
  step : DirectoryStep c s a s'
  prepared : ∀ {r}, a = .registered r →
    ∃ req, c = .register req ∧ prepareRegistration out req = .ok r
  admitted : ∃ last, C h c last s

section Server

variable {out : IdentityOutside} {sha256Hex : String → String} {c : IdentityCall} {s s' s₀ : Store}
  {a : IdentityReply} {h : List (IdentityCall × IdentityReply)} {last : Option Store}
  {C : List (IdentityCall × IdentityReply) → IdentityCall → Option Store → Store → Prop}

/-- A step keeps users, -/
theorem DirectoryStep.keepsUsers (h : DirectoryStep c s a s') : KeepsUsers s s' := by
  obtain ⟨hok, hok', hstep⟩ := h
  intro did hu
  obtain ⟨t, ht⟩ := Option.isSome_iff_exists.mp ((isSome_standing_directory hok).mpr hu)
  obtain ⟨t', ht', -⟩ := (Directory.Step.le BindingStanding.le_revoke hstep).2 did t ht
  exact (isSome_standing_directory hok').mp (Option.isSome_iff_exists.mpr ⟨t', ht'⟩)

/-- and leaves the tables in order. -/
theorem DirectoryStep.directoryOk (h : DirectoryStep c s a s') : DirectoryOk s' := h.2.1

/-- A locked handler owes its step. -/
theorem guarded_locked_directory {α : Type} {f : Store → Result (α × Store)}
    (reply : α → IdentityReply)
    (hf : ∀ {s a s'}, DirectoryOk s → f s = .ok (a, s') → DirectoryStep c s (reply a) s' ∧
      ∀ {r}, reply a = .registered r → ∃ req, c = .register req ∧
        prepareRegistration out req = .ok r) :
    (Program.locked f).Guarded DirectoryOk
      (fun last s _ ↦ s = s₀ ∧ Serving.relying C KeepsUsers h c last s₀) (fun _ _ ↦ True)
      (fun a s' ↦ Entered out C h c s₀ (reply a) s' ∧ DirectoryOk s') last := by
  refine Program.guarded_locked_iff.mpr fun s hok hC a s' hf' ↦ ?_
  obtain ⟨rfl, hC, -⟩ := hC
  obtain ⟨hstep, hprepared⟩ := hf hok hf'
  exact ⟨⟨hstep, hprepared, _, hC⟩, hstep.directoryOk⟩

/-- The same, of one that enters nothing. -/
theorem guarded_locked_same {α : Type} {f : Store → Result (α × Store)} (reply : α → IdentityReply)
    (hentry : ∀ a, c.entry (reply a) = .other)
    (hf : ∀ {s a s'}, f s = .ok (a, s') → SameDirectory s s') :
    (Program.locked f).Guarded DirectoryOk
      (fun last s _ ↦ s = s₀ ∧ Serving.relying C KeepsUsers h c last s₀) (fun _ _ ↦ True)
      (fun a s' ↦ Entered out C h c s₀ (reply a) s' ∧ DirectoryOk s') last := by
  refine guarded_locked_directory reply fun {s a s'} hok hf' ↦ ⟨(hf hf').step hok (hentry a), ?_⟩
  intro r hr
  have hother := hentry a
  rw [hr] at hother
  exact absurd hother (by cases c <;> simp [IdentityCall.entry])

/-- **Every request owes its entry.** -/
theorem serveIdentity_enters (c : IdentityCall) :
    Serving.Owes DirectoryOk (Serving.relying C KeepsUsers)
      (fun h c s a s' ↦ Entered out C h c s a s') c (serveIdentity out sha256Hex c) none := by
  cases c with
  | authenticate req =>
    intro h s
    refine (Program.guarded_bind _ _).mpr (callerDid_guarded (fun _ _ _ ↦ trivial) ?_)
    intro read pick u d keyId m signed _ _
    exact guarded_locked_same (fun _ ↦ .caller { did := u.did, signedDevice := signed })
      (fun _ ↦ rfl) fun hok ↦ consumeAuthNonce_same hok
  | rotate r =>
    intro h s
    have hlocked : ∀ (req : IdentityRequest) (did : String) (signed : Option SingleDeviceAccount)
        (last : Option Store),
        (Program.locked (rotateTokensForDid out req did signed)).Guarded DirectoryOk
          (fun last s' _ ↦ s' = s ∧ Serving.relying C KeepsUsers h (.rotate r) last s)
          (fun _ _ ↦ True)
          (fun p s' ↦ Entered out C h (.rotate r) s (.tokens p) s' ∧ DirectoryOk s') last :=
      fun req did signed last ↦ guarded_locked_same .tokens (fun _ ↦ rfl) fun hok ↦
        rotateTokensForDid_same hok
    refine (Program.guarded_bind _ _).mpr ?_
    unfold serveRotation
    split
    · exact refreshAccessToken_guarded fun read u d _ _ ↦ hlocked _ _ _ _
    · exact didVerifyLogin_guarded fun read ↦ hlocked _ _ _ _
    · exact getMeTokens_guarded fun read ↦ hlocked _ _ _ _
  | register r =>
    intro h s
    refine (Program.guarded_bind _ _).mpr (guarded_bind_check fun p hp ↦ ?_)
    refine guarded_locked_directory .registered fun {s r' s'} hok hcommit ↦
      ⟨commitRegistration_step hcommit hok, ?_⟩
    rintro _ ⟨⟩
    obtain ⟨rfl, -⟩ := commitRegistration_rows hcommit
    exact ⟨r, rfl, hp⟩
  | updateDocument r =>
    intro h s
    refine (Program.guarded_bind _ _).mpr (guarded_bind_check fun p _ ↦ ?_)
    exact guarded_locked_same .published (fun _ ↦ rfl) fun hok ↦ publishDocument_same hok
  | exchangeAgentToken r =>
    intro h s
    refine (Program.guarded_bind _ _).mpr (agentTokenRow_guarded fun read row _ ↦ ?_)
    refine guarded_bind_check fun _ _ ↦ ?_
    exact guarded_locked_same .exchanged (fun _ ↦ rfl) fun hok ↦ consumeAgentToken_same hok
  | revoke req did =>
    intro h s
    refine (Program.guarded_bind _ _).mpr (Program.guarded_bind_query fun read _ ↦ ?_)
    refine guarded_bind_check fun _ hknown ↦ Program.guarded_bind_write fun s₀ s₁ hok hs₁ hC ↦ ?_
    obtain ⟨rfl, hC, hkeeps⟩ := hC
    obtain rfl := Except.ok.inj hs₁
    intro s₂ hs₂
    obtain rfl := Except.ok.inj hs₂
    -- the user the request saw is there still
    have hstep := revoke_step req hok
      (hkeeps read rfl did (by simpa using require_eq_ok.mp hknown))
    exact ⟨⟨hstep, fun hr ↦ (by cases hr), _, hC⟩, hstep.directoryOk⟩

/-- A serial history is what the directory has followed. -/
theorem follows_of_chain (hst : DirectoryOk s₀)
    (hc : Chain (fun h c s a s' ↦ Entered out C h c s a s') s₀ h s) :
    ∃ hok : DirectoryOk s, (s₀.directory hst).Follows h (s.directory hok) := by
  induction hc with
  | nil => exact ⟨hst, .nil⟩
  | snoc before commit ih =>
    obtain ⟨hok, hfollows⟩ := ih
    obtain ⟨_, hok', hstep⟩ := commit.step
    refine ⟨hok', ?_⟩
    rw [HandleDirectory.Follows, List.map_append]
    exact .snoc hfollows hstep

/-- Interleavings of identity requests are serial histories of entries. -/
theorem entered_chain {σ : IdentityServer} (hst : DirectoryOk s₀)
    (hreach : Serving.Reachable (serveIdentity out sha256Hex) C s₀ σ) :
    Chain (fun h c s a s' ↦ Entered out C h c s a s') s₀ σ.history σ.world.committed :=
  (hreach.relying (P := KeepsUsers) (G := fun h c s a s' ↦ Entered out C h c s a s') hst
    (fun hentered ↦ hentered.step.keepsUsers) (fun _ _ hu ↦ hu)
    (fun hab hbc did hu ↦ hbc did (hab did hu)) serveIdentity_enters).1.chain

end Server

/-! ### The readers -/

/-- What a document says of the standing. -/
def HandleDocument.standing (doc : HandleDocument) : BindingStanding :=
  ⟨doc.bindingGeneration, doc.status = .revoked⟩

/-- And what a confirmation does. -/
def HandleConfirmation.standing (c : HandleConfirmation) : BindingStanding :=
  ⟨c.bindingGeneration, c.status = .revoked⟩

namespace HandleDirectory

/-- Whose handle it is, unless they are revoked. -/
def active (d : HandleDirectory) (handle : String) : Option (String × BindingStanding) :=
  (d.resolve handle).filter fun r ↦ !r.2.revoked

/-- The handle of a DID, unless it is revoked. -/
def activeName (d : HandleDirectory) (did : String) : Option String :=
  (d.owner.symm did).filter fun _ ↦ (d.standing did).any fun s ↦ !s.revoked

/-- The status code of the well-known routes: gone when revoked, not found when nobody's. -/
def statusCode (s : Option BindingStanding) : ℕ :=
  s.elim 404 fun s ↦ if s.revoked then 410 else 200

end HandleDirectory

/-- **The readers of bindings read the directory.** -/
structure ReadsDirectory (out : HandleOutside) (st : Store) (d : HandleDirectory) : Prop where
  /-- The well-known document of a handle. -/
  resolution : ∀ now text,
    (handleResolutionDocument out.settings.didDomain now st text).toOption.map
      (fun doc ↦ (doc.did, doc.standing)) = d.resolve (splitHandle text out.settings.didDomain).1
  /-- The one of a DID is the inverse. -/
  confirmation : ∀ now did,
    (handleConfirmationDocument out.settings.didDomain now st did).toOption.map
      (fun c ↦ (c.handle, c.standing)) =
    (d.owner.symm did).bind fun handle ↦
      (d.standing did).map ((splitHandle handle out.settings.didDomain).2, ·)
  /-- The route of a handle answers with that document, under the status of its standing. -/
  handleRoute : ∀ now text, ∃ reply,
    handleDocument out.settings.didDomain now st text = .ok reply ∧
      reply.content? = (handleResolutionDocument out.settings.didDomain now st text).toOption ∧
      reply.statusCode = HandleDirectory.statusCode
        ((d.resolve (splitHandle text out.settings.didDomain).1).map Prod.snd)
  /-- And so does the route of a DID. -/
  didRoute : ∀ now did, ∃ reply,
    handleByDid out.settings.didDomain now st did = .ok reply ∧
      reply.content? = (handleConfirmationDocument out.settings.didDomain now st did).toOption ∧
      reply.statusCode = HandleDirectory.statusCode (d.standing did)
  lookupHandle : ∀ text, text ≠ "" →
    handleLookup out st "" text =
      (d.active (splitHandle text out.settings.didDomain).1).elim (.error (lookupMissing "" text))
        fun r ↦ .ok (localLookup out ⟨r.1, (splitHandle text out.settings.didDomain).1⟩)
  lookupDid : ∀ did text, did ≠ "" →
    handleLookup out st did text =
      (d.activeName did).elim (lookupElsewhere out did text)
        fun handle ↦ .ok (localLookup out ⟨did, handle⟩)
  /-- What a group takes a handle for. -/
  groups : ∀ req text,
    resolveHandle out.settings st req text =
      (d.active (splitHandle text out.settings.didDomain).1).elim
        (req.outside.resolveHandleBinding text)
        fun r ↦ .ok { handle := (splitHandle text out.settings.didDomain).2
                      did := r.1
                      bindingGeneration := r.2.generation }

/-- The row of a binding, and what it says. -/
structure BindingRow.Binds (row : BindingRow) (did handle : String) (s : BindingStanding) :
    Prop where
  profile : row.profile = ⟨did, handle⟩
  generation : row.user.handleBindingGeneration = s.generation
  nonempty : s.generation ≠ ""
  revoked : row.revoked = s.revoked

section Readers

variable {st : Store} {did handle : String} {s : BindingStanding} {row : BindingRow}
  {out : HandleOutside} {now : String}

/-- **Every profile has its partners.** -/
theorem bindingOf?_of_mem (handle : String) (hok : DirectoryOk st)
    (hs : s ∈ (st.directory hok).standing did) :
    ∃ row, st.bindingOf? ⟨did, handle⟩ = some row ∧ row.Binds did handle s := by
  obtain ⟨u, hu, rfl, rfl⟩ := (mem_standing_directory hok).mp hs
  obtain ⟨d, hd, hdid, hmatches⟩ := hok.documented u hu
  have huser : Table.row? User.did u.did st.users = some u := hok.users.row?_of_mem hu
  have hdocument : Table.row? DidDocument.did u.did st.didDocuments = some d :=
    hdid ▸ hok.documents.row?_of_mem hd
  refine ⟨⟨⟨u.did, handle⟩, u, d⟩, ?_, rfl, rfl, hok.generations u hu, ?_⟩
  · simp [Store.bindingOf?, huser, hdocument]
  · rcases hmatches with ⟨hnone, hactive, hunrevoked⟩ | ⟨hsome, hrevoked⟩
    · simp [BindingRow.revoked, User.standing, hnone, hactive, hunrevoked]
    · simp [BindingRow.revoked, User.standing, hsome, hrevoked]

/-- A handle that is bound has its profile, -/
theorem row?_handle (hok : DirectoryOk st) (hdid : did ∈ (st.directory hok).owner handle) :
    Table.row? ProfileRow.handle handle st.profiles = some ⟨did, handle⟩ :=
  hok.keyedHandles.row?_of_mem (hok.mem_profiles.mpr ((mem_owner_directory hok).mp hdid))

/-- and so has its DID. -/
theorem row?_did (hok : DirectoryOk st) (hdid : did ∈ (st.directory hok).owner handle) :
    Table.row? ProfileRow.did did st.profiles = some ⟨did, handle⟩ :=
  hok.keyedProfiles.row?_of_mem (hok.mem_profiles.mpr ((mem_owner_directory hok).mp hdid))

/-- One that is not has none, -/
theorem row?_handle_eq_none {hok : DirectoryOk st} (h : (st.directory hok).owner handle = none) :
    Table.row? ProfileRow.handle handle st.profiles = none := Option.map_eq_none_iff.mp h

/-- nor has a DID without a handle. -/
theorem row?_did_eq_none {hok : DirectoryOk st} (h : (st.directory hok).owner.symm did = none) :
    Table.row? ProfileRow.did did st.profiles = none := Option.map_eq_none_iff.mp h

/-- The join from a handle, and from a DID. -/
theorem bindingRow?_handle (hok : DirectoryOk st) :
    st.bindingRow? (fun p ↦ p.handle = handle) =
      (Table.row? ProfileRow.handle handle st.profiles).bind st.bindingOf? := by
  simpa [Store.bindingRow?] using hok.keyedHandles.findSome?_eq st.bindingOf?

/-- Likewise from a DID. -/
theorem bindingRow?_did (hok : DirectoryOk st) :
    st.bindingRow? (fun p ↦ p.did = did) =
      (Table.row? ProfileRow.did did st.profiles).bind st.bindingOf? := by
  simpa [Store.bindingRow?] using hok.keyedProfiles.findSome?_eq st.bindingOf?

/-- A document tells how its row stands. -/
theorem BindingRow.Binds.standing_document (h : row.Binds did handle s)
    (didDomain now : String) :
    (handleDocumentFromProfile didDomain now row).standing = s := by
  obtain ⟨generation, revoked⟩ := s
  have hgeneration : row.user.handleBindingGeneration = generation := h.generation
  have hnonempty : generation ≠ "" := h.nonempty
  have hrevoked : row.revoked = revoked := h.revoked
  cases revoked <;>
    simp [HandleDocument.standing, handleDocumentFromProfile, hgeneration, hnonempty, hrevoked]

/-- The document of a handle. -/
theorem reads_resolution (hok : DirectoryOk st) (didDomain text : String) :
    (handleResolutionDocument didDomain now st text).toOption.map
      (fun doc ↦ (doc.did, doc.standing)) =
    (st.directory hok).resolve (splitHandle text didDomain).1 := by
  rw [handleResolutionDocument]
  cases hresolve : (st.directory hok).resolve (splitHandle text didDomain).1 with
  | none =>
    rw [bindingRow?_handle hok, row?_handle_eq_none (Directory.resolve_eq_none.mp hresolve)]
    rfl
  | some r =>
    obtain ⟨hdid, hs⟩ := Directory.resolve_eq_some.mp hresolve
    obtain ⟨row, hrow, hbinds⟩ := bindingOf?_of_mem (splitHandle text didDomain).1 hok hs
    rw [bindingRow?_handle hok, row?_handle hok hdid, Option.bind_some, hrow]
    have hstanding := hbinds.standing_document didDomain now
    have hdid' : row.profile.did = r.1 := congrArg ProfileRow.did hbinds.profile
    show some ((handleDocumentFromProfile didDomain now row).did, _) = _
    rw [hstanding]
    exact congrArg (fun did ↦ some (did, r.2)) hdid'

/-- The document of a DID. -/
theorem reads_confirmation (hok : DirectoryOk st) (didDomain : String) :
    (handleConfirmationDocument didDomain now st did).toOption.map
      (fun c ↦ (c.handle, c.standing)) =
    ((st.directory hok).owner.symm did).bind fun handle ↦
      ((st.directory hok).standing did).map ((splitHandle handle didDomain).2, ·) := by
  rw [handleConfirmationDocument]
  cases hname : (st.directory hok).owner.symm did with
  | none =>
    rw [bindingRow?_did hok, row?_did_eq_none hname]
    rfl
  | some handle =>
    have hdid : did ∈ (st.directory hok).owner handle :=
      (st.directory hok).owner.mem_iff_mem.mp hname
    obtain ⟨s, hs⟩ := Option.isSome_iff_exists.mp (Directory.standing_isSome_of_mem hdid)
    obtain ⟨row, hrow, hbinds⟩ := bindingOf?_of_mem handle hok hs
    rw [bindingRow?_did hok, row?_did hok hdid, Option.bind_some, hrow, hs]
    have hstanding := hbinds.standing_document didDomain now
    have hhandle : row.profile.handle = handle := congrArg ProfileRow.handle hbinds.profile
    show some ((handleDocumentFromProfile didDomain now row).handle,
      (handleDocumentFromProfile didDomain now row).standing) = _
    rw [hstanding, handleDocumentFromProfile, hhandle]
    rfl

/-- A document tells its standing, so the status of its route does. -/
theorem statusCode_eq {α : Type} {status : α → DocumentStatus} {standing : α → BindingStanding}
    (hstanding : ∀ a, (standing a).revoked = decide (status a = .revoked)) (r : Result α) :
    (r.toOption.elim 404 fun a ↦ if status a = .revoked then 410 else 200) =
      HandleDirectory.statusCode (r.toOption.map standing) := by
  rw [HandleDirectory.statusCode, Option.elim_map]
  refine congrArg (r.toOption.elim 404) (funext fun a ↦ ?_)
  simp [hstanding]

/-- **The route of a handle always answers**, by the standing. -/
theorem answers_handle (hok : DirectoryOk st) (didDomain text : String) :
    ∃ reply, handleDocument didDomain now st text = .ok reply ∧
      reply.content? = (handleResolutionDocument didDomain now st text).toOption ∧
      reply.statusCode = HandleDirectory.statusCode
        (((st.directory hok).resolve (splitHandle text didDomain).1).map Prod.snd) := by
  have hraises : RaisesOnly (fun e ↦ e.kind = .userServiceNotFound)
      (handleResolutionDocument didDomain now st text) := by
    simp [handleResolutionDocument, userServiceNotFound]
  obtain ⟨reply, hreply, hcontent, hstatus⟩ := wellKnownReply_answers HandleDocument.status
    [("error", .str "handle_not_found"), ("handle", .str (text ++ "." ++ didDomain))] hraises
  refine ⟨reply, hreply, hcontent, hstatus.trans ?_⟩
  rw [statusCode_eq (fun _ ↦ rfl : ∀ doc : HandleDocument, doc.standing.revoked = _),
    ← reads_resolution hok, Option.map_map]
  rfl

/-- **So does the route of a DID.** -/
theorem answers_did (hok : DirectoryOk st) (didDomain : String) :
    ∃ reply, handleByDid didDomain now st did = .ok reply ∧
      reply.content? = (handleConfirmationDocument didDomain now st did).toOption ∧
      reply.statusCode = HandleDirectory.statusCode ((st.directory hok).standing did) := by
  have hraises : RaisesOnly (fun e ↦ e.kind = .userServiceNotFound)
      (handleConfirmationDocument didDomain now st did) := by
    simp [handleConfirmationDocument, userServiceNotFound]
  obtain ⟨reply, hreply, hcontent, hstatus⟩ := wellKnownReply_answers HandleConfirmation.status
    [("error", .str "did_not_found"), ("did", .str did)] hraises
  refine ⟨reply, hreply, hcontent, hstatus.trans ?_⟩
  rw [statusCode_eq (fun _ ↦ rfl : ∀ c : HandleConfirmation, c.standing.revoked = _)]
  refine congrArg HandleDirectory.statusCode ?_
  -- who has a standing has a handle, so the confirmation leaves nobody out
  have hread : (handleConfirmationDocument didDomain now st did).toOption.map
      HandleConfirmation.standing = (((st.directory hok).owner.symm did).bind fun handle ↦
        ((st.directory hok).standing did).map ((splitHandle handle didDomain).2, ·)).map
          Prod.snd := by
    rw [← reads_confirmation hok didDomain, Option.map_map]
    rfl
  rw [hread]
  cases hname : (st.directory hok).owner.symm did with
  | none =>
    have hnone : (st.directory hok).standing did = none := by
      rw [← Option.not_isSome_iff_eq_none, (st.directory hok).isSome_standing, hname]
      exact Bool.false_ne_true
    rw [hnone]
    rfl
  | some handle =>
    rw [Option.bind_some, Option.map_map]
    exact Option.map_id'

/-- The condition of a look-up is the standing. -/
theorem activeProfile?_eq (hok : DirectoryOk st) {pick : ProfileRow → Bool}
    (hdid : did ∈ (st.directory hok).owner handle) (hs : s ∈ (st.directory hok).standing did)
    (hpick : ∀ p ∈ st.profiles, pick p = true ↔ p = ⟨did, handle⟩) :
    st.activeProfile? pick = if s.revoked then none else some ⟨did, handle⟩ := by
  obtain ⟨u, hu, rfl, rfl⟩ := (mem_standing_directory hok).mp hs
  obtain ⟨d, hd, hsame, hmatches⟩ := hok.documented u hu
  have huser : Table.row? User.did u.did st.users = some u := hok.users.row?_of_mem hu
  have hdocument : Table.row? DidDocument.did u.did st.didDocuments = some d :=
    hsame ▸ hok.documents.row?_of_mem hd
  have hp := hok.mem_profiles.mpr ((mem_owner_directory hok).mp hdid)
  -- the user and its document are revoked together, so the join tests one thing
  rcases hmatches with ⟨hnone, hactive, hunrevoked⟩ | ⟨hsome, hrevoked⟩
  · rw [if_neg (by simp [User.standing, hnone])]
    cases hfound : st.activeProfile? pick with
    | none =>
      have hmiss := List.find?_eq_none.mp hfound _ hp
      simp [(hpick _ hp).mpr rfl, huser, hdocument, hnone, hactive, hunrevoked] at hmiss
    | some p =>
      have hpicked := List.find?_some hfound
      simp only [Bool.and_eq_true] at hpicked
      rw [(hpick p (List.mem_of_find?_eq_some hfound)).mp hpicked.1.1]
  · rw [if_pos (by simpa [User.standing] using hsome), Store.activeProfile?, List.find?_eq_none]
    intro p hmem hboth
    simp only [Bool.and_eq_true] at hboth
    obtain rfl := (hpick p hmem).mp hboth.1.1
    simp [huser, Option.isNone_iff_eq_none, Option.isSome_iff_ne_none.mp hsome] at hboth

/-- Where no profile is picked none is active. -/
theorem activeProfile?_eq_none {pick : ProfileRow → Bool}
    (hpick : ∀ p ∈ st.profiles, pick p = false) : st.activeProfile? pick = none := by
  refine List.find?_eq_none.mpr fun p hp hboth ↦ ?_
  rw [hpick p hp] at hboth
  cases hboth

/-- The look-up by handle. -/
theorem reads_lookupHandle (hok : DirectoryOk st) {text : String} (htext : text ≠ "") :
    handleLookup out st "" text =
      ((st.directory hok).active (splitHandle text out.settings.didDomain).1).elim
        (.error (lookupMissing "" text))
        fun r ↦ .ok (localLookup out ⟨r.1, (splitHandle text out.settings.didDomain).1⟩) := by
  have helsewhere : lookupElsewhere out "" text = .error (lookupMissing "" text) := rfl
  rw [handleLookup, HandleDirectory.active]
  simp only [ne_eq, not_true_eq_false, decide_false, htext, not_false_eq_true, decide_true,
    Bool.or_true, require_true, ok_bind, if_false, helsewhere]
  cases hresolve : (st.directory hok).resolve (splitHandle text out.settings.didDomain).1 with
  | none =>
    have hfree := row?_handle_eq_none (Directory.resolve_eq_none.mp hresolve)
    rw [activeProfile?_eq_none fun p hp ↦ decide_eq_false (Table.row?_eq_none.mp hfree p hp)]
    rfl
  | some r =>
    obtain ⟨hdid, hs⟩ := Directory.resolve_eq_some.mp hresolve
    have hp := hok.mem_profiles.mpr ((mem_owner_directory hok).mp hdid)
    rw [activeProfile?_eq hok hdid hs fun p hmem ↦ by
      rw [decide_eq_true_iff]
      exact ⟨fun heq ↦ hok.keyedHandles.eq_of_key_eq hmem hp heq, fun heq ↦ heq ▸ rfl⟩]
    rw [Option.filter_some]
    cases r.2.revoked <;> rfl

/-- The look-up by DID. -/
theorem reads_lookupDid (hok : DirectoryOk st) {text : String} (hdid : did ≠ "") :
    handleLookup out st did text =
      ((st.directory hok).activeName did).elim (lookupElsewhere out did text)
        fun handle ↦ .ok (localLookup out ⟨did, handle⟩) := by
  rw [handleLookup, HandleDirectory.activeName]
  simp only [ne_eq, hdid, not_false_eq_true, decide_true, Bool.true_or, require_true, ok_bind,
    if_true]
  cases hname : (st.directory hok).owner.symm did with
  | none =>
    have hfree := row?_did_eq_none hname
    rw [activeProfile?_eq_none fun p hp ↦ decide_eq_false (Table.row?_eq_none.mp hfree p hp)]
    rfl
  | some handle =>
    have howner : did ∈ (st.directory hok).owner handle :=
      (st.directory hok).owner.mem_iff_mem.mp hname
    obtain ⟨s, hs⟩ := Option.isSome_iff_exists.mp (Directory.standing_isSome_of_mem howner)
    have hp := hok.mem_profiles.mpr ((mem_owner_directory hok).mp howner)
    rw [activeProfile?_eq hok howner hs fun p hmem ↦ by
      rw [decide_eq_true_iff]
      exact ⟨fun heq ↦ hok.keyedProfiles.eq_of_key_eq hmem hp heq, fun heq ↦ heq ▸ rfl⟩]
    rw [hs, Option.filter_some, Option.any_some]
    cases s.revoked <;> rfl

/-- Groups join profiles with users alone. -/
theorem reads_groups (hok : DirectoryOk st) {req : Request} {text : String} :
    resolveHandle out.settings st req text =
      ((st.directory hok).active (splitHandle text out.settings.didDomain).1).elim
        (req.outside.resolveHandleBinding text)
        fun r ↦ .ok { handle := (splitHandle text out.settings.didDomain).2
                      did := r.1
                      bindingGeneration := r.2.generation } := by
  rw [resolveHandle, HandleDirectory.active, hok.keyedHandles.findSome?_eq fun p ↦
    st.users.find? fun u ↦ decide (u.did = p.did ∧ u.revokedAt = none)]
  cases hresolve : (st.directory hok).resolve (splitHandle text out.settings.didDomain).1 with
  | none =>
    rw [row?_handle_eq_none (Directory.resolve_eq_none.mp hresolve)]
    rfl
  | some r =>
    obtain ⟨did, s⟩ := r
    obtain ⟨hdid, hs⟩ := Directory.resolve_eq_some.mp hresolve
    obtain ⟨u, hu, rfl, rfl⟩ := (mem_standing_directory hok).mp hs
    rw [row?_handle hok hdid, Option.bind_some, Option.filter_some]
    cases hfound : st.users.find? fun v ↦ decide (v.did = u.did ∧ v.revokedAt = none) with
    | none =>
      have hmiss := List.find?_eq_none.mp hfound u hu
      have hrevoked : u.revokedAt.isSome := Option.ne_none_iff_isSome.mp fun hnone ↦
        hmiss (decide_eq_true ⟨rfl, hnone⟩)
      rw [User.standing, hrevoked]
      rfl
    | some v =>
      have hpicked := List.find?_some hfound
      obtain ⟨hdid', hnone⟩ := of_decide_eq_true hpicked
      obtain rfl : v = u :=
        hok.users.eq_of_key_eq (List.mem_of_find?_eq_some hfound) hu hdid'
      rw [User.standing, hnone]
      rfl

/-- **The readers agree.** -/
theorem readsDirectory (out : HandleOutside) (hok : DirectoryOk st) :
    ReadsDirectory out st (st.directory hok) where
  resolution _ text := reads_resolution hok out.settings.didDomain text
  confirmation _ _ := reads_confirmation hok out.settings.didDomain
  handleRoute _ text := answers_handle hok out.settings.didDomain text
  didRoute _ _ := answers_did hok out.settings.didDomain
  lookupHandle _ htext := reads_lookupHandle hok htext
  lookupDid _ _ hdid := reads_lookupDid hok hdid
  groups _ _ := reads_groups hok

end Readers

/-! ### The directory over runs -/

section Runs

variable {out : HandleOutside} {sha256Hex : String → String} {st s : Store}
  {σ σ' : IdentityServer} {h : List (IdentityCall × IdentityReply)}
  {C : List (IdentityCall × IdentityReply) → IdentityCall → Option Store → Store → Prop}

/-- The history has a registration of the handle for the DID. -/
def RegisteredIn (handle did : String) (history : List (IdentityCall × IdentityReply)) : Prop :=
  ∃ e ∈ history, ∃ r, e.2 = .registered r ∧ r.storedHandle = handle ∧ r.did = did

/-- Registrations in a history have been checked, as calls that were let in. -/
theorem prepared_of_chain {out : IdentityOutside}
    (hc : Chain (fun h c s a s' ↦ Entered out C h c s a s') st h s) :
    ∀ e ∈ h, ∀ r, e.2 = .registered r → ∃ req, e.1 = .register req ∧
      prepareRegistration out req = .ok r ∧ ∃ h' last s', C h' (.register req) last s' := by
  refine hc.invariant (I := fun h _ ↦ ∀ e ∈ h, ∀ r, e.2 = .registered r → ∃ req,
    e.1 = .register req ∧ prepareRegistration out req = .ok r ∧
      ∃ h' last s', C h' (.register req) last s') (fun e he ↦ by cases he) ?_
  intro h c s a s' hold hentered e he r hr
  rcases List.mem_append.mp he with he | he
  · exact hold e he r hr
  · obtain rfl := List.mem_singleton.mp he
    obtain ⟨req, rfl, hprepared⟩ := hentered.prepared hr
    obtain ⟨last, hC⟩ := hentered.admitted
    exact ⟨req, rfl, hprepared, h, last, s, hC⟩

/-- A registration in a history answers a registration. -/
theorem registers_of_chain {out : IdentityOutside}
    (hc : Chain (fun h c s a s' ↦ Entered out C h c s a s') st h s) :
    ∀ e ∈ h, ∀ r, e.2 = .registered r → ∃ req, e.1 = .register req := fun e he r hr ↦ by
  obtain ⟨req, hreq, -⟩ := prepared_of_chain hc e he r hr
  exact ⟨req, hreq⟩

/-- What was enrolled are the registrations. -/
theorem enrolled_mem_iff {handle did : String}
    (hprepared : ∀ e ∈ h, ∀ r, e.2 = .registered r → ∃ req, e.1 = .register req) :
    .enrolled handle did ∈ h.map (fun e ↦ e.1.entry e.2) ↔ RegisteredIn handle did h := by
  rw [List.mem_map]
  constructor
  · rintro ⟨⟨c, a⟩, he, hentry⟩
    cases a with
    | registered r =>
      obtain ⟨req, rfl⟩ := hprepared _ he r rfl
      obtain ⟨hhandle, hdid⟩ := Directory.Entry.enrolled.inj hentry
      exact ⟨_, he, r, rfl, hhandle, hdid⟩
    | _ => cases c <;> cases hentry
  · rintro ⟨⟨c, a⟩, he, r, rfl, rfl, rfl⟩
    obtain ⟨req, rfl⟩ := hprepared _ he r rfl
    exact ⟨_, he, rfl⟩

/-- What was raised are the revocations. -/
theorem raised_mem_iff {did : String} :
    .raised did ∈ h.map (fun e ↦ e.1.entry e.2) ↔ RevokedIn did h := by
  rw [List.mem_map]
  constructor
  · rintro ⟨⟨c, a⟩, he, hentry⟩
    cases c with
    | revoke req i =>
      obtain rfl := Directory.Entry.raised.inj hentry
      exact ⟨_, he, rfl⟩
    | _ => cases a <;> cases hentry
  · rintro ⟨⟨c, a⟩, he, hrevokes⟩
    cases c with
    | revoke req i =>
      obtain rfl := Option.some.inj hrevokes
      exact ⟨_, he, rfl⟩
    | _ => cases hrevokes

variable (out) in
/-- **The committed history tells the directory.** In every state that identity requests can bring
about, their statements interleaved in any order, the tables hold the directory that the history has
built from the first one: a handle is bound to a DID if it was at first or has been registered for
it, and an identity is revoked if it was or has been. The two well-known documents, the look-ups by
handle and by DID, and the groups all read that directory. -/
theorem directory_follows_history (hst : DirectoryOk st)
    (hreach : Serving.Reachable (serveIdentity out.toIdentityOutside sha256Hex)
      (fun _ _ _ _ ↦ True) st σ) :
    ∃ d : HandleDirectory, (st.directory hst).Follows σ.history d ∧
      ReadsDirectory out σ.world.committed d ∧
      (∀ handle did, did ∈ d.owner handle ↔
        did ∈ (st.directory hst).owner handle ∨ RegisteredIn handle did σ.history) ∧
      ∀ did, (∃ s ∈ d.standing did, s.revoked = true) ↔
        (∃ s ∈ (st.directory hst).standing did, s.revoked = true) ∨ RevokedIn did σ.history := by
  have hchain := entered_chain hst hreach
  obtain ⟨hok, hfollows⟩ := follows_of_chain hst hchain
  refine ⟨_, hfollows, readsDirectory out hok, fun handle did ↦ ?_, fun did ↦ ?_⟩
  · rw [← enrolled_mem_iff (registers_of_chain hchain)]
    exact Directory.Follows.mem_owner_iff hfollows
  · rw [← raised_mem_iff]
    exact Directory.Follows.marked_iff (K := fun s ↦ s.revoked = true) (by decide)
      (fun _ ↦ rfl) hfollows

/-- A join is of the profile it started from. -/
theorem bindingOf?_profile {p : ProfileRow} {row : BindingRow} (h : st.bindingOf? p = some row) :
    row.profile = p := by
  simp only [Store.bindingOf?, Option.bind_eq_bind, Option.bind_eq_some_iff] at h
  obtain ⟨u, -, d, -, h⟩ := h
  exact (congrArg BindingRow.profile (Option.some.inj h)).symm

/-- What is in a resolution. -/
theorem handleResolutionDocument_handle {didDomain now text : String} {doc : HandleDocument}
    (hok : DirectoryOk st) (hdoc : handleResolutionDocument didDomain now st text = .ok doc) :
    doc.handle = (splitHandle (splitHandle text didDomain).1 didDomain).2 := by
  obtain ⟨row, hfound, hdoc⟩ := bind_eq_ok.mp hdoc
  obtain rfl := pure_eq_ok.mp hdoc
  rw [orRaise_eq_ok, bindingRow?_handle hok, Option.bind_eq_some_iff] at hfound
  obtain ⟨p, hp, hrow⟩ := hfound
  rw [handleDocumentFromProfile, bindingOf?_profile hrow, Table.key_of_row? hp]

/-- A handle that resolves has its document. -/
theorem handleResolutionDocument_eq_ok {d : HandleDirectory} (now : String) {text did : String}
    {s : BindingStanding} (hreads : ReadsDirectory out st d)
    (hr : d.resolve (splitHandle text out.settings.didDomain).1 = some (did, s)) :
    ∃ doc, handleResolutionDocument out.settings.didDomain now st text = .ok doc ∧
      doc.did = did ∧ doc.standing = s := by
  have hdoc := hreads.resolution now text
  rw [hr] at hdoc
  cases hresult : handleResolutionDocument out.settings.didDomain now st text with
  | error e =>
    rw [hresult] at hdoc
    cases hdoc
  | ok doc =>
    rw [hresult] at hdoc
    obtain ⟨hdid, hs⟩ := Prod.mk.inj (Option.some.inj hdoc)
    exact ⟨doc, rfl, hdid, hs⟩

variable (out) in
/-- **Bindings are permanent.** Once a text resolves, it resolves to the same DID and handle, with
the same generation, in every state that comes later. It is gone from the moment the identity is
revoked, and only then. And no later registration takes the handle, or the DID. -/
theorem binding_is_permanent (now' : String) {text now : String} {doc : HandleDocument}
    (hst : DirectoryOk st)
    (hreach : Serving.Reachable (serveIdentity out.toIdentityOutside sha256Hex)
      (fun _ _ _ _ ↦ True) st σ)
    (hlater : Runs.Reaches (Serving.Step (serveIdentity out.toIdentityOutside sha256Hex)) σ σ')
    (hdoc : handleResolutionDocument out.settings.didDomain now σ.world.committed text = .ok doc) :
    ∃ later doc', σ'.history = σ.history ++ later ∧
      handleResolutionDocument out.settings.didDomain now' σ'.world.committed text = .ok doc' ∧
      handleDocument out.settings.didDomain now' σ'.world.committed text =
        .ok (.document (if doc'.status = .revoked then 410 else 200) doc') ∧
      doc'.did = doc.did ∧ doc'.handle = doc.handle ∧
      doc'.bindingGeneration = doc.bindingGeneration ∧
      (doc'.status = .revoked ↔ doc.status = .revoked ∨ RevokedIn doc.did later) ∧
      ∀ handle did, RegisteredIn handle did later →
        handle ≠ (splitHandle text out.settings.didDomain).1 ∧ did ≠ doc.did := by
  obtain ⟨later, hhistory⟩ := Serving.history_prefix hlater
  have hreach' := hreach.trans (Serving.reachesWith_of_reaches hlater)
  have hchain' := entered_chain hst hreach'
  obtain ⟨hok, hfollows⟩ := follows_of_chain hst (entered_chain hst hreach)
  obtain ⟨hok', hfollows'⟩ := follows_of_chain hst hchain'
  -- the directory between the earlier entries and the later ones is the one read first
  rw [HandleDirectory.Follows, ← hhistory, List.map_append] at hfollows'
  obtain ⟨d, hbefore, hafter⟩ := Directory.Follows.split hfollows'
  obtain rfl := Directory.Follows.functional hbefore hfollows
  have hread := (readsDirectory out hok).resolution now text
  rw [hdoc] at hread
  have hresolve : (σ.world.committed.directory hok).resolve
      (splitHandle text out.settings.didDomain).1 = some (doc.did, doc.standing) := hread.symm
  have hgrown : (σ.world.committed.directory hok) ≤ (σ'.world.committed.directory hok') :=
    hafter.le BindingStanding.le_revoke
  obtain ⟨t, hthen, hgeneration, -⟩ := Directory.resolve_of_le hgrown hresolve
  obtain ⟨doc', hdoc', hdid, rfl⟩ :=
    handleResolutionDocument_eq_ok now' (readsDirectory out hok') hthen
  obtain ⟨hown, hs⟩ := Directory.resolve_eq_some.mp hresolve
  obtain ⟨hown', hs'⟩ := Directory.resolve_eq_some.mp hthen
  refine ⟨later, doc', hhistory.symm, hdoc', by rw [handleDocument, hdoc']; rfl, hdid, ?_,
    hgeneration.symm, ?_, ?_⟩
  · rw [handleResolutionDocument_handle hok' hdoc', handleResolutionDocument_handle hok hdoc]
  · have hmarked := hafter.marked_iff (i := doc.did) (K := fun s ↦ s.revoked = true) (by decide)
      fun _ ↦ rfl
    rw [raised_mem_iff] at hmarked
    have hread' : (∃ s ∈ (σ'.world.committed.directory hok').standing doc.did, s.revoked = true) ↔
        doc'.status = .revoked := by
      simp [Option.mem_def.mp hs', HandleDocument.standing]
    have hread : (∃ s ∈ (σ.world.committed.directory hok).standing doc.did, s.revoked = true) ↔
        doc.status = .revoked := by
      simp [Option.mem_def.mp hs, HandleDocument.standing]
    rwa [hread', hread] at hmarked
  · intro handle did hregistered
    have hentry : .enrolled handle did ∈ later.map fun e ↦ e.1.entry e.2 :=
      (enrolled_mem_iff fun e he ↦ registers_of_chain hchain' e
        (hhistory ▸ List.mem_append_right _ he)).mpr hregistered
    have hfree := hafter.names_nodup.2 handle did hentry
    have hne : handle ≠ (splitHandle text out.settings.didDomain).1 := by
      rintro rfl
      rw [Option.mem_def, hfree] at hown
      cases hown
    refine ⟨hne, ?_⟩
    -- a DID has one handle
    rintro rfl
    exact hne (PEquiv.inj _ (hafter.mem_owner_iff.mpr (.inr hentry)) hown')

/-- Documented of the SDK's `validate_local_part`: what it has accepted here is plain. -/
def IdentityCall.asksPlain (out : IdentityOutside) : IdentityCall → Bool
  | .register req =>
    match prepareRegistration out req with
    | .ok r => isPlainLocalPart r.localHandle
    | .error _ => true
  | _ => true

/-- A handle of the server's own domain. -/
def IsOwnHandle (out : IdentityOutside) (handle : String) : Prop :=
  ∃ localPart, isPlainLocalPart localPart = true ∧
    handle = localPart ++ "@" ++ out.lower out.settings.didDomain

/-- Only such handles are bound. -/
theorem isOwnHandle_of_mem_owner (hst : DirectoryOk st)
    (hplain : ∀ p ∈ st.profiles, IsOwnHandle out.toIdentityOutside p.handle)
    (hreach : Serving.Reachable (serveIdentity out.toIdentityOutside sha256Hex)
      (fun _ c _ _ ↦ c.asksPlain out.toIdentityOutside = true) st σ)
    {hok : DirectoryOk σ.world.committed} {handle did : String}
    (hdid : did ∈ (σ.world.committed.directory hok).owner handle) :
    IsOwnHandle out.toIdentityOutside handle := by
  have hchain := entered_chain hst hreach
  obtain ⟨_, hfollows⟩ := follows_of_chain hst hchain
  rcases (Directory.Follows.mem_owner_iff hfollows).mp hdid with hfirst | hentry
  · exact hplain _ (hst.mem_profiles.mpr ((mem_owner_directory hst).mp hfirst))
  · obtain ⟨e, he, r, hr, rfl, -⟩ := (enrolled_mem_iff (registers_of_chain hchain)).mp hentry
    obtain ⟨req, -, hreq, _, _, _, hasks⟩ := prepared_of_chain hchain e he r hr
    refine ⟨r.localHandle, ?_, prepareRegistration_storedHandle hreq⟩
    simpa [IdentityCall.asksPlain, hreq] using hasks

variable (out) in
/-- **What is confirmed resolves.** On a server whose handles are plain, the handle that a DID
confirms resolves to that DID, and to the same standing and time; and the full handle of every
registration that has committed resolves to the identity it was made for, as does the local part
alone if the domain of the server is in lower case. -/
theorem confirmed_handle_resolves (now : String) (hst : DirectoryOk st)
    (hdomain : isPlainDomain (out.lower out.settings.didDomain) = true)
    (hplain : ∀ p ∈ st.profiles, IsOwnHandle out.toIdentityOutside p.handle)
    (hreach : Serving.Reachable (serveIdentity out.toIdentityOutside sha256Hex)
      (fun _ c _ _ ↦ c.asksPlain out.toIdentityOutside = true) st σ) :
    (∀ did c, handleConfirmationDocument out.settings.didDomain now σ.world.committed did = .ok c →
      ∃ doc, handleResolutionDocument out.settings.didDomain now σ.world.committed c.handle =
        .ok doc ∧ doc.did = did ∧ doc.confirmation did = c) ∧
    ∀ e ∈ σ.history, ∀ r, e.2 = .registered r → ∀ text,
      (text = r.localHandle ++ "." ++ out.lower out.settings.didDomain ∨
        text = r.localHandle ∧ out.lower out.settings.didDomain = out.settings.didDomain) →
      ∃ doc, handleResolutionDocument out.settings.didDomain now σ.world.committed text = .ok doc ∧
        doc.did = r.did ∧
        doc.handle = r.localHandle ++ "." ++ out.lower out.settings.didDomain := by
  have hchain := entered_chain hst hreach
  obtain ⟨hok, hfollows⟩ := follows_of_chain hst hchain
  have hown : ∀ {handle did}, did ∈ (σ.world.committed.directory hok).owner handle →
      IsOwnHandle out.toIdentityOutside handle := fun hdid ↦
    isOwnHandle_of_mem_owner hst hplain hreach hdid
  constructor
  · intro did c hc
    obtain ⟨row, hfound, hc⟩ := bind_eq_ok.mp hc
    obtain rfl := pure_eq_ok.mp hc
    rw [orRaise_eq_ok, bindingRow?_did hok, Option.bind_eq_some_iff] at hfound
    obtain ⟨⟨_, handle⟩, hp, hrow⟩ := hfound
    obtain rfl := Table.key_of_row? hp
    have hdid := (mem_owner_directory hok).mpr (hok.mem_profiles.mp (Table.mem_of_row? hp))
    -- The confirmed handle is the full form of the stored one, and splits back into it.
    obtain ⟨localPart, hlocal, rfl⟩ := hown hdid
    obtain ⟨hstored, hfull⟩ := splitHandle_plain hlocal hdomain out.settings.didDomain
    have hprofile := bindingOf?_profile hrow
    have hhandle : (handleDocumentFromProfile out.settings.didDomain now row).handle =
        localPart ++ "." ++ out.lower out.settings.didDomain := by
      rw [handleDocumentFromProfile, hprofile, hstored]
    refine ⟨handleDocumentFromProfile out.settings.didDomain now row, ?_,
      congrArg ProfileRow.did hprofile, rfl⟩
    show handleResolutionDocument _ now _ (handleDocumentFromProfile _ now row).handle = _
    rw [hhandle, handleResolutionDocument, hfull, bindingRow?_handle hok, row?_handle hok hdid,
      Option.bind_some, hrow]
    rfl
  · intro e he r hr text htext
    obtain ⟨req, -, hreq, _, _, _, hasks⟩ := prepared_of_chain hchain e he r hr
    have hlocal : isPlainLocalPart r.localHandle = true := by
      simpa [IdentityCall.asksPlain, hreq] using hasks
    obtain ⟨hstored, hfull⟩ := splitHandle_plain hlocal hdomain out.settings.didDomain
    -- The registration is an entry of the history, so the directory holds its handle now.
    have hentry : .enrolled r.storedHandle r.did ∈ σ.history.map fun e ↦ e.1.entry e.2 :=
      (enrolled_mem_iff (registers_of_chain hchain)).mpr ⟨e, he, r, hr, rfl, rfl⟩
    have hdid := (Directory.Follows.mem_owner_iff hfollows).mpr (.inr hentry)
    obtain ⟨s, hs⟩ := Option.isSome_iff_exists.mp (Directory.standing_isSome_of_mem hdid)
    have htext' : (splitHandle text out.settings.didDomain).1 = r.storedHandle := by
      rw [prepareRegistration_storedHandle hreq]
      rcases htext with rfl | ⟨rfl, hlower⟩
      · rw [hfull]
      · rw [splitHandle_local hlocal, hlower]
    obtain ⟨doc, hdoc, hdid', -⟩ := handleResolutionDocument_eq_ok now
      (readsDirectory out hok) (htext' ▸ Directory.resolve_eq_some.mpr ⟨hdid, hs⟩)
    refine ⟨doc, hdoc, hdid', ?_⟩
    rw [handleResolutionDocument_handle hok hdoc, htext', prepareRegistration_storedHandle hreq,
      hstored]

end Runs

/-! ### Two for one handle -/

/-- Nobody else is asked. -/
def HandleOutside.sample : HandleOutside where
  toIdentityOutside := .sample
  fetchDidDocument _ := .error (.notFound "did_document_not_found")
  remoteWebHandleLookup _ := .error (.notFound "did_document_not_found")

/-- A registration of Bob, under this handle. -/
def RegistrationRequest.sample (handle newToken : String) : RegistrationRequest where
  toIdentityRequest := .sample [("handle", .str handle)] newToken
  newHandle := "000000"
  validHandleLocalPart := isPlainLocalPart
  otpHash := id

/-- One of them gets it, whoever takes the lock first. -/
def racedRegistrations : List (Event ℕ IdentityCall) :=
  [.start 0 (.register (.sample "@bob" "0")),
    .start 1 (.register (.sample "bob.host.example" "1"))] ++
    [1, 0, 1, 1, 1, 0, 0, 0].map .advance

/-- The server once that is over. -/
def afterRegistration : IdentityServer :=
  (Serving.idle {}).runAll (serveIdentity .sample id) racedRegistrations

/-- His DID. -/
def bobDid : String := "did:wba:host.example:users:bob:e1_default"

/-- And is revoked. -/
def afterBob : IdentityServer :=
  afterRegistration.runAll (serveIdentity .sample id)
    (.start 2 (.revoke (.sample [] "2") bobDid) :: List.replicate 4 (.advance 2))

/-- Empty tables are in order. -/
theorem directoryOk_empty : DirectoryOk {} where
  users := List.nodup_nil
  handles := List.nodup_nil
  documents := List.nodup_nil
  profiles := .refl _
  generations u hu := by cases hu
  documented u hu := by cases hu

/-- The server gets there. -/
theorem reachable_afterBob : Serving.Reachable (serveIdentity .sample id) (fun _ _ _ _ ↦ True) {}
    afterBob :=
  Serving.reachable_schedule _ (Serving.reachable_schedule _ (.refl _ _) _) _

/-- Two commits, and the directory has them. -/
theorem directory_follows_history_sample : afterBob.history.length = 2 ∧
    ∃ d : HandleDirectory, (Store.directory {} directoryOk_empty).Follows afterBob.history d ∧
      ReadsDirectory .sample afterBob.world.committed d ∧
      ∃ s ∈ d.standing bobDid, s.revoked = true := by
  have hrevoked : RevokedIn bobDid afterBob.history := by
    unfold RevokedIn
    decide +kernel
  obtain ⟨d, hfollows, hreads, -, hstanding⟩ :=
    directory_follows_history .sample directoryOk_empty reachable_afterBob
  exact ⟨by decide +kernel, d, hfollows, hreads, (hstanding bobDid).mpr (.inr hrevoked)⟩

/-- What `bob` resolves to before. -/
def bobDocument : HandleDocument where
  handle := "bob.host.example"
  did := bobDid
  status := .active
  bindingGeneration := "1"
  updated := "2026-01-01T00:00:00Z"
  localPart := "bob"
  domain := "host.example"

/-- So it does. -/
theorem bobDocument_eq : handleResolutionDocument "host.example" ""
    afterRegistration.world.committed "bob" = .ok bobDocument := by
  have hdoc : (handleResolutionDocument "host.example" "" afterRegistration.world.committed
      "bob").toOption = some bobDocument := by decide +kernel
  cases hresult : handleResolutionDocument "host.example" "" afterRegistration.world.committed
    "bob" with
  | error e =>
    rw [hresult] at hdoc
    cases hdoc
  | ok doc =>
    rw [hresult] at hdoc
    exact congrArg Except.ok (Option.some.inj hdoc)

/-- The handle is his still, and gone. -/
theorem binding_is_permanent_sample : ∃ doc, handleDocument "host.example" ""
    afterBob.world.committed "bob" = .ok (.document 410 doc) ∧ doc.did = bobDid := by
  obtain ⟨later, doc, hhistory, -, hdoc, hdid, -, -, hstatus, -⟩ :=
    binding_is_permanent .sample "" directoryOk_empty
      (Serving.reachable_schedule _ (.refl _ _) _)
      (Serving.reaches_runAll afterRegistration _ : Runs.Reaches _ afterRegistration afterBob)
      bobDocument_eq
  have hone : afterRegistration.history.length = 1 := by decide +kernel
  have hlater : afterBob.history.drop 1 = later :=
    (congrArg (List.drop 1) hhistory).trans (hone ▸ List.drop_left)
  have hrevoked : RevokedIn bobDid (afterBob.history.drop 1) := by
    unfold RevokedIn
    decide +kernel
  rw [if_pos (hstatus.mpr (.inr (hlater ▸ hrevoked)))] at hdoc
  exact ⟨doc, hdoc, hdid⟩

/-- His DID confirms a handle, which leads to him. -/
theorem confirmed_handle_resolves_sample :
    (handleConfirmationDocument "host.example" "" afterBob.world.committed bobDid).toOption.map
      HandleConfirmation.handle = some "bob.host.example" ∧
    ∀ c, handleConfirmationDocument "host.example" "" afterBob.world.committed bobDid = .ok c →
      ∃ doc, handleResolutionDocument "host.example" "" afterBob.world.committed c.handle =
        .ok doc ∧ doc.did = bobDid := by
  have hreach : Serving.Reachable (serveIdentity .sample id)
      (fun _ c _ _ ↦ IdentityCall.asksPlain .sample c = true) {} afterBob := by
    refine Serving.reachable_runAll _ ?_ (by decide +kernel)
    exact Serving.reachable_runAll _ (.refl _ _) (by decide +kernel)
  refine ⟨by decide +kernel, fun c hc ↦ ?_⟩
  obtain ⟨hconfirmed, -⟩ := confirmed_handle_resolves .sample ""
    directoryOk_empty (by decide +kernel) (fun p hp ↦ by cases hp) hreach
  obtain ⟨doc, hdoc, hdid, -⟩ := hconfirmed bobDid c hc
  exact ⟨doc, hdoc, hdid⟩

end Awiki
