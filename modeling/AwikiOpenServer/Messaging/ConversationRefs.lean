import AwikiOpenServer.Lib.JsonText
import AwikiOpenServer.Messaging.DeltaDrain
import AwikiOpenServer.Messaging.SnapshotSessions

/-!
# References of conversations

A client addresses a conversation by its reference only: `conversation_ref` computes it from owner
and peer, inserts it unless a row is in the way and reads it back; `conversation_peer` goes the
other way.

* `conversationReference` is what is computed: a digest of the two DIDs as JSON. The text determines
  the two (`conversationReference_inj`), so with a hash that has no collisions the reference does
  too.
* `RefsStep` is everything that happens to the table: readers draw references (`Draws.reaches`: each
  of them is a run of draws), all else leaves the table alone, and what a transaction drew and then
  took back has not happened.
* `RefsDerived` is the invariant and rows are never lost, so a reference **leads back to its peer
  for ever, is not replaced, and means nothing to another owner** (`conversation_refs_round_trip`).
-/

namespace Awiki

open Py Runs

/-- `"conv_" + hashlib.sha256(json.dumps([owner, peer], separators=(",",
":")).encode()).hexdigest()`. -/
def conversationReference (sha256Hex : String → String) (owner peer : String) : String :=
  "conv_" ++ sha256Hex (String.ofList (JsonText.texts [owner.toList, peer.toList]))

example : String.ofList (JsonText.texts ["did:ex:é".toList, "a\"b".toList]) =
    "[\"did:ex:\\u00e9\",\"a\\\"b\"]" := by decide +kernel

/-- What happens to the references. -/
inductive RefsAction where
  /-- A reader draws the reference of a conversation. -/
  | draw (outside : Outside) (owner peer : String)
  /-- Something else is written. -/
  | other

/-- One step. -/
inductive RefsStep (sha256Hex : String → String) : Store → RefsAction → Store → Prop where
  | draw {st st' : Store} {outside : Outside} {owner peer key : String}
      (houtside : outside.conversationRef = conversationReference sha256Hex)
      (hdraw : conversationRef outside st owner peer = .ok (key, st')) :
      RefsStep sha256Hex st (.draw outside owner peer) st'
  | other {st st' : Store} (h : st'.directConversationRefs = st.directConversationRefs) :
      RefsStep sha256Hex st .other st'

/-! ### The digest -/

section Digest

variable {sha256Hex : String → String} (hsha : Function.Injective sha256Hex)
include hsha

/-- **A reference determines its owner and its peer.** -/
theorem conversationReference_inj {owner peer owner' peer' : String}
    (h : conversationReference sha256Hex owner peer =
      conversationReference sha256Hex owner' peer') : owner = owner' ∧ peer = peer' := by
  have hdigest : sha256Hex (String.ofList (JsonText.texts [owner.toList, peer.toList])) =
      sha256Hex (String.ofList (JsonText.texts [owner'.toList, peer'.toList])) :=
    String.append_right_inj _ |>.mp h
  have htexts : [owner.toList, peer.toList] = [owner'.toList, peer'.toList] :=
    JsonText.texts_injective (String.ofList_injective (hsha hdigest))
  obtain ⟨howner, htail⟩ := List.cons.inj htexts
  exact ⟨String.toList_inj.mp howner, String.toList_inj.mp (List.cons.inj htail).1⟩

/-- The references of one owner determine the peer. -/
theorem conversationReference_injective (owner : String) :
    Function.Injective (conversationReference sha256Hex owner) :=
  fun _ _ h ↦ (conversationReference_inj hsha h).2

end Digest

/-! ### Runs -/

section Runs

variable {sha256Hex : String → String} {outside : Outside} {st st' : Store}
    {owner peer key : String}

/-- What a reader draws is a run of draws. -/
theorem Draws.reaches (houtside : outside.conversationRef = conversationReference sha256Hex)
    (h : Draws outside st st') : Reaches (RefsStep sha256Hex) st st' := by
  induction h with
  | refl => exact .refl st
  | tail _ hlast ih =>
    obtain ⟨owner, peer, key, hdraw⟩ := hlast
    exact ih.tail (.draw houtside hdraw)

section Drawn

variable (houtside : outside.conversationRef = conversationReference sha256Hex)
  (h : conversationRef outside st owner peer = .ok (key, st'))
include h

/-- A reference drawn is in the table, and no row has been lost. -/
theorem conversationRef_mem : ⟨owner, peer, key⟩ ∈ st'.directConversationRefs ∧
    st.directConversationRefs ⊆ st'.directConversationRefs := by
  obtain ⟨rows, ⟨hdrawn, hrows⟩, rfl⟩ := conversationRef_eq_ok h
  refine ⟨Table.mem_of_row? hdrawn, ?_⟩
  rcases hrows with rfl | ⟨rfl, -⟩
  · exact List.Subset.refl _
  · exact List.subset_append_left _ _

include houtside

/-- A draw keeps every reference the one derived. -/
theorem refsDerived_of_conversationRef (hsha : Function.Injective sha256Hex)
    (hrefs : RefsDerived (conversationReference sha256Hex) st.directConversationRefs) :
    RefsDerived (conversationReference sha256Hex) st'.directConversationRefs := by
  obtain ⟨_, _, hok, rows, hrows, rfl⟩ :=
    conversationRef_ok (conversationReference_injective hsha) houtside hrefs owner peer
  obtain ⟨-, rfl⟩ := Prod.mk.inj (Except.ok.inj (h.symm.trans hok))
  exact hrows

end Drawn

variable (hsha : Function.Injective sha256Hex)
include hsha

/-- **What a step preserves.** -/
theorem RefsStep.kept {a : RefsAction}
    (hrefs : RefsDerived (conversationReference sha256Hex) st.directConversationRefs)
    (h : RefsStep sha256Hex st a st') :
    RefsDerived (conversationReference sha256Hex) st'.directConversationRefs ∧
      st.directConversationRefs ⊆ st'.directConversationRefs := by
  cases h with
  | draw houtside hdraw =>
    exact ⟨refsDerived_of_conversationRef houtside hdraw hsha hrefs, (conversationRef_mem hdraw).2⟩
  | other h => exact ⟨h ▸ hrefs, h ▸ List.Subset.refl _⟩

/-- **What a run preserves.** -/
theorem refs_kept (hrun : Reaches (RefsStep sha256Hex) st st')
    (hrefs : RefsDerived (conversationReference sha256Hex) st.directConversationRefs) :
    RefsDerived (conversationReference sha256Hex) st'.directConversationRefs ∧
      st.directConversationRefs ⊆ st'.directConversationRefs :=
  ⟨hrun.invariant (I := fun s ↦
      RefsDerived (conversationReference sha256Hex) s.directConversationRefs) hrefs
      fun hi hl ↦ (hl.kept hsha hi).1,
    hrun.related hrefs (fun hi _ hl ↦ hl.kept hsha hi) (fun _ ↦ List.Subset.refl _)
      List.Subset.trans⟩

end Runs

/-! ### Looking a reference up -/

section Lookup

variable {sha256Hex : String → String} (hsha : Function.Injective sha256Hex) {outside : Outside}
  {st : Store} {owner peer key : String}
  (hrefs : RefsDerived (conversationReference sha256Hex) st.directConversationRefs)
include hsha hrefs

/-- Whatever row has a reference is the row it was drawn for. -/
theorem eq_of_conversationRef_eq (hmem : ⟨owner, peer, key⟩ ∈ st.directConversationRefs)
    {r : ConversationRef} (hr : r ∈ st.directConversationRefs) (hkey : r.conversationRef = key) :
    r.ownerDid = owner ∧ r.peerDid = peer :=
  conversationReference_inj hsha ((hrefs r hr).symm.trans (hkey.trans (hrefs _ hmem)))

/-- A reference in the table leads to its peer. -/
theorem conversationPeer_of_mem (hmem : ⟨owner, peer, key⟩ ∈ st.directConversationRefs) :
    conversationPeer outside st owner (.str key) = .ok peer := by
  have hfound : (st.directConversationRefs.find? fun r ↦
      decide (r.ownerDid = owner ∧ some r.conversationRef = some key)).isSome := by
    rw [List.find?_isSome]
    exact ⟨_, hmem, decide_eq_true ⟨rfl, rfl⟩⟩
  obtain ⟨r, hr⟩ := Option.isSome_iff_exists.mp hfound
  have hmatch := List.find?_some hr
  obtain ⟨-, href⟩ := of_decide_eq_true hmatch
  have hpeer : r.peerDid = peer := (eq_of_conversationRef_eq hsha hrefs hmem
    (List.mem_of_find?_eq_some hr) (Option.some.inj href)).2
  change (orRaise _ (st.directConversationRefs.find? _) >>= _) = _
  rw [hr]
  exact congrArg Except.ok hpeer

/-- No other owner has a row with the reference. -/
theorem conversationPeer_other {owner' : String} (hne : owner' ≠ owner)
    (hmem : ⟨owner, peer, key⟩ ∈ st.directConversationRefs) :
    conversationPeer outside st owner' (.str key) =
      .error (.invalidParams "sync.conversation_ref_unknown") := by
  have hnone : (st.directConversationRefs.find? fun r ↦
      decide (r.ownerDid = owner' ∧ some r.conversationRef = some key)) = none := by
    rw [List.find?_eq_none]
    intro r hr hmatch
    obtain ⟨howner, href⟩ := of_decide_eq_true hmatch
    exact hne (howner.symm.trans
      (eq_of_conversationRef_eq hsha hrefs hmem hr (Option.some.inj href)).1)
  change (orRaise _ (st.directConversationRefs.find? _) >>= _) = _
  rw [hnone]
  rfl

/-- A reference in the table is drawn again, and nothing is written. -/
theorem conversationRef_of_mem
    (houtside : outside.conversationRef = conversationReference sha256Hex)
    (hmem : ⟨owner, peer, key⟩ ∈ st.directConversationRefs) :
    conversationRef outside st owner peer = .ok (key, st) := by
  obtain ⟨key', st', hok, -⟩ :=
    conversationRef_ok (conversationReference_injective hsha) houtside hrefs owner peer
  obtain ⟨rows, ⟨hdrawn, hrows⟩, rfl⟩ := conversationRef_eq_ok hok
  rcases hrows with rfl | ⟨-, hfresh⟩
  · have hkey' : key' = key := (hrefs _ (Table.mem_of_row? hdrawn)).trans (hrefs _ hmem).symm
    rw [hok, hkey']
  · exact absurd rfl (hfresh _ hmem rfl).1

end Lookup

/-- **References go round.** In every run from an empty table a reference can be drawn, and however
the run goes on it leads its owner to the peer, stays the reference of the pair, is not the
reference of another peer of the owner, and is unknown to every other owner. -/
theorem conversation_refs_round_trip {sha256Hex : String → String}
    (hsha : Function.Injective sha256Hex) {outside : Outside}
    (houtside : outside.conversationRef = conversationReference sha256Hex) {st₀ st : Store}
    (hempty : st₀.directConversationRefs = []) (hrun : Reaches (RefsStep sha256Hex) st₀ st)
    (owner peer : String) :
    ∃ key st₁, conversationRef outside st owner peer = .ok (key, st₁) ∧
      ∀ (outside₂ : Outside) (st₂ : Store),
        outside₂.conversationRef = conversationReference sha256Hex →
        Reaches (RefsStep sha256Hex) st₁ st₂ →
          conversationPeer outside₂ st₂ owner (.str key) = .ok peer ∧
          conversationRef outside₂ st₂ owner peer = .ok (key, st₂) ∧
          (∀ peer' key' st₃, peer' ≠ peer →
            conversationRef outside₂ st₂ owner peer' = .ok (key', st₃) → key' ≠ key) ∧
          ∀ owner', owner' ≠ owner → conversationPeer outside₂ st₂ owner' (.str key) =
            .error (.invalidParams "sync.conversation_ref_unknown") := by
  have hrefs : RefsDerived (conversationReference sha256Hex) st.directConversationRefs :=
    (refs_kept hsha hrun fun r hr ↦ absurd (hempty ▸ hr) List.not_mem_nil).1
  obtain ⟨key, st₁, hdraw, -⟩ :=
    conversationRef_ok (conversationReference_injective hsha) houtside hrefs owner peer
  have hrefs₁ := refsDerived_of_conversationRef houtside hdraw hsha hrefs
  refine ⟨key, st₁, hdraw, fun outside₂ st₂ houtside₂ hrun₂ ↦ ?_⟩
  obtain ⟨hrefs₂, hkept⟩ := refs_kept hsha hrun₂ hrefs₁
  have hmem := hkept (conversationRef_mem hdraw).1
  refine ⟨conversationPeer_of_mem hsha hrefs₂ hmem,
    conversationRef_of_mem hsha hrefs₂ houtside₂ hmem, fun peer' key' st₃ hne hdraw' heq ↦ ?_,
    fun owner' hne ↦ conversationPeer_other hsha hrefs₂ hne hmem⟩
  have hrefs₃ := refsDerived_of_conversationRef houtside₂ hdraw' hsha hrefs₂
  have hother := hrefs₃ _ (conversationRef_mem hdraw').1
  exact hne (conversationReference_injective hsha owner
    (hother.symm.trans (heq.trans (hrefs₂ _ hmem))))

/-- A digest without collisions. -/
def plainDigest : Outside :=
  { Outside.honest with conversationRef := conversationReference id }

/-- Alice draws the reference to Bob and finds him by it; it says nothing to Carol. -/
theorem conversation_refs_round_trip_sample :
    ∃ key st₁, conversationRef plainDigest sampleSenders "did:ex:alice" "did:ex:bob" =
        .ok (key, st₁) ∧
      conversationPeer plainDigest st₁ "did:ex:alice" (.str key) = .ok "did:ex:bob" ∧
      conversationPeer plainDigest st₁ "did:ex:carol" (.str key) =
        .error (.invalidParams "sync.conversation_ref_unknown") := by
  obtain ⟨key, st₁, hdraw, hlater⟩ := @conversation_refs_round_trip id Function.injective_id
    plainDigest rfl sampleSenders sampleSenders rfl (.refl _) "did:ex:alice" "did:ex:bob"
  obtain ⟨hpeer, -, -, hother⟩ := hlater plainDigest st₁ rfl (.refl _)
  exact ⟨key, st₁, hdraw, hpeer, hother "did:ex:carol" (by decide)⟩

end Awiki
