import AwikiOpenServer.Lib.Runs
import AwikiOpenServer.UserCompat.Identity

/-!
# Signatures are consumed once

A signed authentication request carries a nonce, and `consume_auth_nonce` keeps the hash of key and
nonce until thirty seconds after the signature expires. Expired rows are purged by whichever call
comes next, so the table alone does not remember what was accepted: the run below keeps that history
beside it.

**What makes purging safe** is that three inequalities meet at one second. A signature is refused
from the second after `expires + 30`; its row says `expires + 30`; a row is purged from the second
after that. So an accepted signature is either still in the table or refused for good
(`AuthNonces.Remembered`), and the clock must not go back.

Nothing is assumed of the hash. Were it to collide, signatures would be refused that nobody sent.

## What a run is

A step is a call at some second, accepted or refused, or anything else that leaves the table alone
(`NonceStep`). The second is part of the call and may be any that is not before the last one
(`ClockForward`), so the result is about every clock that does not go back, and about any number of
calls within one second. The calls are transactions under the lock; there is nothing to interleave.

The history keeps the signatures and not their hashes: key, nonce and times, as accepted. That two
of them are the same signature is meant literally, and a signature with the same key and nonce and
other times is another one; it is refused as well, as long as the row of the first is there.
-/

namespace Awiki

open Py Runs

/-! ### Runs of the nonce table -/

/-- A signature as `consume_auth_nonce` accepts it. -/
structure AuthSignature where
  keyId : String
  nonce : String
  created : ℤ
  expires : ℤ
  deriving DecidableEq

/-- The parameters it is presented with. -/
def AuthSignature.metadata (s : AuthSignature) : SignatureMetadata :=
  ⟨.str s.nonce, .int s.created, .int s.expires⟩

/-- The row that stands for an accepted signature. -/
def AuthSignature.row (hash : String → String → String) (s : AuthSignature) : AuthNonce :=
  ⟨hash s.keyId s.nonce, s.expires + 30⟩

/-- The store with the clock of the last call, and the signatures accepted so far. -/
structure AuthNonces where
  store : Store
  clock : ℤ
  accepted : List AuthSignature

/-- What happens to the nonce table: a call at some second, or a commit that is about other
tables. -/
inductive NonceEvent where
  | consume (epoch : ℤ) (keyId : String) (metadata : SignatureMetadata)
  | elsewhere

/-- One step of the nonce table. `req` is only there for its hash. -/
inductive NonceStep (req : IdentityRequest) : AuthNonces → NonceEvent → AuthNonces → Prop where
  | accepted {w : AuthNonces} {epoch : ℤ} {s : AuthSignature} {st : Store}
      (hok : consumeAuthNonce { req with epoch := epoch } s.keyId s.metadata w.store = .ok ((),
        st)) :
      NonceStep req w (.consume epoch s.keyId s.metadata) ⟨st, epoch, w.accepted ++ [s]⟩
  /-- The exception ends the transaction, so the purge of the call is undone with it. -/
  | refused {w : AuthNonces} {epoch : ℤ} {keyId : String} {metadata : SignatureMetadata}
      {e : AwikiError}
      (herr : consumeAuthNonce { req with epoch := epoch } keyId metadata w.store = .error e) :
      NonceStep req w (.consume epoch keyId metadata) { w with clock := epoch }
  | elsewhere {w : AuthNonces} {st : Store}
      (hsame : st.singleDeviceAuthNonces = w.store.singleDeviceAuthNonces) :
      NonceStep req w .elsewhere { w with store := st }

/-- The clock does not go back. -/
def ClockForward (w : AuthNonces) : NonceEvent → Prop
  | .consume epoch _ _ => w.clock ≤ epoch
  | .elsewhere => True

/-! ### One call -/

section Call

variable {req : IdentityRequest} {st st' : Store} {keyId : String} {m : SignatureMetadata}

/-- A signature that is accepted has text and integers where they belong, and is within its time. -/
theorem checkSignatureTimes_eq_ok {nonce : String} {expires : ℤ}
    (h : checkSignatureTimes req m = .ok (nonce, expires)) :
    ∃ created, m = ⟨.str nonce, .int created, .int expires⟩ ∧ req.epoch ≤ expires + 30 := by
  obtain ⟨mnonce, mcreated, mexpires⟩ := m
  unfold checkSignatureTimes at h
  split at h
  · rename_i n c x hn hc hx
    obtain ⟨_, hrequire, h⟩ := bind_eq_ok.mp h
    have hvalues := pure_eq_ok.mp h
    simp only [Prod.mk.injEq] at hvalues
    obtain ⟨rfl, rfl⟩ := hvalues
    have htimes := require_eq_ok.mp hrequire
    simp only [Bool.and_eq_true, decide_eq_true_eq] at htimes
    exact ⟨c, by simp only at hn hc hx; rw [hn, hc, hx], htimes.2⟩
  · cases h

/-- **What an accepting call does**: it keeps the rows that have not expired, and adds the row of
its signature, which was not among them. -/
theorem consumeAuthNonce_eq_ok (h : consumeAuthNonce req keyId m st = .ok ((), st')) :
    ∃ s : AuthSignature, s.keyId = keyId ∧ s.metadata = m ∧ req.epoch ≤ s.expires + 30 ∧
      (∀ r ∈ st.singleDeviceAuthNonces, req.epoch ≤ r.expiresAt →
        r.nonceHash ≠ req.nonceHash keyId s.nonce) ∧
      st'.singleDeviceAuthNonces =
        st.singleDeviceAuthNonces.filter (fun n ↦ decide (req.epoch ≤ n.expiresAt)) ++
          [s.row req.nonceHash] := by
  obtain ⟨⟨nonce, expires⟩, hcheck, h⟩ := bind_eq_ok.mp h
  obtain ⟨rows, hrows, h⟩ := bind_eq_ok.mp h
  obtain ⟨hfresh, rfl⟩ := Table.insert?_eq_some.mp (orRaise_eq_ok.mp hrows)
  have hstore := pure_eq_ok.mp h
  simp only [Prod.mk.injEq, true_and] at hstore
  subst hstore
  obtain ⟨created, rfl, htime⟩ := checkSignatureTimes_eq_ok hcheck
  refine ⟨⟨keyId, nonce, created, expires⟩, rfl, rfl, htime, fun r hr hlive ↦ ?_, rfl⟩
  exact hfresh r (List.mem_filter.mpr ⟨hr, decide_eq_true hlive⟩)

/-- From the second after `expires + 30` a signature is refused for its times. -/
theorem consumeAuthNonce_of_expired {s : AuthSignature} (h : s.expires + 30 < req.epoch) :
    consumeAuthNonce req keyId s.metadata st = .error (.unauthorized "invalid_http_signature") := by
  have hlate : decide (req.epoch ≤ s.expires + 30) = false := decide_eq_false (Int.not_le.mpr h)
  simp only [consumeAuthNonce, AuthSignature.metadata, checkSignatureTimes, hlate, Bool.and_false]
  rfl

end Call

/-! ### The invariant -/

/-- **Accepted means remembered or expired.** Every signature accepted so far has its row in the
table, or is past its time; and the table has one row for each hash. -/
structure AuthNonces.Remembered (hash : String → String → String) (w : AuthNonces) : Prop where
  keyed : Table.Keyed AuthNonce.nonceHash w.store.singleDeviceAuthNonces
  nodup : w.accepted.Nodup
  remembered : ∀ s ∈ w.accepted,
    s.row hash ∈ w.store.singleDeviceAuthNonces ∨ s.expires + 30 < w.clock

/-- **The step lemma.** -/
theorem NonceStep.remembered {req : IdentityRequest} {w w' : AuthNonces} {event : NonceEvent}
    (h : NonceStep req w event w') (hclock : ClockForward w event)
    (hw : w.Remembered req.nonceHash) : w'.Remembered req.nonceHash := by
  cases h with
  | @accepted epoch s st hok =>
    obtain ⟨s', hkey, hmeta, htime, hfresh, hrows⟩ := consumeAuthNonce_eq_ok hok
    obtain rfl : s' = s := by
      obtain ⟨keyId, nonce, created, expires⟩ := s'
      simp only [AuthSignature.metadata, SignatureMetadata.mk.injEq, Json.str.injEq,
        Json.int.injEq] at hmeta
      obtain ⟨rfl, rfl, rfl⟩ := hmeta
      obtain rfl : keyId = s.keyId := hkey
      rfl
    have hnew : s'.row req.nonceHash ∉ w.store.singleDeviceAuthNonces := fun hmem ↦
      hfresh _ hmem htime rfl
    refine ⟨?_, ?_, fun s hs ↦ ?_⟩
    · show Table.Keyed _ st.singleDeviceAuthNonces
      rw [hrows]
      refine (hw.keyed.filter _).append fun r hr ↦ ?_
      obtain ⟨hmem, hlive⟩ := List.mem_filter.mp hr
      exact hfresh r hmem (of_decide_eq_true hlive)
    · refine List.nodup_append.mpr ⟨hw.nodup, List.nodup_singleton _, ?_⟩
      rintro s hs _ hlast rfl
      obtain rfl := List.mem_singleton.mp hlast
      -- An accepted signature is in the table, or too old to be accepted.
      rcases hw.remembered s hs with hrow | hold
      · exact hnew hrow
      · exact absurd (hold.trans_le (hclock.trans htime)) (lt_irrefl _)
    · show s.row _ ∈ st.singleDeviceAuthNonces ∨ s.expires + 30 < epoch
      rw [hrows]
      rcases List.mem_append.mp hs with hs | hs
      · rcases hw.remembered s hs with hrow | hold
        · rcases lt_or_ge (s.expires + 30) epoch with hpast | hlive
          · exact .inr hpast
          · exact .inl (List.mem_append_left _
              (List.mem_filter.mpr ⟨hrow, decide_eq_true hlive⟩))
        · exact .inr (hold.trans_le hclock)
      · obtain rfl := List.mem_singleton.mp hs
        exact .inl (List.mem_append_right _ (List.mem_singleton_self _))
  | refused herr =>
    refine ⟨hw.keyed, hw.nodup, fun s hs ↦ (hw.remembered s hs).imp_right fun hold ↦ ?_⟩
    exact hold.trans_le hclock
  | elsewhere hsame =>
    refine ⟨hsame ▸ hw.keyed, hw.nodup, fun s hs ↦ (hw.remembered s hs).imp_left fun hrow ↦ ?_⟩
    exact hsame ▸ hrow

/-! ### No replay -/

/-- **A row is purged too late to matter.** Where a step drops the row of an accepted signature, the
signature is past its time. -/
theorem NonceStep.expired_of_purged {req : IdentityRequest} {w w' : AuthNonces} {event : NonceEvent}
    (h : NonceStep req w event w') (hclock : ClockForward w event)
    (hw : w.Remembered req.nonceHash) {r : AuthNonce} (hr : r ∈ w.store.singleDeviceAuthNonces)
    (hpurged : r ∉ w'.store.singleDeviceAuthNonces) {s : AuthSignature} (hs : s ∈ w.accepted)
    (hhash : req.nonceHash s.keyId s.nonce = r.nonceHash) : s.expires + 30 < w'.clock := by
  have hkept : s ∈ w'.accepted := by
    cases h with
    | accepted _ => exact List.mem_append_left _ hs
    | refused _ => exact hs
    | elsewhere _ => exact hs
  rcases (h.remembered hclock hw).remembered s hkept with hrow | hold
  · -- The row of `s` is still there, so `r` is not it, and `s` was past its time already.
    rcases hw.remembered s hs with hbefore | hold
    · have heq : s.row req.nonceHash = r := hw.keyed.eq_of_key_eq hbefore hr hhash
      exact absurd (heq ▸ hrow) hpurged
    · cases h with
      | accepted _ => exact hold.trans_le hclock
      | refused _ => exact hold.trans_le hclock
      | elsewhere _ => exact hold
  · exact hold

/-- **Signed authentication requests cannot be replayed.** For every clock that does not go back and
every sequence of calls, with whatever keys, nonces and times: no signature is accepted twice; and
where a step drops a row, every signature accepted with that hash is refused from then on, by any
state of the table. -/
theorem auth_signature_not_replayed {req : IdentityRequest} {w₀ w : AuthNonces}
    (hkeyed : Table.Keyed AuthNonce.nonceHash w₀.store.singleDeviceAuthNonces)
    (hstart : w₀.accepted = []) (hrun : ReachesWith (NonceStep req) ClockForward w₀ w) :
    w.accepted.Nodup ∧
      ∀ event w', ClockForward w event → NonceStep req w event w' →
        ∀ r ∈ w.store.singleDeviceAuthNonces, r ∉ w'.store.singleDeviceAuthNonces →
          ∀ s ∈ w.accepted, req.nonceHash s.keyId s.nonce = r.nonceHash →
            ∀ later, w'.clock ≤ later → ∀ st,
              consumeAuthNonce { req with epoch := later } s.keyId s.metadata st =
                .error (.unauthorized "invalid_http_signature") := by
  have hinitial : w₀.Remembered req.nonceHash :=
    ⟨hkeyed, hstart ▸ List.nodup_nil, by simp [hstart]⟩
  have hw : w.Remembered req.nonceHash :=
    hrun.invariant hinitial fun hi hc hstep ↦ hstep.remembered hc hi
  refine ⟨hw.nodup, fun event w' hclock hstep r hr hpurged s hs hhash later hlater st ↦ ?_⟩
  have hpast := hstep.expired_of_purged hclock hw hr hpurged hs hhash
  exact consumeAuthNonce_of_expired (hpast.trans_le hlater)

/-- A signature that is valid for ten minutes, from second 0. -/
def sampleSignature : AuthSignature := ⟨alice ++ "#key-1", "nonce-1", 0, 600⟩

/-- One that is valid for ten minutes from second 620 on. -/
def laterSignature : AuthSignature := ⟨alice ++ "#key-1", "nonce-2", 620, 1220⟩

/-- The sample server with the rows of these signatures. -/
def nonceStore (signatures : List AuthSignature) : Store :=
  { sampleIdentities with
    singleDeviceAuthNonces :=
      signatures.map (AuthSignature.row (IdentityRequest.sample [] "").nonceHash) }

/-- The server has accepted the first signature, and refused it at second 100. -/
def presentedTwice : AuthNonces := ⟨nonceStore [sampleSignature], 100, [sampleSignature]⟩

/-- At second 640 it accepts the later one, and drops the row of the first. -/
def purgedSample : AuthNonces :=
  ⟨nonceStore [laterSignature], 640, [sampleSignature, laterSignature]⟩

/-- The server gets there. -/
theorem presentedTwice_reached :
    ReachesWith (NonceStep (IdentityRequest.sample [] "")) ClockForward ⟨nonceStore [], 0, []⟩
      presentedTwice := by
  have haccepted : NonceStep (IdentityRequest.sample [] "") ⟨nonceStore [], 0, []⟩
      (.consume 0 sampleSignature.keyId sampleSignature.metadata)
      ⟨nonceStore [sampleSignature], 0, [sampleSignature]⟩ := .accepted rfl
  have hrefused : NonceStep (IdentityRequest.sample [] "")
      ⟨nonceStore [sampleSignature], 0, [sampleSignature]⟩
      (.consume 100 sampleSignature.keyId sampleSignature.metadata) presentedTwice := .refused rfl
  have hfirst : ClockForward ⟨nonceStore [], 0, []⟩
      (.consume 0 sampleSignature.keyId sampleSignature.metadata) := le_refl (0 : ℤ)
  have hsecond : ClockForward ⟨nonceStore [sampleSignature], 0, [sampleSignature]⟩
      (.consume 100 sampleSignature.keyId sampleSignature.metadata) := show (0 : ℤ) ≤ 100 by decide
  exact ((ReachesWith.refl _).tail hfirst haccepted).tail hsecond hrefused

/-- And from there to second 640. -/
theorem purgedSample_step : NonceStep (IdentityRequest.sample [] "") presentedTwice
    (.consume 640 laterSignature.keyId laterSignature.metadata) purgedSample := .accepted rfl

/-- The signature presented twice was accepted once. Its row is purged at second 640, and from then
on no state of the table lets it in again. -/
theorem auth_signature_not_replayed_sample :
    presentedTwice.accepted.Nodup ∧ purgedSample.accepted.Nodup ∧
      ∀ later, 640 ≤ later → ∀ st,
        consumeAuthNonce { IdentityRequest.sample [] "" with epoch := later } sampleSignature.keyId
          sampleSignature.metadata st = .error (.unauthorized "invalid_http_signature") := by
  have hkeyed : Table.Keyed AuthNonce.nonceHash (nonceStore []).singleDeviceAuthNonces :=
    List.nodup_nil
  have hclock : ClockForward presentedTwice
      (.consume 640 laterSignature.keyId laterSignature.metadata) := show (100 : ℤ) ≤ 640 by decide
  obtain ⟨hnodup, hpurged⟩ := auth_signature_not_replayed hkeyed rfl presentedTwice_reached
  have hlater := auth_signature_not_replayed hkeyed rfl
    (presentedTwice_reached.tail hclock purgedSample_step)
  have hdropped : sampleSignature.row (IdentityRequest.sample [] "").nonceHash ∉
      purgedSample.store.singleDeviceAuthNonces := fun hmem ↦
    absurd (congrArg AuthNonce.expiresAt (List.mem_singleton.mp hmem)) (by decide)
  exact ⟨hnodup, hlater.1, hpurged _ purgedSample hclock purgedSample_step _
    (List.mem_singleton_self _) hdropped sampleSignature (List.mem_singleton_self _) rfl⟩

end Awiki
