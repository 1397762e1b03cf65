import AwikiOpenServer.Attachments.Slots
import AwikiOpenServer.Lib.Base64
import AwikiOpenServer.Lib.Hex
import AwikiOpenServer.Messaging.GroupHistory

/-!
# The spellings of a digest

A SHA-256 digest comes as hexadecimal text, in any letter case and with or without the name of the
algorithm in front, or in an object as `value_hex` or `value_b64u`. What is stored, and compared
with the bytes at the commit, is one text. **All spellings of 32 bytes come to the lower-case
hexadecimal text of the bytes** (`digest_spellings_agree`), and so do the objects the server answers
with.

## What is spelled

`SpellsDigest text bytes` lists the texts a client may send for the bytes: their hexadecimal digits,
each in either case, alone or after `sha256:` or `sha-256:`. It is a relation between a text and the
bytes, stated without any function of the source, so that the theorem compares the parser with
something it did not compute. `SpelledAs` is the one notion underneath: letter case is the only
freedom, and the text it is compared with is ASCII without white space (`isPlain`), which is why
`strip` and `lower` lose nothing of it (`strippedLower_of_spelledAs`).

## Text functions

`str.strip`, `str.lower` and the decoder of base64 are parameters of a request
(`AttachmentRequest`), as everywhere in this development. `ReadsDigests` says that they are those of
the standard library; the codecs themselves are `Lib/Hex.lean` and `Lib/Base64.lean`, and the proofs
here use their round trips only. A `value_b64u` may come padded or not: the source pads the text
before it decodes it, to the next multiple of four.

## Both ways

What the parser answers on a spelling is one half. The other, at the end of the file, is that
**whatever was accepted is the text of 32 bytes** (`parseExpectedSha256_eq_ok`): sixty-four
hexadecimal digits are never anything else, so that what a slot stores can be read back.
-/

namespace Awiki

open Py

/-- The text of a digest. -/
def hexDigest (bytes : List UInt8) : String := String.ofList (Hex.ofBytes bytes)

/-- `base64.urlsafe_b64decode(encoded + "=" * (-len(encoded) % 4))` as hexadecimal, if it has 32
bytes. -/
def digestOfB64u (encoded : String) : Option String :=
  if encoded.toList.all fun c ↦ c.toNat < 128 then
    ((Base64.urlDecode (Base64.pad encoded.toList)).filter fun bytes ↦
      bytes.length = 32).map hexDigest
  else none

/-- `base64.urlsafe_b64encode(bytes.fromhex(digest)).rstrip(b"=").decode()`. -/
def b64uOfDigest (digest : String) : Option String :=
  (Hex.toBytes? digest.toList).map fun bytes ↦ String.ofList (Base64.unpad (Base64.urlEncode bytes))

/-- The text functions of the request are those of the standard library. -/
structure AttachmentRequest.ReadsDigests (req : AttachmentRequest) : Prop where
  lower : LowersAscii req.lower
  decode : ∀ encoded, req.decodeDigest encoded = digestOfB64u encoded
  encode : ∀ {digest encoded}, b64uOfDigest digest = some encoded →
    req.encodeDigest digest = encoded

/-- The text is this one, in some letter case. -/
def SpelledAs (text : String) (cs : List Char) : Prop := text.toList.map Char.toLower = cs

instance (text : String) (cs : List Char) : Decidable (SpelledAs text cs) :=
  inferInstanceAs (Decidable (_ = _))

/-- The text of a digest, in some letter case, with or without one of the heads. -/
def SpellsDigest (text : String) (bytes : List UInt8) : Prop :=
  ∃ head ∈ "" :: digestHeads, SpelledAs text (head.toList ++ Hex.ofBytes bytes)

/-- The name of the algorithm, in some letter case. -/
def NamesSha256 (alg : String) : Prop :=
  SpelledAs alg "sha-256".toList ∨ SpelledAs alg "sha256".toList

section Text

variable {req : AttachmentRequest} {text : String} {bytes : List UInt8} {cs : List Char}

/-- The digits of the hexadecimal codec, as one text. -/
theorem hex_digits : "0123456789abcdef".toList = Hex.digits := rfl

/-- Lower-casing changes capitals only. -/
theorem toLower_of_ascii {c : Char} (h : c.toLower.toNat < 128) : c.toNat < 128 := by
  unfold Char.toLower at h
  split at h
  · rename_i hcapital
    have hle : c.toNat ≤ 'Z'.toNat := hcapital.2
    exact Nat.lt_of_le_of_lt hle (by decide)
  · exact h

/-- No white space becomes something else. -/
theorem isSpace_toLower {c : Char} (h : isSpace c = true) : isSpace c.toLower = true := by
  unfold Char.toLower
  split
  · rename_i hcapital
    have hmem : c.toNat ∈ spaces := List.elem_iff.mp h
    have hapart : ∀ n ∈ spaces, n < 'A'.toNat ∨ 'Z'.toNat < n := by decide
    have hle : 'A'.toNat ≤ c.toNat := hcapital.1
    have hge : c.toNat ≤ 'Z'.toNat := hcapital.2
    rcases hapart c.toNat hmem with hlt | hlt <;> omega
  · exact h

/-- ASCII that is no white space. -/
def isPlain (c : Char) : Bool := decide (c.toNat < 128) && !isSpace c

/-- **What `strip` and `lower` leave of a text** that is spelled in plain characters. -/
theorem strippedLower_of_spelledAs (hlower : LowersAscii req.lower) (h : SpelledAs text cs)
    (hplain : cs.all isPlain = true) : strippedLower req (.str text) = String.ofList cs := by
  have hmem : ∀ c ∈ text.toList, c.toLower.toNat < 128 ∧ isSpace c.toLower = false := fun c hc ↦ by
    simpa [isPlain] using List.all_eq_true.mp hplain c.toLower (h ▸ List.mem_map_of_mem hc)
  have hstrip : stripChars text.toList = text.toList := stripChars_eq_self fun c hc ↦ by
    by_contra hc'
    have hlowered := isSpace_toLower (Bool.not_eq_false _ ▸ hc')
    rw [(hmem c hc).2] at hlowered
    cases hlowered
  have hread : req.outside.str (.str text) = text := rfl
  rw [strippedLower, hread, hstrip, String.ofList_toList,
    hlower text fun c hc ↦ toLower_of_ascii (hmem c hc).1, h]

/-- What is written for 32 bytes passes the check of a digest. -/
theorem isHexDigest_hexDigest (h : bytes.length = 32) : isHexDigest (hexDigest bytes) = true := by
  have hlength : (hexDigest bytes).length = 64 := by
    rw [hexDigest, String.length_ofList, Hex.length_ofBytes, h]
  rw [isHexDigest, hlength, hexDigest, String.toList_ofList, hex_digits]
  simp only [decide_true, Bool.true_and, List.all_eq_true, List.contains_iff_mem]
  exact fun c hc ↦ Hex.mem_digits_of_mem_ofBytes hc

/-- The head comes off. -/
theorem withoutDigestHead_append {head : String} (hhead : head ∈ "" :: digestHeads) :
    withoutDigestHead (String.ofList (head.toList ++ Hex.ofBytes bytes)) = hexDigest bytes := by
  have hspace : ∀ c ∈ Hex.ofBytes bytes, isSpace c = false := fun c hc ↦ by
    have hall : Hex.digits.all (fun c ↦ !isSpace c) = true := by decide
    simpa using List.all_eq_true.mp hall c (Hex.mem_digits_of_mem_ofBytes hc)
  rcases List.mem_cons.mp hhead with rfl | hhead
  · -- no head starts with a hexadecimal digit
    have hhead : ∀ head ∈ digestHeads, ∃ front, head.toList = 's' :: front := by
      simp [digestHeads]
    have hfind : digestHeads.find? (fun h ↦ startsWith h (String.ofList (Hex.ofBytes bytes))) =
        none := by
      refine List.find?_eq_none.mpr fun head hmem hstarts ↦ ?_
      obtain ⟨front, hfront⟩ := hhead head hmem
      rw [startsWith, hfront, String.toList_ofList] at hstarts
      obtain ⟨rest, hrest⟩ := List.isPrefixOf_iff_prefix.mp hstarts
      have hs : 's' ∈ Hex.ofBytes bytes := hrest ▸ List.mem_cons_self
      exact absurd (Hex.mem_digits_of_mem_ofBytes hs) (by decide)
    show withoutDigestHead (String.ofList (Hex.ofBytes bytes)) = _
    rw [withoutDigestHead, hfind]
    rfl
  · have hfind : digestHeads.find? (fun h ↦ startsWith h (String.ofList
        (head.toList ++ Hex.ofBytes bytes))) = some head := by
      simp only [startsWith, String.toList_ofList]
      simp only [digestHeads, List.mem_cons, List.not_mem_nil, or_false] at hhead
      rcases hhead with rfl | rfl | rfl | rfl <;> rfl
    rw [withoutDigestHead, hfind]
    show String.ofList (stripChars ((String.ofList _).toList.drop head.length)) = _
    rw [String.toList_ofList, ← String.length_toList, List.drop_left, stripChars_eq_self hspace,
      hexDigest]

/-- A spelling of something is no empty text. -/
theorem ne_empty_of_spelledAs (h : SpelledAs text cs) (hne : cs ≠ []) : text ≠ "" := by
  rintro rfl
  exact hne h.symm

/-- A spelling of 32 bytes is no empty text, so it is not taken for a missing digest. -/
theorem SpellsDigest.ne_empty (h : SpellsDigest text bytes) (hlength : bytes.length = 32) :
    text ≠ "" := by
  obtain ⟨head, -, hspelled⟩ := h
  refine ne_empty_of_spelledAs hspelled fun hnil ↦ ?_
  have hlengths := congrArg List.length hnil
  rw [List.length_append, Hex.length_ofBytes, hlength] at hlengths
  cases hlengths

/-- **A digest as text**, however it is spelled. -/
theorem parseDigestText_of_spellsDigest (hlower : LowersAscii req.lower) (h : bytes.length = 32)
    (htext : SpellsDigest text bytes) :
    parseDigestText req (.str text) = .ok (some (hexDigest bytes)) := by
  have hne := htext.ne_empty h
  obtain ⟨head, hhead, hspelled⟩ := htext
  have hraw : (Json.str text).orElse (.str "") = .str text := by simp [Json.orElse, hne]
  have hplain : (head.toList ++ Hex.ofBytes bytes).all isPlain = true := by
    have hheads : ("" :: digestHeads).all (fun head ↦ head.toList.all isPlain) = true := by decide
    have hdigits : Hex.digits.all isPlain = true := by decide
    rw [List.all_append, List.all_eq_true.mp hheads head hhead, Bool.true_and, List.all_eq_true]
    exact fun c hc ↦ List.all_eq_true.mp hdigits c (Hex.mem_digits_of_mem_ofBytes hc)
  have hlowered := strippedLower_of_spelledAs hlower hspelled hplain
  rw [parseDigestText, hraw, hlowered, withoutDigestHead_append hhead,
    isHexDigest_hexDigest h, require_true, ok_bind]
  rfl

/-- The name of the algorithm is one of those supported. -/
theorem NamesSha256.supported {alg : String} (hlower : LowersAscii req.lower)
    (h : NamesSha256 alg) : ["sha-256", "sha256"].contains
      (strippedLower req ((Json.str alg).orElse (.str "sha-256"))) = true := by
  have hraw : alg ≠ "" → (Json.str alg).orElse (.str "sha-256") = .str alg := fun hne ↦ by
    simp [Json.orElse, hne]
  rcases h with h | h
  · rw [hraw (ne_empty_of_spelledAs h (by decide)),
      strippedLower_of_spelledAs hlower h (by decide)]
    decide
  · rw [hraw (ne_empty_of_spelledAs h (by decide)),
      strippedLower_of_spelledAs hlower h (by decide)]
    decide

section Objects

variable {fields : Obj} {alg : String} (hnames : NamesSha256 alg)
    (halg : fields.get "alg" = .str alg)

include hnames halg

/-- **A digest as a `value_hex`.** -/
theorem parseExpectedSha256_valueHex (hlower : LowersAscii req.lower) (h : bytes.length = 32)
    (htext : SpellsDigest text bytes) (hb64u : fields.get "value_b64u" = .null)
    (hhex : fields.get "value_hex" = .str text) :
    parseExpectedSha256 req (.obj fields) = .ok (some (hexDigest bytes)) := by
  have hne := htext.ne_empty h
  have hraw : ((fields.get "value_hex").orElse (fields.get "sha256")).orElse (fields.get "value") =
      .str text := by
    rw [hhex]
    simp [Json.orElse, hne]
  have hnull : Json.null.isNull = true := rfl
  rw [parseExpectedSha256, if_neg (by simp [Json.isNull, Json.isStr, Json.str?])]
  dsimp only
  rw [halg, hnames.supported hlower, require_true, ok_bind, hb64u, if_pos hnull, hraw]
  exact parseDigestText_of_spellsDigest hlower h htext

/-- **A digest as a `value_b64u`**, padded or not. -/
theorem parseExpectedSha256_valueB64u (hreads : req.ReadsDigests) (h : bytes.length = 32)
    {cs : List Char}
    (hcs : cs = Base64.urlEncode bytes ∨ cs = Base64.unpad (Base64.urlEncode bytes))
    (hb64u : fields.get "value_b64u" = .str (String.ofList cs)) :
    parseExpectedSha256 req (.obj fields) = .ok (some (hexDigest bytes)) := by
  have hpad : Base64.pad cs = Base64.urlEncode bytes := by
    rcases hcs with rfl | rfl
    · exact (Base64.pad_urlEncode bytes).2
    · exact (Base64.pad_urlEncode bytes).1
  have hsubset : ∀ c ∈ cs, c ∈ Base64.urlEncode bytes := fun c hc ↦ by
    rw [← hpad]
    exact List.mem_append_left _ hc
  have hascii : (cs.all fun c ↦ c.toNat < 128) = true :=
    List.all_eq_true.mpr fun c hc ↦
      decide_eq_true (Base64.isAscii_of_mem_urlEncode (hsubset c hc))
  have hne : String.ofList cs ≠ "" := by
    -- the empty text is the encoding of no bytes
    intro hempty
    obtain rfl : cs = [] := String.ofList_injective hempty
    have hdecoded := Base64.urlDecode_urlEncode bytes
    rw [← hpad] at hdecoded
    obtain rfl : [] = bytes := Option.some.inj hdecoded
    cases h
  have hdecoded : req.decodeDigest (String.ofList cs) = some (hexDigest bytes) := by
    rw [hreads.decode, digestOfB64u, String.toList_ofList, if_pos hascii, hpad,
      Base64.urlDecode_urlEncode]
    simp [h]
  rw [parseExpectedSha256, if_neg (by simp [Json.isNull, Json.isStr, Json.str?])]
  dsimp only
  rw [halg, hnames.supported hreads.lower, require_true, ok_bind, hb64u,
    if_neg (by simp [Json.isNull]), Json.str?_str, Option.filter_some, if_pos (decide_eq_true hne),
    orRaise_some, ok_bind, hdecoded, orRaise_some, ok_bind]
  rfl

end Objects

/-- The text of a digest turned into base64 is the encoding of its bytes. -/
theorem b64uOfDigest_hexDigest (bytes : List UInt8) :
    b64uOfDigest (hexDigest bytes) =
      some (String.ofList (Base64.unpad (Base64.urlEncode bytes))) := by
  rw [b64uOfDigest, hexDigest, String.toList_ofList, Hex.toBytes?_ofBytes]
  rfl

/-- **The object the server answers with** is read back. -/
theorem parseExpectedSha256_answer (hreads : req.ReadsDigests) (h : bytes.length = 32) :
    parseExpectedSha256 req (.obj [("alg", .str "sha-256"),
      ("value_b64u", .str (req.encodeDigest (hexDigest bytes))),
      ("value_hex", .str (hexDigest bytes))]) = .ok (some (hexDigest bytes)) := by
  have hnames : NamesSha256 "sha-256" := .inl (by decide)
  have hemitted := hreads.encode (b64uOfDigest_hexDigest bytes)
  exact parseExpectedSha256_valueB64u hnames rfl hreads h (.inr rfl) (congrArg Json.str hemitted)

/-- The digest in the answer to a new slot, of a request that is not canonical. -/
theorem slotCreated_digest {settings : AttachmentSettings} {params : Obj} {slot : AttachmentSlot}
    {digest : String} (hcanonical : isCanonical params = false)
    (hdigest : slot.expectedSha256 = some digest) :
    (slotCreated settings req params slot).get "expected_digest" =
      .obj [("alg", .str "sha-256"), ("value_b64u", .str (req.encodeDigest digest)),
        ("value_hex", .str digest)] := by
  rw [slotCreated, hdigest, hcanonical]
  cases slot.expectedSize with
  | none => rfl
  | some size => rfl

/-- The digest in the answer to a commit, of a request that is not canonical. -/
theorem objectCommitted_digest {params : Obj} {row : AttachmentSlot} {object : AttachmentObject}
    (hcanonical : isCanonical params = false) :
    (objectCommitted req params row object).get "digest" =
      .obj [("alg", .str "sha-256"), ("value_b64u", .str (req.encodeDigest object.sha256)),
        ("value_hex", .str object.sha256)] := by
  rw [objectCommitted, hcanonical]
  rfl

/-- **All spellings of a digest come to one text**: hexadecimal text in any letter case with or
without a head, alone or as `value_hex`, and base64 text, padded or not, as `value_b64u`; and the
object that the answers of `attachment_create_slot` and `attachment_commit` show is read back as
what is stored. -/
theorem digest_spellings_agree {req : AttachmentRequest} (hreads : req.ReadsDigests)
    {bytes : List UInt8} (h : bytes.length = 32) :
    (∀ text, SpellsDigest text bytes →
      parseExpectedSha256 req (.str text) = .ok (some (hexDigest bytes)) ∧
      ∀ alg, NamesSha256 alg →
        parseExpectedSha256 req (.obj [("alg", .str alg), ("value_hex", .str text)]) =
          .ok (some (hexDigest bytes))) ∧
    (∀ alg, NamesSha256 alg →
      parseExpectedSha256 req (.obj [("alg", .str alg),
        ("value_b64u", .str (String.ofList (Base64.urlEncode bytes)))]) =
          .ok (some (hexDigest bytes)) ∧
      parseExpectedSha256 req (.obj [("alg", .str alg),
        ("value_b64u", .str (String.ofList (Base64.unpad (Base64.urlEncode bytes))))]) =
          .ok (some (hexDigest bytes))) ∧
    (∀ settings params slot, isCanonical params = false →
      slot.expectedSha256 = some (hexDigest bytes) →
      parseExpectedSha256 req ((slotCreated settings req params slot).get "expected_digest") =
        .ok (some (hexDigest bytes))) ∧
    ∀ params row object, isCanonical params = false → object.sha256 = hexDigest bytes →
      parseExpectedSha256 req ((objectCommitted req params row object).get "digest") =
        .ok (some (hexDigest bytes)) := by
  refine ⟨fun text htext ↦ ⟨?_, fun alg hnames ↦ ?_⟩, fun alg hnames ↦ ⟨?_, ?_⟩,
    fun settings params slot hcanonical hdigest ↦ ?_, fun params row object hcanonical hdigest ↦ ?_⟩
  · have hne := htext.ne_empty h
    unfold parseExpectedSha256
    rw [if_neg (by simp [Json.isNull, hne])]
    exact parseDigestText_of_spellsDigest hreads.lower h htext
  · exact parseExpectedSha256_valueHex hnames rfl hreads.lower h htext rfl rfl
  · exact parseExpectedSha256_valueB64u hnames rfl hreads h (.inl rfl) rfl
  · exact parseExpectedSha256_valueB64u hnames rfl hreads h (.inr rfl) rfl
  · rw [slotCreated_digest hcanonical hdigest]
    exact parseExpectedSha256_answer hreads h
  · rw [objectCommitted_digest hcanonical, hdigest]
    exact parseExpectedSha256_answer hreads h

/-- A request with the text functions of the standard library. -/
def AttachmentRequest.sampleReading : AttachmentRequest where
  surface := .localRpc
  credentials := .bearer alice
  outside := Outside.honest
  newAttachmentId := "att_1"
  slotExpiry := "2026-01-01T00:30:00Z"
  isExpired _ := false
  lower text := String.ofList (text.toList.map Char.toLower)
  decodeDigest := digestOfB64u
  encodeDigest digest := (b64uOfDigest digest).getD ""

/-- Its text functions are those meant. -/
theorem AttachmentRequest.sampleReading_readsDigests : sampleReading.ReadsDigests where
  lower _ _ := rfl
  decode _ := rfl
  encode h := by
    show (b64uOfDigest _).getD "" = _
    rw [h]
    rfl

/-- Thirty-two bytes `0xab`, in capitals and with a head. -/
theorem digest_spellings_agree_sample :
    parseExpectedSha256 .sampleReading
      (.str "SHA-256:ABABABABABABABABABABABABABABABABABABABABABABABABABABABABABABABAB") =
      .ok (some "abababababababababababababababababababababababababababababababab") :=
  ((digest_spellings_agree AttachmentRequest.sampleReading_readsDigests
    (List.length_replicate : (List.replicate 32 (0xab : UInt8)).length = 32)).1 _
    ⟨"sha-256:", by decide, by decide⟩).1

/-! ### What is stored -/

/-- Sixty-four hexadecimal digits are written for 32 bytes. -/
theorem exists_hexDigest {digest : String} (h : isHexDigest digest = true) :
    ∃ bytes, bytes.length = 32 ∧ digest = hexDigest bytes := by
  obtain ⟨hlength, hall⟩ := Bool.and_eq_true_iff.mp h
  have hlength' : digest.toList.length = 2 * 32 := by
    rw [String.length_toList]
    exact of_decide_eq_true hlength
  have hdigits : ∀ c ∈ digest.toList, c ∈ Hex.digits := fun c hc ↦
    List.contains_iff_mem.mp (List.all_eq_true.mp hall c hc)
  obtain ⟨bytes, hbytes, hhex⟩ := Hex.exists_ofBytes hlength' hdigits
  exact ⟨bytes, hbytes, by rw [hexDigest, hhex, String.ofList_toList]⟩

/-- A digest accepted as text is written for 32 bytes. -/
theorem parseDigestText_eq_ok {raw : Json} {digest : String}
    (h : parseDigestText req raw = .ok (some digest)) :
    ∃ bytes, bytes.length = 32 ∧ digest = hexDigest bytes := by
  obtain ⟨passed, hhex, h⟩ := bind_eq_ok.mp h
  obtain rfl := Option.some.inj (pure_eq_ok.mp h)
  exact exists_hexDigest (require_eq_ok.mp hhex)

/-- **Whatever was accepted is the text of 32 bytes.** -/
theorem parseExpectedSha256_eq_ok (hreads : req.ReadsDigests) {value : Json} {digest : String}
    (h : parseExpectedSha256 req value = .ok (some digest)) :
    ∃ bytes, bytes.length = 32 ∧ digest = hexDigest bytes := by
  unfold parseExpectedSha256 at h
  split at h
  · cases h
  · split at h
    · obtain ⟨-, -, h⟩ := bind_eq_ok.mp h
      split at h
      · exact parseDigestText_eq_ok h
      · obtain ⟨encoded, -, h⟩ := bind_eq_ok.mp h
        obtain ⟨found, hfound, h⟩ := bind_eq_ok.mp h
        obtain rfl := Option.some.inj (pure_eq_ok.mp h)
        have hdecoded := orRaise_eq_ok.mp hfound
        rw [hreads.decode, digestOfB64u] at hdecoded
        split at hdecoded
        · obtain ⟨bytes, hbytes, rfl⟩ := Option.map_eq_some_iff.mp hdecoded
          exact ⟨bytes, of_decide_eq_true (Option.filter_eq_some_iff.mp hbytes).2, rfl⟩
        · cases hdecoded
    · exact parseDigestText_eq_ok h

end Text

end Awiki
