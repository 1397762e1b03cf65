import AwikiOpenServer.Lib.Base64
import AwikiOpenServer.Lib.JsonText
import AwikiOpenServer.Lib.Text
import AwikiOpenServer.UserCompat.LocalDids

/-!
# Device tokens

`issue_device_token` signs the claims that bind a token to an account; `validate_device_token` is
written apart from it and takes a token apart again, with checks of its own on the encoding, on the
set of claims, on their types and on three times.

* A token is valid **for the binding it was issued for, and until it expires**
  (`claimsValid_tokenClaims`).
* An accepted token is the encoding of what it decodes to (`PartsChecked`), without padding and in
  the one alphabet, and no object in it has a member twice. So the token is known from its three
  parts: **there is no second spelling of an accepted token** (`decodedParts_inj`), whatever decoder
  is used.

JSON and Ed25519 are parameters. A signature only has to verify for what it signed, and JSON to be
read back where a token is written.

## Why the spelling matters

Tokens are compared as texts elsewhere, and other services take them apart with decoders of their
own. Base64 has many spellings for a sequence of bytes if a decoder is lenient: padding, the other
alphabet, bits behind the last byte, characters that are skipped. `_decode` encodes what it has
decoded and compares, so only the canonical spelling passes (`eq_b64_of_decodePart`); the lemmas
about lenient decoders say that these read it the same (`urlDecode_b64`). A repeated member in an
object would be read as the first by some and as the last by others, and is refused by the hook of
the parser (`uniqueMembers`).

## Both directions

`tokenChecks_eq_some_iff` says what a token is that passes: three parts, encoded and joined, of
which certain things have been checked. From there on validation is a statement about the parts, and
the result has two halves: the claims of an issued token are valid for an account exactly if the
binding is the same and the times are right, and what was issued has such parts.
-/

namespace Awiki

open Py

/-- What a token goes through outside this file. -/
structure TokenTools (Key : Type) where
  /-- `json.dumps(claims, separators=(",", ":")).encode()`. -/
  dumps : Obj → List UInt8
  /-- `json.loads(raw)` before any hook: the members of an object as they stand, also repeated ones;
  `none` is an exception. -/
  loads : List UInt8 → Option Json
  /-- `key.sign(text.encode())`. -/
  sign : Key → String → List UInt8
  /-- `key.public_key().verify(signature, text.encode())` does not raise. -/
  verify : Key → List UInt8 → String → Bool

/-! ### The encoding -/

/-- `_b64`. -/
def b64 (raw : List UInt8) : List Char := Base64.unpad (Base64.urlEncode raw)

/-- `_decode`. -/
def decodePart (value : List Char) : Option (List UInt8) := do
  let raw ← Base64.urlDecodeValid (Base64.pad value)
  guard (b64 raw = value)
  return raw

mutual

/-- `_unique_members` does not raise at any object. -/
def uniqueMembers : Json → Bool
  | .arr items => uniqueItems items
  | .obj fields => decide (fields.map Prod.fst).Nodup && uniqueFields fields
  | _ => true

/-- Likewise in a list, -/
def uniqueItems : List Json → Bool
  | [] => true
  | v :: rest => uniqueMembers v && uniqueItems rest

/-- and in the members of an object. -/
def uniqueFields : List (String × Json) → Bool
  | [] => true
  | (_, v) :: rest => uniqueMembers v && uniqueFields rest

end

/-- `json.loads(raw, object_pairs_hook=_unique_members)`. -/
def loadsUnique {Key : Type} (tools : TokenTools Key) (raw : List UInt8) : Option Json :=
  (tools.loads raw).filter uniqueMembers

/-! ### Issuing -/

/-- `b'{"alg":"EdDSA","typ":"JWT"}'`. -/
def tokenHeader : List UInt8 :=
  "\x7b\"alg\":\"EdDSA\",\"typ\":\"JWT\"\x7d".toList.map fun c ↦ UInt8.ofNat c.toNat

/-- `{"alg": "EdDSA", "typ": "JWT"}`. -/
def headerClaims : Obj := [("alg", .str "EdDSA"), ("typ", .str "JWT")]

/-- `_binding_claims`. -/
def bindingClaims (account : SingleDeviceAccount) : Obj :=
  [("iss", .str "user-service"),
    ("aud", .arr [.str "awiki-user-service", .str "awiki-message-service"]),
    ("sub", .str account.did), ("type", .str "access"), ("purpose", .str "awiki.device.access.v1"),
    ("did", .str account.did), ("user_id", .str account.accountId),
    ("device_id", .str account.deviceId), ("key_id", .str account.signingKeyId),
    ("auth_generation", .int account.authGeneration),
    ("scopes", .arr [.str "device:manage", .str "device:read", .str "message:connect"])]

/-- The claims of a token issued at `now`; `random` is the random part of `new_id("jti")`. -/
def tokenClaims (account : SingleDeviceAccount) (now ttlSeconds : ℤ) (random : String) : Obj :=
  bindingClaims account ++ [("iat", .int now), ("nbf", .int now), ("exp", .int (now + ttlSeconds)),
    ("jti", .str ("jti_" ++ random))]

section Tokens

variable {Key : Type} (tools : TokenTools Key) (key : Key)

/-- `issue_device_token`. -/
def issueDeviceToken (now : ℤ) (account : SingleDeviceAccount) (ttlSeconds : ℤ) (random : String) :
    String :=
  let header := b64 tokenHeader
  let payload := b64 (tools.dumps (tokenClaims account now ttlSeconds random))
  let signed := header ++ '.' :: payload
  String.ofList (signed ++ '.' :: b64 (tools.sign key (String.ofList signed)))

/-! ### Validating -/

/-- The value when `type(value) is int`. -/
def int? : Json → Option ℤ
  | .int n => some n
  | _ => none

/-- `set(claims) == set(expected) | {"iat", "nbf", "exp", "jti"}`. -/
def hasClaimNames (claims expected : Obj) : Bool :=
  let names := expected.map Prod.fst ++ ["iat", "nbf", "exp", "jti"]
  claims.all (fun p ↦ names.contains p.1) && names.all fun name ↦ claims.has name

/-- The times of a token, at `now`. -/
def timesValid (claims : Obj) (now : ℤ) : Bool :=
  match int? (claims.get "iat"), int? (claims.get "nbf"), int? (claims.get "exp") with
  | some iat, some nbf, some exp => nbf = iat && iat ≤ now + 30 && max now iat < exp
  | _, _, _ => false

/-- The checks on the claims. -/
def claimsValid (claims : Obj) (account : SingleDeviceAccount) (now : ℤ) : Bool :=
  hasClaimNames claims (bindingClaims account) &&
    (bindingClaims account).all (fun p ↦ Json.same (claims.get p.1) p.2) &&
    (int? (claims.get "auth_generation")).isSome && timesValid claims now &&
    (claims.get "jti").str?.any fun jti ↦ !isBlank jti

/-- The body of `validate_device_token`; `none` is an exception it catches. -/
def tokenChecks (now : ℤ) (token : String) (account : SingleDeviceAccount) : Option Unit :=
  match splitChars '.' token.toList with
  | [header, payload, signature] => do
    let headerValue ← loadsUnique tools (← decodePart header)
    guard (Json.same headerValue (.obj headerClaims))
    let raw ← decodePart signature
    guard (tools.verify key raw (String.ofList (header ++ '.' :: payload)))
    let value ← loadsUnique tools (← decodePart payload)
    let claims ← value.obj?
    guard (claimsValid claims account now)
  | _ => none

/-- `validate_device_token`. -/
def validateDeviceToken (now : ℤ) (token : String) (account : SingleDeviceAccount) : Result Unit :=
  orRaise (.unauthorized "device_authorization_invalid") (tokenChecks tools key now token account)

end Tokens

/-! ### Parts and their encoding -/

section Encoding

variable {value : List Char} {raw : List UInt8}

/-- What is encoded is decoded. -/
theorem decodePart_b64 (raw : List UInt8) : decodePart (b64 raw) = some raw := by
  rw [decodePart, b64, (Base64.pad_urlEncode raw).1, Base64.urlDecodeValid_urlEncode]
  simp [b64, guard]

/-- **A part that is read is the encoding of what is read.** -/
theorem eq_b64_of_decodePart (h : decodePart value = some raw) : value = b64 raw := by
  obtain ⟨raw', -, h⟩ := Option.bind_eq_some_iff.mp h
  obtain ⟨_, hguard, h⟩ := Option.bind_eq_some_iff.mp h
  obtain rfl := Option.some.inj h
  exact ((Option.guard_eq_some' _).mp hguard).symm

/-- A decoder that is not strict reads the same. -/
theorem urlDecode_b64 (raw : List UInt8) : Base64.urlDecode (Base64.pad (b64 raw)) = some raw := by
  rw [b64, (Base64.pad_urlEncode raw).1, Base64.urlDecode_urlEncode]

/-- An encoding has no dot. -/
theorem dot_not_mem_b64 (raw : List UInt8) : '.' ∉ b64 raw := fun h ↦ by
  have hmem : '.' ∈ Base64.urlEncode raw := (List.rdropWhile_prefix _ _).subset h
  exact Base64.of_mem_urlEncode (fun c ↦ c ≠ '.') (by decide) (by decide) hmem rfl

/-- Without separators there is one part. -/
theorem splitChars_of_not_mem {sep : Char} {cs : List Char} (h : sep ∉ cs) :
    splitChars sep cs = [cs] := by
  induction cs with
  | nil => rfl
  | cons c cs ih =>
    rw [List.mem_cons, not_or] at h
    rw [splitChars, if_neg (Ne.symm h.1), ih h.2]

/-- There is always a part. -/
theorem splitChars_ne_nil (sep : Char) (cs : List Char) : splitChars sep cs ≠ [] := by
  cases cs with
  | nil => exact List.cons_ne_nil _ _
  | cons c cs =>
    rw [splitChars]
    split
    · exact List.cons_ne_nil _ _
    · split <;> exact List.cons_ne_nil _ _

/-- What was split is what stood between the separators. -/
theorem intercalate_splitChars (sep : Char) (cs : List Char) :
    List.intercalate [sep] (splitChars sep cs) = cs := by
  induction cs with
  | nil => rfl
  | cons c cs ih =>
    obtain ⟨part, parts, hparts⟩ := List.exists_cons_of_ne_nil (splitChars_ne_nil sep cs)
    rw [hparts] at ih
    rw [splitChars, hparts, ← ih]
    by_cases hc : c = sep
    · rw [if_pos hc, hc]
      rfl
    · rw [if_neg hc]
      cases parts <;> rfl

end Encoding

/-! ### Tokens in parts -/

/-- Three parts, encoded, with dots between them. -/
def joinParts (header payload signature : List UInt8) : List Char :=
  b64 header ++ '.' :: (b64 payload ++ '.' :: b64 signature)

/-- Three parts are split again. -/
theorem splitChars_joinParts (header payload signature : List UInt8) :
    splitChars '.' (joinParts header payload signature) =
      [b64 header, b64 payload, b64 signature] := by
  rw [joinParts, splitChars_append (dot_not_mem_b64 header),
    splitChars_append (dot_not_mem_b64 payload), splitChars_of_not_mem (dot_not_mem_b64 signature)]

/-- What a decoder that is not strict makes of the parts of a token. -/
def decodedParts (token : String) : List (Option (List UInt8)) :=
  (splitChars '.' token.toList).map fun part ↦ Base64.urlDecode (Base64.pad part)

/-- And decoded. -/
theorem decodedParts_joinParts {token : String} {header payload signature : List UInt8}
    (h : token.toList = joinParts header payload signature) :
    decodedParts token = [some header, some payload, some signature] := by
  rw [decodedParts, h, splitChars_joinParts]
  simp only [List.map_cons, List.map_nil, urlDecode_b64]

section Tokens

variable {Key : Type} {tools : TokenTools Key} {key : Key} {now : ℤ} {token : String}
  {account : SingleDeviceAccount}

/-- What has been checked of a token with these parts. -/
structure PartsChecked (tools : TokenTools Key) (key : Key) (now : ℤ)
    (account : SingleDeviceAccount) (header payload signature : List UInt8) : Prop where
  algorithm : ∃ v, loadsUnique tools header = some v ∧ Json.same v (.obj headerClaims) = true
  verified : tools.verify key signature (String.ofList (b64 header ++ '.' :: b64 payload)) = true
  claims : ∃ claims, loadsUnique tools payload = some (.obj claims) ∧
    claimsValid claims account now = true

/-- **What a token is that passes**: the encoding of three parts that have been checked. -/
theorem tokenChecks_eq_some_iff : tokenChecks tools key now token account = some () ↔
    ∃ header payload signature, token.toList = joinParts header payload signature ∧
      PartsChecked tools key now account header payload signature := by
  constructor
  · intro h
    have hjoin := intercalate_splitChars '.' token.toList
    rw [tokenChecks] at h
    split at h
    · rename_i header payload signature hsplit
      rw [hsplit] at hjoin
      obtain ⟨rawHeader, hheader, h⟩ := Option.bind_eq_some_iff.mp h
      obtain ⟨v, hv, h⟩ := Option.bind_eq_some_iff.mp h
      obtain ⟨_, halgorithm, h⟩ := Option.bind_eq_some_iff.mp h
      obtain ⟨rawSignature, hsignature, h⟩ := Option.bind_eq_some_iff.mp h
      obtain ⟨_, hverify, h⟩ := Option.bind_eq_some_iff.mp h
      obtain ⟨rawPayload, hpayload, h⟩ := Option.bind_eq_some_iff.mp h
      obtain ⟨w, hw, h⟩ := Option.bind_eq_some_iff.mp h
      obtain ⟨claims, hclaims, hvalid⟩ := Option.bind_eq_some_iff.mp h
      obtain rfl := eq_b64_of_decodePart hheader
      obtain rfl := eq_b64_of_decodePart hpayload
      obtain rfl := eq_b64_of_decodePart hsignature
      obtain rfl := Json.obj?_eq_some.mp hclaims
      have hparts : token.toList = joinParts rawHeader rawPayload rawSignature := by
        simpa [joinParts, List.intercalate] using hjoin.symm
      exact ⟨rawHeader, rawPayload, rawSignature, hparts,
        ⟨v, hv, (Option.guard_eq_some' _).mp halgorithm⟩, (Option.guard_eq_some' _).mp hverify,
        ⟨claims, hw, (Option.guard_eq_some' _).mp hvalid⟩⟩
    · cases h
  · rintro ⟨header, payload, signature, htoken, ⟨v, hv, halgorithm⟩, hverify, claims, hclaims,
      hvalid⟩
    rw [tokenChecks, htoken, splitChars_joinParts]
    simp only [decodePart_b64, hv, hclaims, halgorithm, hverify, hvalid, Json.obj?_obj,
      Option.bind_eq_bind, Option.bind_some, guard_true]
    rfl

end Tokens

/-! ### The claims of an issued token -/

section Claims

variable {a b : SingleDeviceAccount} {issued ttlSeconds now : ℤ} {random : String}

/-- The members of an account that a token binds. -/
def SameBinding (a b : SingleDeviceAccount) : Prop :=
  a.did = b.did ∧ a.accountId = b.accountId ∧ a.deviceId = b.deviceId ∧
    a.signingKeyId = b.signingKeyId ∧ a.authGeneration = b.authGeneration

/-- An issued token has the claims that are asked for. -/
theorem hasClaimNames_tokenClaims :
    hasClaimNames (tokenClaims a issued ttlSeconds random) (bindingClaims b) = true := by
  simp [hasClaimNames, tokenClaims, bindingClaims, Obj.has, List.lookup_cons]

/-- Texts are the same when they are equal, -/
theorem same_str (x y : String) : Json.same (.str x) (.str y) = decide (x = y) := by
  rw [Json.same]

/-- and so are integers. -/
theorem same_int (m n : ℤ) : Json.same (.int m) (.int n) = decide (m = n) := by
  simp [Json.same, Json.numeric?, PyFloat.eq]

/-- The binding of a token is compared with that of the account, claim by claim. -/
theorem binding_tokenClaims : (bindingClaims b).all (fun p ↦
      Json.same (Obj.get (tokenClaims a issued ttlSeconds random) p.1) p.2) = true ↔
    SameBinding a b := by
  simp only [bindingClaims, tokenClaims, List.all_cons, List.all_nil, List.cons_append,
    Obj.get_cons, Bool.and_eq_true]
  simp [same_str, same_int, Json.same, Json.sameItems, SameBinding]

/-- Its times are right from its issue until it expires. -/
theorem timesValid_tokenClaims (httl : 0 < ttlSeconds) (hlater : issued ≤ now) :
    timesValid (tokenClaims a issued ttlSeconds random) now = true ↔ now < issued + ttlSeconds := by
  change (decide (issued = issued) && decide (issued ≤ now + 30) &&
    decide (max now issued < issued + ttlSeconds)) = true ↔ _
  rw [Bool.and_eq_true, Bool.and_eq_true, decide_eq_true_iff, decide_eq_true_iff,
    decide_eq_true_iff]
  omega

/-- Its identifier is not blank. -/
theorem not_isBlank_jti : isBlank ("jti_" ++ random) = false := by
  rw [isBlank, String.toList_append]
  rfl

/-- **The claims of a token are valid for its binding until it expires.** -/
theorem claimsValid_tokenClaims (httl : 0 < ttlSeconds) (hlater : issued ≤ now) :
    claimsValid (tokenClaims a issued ttlSeconds random) b now = true ↔
      SameBinding a b ∧ now < issued + ttlSeconds := by
  have hgeneration : int? (Obj.get (tokenClaims a issued ttlSeconds random) "auth_generation") =
      some (a.authGeneration : ℤ) := rfl
  have hjti : Obj.get (tokenClaims a issued ttlSeconds random) "jti" = .str
    ("jti_" ++ random) := rfl
  rw [claimsValid, hasClaimNames_tokenClaims, Bool.true_and, hgeneration, hjti, Json.str?_str,
    Option.any_some, not_isBlank_jti, Bool.not_false, Bool.and_true, Option.isSome_some,
    Bool.and_true, Bool.and_eq_true, binding_tokenClaims, timesValid_tokenClaims httl hlater]

/-- No member of it is there twice. -/
theorem uniqueMembers_tokenClaims :
    uniqueMembers (.obj (tokenClaims a issued ttlSeconds random)) = true := by
  simp [uniqueMembers, uniqueFields, uniqueItems, tokenClaims, bindingClaims]

end Claims

/-! ### Issued and accepted tokens -/

section Tokens

variable {Key : Type} {tools : TokenTools Key} {key : Key}

/-- A token as it was issued is checked part by part. -/
theorem toList_issueDeviceToken (issued : ℤ) (account : SingleDeviceAccount) (ttlSeconds : ℤ)
    (random : String) :
    (issueDeviceToken tools key issued account ttlSeconds random).toList =
      joinParts tokenHeader (tools.dumps (tokenClaims account issued ttlSeconds random))
        (tools.sign key (String.ofList (b64 tokenHeader ++
          '.' :: b64 (tools.dumps (tokenClaims account issued ttlSeconds random))))) := by
  rw [issueDeviceToken, String.toList_ofList, joinParts, List.append_assoc, List.cons_append]

/-- Joined parts tell the parts. -/
theorem joinParts_inj {header payload signature header' payload' signature' : List UInt8}
    (h : joinParts header payload signature = joinParts header' payload' signature') :
    header = header' ∧ payload = payload' ∧ signature = signature' := by
  have hparts := congrArg (splitChars '.') h
  rw [splitChars_joinParts, splitChars_joinParts] at hparts
  have hinj : ∀ {x y : List UInt8}, b64 x = b64 y → x = y := fun {x y} hxy ↦
    Option.some.inj ((decodePart_b64 x).symm.trans (hxy ▸ decodePart_b64 y))
  obtain ⟨hheader, hparts⟩ := List.cons.inj hparts
  obtain ⟨hpayload, hparts⟩ := List.cons.inj hparts
  exact ⟨hinj hheader, hinj hpayload, hinj (List.cons.inj hparts).1⟩

/-- **What an accepted token is.** -/
theorem validateDeviceToken_eq_ok {now : ℤ} {token : String} {account : SingleDeviceAccount} :
    validateDeviceToken tools key now token account = .ok () ↔
      ∃ header payload signature, token.toList = joinParts header payload signature ∧
        PartsChecked tools key now account header payload signature := by
  rw [validateDeviceToken, orRaise_eq_ok, tokenChecks_eq_some_iff]

/-- **An issued token is accepted for its binding until it expires**, if JSON is read back and a
signature verifies for what it signed. -/
theorem validateDeviceToken_issueDeviceToken {a b : SingleDeviceAccount}
    {issued ttlSeconds now : ℤ} {random : String}
    (hheader : tools.loads tokenHeader = some (.obj headerClaims))
    (hpayload : tools.loads (tools.dumps (tokenClaims a issued ttlSeconds random)) =
      some (.obj (tokenClaims a issued ttlSeconds random)))
    (hsign : ∀ text, tools.verify key (tools.sign key text) text = true)
    (httl : 0 < ttlSeconds) (hlater : issued ≤ now) :
    validateDeviceToken tools key now (issueDeviceToken tools key issued a ttlSeconds random) b =
      .ok () ↔ SameBinding a b ∧ now < issued + ttlSeconds := by
  have hclaims : loadsUnique tools (tools.dumps (tokenClaims a issued ttlSeconds random)) =
      some (.obj (tokenClaims a issued ttlSeconds random)) := by
    rw [loadsUnique, hpayload, Option.filter_some, if_pos uniqueMembers_tokenClaims]
  rw [validateDeviceToken_eq_ok, ← claimsValid_tokenClaims httl hlater]
  constructor
  · rintro ⟨header, payload, signature, htoken, -, -, claims, hloads, hvalid⟩
    obtain ⟨rfl, rfl, rfl⟩ := joinParts_inj ((toList_issueDeviceToken ..).symm.trans htoken)
    obtain rfl := Json.obj.inj (Option.some.inj (hclaims.symm.trans hloads))
    exact hvalid
  · intro hvalid
    refine ⟨_, _, _, toList_issueDeviceToken .., ⟨.obj headerClaims, ?_, ?_⟩, hsign _, _, hclaims,
      hvalid⟩
    · rw [loadsUnique, hheader]
      rfl
    · exact Json.same_refl rfl

/-- **There is no second spelling of an accepted token.** -/
theorem decodedParts_inj {token token' : String} {now now' : ℤ} {a b : SingleDeviceAccount}
    {key' : Key} (h : validateDeviceToken tools key now token a = .ok ())
    (h' : validateDeviceToken tools key' now' token' b = .ok ())
    (hparts : decodedParts token = decodedParts token') : token = token' := by
  obtain ⟨header, payload, signature, htoken, -⟩ := validateDeviceToken_eq_ok.mp h
  obtain ⟨header', payload', signature', htoken', -⟩ := validateDeviceToken_eq_ok.mp h'
  rw [decodedParts_joinParts htoken, decodedParts_joinParts htoken'] at hparts
  obtain ⟨hheader, hparts⟩ := List.cons.inj hparts
  obtain ⟨hpayload, hparts⟩ := List.cons.inj hparts
  refine String.toList_inj.mp ?_
  rw [htoken, htoken', Option.some.inj hheader, Option.some.inj hpayload,
    Option.some.inj (List.cons.inj hparts).1]

end Tokens

/-- **Device tokens are valid exactly for their binding.** If JSON is read back and a signature
verifies for what it signed, a token that `a` was issued is accepted for `b`, at that second or
later, exactly when the two have the same binding and the token has not expired. Every accepted
token is the encoding of its three parts, without a repeated claim, and no other text with the same
parts is accepted. -/
theorem device_tokens_bound {Key : Type} {tools : TokenTools Key} {key : Key}
    {a b : SingleDeviceAccount} {issued ttlSeconds now : ℤ} {random : String}
    (hheader : tools.loads tokenHeader = some (.obj headerClaims))
    (hpayload : tools.loads (tools.dumps (tokenClaims a issued ttlSeconds random)) =
      some (.obj (tokenClaims a issued ttlSeconds random)))
    (hsign : ∀ text, tools.verify key (tools.sign key text) text = true)
    (httl : 0 < ttlSeconds) (hlater : issued ≤ now) :
    (validateDeviceToken tools key now (issueDeviceToken tools key issued a ttlSeconds random) b =
      .ok () ↔ SameBinding a b ∧ now < issued + ttlSeconds) ∧
    (∀ (key : Key) (now : ℤ) (token : String) (account : SingleDeviceAccount),
      validateDeviceToken tools key now token account = .ok () →
        ∃ header payload signature claims, token.toList = joinParts header payload signature ∧
          tools.loads payload = some (.obj claims) ∧ (claims.map Prod.fst).Nodup) ∧
    ∀ (key key' : Key) (now now' : ℤ) (token token' : String)
      (account account' : SingleDeviceAccount),
      validateDeviceToken tools key now token account = .ok () →
      validateDeviceToken tools key' now' token' account' = .ok () →
      decodedParts token = decodedParts token' → token = token' := by
  refine ⟨validateDeviceToken_issueDeviceToken hheader hpayload hsign httl hlater,
    fun key now token account h ↦ ?_, fun _ _ _ _ _ _ _ _ h h' ↦ decodedParts_inj h h'⟩
  obtain ⟨header, payload, signature, htoken, -, -, claims, hclaims, -⟩ :=
    validateDeviceToken_eq_ok.mp h
  obtain ⟨hloads, hunique⟩ := Option.filter_eq_some_iff.mp hclaims
  rw [uniqueMembers, Bool.and_eq_true, decide_eq_true_iff] at hunique
  exact ⟨header, payload, signature, claims, htoken, hloads, hunique.1⟩

/-! ### A token of Alice's -/

/-- A claim in JSON: texts, numbers and lists of texts. -/
def sampleClaimText : Json → List Char
  | .str s => JsonText.literal s.toList
  | .int n => (toString n).toList
  | .arr items => JsonText.texts (items.filterMap fun v ↦ v.str?.map String.toList)
  | _ => []

/-- Claims in JSON. -/
def sampleDumps (claims : Obj) : List UInt8 :=
  let members := claims.map fun p ↦ JsonText.literal p.1.toList ++ ':' :: sampleClaimText p.2
  ('\x7b' :: (List.intercalate [','] members ++ ['\x7d'])).map fun c ↦ UInt8.ofNat c.toNat

example : sampleDumps headerClaims = tokenHeader := by decide +kernel

/-- Alice's account, -/
def aliceAccount : SingleDeviceAccount :=
  ⟨"did:ex:alice", "user-1", "device-1", "did:ex:alice#device", "did:ex:alice#root", "fp", 1⟩

/-- and Bob's. -/
def bobAccount : SingleDeviceAccount :=
  ⟨"did:ex:bob", "user-2", "device-1", "did:ex:bob#device", "did:ex:bob#root", "fp", 1⟩

/-- The header and `claims` are read, and a signature is the text it signs. -/
def sampleTools (claims : Obj) : TokenTools Unit where
  dumps := sampleDumps
  loads raw := if raw = tokenHeader then some (.obj headerClaims)
    else if raw = sampleDumps claims then some (.obj claims)
    else none
  sign _ text := text.toList.map fun c ↦ UInt8.ofNat c.toNat
  verify _ signature text := signature = text.toList.map fun c ↦ UInt8.ofNat c.toNat

/-- The header is read. -/
theorem sampleTools_loads_tokenHeader (claims : Obj) :
    (sampleTools claims).loads tokenHeader = some (.obj headerClaims) := by
  simp [sampleTools]

/-- And so are the claims. -/
theorem sampleTools_loads_dumps {claims : Obj} (h : sampleDumps claims ≠ tokenHeader) :
    (sampleTools claims).loads ((sampleTools claims).dumps claims) = some (.obj claims) := by
  simp [sampleTools, h]

/-- The claims of her token. -/
def aliceClaims : Obj := tokenClaims aliceAccount 1000 3600 "r"

/-- It is accepted for Alice until it expires, and never for Bob. -/
theorem device_tokens_bound_sample :
    validateDeviceToken (sampleTools aliceClaims) () 4599
        (issueDeviceToken (sampleTools aliceClaims) () 1000 aliceAccount 3600 "r") aliceAccount =
      .ok () ∧
    validateDeviceToken (sampleTools aliceClaims) () 4599
        (issueDeviceToken (sampleTools aliceClaims) () 1000 aliceAccount 3600 "r") bobAccount ≠
      .ok () := by
  have hheader := sampleTools_loads_tokenHeader aliceClaims
  have hne : sampleDumps aliceClaims ≠ tokenHeader := by decide +kernel
  have hpayload := sampleTools_loads_dumps hne
  have hsign : ∀ text, (sampleTools aliceClaims).verify ()
      ((sampleTools aliceClaims).sign () text) text = true := fun _ ↦ decide_eq_true rfl
  constructor
  · exact (device_tokens_bound hheader hpayload hsign (by decide) (by decide)).1.mpr
      ⟨⟨rfl, rfl, rfl, rfl, rfl⟩, by decide⟩
  · intro hbob
    have hsame := ((device_tokens_bound (b := bobAccount) hheader hpayload hsign (by decide)
      (by decide)).1.mp hbob).1.1
    exact absurd hsame (by decide)

end Awiki
