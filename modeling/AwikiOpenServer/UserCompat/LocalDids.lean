import AwikiOpenServer.UserCompat.TokenRotation

/-!
# What a local DID is

Two functions decide it. Registration asks `_validate_local_user_did`, which splits the DID and
compares its domain; everything that routes a message asks `_did_belongs_to_domain`, which resolves
the DID and refuses whatever a URL could read differently. A DID that passes the first and not the
second is registered here and treated as if it lived elsewhere.

For a domain that is a plain host name they differ by exactly what `Locatable` says: nothing about
the authority is left to check but that it is ASCII, and the path must be one that a URL can carry.

## Two parsers of one text

Registration splits at colons and looks at the first three parts. Routing does much more: it refuses
white space and incomplete percent escapes, decodes every part, builds a URL authority from the
third and asks the URL parser about it, and refuses path segments that are empty, or that decode to
something with a slash in it or to dots. `didResolutionAuthority_eq_ok` writes the second out, check
by check, and `Registrable` what the first has established. The work is in the checks that are
implied: a plain host name, in whatever letter case, has no escape to decode, is a URL authority
without a port, and has none of the characters that are refused there.

## Percent decoding

`unquote` decodes runs of ASCII and leaves the rest alone, and a run decodes as UTF-8. Text without
a percent sign decodes to itself (`unquote_eq_self`), and a character in front of a run decodes to
itself (`unquote_cons`); that is all the theorem needs of it, since the statement leaves the
decoding of path segments as a condition, `SafeSegment`.

The condition is structural: it speaks of the parts of the DID between its colons, and can be
computed.
-/

namespace Awiki

open Py

/-! ### Percent decoding -/

/-- A character that is no escape is its byte. -/
theorem unquoteToBytes_cons {c : Char} (h : c ≠ '%') (cs : List Char) :
    unquoteToBytes (c :: cs) = c.toNat :: unquoteToBytes cs := by
  rw [unquoteToBytes]
  exact fun _ _ _ h' _ ↦ h h'

/-- An ASCII byte is a character. -/
theorem utf8Decode_cons {c : Char} (h : c.toNat < 128) (bytes : List ℕ) :
    utf8Decode (c.toNat :: bytes) = (utf8Decode bytes).map (c :: ·) := by
  rw [utf8Decode.eq_def]
  simp [h]

/-- One run of ASCII or of other characters, decoded. -/
def decodedRun (ascii : Bool) (run : List Char) : Option (List Char) :=
  if ascii then utf8Decode (unquoteToBytes run) else some run

/-- A run, character by character. -/
theorem decodedRun_cons {c : Char} (h : c ≠ '%') (run : List Char) :
    decodedRun (decide (c.toNat < 128)) (c :: run) =
      (decodedRun (decide (c.toNat < 128)) run).map (c :: ·) := by
  by_cases hascii : c.toNat < 128
  · simp [decodedRun, hascii, unquoteToBytes_cons h, utf8Decode_cons hascii]
  · simp [decodedRun, hascii]

/-- An empty run. -/
theorem decodedRun_nil (ascii : Bool) : decodedRun ascii [] = some [] := by
  cases ascii <;> rfl

/-- All the runs, decoded one after the other. -/
def decodedRuns : List (Bool × List Char) → Option (List Char)
  | [] => some []
  | (ascii, run) :: runs =>
    (decodedRun ascii run).bind fun decoded ↦ (decodedRuns runs).map (decoded ++ ·)

/-- Decoding goes run by run. -/
theorem unquote_eq (cs : List Char) : unquote cs = decodedRuns (asciiRuns cs) := by
  unfold unquote
  induction asciiRuns cs with
  | nil => rfl
  | cons first runs ih =>
    obtain ⟨ascii, run⟩ := first
    rw [List.foldr_cons, ih, decodedRuns]
    cases ascii with
    | true =>
      cases hrun : utf8Decode (unquoteToBytes run) <;> cases decodedRuns runs <;>
        simp [decodedRun, hrun]
    | false => cases decodedRuns runs <;> rfl

/-- A character other than `%` decodes to itself. -/
theorem unquote_cons {c : Char} (h : c ≠ '%') (cs : List Char) :
    unquote (c :: cs) = (unquote cs).map (c :: ·) := by
  rw [unquote_eq, unquote_eq, asciiRuns]
  cases asciiRuns cs with
  | nil =>
    show (decodedRun (decide (c.toNat < 128)) [c]).bind
      (fun decoded ↦ (some []).map (decoded ++ ·)) = _
    rw [decodedRun_cons h, decodedRun_nil]
    rfl
  | cons first runs =>
    obtain ⟨ascii, run⟩ := first
    dsimp only
    split
    · rename_i hsame
      subst hsame
      rw [decodedRuns, decodedRun_cons h, decodedRuns]
      cases decodedRun (decide (c.toNat < 128)) run with
      | none => rfl
      | some decoded => simp [Function.comp_def]
    · rw [decodedRuns, decodedRun_cons h, decodedRun_nil]
      simp

/-- Text without escapes decodes to itself. -/
theorem unquote_eq_self {cs : List Char} (h : '%' ∉ cs) : unquote cs = some cs := by
  induction cs with
  | nil => rfl
  | cons c cs ih =>
    rw [List.mem_cons, not_or] at h
    rw [unquote_cons (Ne.symm h.1), ih h.2, Option.map_some]

/-! ### The parts of a DID -/

/-- The text before the first separator is the first part. -/
theorem splitChars_append {sep : Char} {head : List Char} (h : sep ∉ head) (rest : List Char) :
    splitChars sep (head ++ sep :: rest) = head :: splitChars sep rest := by
  induction head with
  | nil => simp [splitChars]
  | cons c head ih =>
    rw [List.mem_cons, not_or] at h
    rw [List.cons_append, splitChars, if_neg (Ne.symm h.1), ih h.2]

/-- A part of a text, as characters. -/
theorem toList_getD_map_ofList (parts : List (List Char)) (i : ℕ) :
    ((parts.map String.ofList).getD i "").toList = parts.getD i [] := by
  rw [List.getD_eq_getElem?_getD, List.getD_eq_getElem?_getD, List.getElem?_map]
  cases parts[i]? <;> simp

/-- Without a separator nothing is split off. -/
theorem partitionChars_of_not_mem {sep : Char} {cs : List Char} (h : sep ∉ cs) :
    partitionChars sep cs = (cs, false, []) := by
  induction cs with
  | nil => rfl
  | cons c cs ih =>
    rw [List.mem_cons, not_or] at h
    rw [partitionChars, if_neg (Ne.symm h.1), ih h.2]

/-! ### Plain host names -/

/-- An ASCII letter or digit, a hyphen or a dot. -/
def isPlainHostChar (c : Char) : Bool := c.isAlphanum || c = '-' || c = '.'

/-- **A plain host name**: such characters only. -/
structure PlainHostName (cs : List Char) : Prop where
  ne_nil : cs ≠ []
  plain : ∀ c ∈ cs, isPlainHostChar c = true

/-- A fact about ASCII characters, checked for each of them. -/
theorem forall_ascii {P : Char → Bool} (h : (List.range 128).all fun n ↦ P (Char.ofNat n))
    {c : Char} (hc : c.toNat < 128) : P c = true := by
  have hall := List.all_eq_true.mp h c.toNat (List.mem_range.mpr hc)
  rwa [Char.ofNat_toNat] at hall

/-- Plain characters are ASCII and none of those an authority may not have. -/
theorem ascii_of_plain {c : Char} (h : isPlainHostChar c = true) : c.toNat < 128 := by
  have hcases :
    (c.isUpper || c.isLower || c.isDigit || decide (c = '-') || decide (c = '.')) = true := h
  simp only [Bool.or_eq_true, decide_eq_true_eq] at hcases
  rcases hcases with (((hupper | hlower) | hdigit) | rfl) | rfl
  · exact (isUpper_iff.mp hupper).2.trans_lt (by decide)
  · exact (isLower_iff.mp hlower).2.trans_lt (by decide)
  · simp only [Char.isDigit, Bool.and_eq_true, decide_eq_true_eq, UInt32.le_iff_toNat_le] at hdigit
    exact hdigit.2.trans_lt (by decide)
  · decide
  · decide

/-- Plain characters may stand in an authority. -/
theorem plain_authority {c : Char} (h : isPlainHostChar c = true) :
    c ∉ "/\\?#@%".toList ∧ isUnsafeChar c = false := by
  have hall := forall_ascii (P := fun c ↦ !isPlainHostChar c ||
    (!"/\\?#@%".toList.contains c && !isUnsafeChar c)) (by decide +kernel) (ascii_of_plain h)
  simpa [h] using hall

/-- An ASCII character is plain if its lower case is. -/
theorem plain_lowerChar {c : Char} (hc : c.toNat < 128) :
    isPlainHostChar (lowerChar c) = isPlainHostChar c := by
  have hall := forall_ascii (P := fun c ↦ isPlainHostChar (lowerChar c) == isPlainHostChar c)
    (by decide +kernel) hc
  simpa using hall

namespace PlainHostName

variable {cs : List Char}

/-- Other characters are not in it. -/
theorem not_mem (h : PlainHostName cs) {c : Char} (hc : isPlainHostChar c = false) : c ∉ cs :=
  fun hmem ↦ by
    rw [h.plain c hmem] at hc
    cases hc

/-- In lower case it is one, too. -/
theorem lowered (h : PlainHostName cs) : PlainHostName (cs.map lowerChar) where
  ne_nil := by simpa using h.ne_nil
  plain c hc := by
    obtain ⟨d, hd, rfl⟩ := List.mem_map.mp hc
    rw [plain_lowerChar (ascii_of_plain (h.plain d hd))]
    exact h.plain d hd

/-- What is written in ASCII and lower-cases to a plain host name is one. -/
theorem of_lowered (h : PlainHostName (cs.map lowerChar)) (hascii : ∀ c ∈ cs, c.toNat < 128) :
    PlainHostName cs where
  ne_nil := by simpa using h.ne_nil
  plain c hc := by
    rw [← plain_lowerChar (hascii c hc)]
    exact h.plain _ (List.mem_map_of_mem hc)

/-- Lower-casing touches no `%`. -/
theorem percent_not_mem (h : PlainHostName (cs.map lowerChar)) : '%' ∉ cs := fun hmem ↦
  h.not_mem (c := '%') (by decide) (List.mem_map.mpr ⟨'%', hmem, by decide⟩)

/-- A plain host name is a URL authority without a port. -/
theorem isUrlAuthority_eq (h : PlainHostName cs) : isUrlAuthority cs = true := by
  have hopen := partitionChars_of_not_mem (h.not_mem (c := '[') (by decide))
  have hcolon := partitionChars_of_not_mem (h.not_mem (c := ':') (by decide))
  have hclose : ']' ∉ cs := h.not_mem (by decide)
  simp [isUrlAuthority, hopen, hcolon, hclose, h.ne_nil]

end PlainHostName

/-! ### Registration and routing -/

/-- `str.lower` in a comparison with ASCII text. -/
def LowersToAscii (lower : String → String) : Prop :=
  ∀ s t : String, (∀ c ∈ t.toList, c.toNat < 128) →
    (lower s = t ↔ s.toList.map lowerChar = t.toList)

/-- **What a URL can carry as a path segment**: not empty, decodable, not a step up or down, and
without separators, white space or controls. -/
def SafeSegment (part : List Char) : Prop :=
  part ≠ [] ∧ ∃ value, unquote part = some value ∧ value ≠ ['.'] ∧ value ≠ ['.', '.'] ∧
    ∀ c ∈ value, c ∉ "/\\?#%".toList ∧ isUnsafeChar c = false

/-- **The DIDs on which the two agree**: no white space, no incomplete escape, a domain written in
ASCII, and a path of safe segments. -/
structure Locatable (did : String) : Prop where
  noSpace : ∀ c ∈ did.toList, isSpace c = false
  escapes : percentsComplete did.toList = true
  domain : ∀ c ∈ (splitChars ':' did.toList).getD 2 [], c.toNat < 128
  path : ∀ part ∈ (splitChars ':' did.toList).drop 3, SafeSegment part

/-- `did_resolution_authority`, check by check. -/
theorem didResolutionAuthority_eq_ok {did a : List Char} :
    didResolutionAuthority did = .ok a ↔
      ((∀ c ∈ did, isSpace c = false) ∧ percentsComplete did = true) ∧
      (3 ≤ (splitChars ':' did).length ∧
        ((splitChars ':' did).take 2 = ["did".toList, "wba".toList] ∨
          (splitChars ':' did).take 2 = ["did".toList, "web".toList]) ∧
        ∀ part ∈ (splitChars ':' did).drop 2, part ≠ []) ∧
      ∃ authority, unquote ((splitChars ':' did).getD 2 []) = some authority ∧
        (∀ c ∈ authority, c.toNat < 128 ∧ c ∉ "/\\?#@%".toList ∧ isUnsafeChar c = false) ∧
        isUrlAuthority authority = true ∧
        (∀ part ∈ (splitChars ':' did).drop 3, ∃ value, unquote part = some value ∧
          value ≠ ['.'] ∧ value ≠ ['.', '.'] ∧
            ∀ c ∈ value, c ∉ "/\\?#%".toList ∧ isUnsafeChar c = false) ∧
        authority.map lowerChar = a := by
  simp only [didResolutionAuthority, bind_eq_ok, require_eq_ok, orRaise_eq_ok, pure_eq_ok,
    forM_eq_ok, Bool.and_eq_true, Bool.or_eq_true, decide_eq_true_eq, List.all_eq_true,
    Bool.not_eq_true', List.any_eq_false, Bool.not_eq_true, List.contains_eq_mem,
    decide_eq_false_iff_not, List.isEmpty_eq_false_iff, ne_eq, and_assoc, exists_const]

section Agreement

variable {out : IdentityOutside} {did value : String}

/-- What registration has checked of a DID it accepts. -/
structure Registrable (out : IdentityOutside) (value : String) : Prop where
  wba : startsWith "did:wba:" value = true
  domain : ((splitChars ':' value.toList).getD 2 []).map lowerChar =
    out.settings.didDomain.toList.map lowerChar
  long : 3 < (splitChars ':' value.toList).length

/-- **What registration has checked.** -/
theorem validateLocalUserDid_eq_ok (hlower : LowersToAscii out.lower)
    (hdomain : PlainHostName out.settings.didDomain.toList)
    (h : validateLocalUserDid out did = .ok value) :
    value = String.ofList (stripChars did.toList) ∧ Registrable out value := by
  unfold validateLocalUserDid at h
  obtain ⟨_, hwba, h⟩ := bind_eq_ok.mp h
  obtain ⟨_, hsame, h⟩ := bind_eq_ok.mp h
  obtain ⟨_, hlong, h⟩ := bind_eq_ok.mp h
  obtain ⟨_, -, h⟩ := bind_eq_ok.mp h
  obtain rfl := pure_eq_ok.mp h
  have hascii : ∀ c ∈ (String.ofList (out.settings.didDomain.toList.map lowerChar)).toList,
      c.toNat < 128 := by
    rw [String.toList_ofList]
    exact fun c hc ↦ ascii_of_plain (hdomain.lowered.plain c hc)
  have hexpected : out.lower out.settings.didDomain =
      String.ofList (out.settings.didDomain.toList.map lowerChar) :=
    (hlower _ _ hascii).mpr (by rw [String.toList_ofList])
  have hlowered := (hlower _ _ hascii).mp ((of_decide_eq_true
    (require_eq_ok.mp hsame)).trans hexpected)
  refine ⟨rfl, require_eq_ok.mp hwba, ?_, ?_⟩
  · rw [← toList_getD_map_ofList]
    exact hlowered.trans String.toList_ofList
  · have hlength := require_eq_ok.mp hlong
    rw [Bool.and_eq_true, decide_eq_true_eq, List.length_map] at hlength
    exact hlength.1

/-- A registrable DID, in parts. -/
theorem Registrable.parts (h : Registrable out value) :
    ∃ authority path, splitChars ':' value.toList =
        "did".toList :: "wba".toList :: authority :: path ∧ path ≠ [] ∧
      authority.map lowerChar = out.settings.didDomain.toList.map lowerChar := by
  obtain ⟨tail, htail⟩ := List.isPrefixOf_iff_prefix.mp h.wba
  have hsplit : splitChars ':' value.toList =
      "did".toList :: "wba".toList :: splitChars ':' tail := by
    rw [← htail]
    show splitChars ':' ("did".toList ++ ':' :: ("wba".toList ++ ':' :: tail)) = _
    rw [splitChars_append (by decide), splitChars_append (by decide)]
  have hlong := h.long
  have hdomain := h.domain
  rw [hsplit] at hlong hdomain
  rcases htail : splitChars ':' tail with _ | ⟨authority, path⟩
  · simp [htail] at hlong
  · rw [htail] at hlong hdomain
    refine ⟨authority, path, by rw [hsplit, htail], ?_, hdomain⟩
    rintro rfl
    simp at hlong

/-- **Of a registrable DID, routing still checks that it is locatable.** -/
theorem didBelongsToDomain_iff (hdomain : PlainHostName out.settings.didDomain.toList)
    (h : Registrable out value) :
    didBelongsToDomain value out.settings.didDomain = true ↔ Locatable value := by
  obtain ⟨authority, path, hparts, hpath, hsame⟩ := h.parts
  have hlowered : PlainHostName (authority.map lowerChar) := by
    rw [hsame]
    exact hdomain.lowered
  have hdecoded : unquote authority = some authority := unquote_eq_self hlowered.percent_not_mem
  have hbelongs : didBelongsToDomain value out.settings.didDomain = true ↔
      didResolutionAuthority value.toList = .ok (out.settings.didDomain.toList.map lowerChar) := by
    rw [didBelongsToDomain, h.wba, Bool.true_and]
    cases didResolutionAuthority value.toList <;> simp
  rw [hbelongs, didResolutionAuthority_eq_ok, hparts]
  constructor
  · rintro ⟨⟨hspace, hescapes⟩, ⟨-, -, hne⟩, _, hdecode, hchars, -, hsegments, -⟩
    obtain rfl := Option.some.inj (hdecode.symm.trans hdecoded)
    refine ⟨hspace, hescapes, ?_, ?_⟩
    · rw [hparts]
      exact fun c hc ↦ (hchars c hc).1
    · rw [hparts]
      exact fun part hpart ↦ ⟨hne part (List.mem_cons_of_mem _ hpart), hsegments part hpart⟩
  · rintro ⟨hspace, hescapes, hascii, hsafe⟩
    rw [hparts] at hascii hsafe
    have hplain : PlainHostName authority := hlowered.of_lowered hascii
    refine ⟨⟨hspace, hescapes⟩, ⟨by simp, .inl rfl, ?_⟩, authority, hdecoded, ?_,
      hplain.isUrlAuthority_eq, fun part hpart ↦ (hsafe part hpart).2, hsame⟩
    · exact List.forall_mem_cons.mpr ⟨hplain.ne_nil, fun part hpart ↦ (hsafe part hpart).1⟩
    · exact fun c hc ↦ ⟨hascii c hc, plain_authority (hplain.plain c hc)⟩

/-- **A DID accepted for registration is routed as local exactly if it is locatable**, as it was
presented and as it is registered. -/
theorem registered_did_is_local_iff (hlower : LowersToAscii out.lower)
    (hdomain : PlainHostName out.settings.didDomain.toList)
    (h : validateLocalUserDid out did = .ok value) :
    (didBelongsToDomain did out.settings.didDomain = true ↔ Locatable did) ∧
      (didBelongsToDomain value out.settings.didDomain = true ↔ Locatable value) := by
  obtain ⟨hvalue, hregistrable⟩ := validateLocalUserDid_eq_ok hlower hdomain h
  have hiff := didBelongsToDomain_iff hdomain hregistrable
  refine ⟨?_, hiff⟩
  -- what is stripped before the checks is white space, and no DID with white space is locatable
  by_cases hspace : ∀ c ∈ did.toList, isSpace c = false
  · rw [stripChars_eq_self hspace, String.ofList_toList] at hvalue
    rwa [hvalue] at hiff
  · refine iff_of_false (fun hbelongs ↦ hspace ?_) fun hloc ↦ hspace hloc.noSpace
    rw [didBelongsToDomain, Bool.and_eq_true] at hbelongs
    cases hresolved : didResolutionAuthority did.toList with
    | ok authority => exact (didResolutionAuthority_eq_ok.mp hresolved).1.1
    | error e =>
      rw [hresolved] at hbelongs
      exact absurd hbelongs.2 Bool.false_ne_true

end Agreement

/-! ### An identity that is only half local -/

/-- A server whose `str.lower` lower-cases ASCII. -/
def IdentityOutside.lowering : IdentityOutside :=
  { IdentityOutside.sample with lower := fun s ↦ String.ofList (s.toList.map lowerChar) }

/-- It does. -/
theorem lowering_lowersToAscii : LowersToAscii IdentityOutside.lowering.lower := fun s t _ ↦ by
  show String.ofList (s.toList.map lowerChar) = t ↔ _
  rw [← String.toList_inj, String.toList_ofList]

/-- Its domain is a plain host name. -/
theorem sample_domain_plain : PlainHostName IdentityOutside.lowering.settings.didDomain.toList where
  ne_nil := by decide
  plain := List.all_eq_true.mp (by decide)

/-- Erin's DID, and one with an empty path segment. -/
def erin : String := "did:wba:host.example:users:erin:e1_default"

/-- The other one. -/
def unlocatableErin : String := "did:wba:host.example:users::e1_erin"

/-- Erin's DID is registrable, and so is routed as local because it is locatable. -/
theorem registered_did_is_local_iff_erin :
    validateLocalUserDid .lowering erin = .ok erin ∧
      (didBelongsToDomain erin "host.example" = true ↔ Locatable erin) := by
  have hok : (validateLocalUserDid .lowering erin).toOption = some erin := by decide +kernel
  cases h : validateLocalUserDid .lowering erin with
  | error e =>
    rw [h] at hok
    cases hok
  | ok value =>
    rw [h] at hok
    obtain rfl := Option.some.inj hok
    exact ⟨rfl, (registered_did_is_local_iff lowering_lowersToAscii sample_domain_plain h).1⟩

/-- **A registrable DID with an empty path segment is not routed as local.** -/
theorem registrable_did_not_local :
    ¬ ∀ (out : IdentityOutside) (did value : String), LowersToAscii out.lower →
      PlainHostName out.settings.didDomain.toList → validateLocalUserDid out did = .ok value →
      didBelongsToDomain did out.settings.didDomain = true := by
  intro hall
  have hok : (validateLocalUserDid .lowering unlocatableErin).toOption = some unlocatableErin := by
    decide +kernel
  have hremote : didBelongsToDomain unlocatableErin "host.example" = false := by decide +kernel
  cases h : validateLocalUserDid .lowering unlocatableErin with
  | error e =>
    rw [h] at hok
    cases hok
  | ok value =>
    have hlocal := hall .lowering _ _ lowering_lowersToAscii sample_domain_plain h
    exact absurd (hremote.symm.trans hlocal) (by decide)

end Awiki
