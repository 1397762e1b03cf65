import AwikiOpenServer.UserCompat.Registration

/-!
# Handles

A handle names an identity. Its full form is `local.domain` and its stored form, in the profile of
the identity, `local@domain`; texts come in either, with or without the domain and `wba://`.

The binding of a handle is read in five places, each by a join of its own: the two well-known
documents, from the handle and from the DID, which go on answering when the identity is revoked; the
look-up of the RPC, by either, which then does not; and groups. The joins are here; that they read
one directory is a matter of the runs of the server.

## Splitting

`_split_handle` takes off `wba://`, and splits what is left at the first `@`, or else at the first
dot; without either the domain of the server is meant. A local part with a dot in it would be split
in the middle, so what the forms of a handle come to depends on its local part. The last section is
about **plain** local parts, those the SDK accepts: for them both forms, with or without the scheme,
come to the same handle, whatever the domain of the server (`splitHandle_plain`). A registration
stores its handle in the form that is split again into its parts
(`prepareRegistration_storedHandle`).

## The routes

The two well-known routes catch what their documents raise: an unknown handle or DID is not found, a
revoked one is gone, with its document as content. `WellKnownReply` is the HTTP answer, and
`wellKnownReply_answers` says that such a route always answers, by the document or by the error.

## Elsewhere

A look-up that finds nobody here may ask the service of another domain, once, by a request whose
answer is a parameter (`HandleOutside`). What comes back is passed on with little checking, and only
when the DID or the handle is of another domain than this server's.
-/

namespace Awiki

open Py

/-! ### Texts -/

/-- `_split_handle`: local part and domain. The stored form and the full one are `splitHandle`. -/
def handleParts (handle defaultDomain : String) : String × String :=
  let stripped := stripChars handle.toList
  let raw := if "wba://".toList.isPrefixOf stripped then stripped.drop 6 else stripped
  let parts : List Char × List Char :=
    if raw.contains '@' then ((partitionChars '@' raw).1, (partitionChars '@' raw).2.2)
    else if raw.contains '.' then ((partitionChars '.' raw).1, (partitionChars '.' raw).2.2)
    else (raw, defaultDomain.toList)
  (String.ofList parts.1, String.ofList parts.2)

/-- A handle is split into its parts, and put together in both forms. -/
theorem splitHandle_eq (handle defaultDomain : String) :
    splitHandle handle defaultDomain =
      ((handleParts handle defaultDomain).1 ++ "@" ++ (handleParts handle defaultDomain).2,
        (handleParts handle defaultDomain).1 ++ "." ++ (handleParts handle defaultDomain).2) := by
  simp only [splitHandle, handleParts, Prod.mk.injEq]
  constructor <;> exact String.ext (by simp)

/-- A local part as the SDK accepts them: no separator of handles and no white space. -/
def isPlainLocalPart (localPart : String) : Bool :=
  !localPart.toList.isEmpty &&
    localPart.toList.all fun c ↦ c ≠ '@' && c ≠ '.' && c ≠ ':' && !isSpace c

/-- A domain that can stand in a handle. -/
def isPlainDomain (domain : String) : Bool :=
  domain.toList.all fun c ↦ c ≠ '@' && !isSpace c

/-! ### The well-known documents -/

/-- What a missing resource is called. -/
inductive DirectoryResource where
  | did
  | handle
  deriving DecidableEq

/-- Its name in the path, -/
def DirectoryResource.name : DirectoryResource → String
  | did => "did"
  | handle => "handle"

/-- and in a message. -/
def DirectoryResource.label : DirectoryResource → String
  | did => "DID"
  | handle => "Handle"

/-- `_user_service_not_found`; without a value, the empty text. -/
def userServiceNotFound (resource : DirectoryResource) (value : String) : AwikiError :=
  ⟨.userServiceNotFound, resource.label ++ " not found",
    [("code", .str (resource.name ++ "_not_found")), ("resource", .str resource.name)] ++
      if value = "" then [] else [(resource.name, .str value)]⟩

/-- `profiles p JOIN users u ON u.did = p.did JOIN did_documents d ON d.did = p.did`. -/
structure BindingRow where
  profile : ProfileRow
  user : User
  document : DidDocument

/-- The partners of a profile in that join. -/
def Store.bindingOf? (st : Store) (p : ProfileRow) : Option BindingRow := do
  let u ← Table.row? User.did p.did st.users
  let d ← Table.row? DidDocument.did p.did st.didDocuments
  return ⟨p, u, d⟩

/-- The join, from the first profile that is picked. -/
def Store.bindingRow? (st : Store) (pick : ProfileRow → Bool) : Option BindingRow :=
  st.profiles.findSome? fun p ↦ if pick p then st.bindingOf? p else none

/-- `user_revoked_at or did_revoked_at or did_status == "revoked"`. -/
def BindingRow.revoked (row : BindingRow) : Bool :=
  row.user.revokedAt.getD "" ≠ "" || row.document.revokedAt.getD "" ≠ "" ||
    row.document.status = .revoked

/-- The document of a handle, less its `profile` member. -/
structure HandleDocument where
  handle : String
  did : String
  status : DocumentStatus
  bindingGeneration : String
  updated : String
  localPart : String
  domain : String
  deriving DecidableEq

/-- What `handle/by-did` confirms. -/
structure HandleConfirmation where
  did : String
  status : DocumentStatus
  bindingGeneration : String
  updated : String
  handle : String
  deriving DecidableEq

/-- What a document says of its DID. -/
def HandleDocument.confirmation (doc : HandleDocument) (did : String) : HandleConfirmation where
  did := did
  status := doc.status
  bindingGeneration := doc.bindingGeneration
  updated := doc.updated
  handle := doc.handle

section WellKnown

variable (didDomain now : String) (st : Store)

/-- `_handle_document_from_profile`. -/
def handleDocumentFromProfile (row : BindingRow) : HandleDocument where
  handle := (splitHandle row.profile.handle didDomain).2
  did := row.profile.did
  status := if row.revoked then .revoked else .active
  bindingGeneration :=
    if row.user.handleBindingGeneration = "" then "1" else row.user.handleBindingGeneration
  updated := if row.document.updatedAt = "" then now else row.document.updatedAt
  localPart := (handleParts row.profile.handle didDomain).1
  domain := (handleParts row.profile.handle didDomain).2

/-- `handle_resolution_document`. -/
def handleResolutionDocument (localPart : String) : Result HandleDocument := do
  let names := splitHandle localPart didDomain
  -- the full form is the stored one with its first `@` replaced
  let row ← orRaise (userServiceNotFound .handle names.2)
    (st.bindingRow? fun p ↦ p.handle = names.1)
  return handleDocumentFromProfile didDomain now row

/-- `handle_confirmation_document`. -/
def handleConfirmationDocument (did : String) : Result HandleConfirmation := do
  let row ← orRaise (userServiceNotFound .did did) (st.bindingRow? fun p ↦ p.did = did)
  return (handleDocumentFromProfile didDomain now row).confirmation did

end WellKnown

/-- The HTTP answer of the two routes. -/
inductive WellKnownReply (α : Type) where
  | document (statusCode : ℕ) (content : α)
  | missing (content : Obj)

/-- Their `try`: a revoked binding is gone, an unknown one not found. -/
def wellKnownReply {α : Type} (status : α → DocumentStatus) (missing : Obj) :
    Result α → Result (WellKnownReply α)
  | .ok content => .ok (.document (if status content = .revoked then 410 else 200) content)
  | .error e =>
    if e.kind = .notFound || e.kind = .userServiceNotFound then .ok (.missing missing) else .error e

section Reply

variable {α : Type}

/-- The status code of an answer. -/
def WellKnownReply.statusCode : WellKnownReply α → ℕ
  | document statusCode _ => statusCode
  | missing _ => 404

/-- The document it carries. -/
def WellKnownReply.content? : WellKnownReply α → Option α
  | document _ content => some content
  | missing _ => none

/-- A document that raises nothing but what is not found is always answered: the document itself, or
the error of the route where there is none. -/
theorem wellKnownReply_answers (status : α → DocumentStatus) (missing : Obj) {r : Result α}
    (h : RaisesOnly (fun e ↦ e.kind = .userServiceNotFound) r) :
    ∃ reply, wellKnownReply status missing r = .ok reply ∧ reply.content? = r.toOption ∧
      reply.statusCode =
        r.toOption.elim 404 fun content ↦ if status content = .revoked then 410 else 200 := by
  cases r with
  | ok content => exact ⟨_, rfl, rfl, rfl⟩
  | error e =>
    have hkind : e.kind = .userServiceNotFound := h e rfl
    exact ⟨.missing missing, by simp [wellKnownReply, hkind], rfl, rfl⟩

end Reply

/-- `GET /.well-known/handle/by-did`. -/
def handleByDid (didDomain now : String) (st : Store) (did : String) :
    Result (WellKnownReply HandleConfirmation) :=
  wellKnownReply HandleConfirmation.status [("error", .str "did_not_found"), ("did", .str did)]
    (handleConfirmationDocument didDomain now st did)

/-- `GET /.well-known/handle/{local_part}`. -/
def handleDocument (didDomain now : String) (st : Store) (localPart : String) :
    Result (WellKnownReply HandleDocument) :=
  wellKnownReply HandleDocument.status
    [("error", .str "handle_not_found"), ("handle", .str (localPart ++ "." ++ didDomain))]
    (handleResolutionDocument didDomain now st localPart)

/-! ### Look-ups -/

/-- What `lookup` answers. -/
structure HandleLookup where
  did : String
  userId : String
  handle : String
  domain : String
  fullHandle : String
  /-- Only of a binding a Web domain has published. -/
  bindingGeneration : Option String := none
  profile : ProfileRow

/-- What look-ups ask of others. -/
structure HandleOutside extends IdentityOutside where
  /-- `runtime._fetch_did_document`. -/
  fetchDidDocument : String → Result Obj
  /-- `_remote_web_handle_lookup`, of a `did:web`. -/
  remoteWebHandleLookup : String → Result HandleLookup

/-- `profiles p JOIN users u LEFT JOIN did_documents d`, where neither is revoked. -/
def Store.activeProfile? (st : Store) (pick : ProfileRow → Bool) : Option ProfileRow :=
  st.profiles.find? fun p ↦ pick p &&
    ((Table.row? User.did p.did st.users).any fun u ↦ u.revokedAt.isNone) &&
    (Table.row? DidDocument.did p.did st.didDocuments).all fun d ↦
      d.status = .active && d.revokedAt.isNone

section Lookup

variable (out : HandleOutside)

/-- `_did_parts`. -/
def didParts (did : String) : List String := (splitChars ':' did.toList).map String.ofList

/-- `_did_domain`. -/
def didDomainOf (did : String) : Option String :=
  match didParts did with
  | "did" :: "wba" :: domain :: _ => some (out.lower domain)
  | _ => none

/-- The part after the first `user`, or else after the first `users`. -/
def remoteLocalPart (did : String) : Option String :=
  let parts := didParts did
  let marker := if parts.contains "user" then "user" else "users"
  (parts.dropWhile (· ≠ marker))[1]?

/-- The answer for a local profile. -/
def localLookup (p : ProfileRow) : HandleLookup where
  did := p.did
  userId := out.accountId p.did
  handle := (handleParts p.handle out.settings.didDomain).1
  domain := (handleParts p.handle out.settings.didDomain).2
  fullHandle := (splitHandle p.handle out.settings.didDomain).2
  profile := p

/-- The tail of `lookup`: a DID of another domain is asked there. -/
def remoteLookup (did : String) : Result HandleLookup := do
  let document ← out.fetchDidDocument did
  out.verifyDidDocumentProof document did
  let localPart ← orRaise (userServiceNotFound .handle "") (remoteLocalPart did)
  let domain := (didDomainOf out did).getD ""
  require (localPart ≠ "" && domain ≠ "") (userServiceNotFound .handle "")
  return { did := did
           userId := out.accountId did
           handle := localPart
           domain := domain
           fullHandle := localPart ++ "." ++ domain
           profile := ⟨did, localPart ++ "@" ++ domain⟩ }

/-- Nobody here. -/
def lookupMissing (did handle : String) : AwikiError :=
  let error := userServiceNotFound .handle handle
  if did ≠ "" ∧ handle = "" then { error with data := error.data ++ [("did", .str did)] } else error

/-- `if not row:`. -/
def lookupElsewhere (did handle : String) : Result HandleLookup :=
  if startsWith "did:web:" did then out.remoteWebHandleLookup did
  else
    let domain := didDomainOf out did
    if domain = none ∨ domain = some (out.lower out.settings.didDomain) then
      .error (lookupMissing did handle)
    else remoteLookup out did

/-- `handle_lookup`; what is absent is the empty text. -/
def handleLookup (st : Store) (did handle : String) : Result HandleLookup := do
  require (did ≠ "" || handle ≠ "") (.invalidParams "did_or_handle_required")
  let stored := (splitHandle handle out.settings.didDomain).1
  match st.activeProfile? fun p ↦ if did ≠ "" then p.did = did else p.handle = stored with
  | some p => return localLookup out p
  | none => lookupElsewhere out did handle

end Lookup

/-! ### Plain handles -/

section Plain

variable {localPart domain : String}

/-- `partition` splits at the first separator. -/
theorem partitionChars_append {sep : Char} {head : List Char} (h : sep ∉ head) (rest : List Char) :
    partitionChars sep (head ++ sep :: rest) = (head, true, rest) := by
  induction head with
  | nil => simp [partitionChars]
  | cons c head ih =>
    rw [List.mem_cons, not_or] at h
    rw [List.cons_append, partitionChars, if_neg (Ne.symm h.1), ih h.2]

/-- What `partition` finds can be put together again. -/
theorem partitionChars_eq {sep : Char} {cs : List Char} (h : sep ∈ cs) :
    cs = (partitionChars sep cs).1 ++ sep :: (partitionChars sep cs).2.2 := by
  induction cs with
  | nil => cases h
  | cons c cs ih =>
    rw [partitionChars]
    split
    · rename_i hc
      rw [hc, List.nil_append]
    · rename_i hc
      have hmem : sep ∈ cs := (List.mem_cons.mp h).resolve_left (Ne.symm hc)
      exact congrArg (c :: ·) (ih hmem)

/-- What makes a local part plain, -/
theorem isPlainLocalPart_iff : isPlainLocalPart localPart = true ↔ localPart.toList ≠ [] ∧
    ∀ c ∈ localPart.toList, c ≠ '@' ∧ c ≠ '.' ∧ c ≠ ':' ∧ isSpace c = false := by
  simp [isPlainLocalPart, and_assoc]

/-- and a domain. -/
theorem isPlainDomain_iff : isPlainDomain domain = true ↔
    ∀ c ∈ domain.toList, c ≠ '@' ∧ isSpace c = false := by
  simp [isPlainDomain]

/-- A plain local part does not begin like `wba://`. -/
theorem not_wba_prefix (hlocal : isPlainLocalPart localPart = true) {sep : Char}
    (hsep : sep = '@' ∨ sep = '.') (rest : List Char) :
    "wba://".toList.isPrefixOf (localPart.toList ++ sep :: rest) = false := by
  obtain ⟨hne, hplain⟩ := isPlainLocalPart_iff.mp hlocal
  rw [Bool.eq_false_iff, Ne, List.isPrefixOf_iff_prefix]
  rintro ⟨tail, htail⟩
  -- the fourth character would be a colon, or one of the first four the separator
  have hfour : (localPart.toList ++ sep :: rest).take 4 = ['w', 'b', 'a', ':'] := by
    rw [← htail]
    rfl
  revert hplain hfour hne
  generalize localPart.toList = cs
  intro hne hplain hfour
  match cs with
  | [] => exact hne rfl
  | [a] => rcases hsep with rfl | rfl <;> simp at hfour
  | [a, b] => rcases hsep with rfl | rfl <;> simp at hfour
  | [a, b, c] => rcases hsep with rfl | rfl <;> simp at hfour
  | a :: b :: c :: d :: cs =>
    obtain rfl : d = ':' := by simpa using (List.cons.inj (List.cons.inj (List.cons.inj
      (List.cons.inj hfour).2).2).2).1
    exact (hplain ':' (by simp)).2.2.1 rfl

/-- There is no white space to strip. -/
theorem stripChars_handle (hlocal : isPlainLocalPart localPart = true)
    (hdomain : isPlainDomain domain = true) (sep : Char) (hsep : isSpace sep = false) :
    stripChars (localPart.toList ++ sep :: domain.toList) =
      localPart.toList ++ sep :: domain.toList := by
  refine stripChars_eq_self fun c hc ↦ ?_
  rcases List.mem_append.mp hc with hc | hc
  · exact ((isPlainLocalPart_iff.mp hlocal).2 c hc).2.2.2
  · rcases List.mem_cons.mp hc with rfl | hc
    · exact hsep
    · exact (isPlainDomain_iff.mp hdomain c hc).2

/-- **The stored form is read as it is.** -/
theorem handleParts_stored (hlocal : isPlainLocalPart localPart = true)
    (hdomain : isPlainDomain domain = true) (defaultDomain : String) :
    handleParts (localPart ++ "@" ++ domain) defaultDomain = (localPart, domain) := by
  have htext : (localPart ++ "@" ++ domain).toList =
      localPart.toList ++ '@' :: domain.toList := by simp
  have hfirst : '@' ∉ localPart.toList := fun h ↦ ((isPlainLocalPart_iff.mp hlocal).2 _ h).1 rfl
  have hmem : (localPart.toList ++ '@' :: domain.toList).contains '@' = true := by simp
  simp only [handleParts, htext, stripChars_handle hlocal hdomain '@' (by decide),
    not_wba_prefix hlocal (.inl rfl), hmem, if_true, if_false, Bool.false_eq_true,
    partitionChars_append hfirst, String.ofList_toList]

/-- **And so is the full form.** -/
theorem handleParts_full (hlocal : isPlainLocalPart localPart = true)
    (hdomain : isPlainDomain domain = true) (defaultDomain : String) :
    handleParts (localPart ++ "." ++ domain) defaultDomain = (localPart, domain) := by
  have htext : (localPart ++ "." ++ domain).toList =
      localPart.toList ++ '.' :: domain.toList := by simp
  have hplain := (isPlainLocalPart_iff.mp hlocal).2
  have hfirst : '.' ∉ localPart.toList := fun h ↦ (hplain _ h).2.1 rfl
  have hnone : (localPart.toList ++ '.' :: domain.toList).contains '@' = false := by
    rw [Bool.eq_false_iff, Ne, List.contains_iff_mem, List.mem_append, List.mem_cons]
    rintro (h | h | h)
    · exact (hplain _ h).1 rfl
    · cases h
    · exact (isPlainDomain_iff.mp hdomain _ h).1 rfl
  have hmem : (localPart.toList ++ '.' :: domain.toList).contains '.' = true := by simp
  simp only [handleParts, htext, stripChars_handle hlocal hdomain '.' (by decide),
    not_wba_prefix hlocal (.inr rfl), hnone, hmem, if_true, if_false, Bool.false_eq_true,
    partitionChars_append hfirst, String.ofList_toList]

/-- A plain local part stands for a handle of the server's own domain. -/
theorem handleParts_local (hlocal : isPlainLocalPart localPart = true) (defaultDomain : String) :
    handleParts localPart defaultDomain = (localPart, defaultDomain) := by
  obtain ⟨-, hplain⟩ := isPlainLocalPart_iff.mp hlocal
  have hat : localPart.toList.contains '@' = false := by
    rw [Bool.eq_false_iff, Ne, List.contains_iff_mem]
    exact fun h ↦ (hplain _ h).1 rfl
  have hdot : localPart.toList.contains '.' = false := by
    rw [Bool.eq_false_iff, Ne, List.contains_iff_mem]
    exact fun h ↦ (hplain _ h).2.1 rfl
  have hprefix : "wba://".toList.isPrefixOf localPart.toList = false := by
    rw [Bool.eq_false_iff, Ne, List.isPrefixOf_iff_prefix]
    rintro ⟨tail, htail⟩
    exact (hplain ':' (htail ▸ by simp)).2.2.1 rfl
  simp only [handleParts, stripChars_eq_self fun c hc ↦ (hplain c hc).2.2.2, hprefix, hat, hdot,
    if_false, Bool.false_eq_true, String.ofList_toList]

/-- **Both forms of a plain handle are one handle**, whatever the domain of the server. -/
theorem splitHandle_plain (hlocal : isPlainLocalPart localPart = true)
    (hdomain : isPlainDomain domain = true) (defaultDomain : String) :
    splitHandle (localPart ++ "@" ++ domain) defaultDomain =
        (localPart ++ "@" ++ domain, localPart ++ "." ++ domain) ∧
      splitHandle (localPart ++ "." ++ domain) defaultDomain =
        (localPart ++ "@" ++ domain, localPart ++ "." ++ domain) := by
  rw [splitHandle_eq, splitHandle_eq, handleParts_stored hlocal hdomain,
    handleParts_full hlocal hdomain]
  exact ⟨rfl, rfl⟩

/-- It is split into itself and that domain. -/
theorem splitHandle_local (hlocal : isPlainLocalPart localPart = true) (defaultDomain : String) :
    splitHandle localPart defaultDomain =
      (localPart ++ "@" ++ defaultDomain, localPart ++ "." ++ defaultDomain) := by
  rw [splitHandle_eq, handleParts_local hlocal]

end Plain

/-- A stored form is its two parts. -/
theorem stored_eq_parts (text domain : String) :
    (splitHandle text domain).1 =
      String.ofList (partitionChars '@' (splitHandle text domain).1.toList).1 ++ "@" ++
        String.ofList (partitionChars '@' (splitHandle text domain).1.toList).2.2 := by
  have hmem : '@' ∈ (splitHandle text domain).1.toList := by
    rw [splitHandle_eq]
    simp
  refine String.ext ?_
  simpa using partitionChars_eq hmem

/-- A checked registration stores its local part under the domain of the server. -/
theorem prepareRegistration_storedHandle {out : IdentityOutside} {req : RegistrationRequest}
    {r : Registration} (h : prepareRegistration out req = .ok r) :
    r.storedHandle = r.localHandle ++ "@" ++ out.lower out.settings.didDomain := by
  unfold prepareRegistration at h
  obtain ⟨_, hdomain, h⟩ := bind_eq_ok.mp h
  obtain ⟨_, -, h⟩ := bind_eq_ok.mp h
  obtain ⟨_, -, h⟩ := bind_eq_ok.mp h
  obtain ⟨did, -, h⟩ := bind_eq_ok.mp h
  obtain ⟨_, -, h⟩ := bind_eq_ok.mp h
  obtain ⟨asked, -, h⟩ := bind_eq_ok.mp h
  obtain ⟨manifest, -, h⟩ := bind_eq_ok.mp h
  have hr := pure_eq_ok.mp h
  have hsame := of_decide_eq_true (require_eq_ok.mp hdomain)
  have hstored := congrArg Registration.storedHandle hr
  have hlocal := congrArg Registration.localHandle hr
  dsimp only at hstored hlocal
  rw [← hstored, ← hlocal]
  have hparts := stored_eq_parts (rawHandle out req) (out.lower out.settings.didDomain)
  rw [hsame] at hparts
  exact hparts
end Awiki
