import AwikiOpenServer.Lib.Files
import AwikiOpenServer.Messaging.DirectSend

/-!
# Attachment slots

An attachment is uploaded into a slot and becomes an object when the slot is committed. A slot is a
row of `attachment_slots`, an object one of `attachment_objects`, and the bytes are in a file: under
`<object>.upload` before the commit and under `<object>.bin` after it. Every handler **reads the row
in autocommit, works on the files, and only then writes**: the write lock is taken after the files
have been touched, and a rollback leaves them as they are.

## Statements on files

An operation of `pathlib` or `shutil` is one statement here: a look whether a file exists, the
reading or writing of its bytes, a move, an unlinking. `Files` maps a path to its bytes, and a
handler is a program of `FileStatements`, which mixes these with the queries and writes of a
request; what may happen between two statements is decided where a program is run, once for requests
served one after the other and once for requests beside each other.

The files are assumed to be the server's own: nothing but its handlers writes under the object
directory, and no operation on a file fails, except that a missing one cannot be read or moved
(`fileNotFound`).

## The calls

Five calls work on slots: `attachment_create_slot`, `upload_slot`, `attachment_commit`,
`attachment_abort`, and the cleanup of expired slots. Each is its own definition below, under the
name it has in the source and with its checks in their order, and `AttachmentCall.prog` collects
them. The errors keep their codes and field paths, since a refusal is part of what a client sees.

Two things are easily overlooked. `attachment_abort` looks at the owner only, **whatever the status
of the slot is**. And the cleanup reads its list of expired slots once and then deletes row by row,
unlinking the file of each first, so that a slot committed in between would lose its row.

## What is left out

Random identifiers are numbers that are drawn under the write lock (`drawNumber`), which says of
them what is needed: no two are the same. The digest of the bytes, the codecs of the digest and the
URIs of a slot and an object are parameters of the settings and of a request.
-/

namespace Awiki

open Py Transactions

/-! ### Files -/

/-- The bytes of each file there is, by its path. -/
abbrev Files := String → Option (List UInt8)

/-- The statements of a request that works on files. -/
abbrev FileStatements (α : Type) := FileProgram Store Files AwikiError α

/-- `FileNotFoundError`. -/
def fileNotFound (path : String) : AwikiError := .value ("No such file or directory: " ++ path)

/-- `path.read_bytes()`. -/
def readBytes (path : String) (files : Files) : Result (List UInt8) :=
  orRaise (fileNotFound path) (files path)

/-- `path.write_bytes(data)`. -/
def writeBytes (path : String) (data : List UInt8) (files : Files) : Result Files :=
  .ok (Function.update files path (some data))

/-- `path.unlink()`. -/
def unlink (path : String) (files : Files) : Result Files := do
  let _ ← readBytes path files
  return Function.update files path none

/-- `shutil.move(path, final)`: whatever was at `final` is replaced. -/
def move (path final : String) (files : Files) : Result Files := do
  let data ← readBytes path files
  return Function.update (Function.update files path none) final (some data)

/-- `if path.exists(): path.unlink()`. -/
def unlinkIfExists (path : String) : FileStatements Unit := do
  let found ← .inspect fun files ↦ .ok (files path).isSome
  .onlyIf found (.change (unlink path))

/-- `path.with_suffix(suffix)`: the last dot of the name and what follows it are replaced. -/
def withSuffix (suffix path : String) : String :=
  let reversed := path.toList.reverse
  let tail := reversed.takeWhile fun c ↦ c ≠ '.' && c ≠ '/'
  match reversed.dropWhile fun c ↦ c ≠ '.' && c ≠ '/' with
  | '.' :: stem =>
    if tail.isEmpty || stem.isEmpty || stem.head? = some '/' then path ++ suffix
    else String.ofList stem.reverse ++ suffix
  | _ => path ++ suffix

/-! ### Parameters -/

/-- The settings of attachments. -/
structure AttachmentSettings extends Settings where
  /-- `object_dir`. -/
  objectDir : String
  maxAttachmentBytes : ℕ
  attachmentAllowedMimeTypes : List String
  /-- `_object_upload_uri` of a slot. -/
  objectUploadUri : String → String
  /-- `_object_download_uri` of an object. -/
  objectDownloadUri : String → String
  /-- `hashlib.sha256(data).hexdigest()`. -/
  sha256Hexdigest : List UInt8 → String

/-- A request about attachments. -/
structure AttachmentRequest extends Request where
  /-- `new_id("att")`. -/
  newAttachmentId : String
  /-- `_slot_expiry()`. -/
  slotExpiry : String
  /-- `_is_expired`, when the request is served. -/
  isExpired : Option String → Bool
  /-- `str.lower()`. -/
  lower : String → String
  /-- `base64.urlsafe_b64decode` of the padded text, in hexadecimal, when it has 32 bytes. -/
  decodeDigest : String → Option String
  /-- `base64.urlsafe_b64encode` of a digest in hexadecimal, without padding. -/
  encodeDigest : String → String

/-- `str(value).strip().lower()`. -/
def strippedLower (req : AttachmentRequest) (value : Json) : String :=
  req.lower (String.ofList (stripChars (req.outside.str value).toList))

/-- `_normalize_mime_type`. -/
def normalizeMimeType (req : AttachmentRequest) (value : Json) : String :=
  let text := req.outside.str (value.orElse (.str "application/octet-stream"))
  let head := String.ofList (text.toList.takeWhile (· ≠ ';'))
  let normalized := strippedLower req (.str head)
  if normalized = "" then "application/octet-stream" else normalized

/-- `_parse_expected_size`. -/
def parseExpectedSize (value : Json) : Result (Option ℕ) :=
  if value.isNull || value.isStr "" then .ok none
  else
    match intOf value with
    | .ok n =>
      if n < 0 then .error (.invalidParams "attachment_expected_size_invalid")
      else .ok (some n.toNat)
    | .error .overflowError => .error (.value "cannot convert float infinity to integer")
    | .error _ => .error (.invalidParams "attachment_expected_size_invalid")

/-- The heads `_parse_expected_sha256` takes off a digest, in the order it tries them. -/
def digestHeads : List String := ["sha-256:", "sha-256=", "sha256:", "sha256="]

/-- The text after a head and white space, or the whole text. -/
def withoutDigestHead (digest : String) : String :=
  match digestHeads.find? fun head ↦ startsWith head digest with
  | some head => String.ofList (stripChars (digest.toList.drop head.length))
  | none => digest

/-- A digest in hexadecimal. -/
def isHexDigest (digest : String) : Bool :=
  digest.length = 64 && digest.toList.all fun c ↦ "0123456789abcdef".toList.contains c

/-- `_parse_expected_sha256` of a digest as text. -/
def parseDigestText (req : AttachmentRequest) (raw : Json) : Result (Option String) := do
  let digest := withoutDigestHead (strippedLower req (raw.orElse (.str "")))
  require (isHexDigest digest) (.invalidParams "attachment_expected_digest_invalid")
  return some digest

/-- `_parse_expected_sha256`. -/
def parseExpectedSha256 (req : AttachmentRequest) (value : Json) : Result (Option String) :=
  if value.isNull || value.isStr "" then .ok none
  else
    match value with
    | .obj fields => do
      let alg := strippedLower req ((Obj.get fields "alg").orElse (.str "sha-256"))
      require (["sha-256", "sha256"].contains alg)
        (.invalidParams "attachment_digest_alg_not_supported" [("alg", .str alg)])
      if (Obj.get fields "value_b64u").isNull then
        parseDigestText req
          (((Obj.get fields "value_hex").orElse (Obj.get fields "sha256")).orElse
            (Obj.get fields "value"))
      else
        let encoded ← orRaise (.invalidParams "attachment_expected_digest_invalid")
          ((Obj.get fields "value_b64u").str?.filter (· ≠ ""))
        let digest ← orRaise (.invalidParams "attachment_expected_digest_invalid")
          (req.decodeDigest encoded)
        return some digest
    | raw => parseDigestText req raw

/-- `_expected_sha256_from_params`. -/
def expectedSha256FromParams (req : AttachmentRequest) (params : Obj) : Result (Option String) :=
  let raw := if (params.get "expected_digest").isNull then params.get "digest"
    else params.get "expected_digest"
  parseExpectedSha256 req (if raw.isNull then params.get "expected_sha256" else raw)

/-- `_ensure_mime_allowed`. -/
def ensureMimeAllowed (settings : AttachmentSettings) (contentType : String) : Result Unit :=
  require (settings.attachmentAllowedMimeTypes.contains contentType)
    (.invalidParams "attachment_content_type_not_allowed" [("content_type", .str contentType)])

/-- The error about an attachment that is too large. -/
def attachmentTooLarge (settings : AttachmentSettings) (actual : ℕ) : AwikiError :=
  .invalidParams "attachment_too_large"
    [("max", .int settings.maxAttachmentBytes), ("actual", .int actual)]

/-! ### Statements -/

namespace SlotStatus

def text : SlotStatus → String
  | «open» => "open"
  | uploaded => "uploaded"
  | committed => "committed"
  | aborted => "aborted"

end SlotStatus

/-- `UPDATE attachment_slots SET status = ? WHERE slot_id = ?`. -/
def Store.setSlotStatus (slotId : String) (status : SlotStatus) (st : Store) : Store :=
  { st with
    attachmentSlots := Table.updateWhere (fun s ↦ decide (s.slotId = slotId))
      (fun s ↦ { s with status := status }) st.attachmentSlots }

/-- `DELETE FROM attachment_slots WHERE slot_id = ?`. -/
def Store.deleteSlot (slotId : String) (st : Store) : Store :=
  { st with attachmentSlots := st.attachmentSlots.filter fun s ↦ !decide (s.slotId = slotId) }

/-- `INSERT INTO attachment_slots`: `slot_id` is the key and `object_id` unique. -/
def insertSlot (row : AttachmentSlot) (st : Store) : Result Store := do
  require (Table.row? AttachmentSlot.objectId row.objectId st.attachmentSlots).isNone
    (.integrity "attachment_slots.object_id")
  let rows ← orRaise (.integrity "attachment_slots.slot_id")
    (Table.insert? AttachmentSlot.slotId row st.attachmentSlots)
  return { st with attachmentSlots := rows }

/-- `INSERT INTO attachment_objects`. -/
def insertObject (row : AttachmentObject) (st : Store) : Result Store := do
  let rows ← orRaise (.integrity "attachment_objects.object_id")
    (Table.insert? AttachmentObject.objectId row st.attachmentObjects)
  return { st with attachmentObjects := rows }

/-- The number of a new random identifier: no two draws are the same. -/
def drawNumber : FileStatements ℕ := do
  .write fun st ↦ .ok { st with issued := st.issued + 1 }
  let issued ← .query Store.issued
  return issued - 1

/-- `isinstance(params.get("_anp_body"), dict)`. -/
def isCanonical (params : Obj) : Bool := (envelopePart params "_anp_body").isSome

/-- The members of an answer under the keys of the canonical one, when that is asked for. -/
def canonicalAnswer (canonical : Bool) (keys : List String) (answer : Obj) : Obj :=
  if canonical then keys.map fun key ↦ (key, answer.get key) else answer

/-! ### Handlers -/

/-- `object_dir / f"{object_id}.upload"`. -/
def uploadPath (settings : AttachmentSettings) (objectId : String) : String :=
  settings.objectDir ++ "/" ++ objectId ++ ".upload"

/-- The encryption checks of `attachment_create_slot`: whatever is to be encrypted is refused. -/
def ensureCreatePlain (params : Obj) : Result Unit := do
  let encryptionInfo := (envelopePart params "encryption_info").getD []
  let mode := (params.get "object_encryption_mode").orElse
    (encryptionInfo.getD "mode" (.str "none"))
  let violation : AwikiError := .notSupported "anp.attachment.encryption_policy_violation"
  require (mode.isStr "none") violation
  let security := params.getD "intended_message_security_profile" (.str "transport-protected")
  require security.hashable (.type "unhashable type")
  require (!(security.isStr "direct-e2ee" || security.isStr "group-e2ee")) violation

/-- The slot `attachment_create_slot` opens, under the identifiers of number `n`. -/
def newSlot (settings : AttachmentSettings) (req : AttachmentRequest) (params : Obj)
    (owner : String) (n : ℕ) : Result AttachmentSlot := do
  let attachmentId := (params.get "attachment_id").orElse (.str req.newAttachmentId)
  let expectedSize ← parseExpectedSize (params.getD "expected_size" (params.get "size"))
  let expectedSha256 ← expectedSha256FromParams req params
  let rawContentType := ((params.get "expected_content_type").orElse
    (params.get "content_type")).orElse (params.get "mime_type")
  let expectedContentType :=
    if rawContentType.truthy then some (normalizeMimeType req rawContentType) else none
  expectedSize.forM fun size ↦
    require (size ≤ settings.maxAttachmentBytes) (attachmentTooLarge settings size)
  expectedContentType.forM (ensureMimeAllowed settings)
  return {
    slotId := newId "slot" n
    objectId := newId "obj" n
    attachmentId := some (req.outside.str attachmentId)
    objectUri := some (settings.objectDownloadUri (newId "obj" n))
    ownerDid := owner
    uploadToken := newId "up" n
    commitToken := newId "commit" n
    path := uploadPath settings (newId "obj" n)
    status := .open
    expectedSize := expectedSize
    expectedSha256 := expectedSha256
    expectedContentType := expectedContentType
    expiresAt := some req.slotExpiry }

/-- The answer of `attachment_create_slot`. -/
def slotCreated (settings : AttachmentSettings) (req : AttachmentRequest) (params : Obj)
    (slot : AttachmentSlot) : Obj :=
  let answer : Obj :=
    [("attachment_id", textOrNull slot.attachmentId), ("slot_id", .str slot.slotId),
      ("object_id", .str slot.objectId), ("upload_token", .str slot.uploadToken),
      ("upload_headers", .obj [("X-ANP-Upload-Token", .str slot.uploadToken)]),
      ("commit_token", .str slot.commitToken),
      ("upload_url", .str (settings.objectUploadUri slot.slotId)),
      ("upload_uri", .str (settings.objectUploadUri slot.slotId)),
      ("object_uri", textOrNull slot.objectUri), ("expires_at", textOrNull slot.expiresAt)]
  let size : Obj := match slot.expectedSize with
    | some size => [("expected_size", .int size)]
    | none => []
  let digest : Obj := match slot.expectedSha256 with
    | some digest => [("expected_digest", .obj [("alg", .str "sha-256"),
        ("value_b64u", .str (req.encodeDigest digest)), ("value_hex", .str digest)])]
    | none => []
  let contentType : Obj := match slot.expectedContentType with
    | some contentType => [("content_type", .str contentType)]
    | none => []
  canonicalAnswer (isCanonical params)
    ["attachment_id", "slot_id", "upload_uri", "upload_headers", "object_uri", "commit_token",
      "expires_at"]
    (answer ++ size ++ digest ++ contentType)

/-- `attachment_create_slot`. -/
def attachmentCreateSlot (settings : AttachmentSettings) (req : AttachmentRequest) (params : Obj) :
    FileStatements Obj := do
  let owner ← .ofExcept (currentDid req.toRequest true)
  .ofExcept (ensureCreatePlain params)
  let n ← drawNumber
  let slot ← .ofExcept (newSlot settings req params (owner.getD "") n)
  .write (insertSlot slot)
  return slotCreated settings req params slot

/-- `upload_slot`. -/
def uploadSlot (settings : AttachmentSettings) (req : AttachmentRequest) (slotId token : String)
    (data : List UInt8) : FileStatements Obj := do
  let found ← .query fun st ↦ st.attachmentSlots.find? fun s ↦
    decide (s.slotId = slotId ∧ s.uploadToken = token)
  let row ← .ofExcept (orRaise (.notFound "slot_not_found") found)
  .ofExcept (require (row.status = .open || row.status = .uploaded)
    (.invalidParams "slot_not_uploadable" [("status", .str row.status.text)]))
  .ofExcept (require (!req.isExpired row.expiresAt) (.invalidParams "slot_expired"))
  .ofExcept (require (data.length ≤ settings.maxAttachmentBytes)
    (attachmentTooLarge settings data.length))
  .change (writeBytes row.path data)
  .write fun st ↦ .ok (st.setSlotStatus slotId .uploaded)
  return [("uploaded", .bool true), ("slot_id", .str slotId)]

/-- The parameters of a commit: the slot and the token, as SQLite binds them. -/
def commitBinding (req : AttachmentRequest) (params : Obj) :
    Result (Option String × Option String) := do
  require ((params.getD "object_encryption_mode" (.str "none")).isStr "none")
    (.notSupported "anp.attachment.encryption_policy_violation")
  require ((params.get "slot_id").truthy && (params.get "commit_token").truthy)
    (.invalidParams "slot_id_and_commit_token_required")
  let slotId ← bindText req.outside.reprFloat (params.get "slot_id")
  let commitToken ← bindText req.outside.reprFloat (params.get "commit_token")
  return (slotId, commitToken)

/-- A number or `None`. -/
def natOrNull : Option ℕ → Json
  | some n => .int n
  | none => .null

/-- The checks of `attachment_commit` of a canonical request: it says what it has uploaded. -/
def checkCanonical (req : AttachmentRequest) (params : Obj) (row : AttachmentSlot) (size : ℕ)
    (digest : String) : Result Unit := do
  require (row.attachmentId.any fun id ↦ (params.get "attachment_id").isStr id)
    (.invalidParams "attachment_id_mismatch")
  let actualSize ← parseExpectedSize (params.getD "actual_size" (params.get "size"))
  require (actualSize = some size) (.invalidParams "attachment_size_mismatch"
    [("expected", .int size), ("actual", natOrNull actualSize)])
  let actualDigest ← parseExpectedSha256 req (params.getD "actual_digest" (params.get "digest"))
  require (actualDigest = some digest) (.invalidParams "attachment_digest_mismatch"
    [("expected", .str digest), ("actual", textOrNull actualDigest)])

/-- The checks of `attachment_commit` on the bytes it has read: their digest and the content
type. -/
def checkUpload (settings : AttachmentSettings) (req : AttachmentRequest) (params : Obj)
    (row : AttachmentSlot) (data : List UInt8) : Result (String × String) := do
  require (data.length ≤ settings.maxAttachmentBytes) (attachmentTooLarge settings data.length)
  require (row.expectedSize.all (· = data.length)) (.invalidParams "attachment_size_mismatch"
    [("expected", natOrNull row.expectedSize), ("actual", .int data.length)])
  let digest := settings.sha256Hexdigest data
  require ((row.expectedSha256.filter (· ≠ "")).all fun expected ↦ req.lower expected = digest)
    (.invalidParams "attachment_digest_mismatch"
      [("expected", textOrNull row.expectedSha256), ("actual", .str digest)])
  (if isCanonical params then checkCanonical req params row data.length digest else .ok ())
  let contentType := normalizeMimeType req
    ((params.get "content_type").orElse (textOrNull row.expectedContentType))
  ensureMimeAllowed settings contentType
  require ((row.expectedContentType.filter (· ≠ "")).all (· = contentType))
    (.invalidParams "attachment_content_type_mismatch"
      [("expected", textOrNull row.expectedContentType), ("actual", .str contentType)])
  return (digest, contentType)

/-- The object of a commit. -/
def newObject (settings : AttachmentSettings) (req : AttachmentRequest) (params : Obj)
    (row : AttachmentSlot) (data : List UInt8) (digest contentType : String) :
    Result AttachmentObject := do
  let attachmentId ← bindText req.outside.reprFloat
    ((textOrNull row.attachmentId).orElse (params.get "attachment_id"))
  return {
    objectId := row.objectId
    sourceAttachmentId := attachmentId
    objectUri :=
      some ((row.objectUri.filter (· ≠ "")).getD (settings.objectDownloadUri row.objectId))
    ownerDid := row.ownerDid
    path := withSuffix ".bin" row.path
    size := data.length
    sha256 := digest
    contentType := contentType }

/-- The answer of `attachment_commit`. -/
def objectCommitted (req : AttachmentRequest) (params : Obj) (row : AttachmentSlot)
    (object : AttachmentObject) : Obj :=
  canonicalAnswer (isCanonical params) ["committed", "attachment_id", "object_uri", "committed_at"]
    [("committed", .bool true),
      ("attachment_id", (textOrNull row.attachmentId).orElse (params.get "attachment_id")),
      ("slot_id", params.get "slot_id"), ("object_id", .str object.objectId),
      ("object_uri", textOrNull object.objectUri), ("committed_at", .str req.outside.now),
      ("size", .int object.size), ("sha256", .str object.sha256),
      ("digest",
        .obj [("alg", .str "sha-256"), ("value_b64u", .str (req.encodeDigest object.sha256)),
          ("value_hex", .str object.sha256)]),
      ("content_type", .str object.contentType)]

/-- `attachment_commit`. -/
def attachmentCommit (settings : AttachmentSettings) (req : AttachmentRequest) (params : Obj) :
    FileStatements Obj := do
  let owner ← .ofExcept (currentDid req.toRequest true)
  let (slotId, commitToken) ← .ofExcept (commitBinding req params)
  let found ← .query fun st ↦ st.attachmentSlots.find? fun s ↦
    decide (some s.slotId = slotId ∧ some s.commitToken = commitToken ∧ some s.ownerDid = owner)
  let row ← .ofExcept (orRaise (.notFound "slot_not_found") found)
  .ofExcept (require (row.status = .uploaded) (.invalidParams "object_not_uploaded"))
  .ofExcept (require (!req.isExpired row.expiresAt) (.invalidParams "slot_expired"))
  .inspect fun files ↦ require (files row.path).isSome (.invalidParams "object_not_uploaded")
  let data ← .inspect (readBytes row.path)
  let (digest, contentType) ← .ofExcept (checkUpload settings req params row data)
  .change (move row.path (withSuffix ".bin" row.path))
  let object ← .ofExcept (newObject settings req params row data digest contentType)
  .write (insertObject object)
  .write fun st ↦ .ok (st.setSlotStatus row.slotId .committed)
  return objectCommitted req params row object

/-- `attachment_abort`. **The status of the slot is not looked at.** -/
def attachmentAbort (req : AttachmentRequest) (params : Obj) : FileStatements Obj := do
  let owner ← .ofExcept (currentDid req.toRequest true)
  .ofExcept (require (params.get "slot_id").truthy (.invalidParams "slot_id_required"))
  let slotId ← .ofExcept (bindText req.outside.reprFloat (params.get "slot_id"))
  let found ← .query fun st ↦ st.attachmentSlots.find? fun s ↦
    decide (some s.slotId = slotId ∧ some s.ownerDid = owner)
  let row ← .ofExcept (orRaise (.notFound "slot_not_found") found)
  unlinkIfExists row.path
  .write fun st ↦ .ok (st.setSlotStatus row.slotId .aborted)
  let answer : Obj := [("aborted", .bool true), ("attachment_id", params.get "attachment_id"),
    ("slot_id", params.get "slot_id"), ("aborted_at", .str req.outside.now)]
  return if isCanonical params then answer.erase "slot_id" else answer

/-- The slots `cleanup_expired_attachments` selects. -/
def AttachmentSlot.isLeftover (now : String) (s : AttachmentSlot) : Bool :=
  s.expiresAt.any (fun t ↦ decide (t ≤ now)) && !decide (s.status = .committed)

/-- The loop of `cleanup_expired_attachments`. -/
def removeSlots : List AttachmentSlot → FileStatements Unit
  | [] => return
  | row :: rest => do
    unlinkIfExists row.path
    .write fun st ↦ .ok (st.deleteSlot row.slotId)
    removeSlots rest

/-- `cleanup_expired_attachments`. The last statement counts the rows it deletes, so it takes the
lock before it counts. -/
def cleanupExpiredAttachments (now : String) : FileStatements Obj := do
  let slots ← .query fun st ↦ st.attachmentSlots.filter (AttachmentSlot.isLeftover now)
  removeSlots slots
  .write .ok
  let tickets ← .query fun st ↦ st.downloadTickets.filter fun t ↦ decide (t.expiresAt ≤ now)
  .write fun st ↦ .ok { st with
    downloadTickets := st.downloadTickets.filter fun t ↦ !decide (t.expiresAt ≤ now) }
  return [("expired_slots", .int slots.length), ("expired_download_tickets", .int tickets.length)]

/-! ### Calls -/

/-- A call about attachment slots. -/
inductive AttachmentCall where
  | createSlot (req : AttachmentRequest) (params : Obj)
  | upload (req : AttachmentRequest) (slotId token : String) (data : List UInt8)
  | commit (req : AttachmentRequest) (params : Obj)
  | abort (req : AttachmentRequest) (params : Obj)
  | cleanup (now : String)

namespace AttachmentCall

/-- The statements of a call. -/
def prog (settings : AttachmentSettings) : AttachmentCall → FileStatements Obj
  | createSlot req params => attachmentCreateSlot settings req params
  | upload req slotId token data => uploadSlot settings req slotId token data
  | commit req params => attachmentCommit settings req params
  | abort req params => attachmentAbort req params
  | cleanup now => cleanupExpiredAttachments now

end AttachmentCall

/-! ### A small server -/

/-- The digests are those of no bytes at all and of the byte `a`. -/
def AttachmentSettings.sample : AttachmentSettings where
  toSettings := Settings.sample
  objectDir := "objects"
  maxAttachmentBytes := 100
  attachmentAllowedMimeTypes := ["application/octet-stream"]
  objectUploadUri slotId := "https://host.example/uploads/" ++ slotId
  objectDownloadUri objectId := "https://host.example/objects/" ++ objectId
  sha256Hexdigest data :=
    if data.isEmpty then "e3b0c44298fc1c149afbf4c8996fb92427ae41e4649b934ca495991b7852b855"
    else "ca978112ca1bbdcafac231b39a23dc4da786eff8147c4e72b9807785afee48bb"

/-- A request of Alice, half an hour before her slots expire. -/
def AttachmentRequest.sample : AttachmentRequest where
  surface := .localRpc
  credentials := .bearer alice
  outside := Outside.honest
  newAttachmentId := "att_1"
  slotExpiry := "2026-01-01T00:30:00Z"
  isExpired _ := false
  lower := id
  decodeDigest _ := none
  encodeDigest := id

namespace AttachmentCall

/-- Alice opens a slot, -/
def sampleCreate : AttachmentCall := .createSlot .sample []

/-- uploads into the one of number `n`, -/
def sampleUpload (n : ℕ) (data : List UInt8) : AttachmentCall :=
  .upload .sample (newId "slot" n) (newId "up" n) data

/-- commits it, -/
def sampleCommit (n : ℕ) : AttachmentCall :=
  .commit .sample
    [("slot_id", .str (newId "slot" n)), ("commit_token", .str (newId "commit" n))]

/-- or aborts it. -/
def sampleAbort (n : ℕ) : AttachmentCall := .abort .sample [("slot_id", .str (newId "slot" n))]

end AttachmentCall

end Awiki
