import AwikiOpenServer.Lib.Text
import AwikiOpenServer.Shared.Errors

/-!
# DID syntax

Who may publish a DID document is decided by the **authority** written inside the DID:
`did_resolution_authority` splits the DID, percent-decodes its authority and path, and refuses
anything a URL could read differently. `didBelongsToDomain` is the one question the rest of the
server asks of it: is this DID one of ours?

Texts are handled as lists of characters, so that every step computes.

**Every refusal is there.** The source refuses an authority with an incomplete percent escape, with
escapes that are no UTF-8, with characters that a URL cannot have or that white space could hide in,
and one that does not survive being put into a URL and read back. Each of these decides whether a
DID is local, and a DID that the server's own registration accepts and this function refuses would
be local in one place and foreign in another. So the decoding is the interpreter's, with its
handling of runs of ASCII and of other characters (`unquote`), and the host is checked as `urlsplit`
and `ipaddress` would (`isUrlAuthority`).

Lowering a text is where a choice was made. `str.lower` is a table of Unicode; what is compared here
is compared with ASCII, and apart from the ASCII letters only the Kelvin sign becomes ASCII when
lowered. `lowerChar` is lowering as far as such a comparison can see it.
-/

namespace Awiki

open Py

/-! ### Splitting and decoding -/

/-- `text.split(sep)` for a one-character separator. -/
def splitChars (sep : Char) : List Char → List (List Char)
  | [] => [[]]
  | c :: cs =>
    if c = sep then [] :: splitChars sep cs
    else
      match splitChars sep cs with
      | [] => [[c]]
      | part :: parts => (c :: part) :: parts

/-- `text.partition(sep)`: before, whether the separator occurs, after. -/
def partitionChars (sep : Char) : List Char → List Char × Bool × List Char
  | [] => ([], false, [])
  | c :: cs =>
    if c = sep then ([], true, cs)
    else
      let r := partitionChars sep cs
      (c :: r.1, r.2.1, r.2.2)

/-- Value of a hexadecimal digit. -/
def hexValue? (c : Char) : Option ℕ :=
  if '0' ≤ c ∧ c ≤ '9' then some (c.toNat - 48)
  else if 'a' ≤ c ∧ c ≤ 'f' then some (c.toNat - 87)
  else if 'A' ≤ c ∧ c ≤ 'F' then some (c.toNat - 55)
  else none

/-- No `%` without two hexadecimal digits after it. -/
def percentsComplete : List Char → Bool
  | [] => true
  | '%' :: a :: b :: cs =>
    (hexValue? a).isSome && (hexValue? b).isSome && percentsComplete (a :: b :: cs)
  | '%' :: _ => false
  | _ :: cs => percentsComplete cs

/-- Bytes of an ASCII run, percent escapes decoded. -/
def unquoteToBytes : List Char → List ℕ
  | [] => []
  | '%' :: a :: b :: cs =>
    match hexValue? a, hexValue? b with
    | some x, some y => (16 * x + y) :: unquoteToBytes cs
    | _, _ => 37 :: unquoteToBytes (a :: b :: cs)
  | c :: cs => c.toNat :: unquoteToBytes cs

/-- A UTF-8 continuation byte. -/
def isContinuation (b : ℕ) : Bool := 0x80 ≤ b && b < 0xc0

/-- `bytes.decode("utf-8", errors="strict")`. -/
def utf8Decode : List ℕ → Option (List Char)
  | [] => some []
  | b₀ :: rest =>
    if b₀ < 0x80 then (utf8Decode rest).map (Char.ofNat b₀ :: ·)
    else
      match rest with
      | [] => none
      | b₁ :: rest₁ =>
        if !isContinuation b₁ then none
        else if 0xc2 ≤ b₀ && b₀ < 0xe0 then
          (utf8Decode rest₁).map (Char.ofNat ((b₀ - 0xc0) * 64 + (b₁ - 0x80)) :: ·)
        else
          match rest₁ with
          | [] => none
          | b₂ :: rest₂ =>
            let n := ((b₀ - 0xe0) * 64 + (b₁ - 0x80)) * 64 + (b₂ - 0x80)
            if !isContinuation b₂ then none
            else if 0xe0 ≤ b₀ && b₀ < 0xf0 then
              if 0x800 ≤ n && !(0xd800 ≤ n && n < 0xe000) then
                (utf8Decode rest₂).map (Char.ofNat n :: ·)
              else none
            else
              match rest₂ with
              | [] => none
              | b₃ :: rest₃ =>
                let m := (((b₀ - 0xf0) * 64 + (b₁ - 0x80)) * 64 + (b₂ - 0x80)) * 64 + (b₃ - 0x80)
                if isContinuation b₃ && 0xf0 ≤ b₀ && 0x10000 ≤ m && m < 0x110000 then
                  (utf8Decode rest₃).map (Char.ofNat m :: ·)
                else none

/-- The maximal runs of ASCII and of non-ASCII characters, with the ASCII ones marked. -/
def asciiRuns : List Char → List (Bool × List Char)
  | [] => []
  | c :: cs =>
    match asciiRuns cs with
    | (ascii, run) :: runs =>
      if ascii = decide (c.toNat < 128) then (ascii, c :: run) :: runs
      else (decide (c.toNat < 128), [c]) :: (ascii, run) :: runs
    | [] => [(decide (c.toNat < 128), [c])]

/-- `urllib.parse.unquote(text, errors="strict")`; `none` is its `UnicodeError`. -/
def unquote (cs : List Char) : Option (List Char) :=
  (asciiRuns cs).foldr
    (fun run acc ↦ do
      let decoded ← if run.1 then utf8Decode (unquoteToBytes run.2) else some run.2
      return decoded ++ (← acc))
    (some [])

/-! ### Authorities -/

/-- A dotted IPv4 address. -/
def isIpv4 (cs : List Char) : Bool :=
  let octets := splitChars '.' cs
  octets.length = 4 && octets.all fun o ↦
    !o.isEmpty && o.length ≤ 3 && o.all Char.isDigit && (o.length = 1 || o.head? ≠ some '0') &&
      match readDigits 0 false o with
      | some n => n ≤ 255
      | none => false

/-- One to four hexadecimal digits. -/
def isHextet (cs : List Char) : Bool :=
  !cs.isEmpty && cs.length ≤ 4 && cs.all fun c ↦ (hexValue? c).isSome

/-- `ipaddress.IPv6Address(text)` accepts the text. -/
def isIpv6 (cs : List Char) : Bool :=
  let raw := splitChars ':' cs
  let dotted := (raw.getLast?.getD []).contains '.'
  let parts := if dotted then raw.dropLast ++ [['0'], ['0']] else raw
  let empties := (List.range parts.length).filter fun i ↦
    0 < i && i + 1 < parts.length && (parts.getD i []).isEmpty
  let headEmpty := (parts.headD []).isEmpty
  let lastEmpty := (parts.getLast?.getD []).isEmpty
  3 ≤ raw.length && (!dotted || isIpv4 (raw.getLast?.getD [])) && parts.length ≤ 9 &&
    match empties with
    | [] => parts.length = 8 && parts.all isHextet
    | [i] =>
      let hi := i - (if headEmpty then 1 else 0)
      let lo := parts.length - i - 1 - (if lastEmpty then 1 else 0)
      (!headEmpty || hi = 0) && (!lastEmpty || lo = 0) && hi + lo ≤ 7 &&
        (parts.take hi).all isHextet && (parts.drop (parts.length - lo)).all isHextet
    | _ => false

/-- A bracketed host: an `IPvFuture` literal or an IPv6 address. -/
def isBracketedHost (cs : List Char) : Bool :=
  match cs with
  | 'v' :: rest =>
    let p := partitionChars '.' rest
    !p.1.isEmpty && p.1.all (fun c ↦ (hexValue? c).isSome) && p.2.1 && !p.2.2.isEmpty
  | _ => isIpv6 cs

/-- `urlsplit("https://" + authority)` has a host name, and its port, if any, is a TCP port. -/
def isUrlAuthority (cs : List Char) : Bool :=
  let bracket := partitionChars '[' cs
  let hostPort :=
    if bracket.2.1 then
      let inner := partitionChars ']' bracket.2.2
      (inner.1, (partitionChars ':' inner.2.2).2.2)
    else
      let plain := partitionChars ':' cs
      (plain.1, plain.2.2)
  let bracketsOk :=
    if bracket.2.1 then
      let inner := partitionChars ']' bracket.2.2
      bracket.1.isEmpty && inner.2.1 && (inner.2.2.isEmpty || inner.2.2.head? = some ':') &&
        isBracketedHost inner.1
    else !cs.contains ']'
  bracketsOk && !hostPort.1.isEmpty &&
    (hostPort.2.isEmpty ||
      hostPort.2.all Char.isDigit &&
        match readDigits 0 false hostPort.2 with
        | some n => 1 ≤ n && n ≤ 65535
        | none => false)

/-- Characters refused in an authority or a path segment: white space and controls. -/
def isUnsafeChar (c : Char) : Bool := isSpace c || c.toNat < 32 || c.toNat = 127

/-- `str.lower` as far as a comparison with ASCII text can see: the ASCII letters, and the Kelvin
sign, the only other character whose lower case is ASCII. -/
def lowerChar (c : Char) : Char := if c = '\u212a' then 'k' else c.toLower

/-- `did_resolution_authority`, on characters. -/
def didResolutionAuthority (did : List Char) : Result (List Char) := do
  require (!did.any isSpace && percentsComplete did) (.invalidParams "invalid_did")
  let parts := splitChars ':' did
  require (3 ≤ parts.length &&
      (parts.take 2 = ["did".toList, "wba".toList] ||
        parts.take 2 = ["did".toList, "web".toList]) &&
      (parts.drop 2).all (fun p ↦ !p.isEmpty))
    (.invalidParams "invalid_did")
  let authority ← orRaise (.invalidParams "invalid_did_authority") (unquote (parts.getD 2 []))
  require (authority.all (fun c ↦ c.toNat < 128 && !"/\\?#@%".toList.contains c && !isUnsafeChar c))
    (.invalidParams "invalid_did_authority")
  require (isUrlAuthority authority) (.invalidParams "invalid_did_authority")
  (parts.drop 3).forM fun part ↦ do
    let value ← orRaise (.invalidParams "invalid_did_path") (unquote part)
    require (value ≠ ['.'] && value ≠ ['.', '.'] &&
        value.all (fun c ↦ !"/\\?#%".toList.contains c && !isUnsafeChar c))
      (.invalidParams "invalid_did_path")
  return authority.map lowerChar

/-- `text.startswith(head)`. -/
def startsWith (head : String) (text : String) : Bool := head.toList.isPrefixOf text.toList

/-- `_did_belongs_to_domain`: resolution of remote Web DIDs does not grant local ownership. -/
def didBelongsToDomain (did domain : String) : Bool :=
  startsWith "did:wba:" did &&
    match didResolutionAuthority did.toList with
    | .ok authority => authority = domain.toList.map lowerChar
    | .error _ => false

example : didBelongsToDomain "did:wba:a.test:user:bob:e1_x" "A.test" = true := by decide +kernel

example : didBelongsToDomain "did:wba:a.test%3A8080:user" "a.test:8080" = true := by decide +kernel

example : didBelongsToDomain "did:web:a.test:user" "a.test" = false := by decide +kernel

end Awiki
