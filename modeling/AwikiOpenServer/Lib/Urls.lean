import AwikiOpenServer.Lib.Text

/-!
# URLs as a dynamic language splits them

`urlsplit` takes a URL apart by position, without judging what it finds: the scheme ends at the
first colon, the authority at the next slash, question mark or hash, and so on. What is put together
again is therefore not always what was taken apart, and a caller that compares parts compares what
this function makes of a text, not what the text means.

Two checks of the authority, of an IPv6 address in brackets and of characters that normalize to a
delimiter, are a parameter (`isAuthority`). They decide between an answer and a `ValueError` and
nothing else, so whatever is proved of the parts holds for every choice of them.

**What is kept of the original order.** Control characters and blanks are stripped from the front,
tabs and line breaks are removed everywhere, and only then is anything looked for; the scheme is
lowered, the rest is not. `parsedPath` is `urlparse(url).path`, which differs from the path of
`urlsplit` for the schemes that allow parameters behind a semicolon.

No lemma stands here. The functions are executable, and what is built on them reads one path off a
URL that a client sent: the proofs are about what is done with the path, for every way of reading
it.
-/

namespace Py.Url

/-- The parts of a URL. -/
structure SplitResult where
  scheme : String
  netloc : String
  path : String
  query : String
  fragment : String
  deriving DecidableEq

/-- The characters of a scheme. -/
def isSchemeChar (c : Char) : Bool := c.isAlphanum || c = '+' || c = '-' || c = '.'

/-- What is taken off the front of a URL. -/
def isControlOrSpace (c : Char) : Bool := decide (c.toNat ≤ 32)

/-- The characters removed wherever they are. -/
def isUnsafe (c : Char) : Bool := c = '\t' || c = '\r' || c = '\n'

/-- The text before the first character that ends a part, and the rest from it on. -/
def cut (ends : Char → Bool) (cs : List Char) : List Char × List Char :=
  (cs.takeWhile fun c ↦ !ends c, cs.dropWhile fun c ↦ !ends c)

/-- The text before the first mark and the text after it. -/
def cutAfter (mark : Char) (cs : List Char) : List Char × List Char :=
  let (before, rest) := cut (· = mark) cs
  (before, rest.drop 1)

/-- The scheme, in lower case, and what follows its colon. -/
def splitScheme (cs : List Char) : List Char × List Char :=
  let (before, rest) := cut (· = ':') cs
  if !rest.isEmpty && before.all isSchemeChar && (before.head?.any Char.isAlpha) then
    (before.map Char.toLower, rest.drop 1)
  else ([], cs)

/-- The authority between two slashes and the next part. -/
def splitNetloc : List Char → List Char × List Char
  | '/' :: '/' :: rest => cut (fun c ↦ c = '/' || c = '?' || c = '#') rest
  | cs => ([], cs)

/-- The brackets of an authority come in pairs. -/
def bracketsMatch (netloc : List Char) : Bool := netloc.contains '[' == netloc.contains ']'

/-- `urlsplit`; `none` is its `ValueError`. -/
def urlsplit (isAuthority : String → Bool) (url : String) : Option SplitResult := do
  let cleaned := (url.toList.dropWhile isControlOrSpace).filter fun c ↦ !isUnsafe c
  let (scheme, rest) := splitScheme cleaned
  let (netloc, rest) := splitNetloc rest
  guard (bracketsMatch netloc && isAuthority (String.ofList netloc))
  let (rest, fragment) := cutAfter '#' rest
  let (path, query) := cutAfter '?' rest
  return ⟨String.ofList scheme, String.ofList netloc, String.ofList path, String.ofList query,
    String.ofList fragment⟩

/-- The schemes whose last path segment may have parameters. -/
def usesParams : List String :=
  ["", "ftp", "hdl", "prospero", "http", "https", "shttp", "rtsp", "rtsps", "rtspu", "sip", "sips",
    "mms", "sftp", "tel"]

/-- The path without the parameters of its last segment. -/
def withoutParams (path : List Char) : List Char :=
  let last := (path.reverse.takeWhile (· ≠ '/')).reverse
  path.take (path.length - last.length) ++ last.takeWhile (· ≠ ';')

/-- `urlparse(url).path`. -/
def parsedPath (isAuthority : String → Bool) (url : String) : Option String :=
  (urlsplit isAuthority url).map fun parts ↦
    if usesParams.contains parts.scheme then String.ofList (withoutParams parts.path.toList)
    else parts.path

end Py.Url
