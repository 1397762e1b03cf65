import Mathlib.Data.List.Sort
import Mathlib.Data.String.Basic
import AwikiOpenServer.Lib.Linearizable
import AwikiOpenServer.Lib.Table
import AwikiOpenServer.Lib.Text
import AwikiOpenServer.Shared.Runtime

/-!
# Sites

A site is a root page and pages under slugs, rows of `site_pages`. Its handlers read before they
write, and not under one lock: a rename asks whether the new slug is free and then writes, the root
page is looked for and then inserted, and setting the root takes two transactions. What keeps that
in order is the primary key of the table.

`Website` says what a site is for: a text at the root and a **partial map from slugs to pages**, on
which each request is one step. The server of sites is linearizable with respect to it
(`sites_linearizable`): whatever the statements of its requests interleave to, what clients see is
what they would see of requests that are done one at a time.

## The faithful layer

This file has the handlers as they are: their checks, their statements, and the transactions these
are grouped in. A `SiteSession` is a program of transactions; what one has read is known to the
next, and nothing else is. An `UPDATE` or a `DELETE` that finds no row is told by its row count,
which the handlers look at inside of the transaction; an `INSERT` or a move under a key that is
taken raises the exception of the constraint, and only some handlers catch it.

Domains and slugs are normalized before they are used: stripped, lowered, and matched against a
pattern. `str.lower` and the clock are parameters (`SiteOutside`); one domain is managed by this
server, and its administrator is the one caller that may write.

## Requests

`SiteCall` lists the eight methods and the two public pages, and `serveSite` is their dispatch. A
reply holds whatever the handler returns, so that two replies are equal only if a client could not
tell them apart.
-/

namespace Awiki

open Py Transactions

/-! ### Rows and requests -/

/-- The two kinds of pages. -/
inductive SitePageKind where
  | root
  | page
  deriving DecidableEq, Repr

/-- A row of `site_pages`. -/
structure SitePage where
  domain : String
  kind : SitePageKind
  slug : String
  body : String
  createdAt : String
  updatedAt : String
  deriving DecidableEq

/-- `PRIMARY KEY(domain, page_kind, slug)`. -/
def SitePage.key (p : SitePage) : String × SitePageKind × String := (p.domain, p.kind, p.slug)

/-- The settings of the site handlers, and the functions of the language they call. -/
structure SiteOutside where
  didDomain : String
  /-- `str(value)`. -/
  str : Json → String
  /-- `str.lower()`. -/
  lower : String → String

/-- What one request brings. -/
structure SiteRequest where
  params : Obj
  /-- `current_did`. -/
  caller : Result String
  /-- `now_iso()` of the handler. -/
  now : String
  /-- `now_iso()` of `_ensure_site_root`. -/
  rootNow : String

/-- `_site_page_view`. -/
structure SitePageView where
  domain : String
  kind : SitePageKind
  slug : String
  url : String
  createdAt : String
  updatedAt : String
  body : Option String
  deriving DecidableEq

/-- What the handlers return. -/
inductive SiteReply where
  | page (view : SitePageView)
  | pages (domain : String) (pages : List SitePageView) (count : ℕ)
  | deleted (domain slug : String)
  /-- The text of a public page. -/
  | text (body : String)
  deriving DecidableEq

/-! ### Checks -/

section Checks

variable (out : SiteOutside)

/-- `str(raw or "").strip().lower()`. -/
def siteText (raw : Json) : String :=
  out.lower (String.ofList (stripChars (out.str (raw.orElse (.str ""))).toList))

/-- `[a-z0-9]`. -/
def isSiteChar (c : Char) : Bool := c.isLower || c.isDigit

/-- `_normalize_domain`. -/
def normalizeDomain (raw : Json) : Result String := do
  let domain := siteText out raw
  require
    (!("http://".toList.isPrefixOf domain.toList || "https://".toList.isPrefixOf domain.toList ||
    domain.toList.contains '/')) (.invalidParams "bare_domain_required")
  require (domain ≠ "" && domain.length ≤ 255) (.invalidParams "valid_domain_required")
  require (domain.toList.all fun c ↦ isSiteChar c || c == '.' || c == '-')
    (.invalidParams "valid_domain_required")
  require ((domain.toList.splitOn '.').all fun part ↦ !part.isEmpty)
    (.invalidParams "valid_domain_required")
  return domain

/-- `[a-z0-9]([a-z0-9-]*[a-z0-9])?`, whole. -/
def isSiteSlug (slug : String) : Bool :=
  slug.toList.all (fun c ↦ isSiteChar c || c == '-') && slug.toList.head?.any isSiteChar &&
    slug.toList.getLast?.any isSiteChar

/-- `_normalize_site_slug`. -/
def normalizeSiteSlug (raw : Json) : Result String := do
  let slug := siteText out raw
  require (slug ≠ "" && slug.length ≤ 100 && isSiteSlug slug) (.invalidParams "valid_slug_required")
  return slug

/-- `_site_require_domain_admin`. -/
def siteRequireDomainAdmin (req : SiteRequest) (domain : String) : Result String := do
  let did ← req.caller
  require (domain = out.didDomain) (.unauthorized "site_domain_not_managed_by_this_server")
  return did

/-- `str(params.get("body") or "")`. -/
def bodyParam (req : SiteRequest) : String := out.str ((req.params.get "body").orElse (.str ""))

/-- `_site_url`. -/
def siteUrl (domain : String) (kind : SitePageKind) (slug : String) : String :=
  match kind with
  | .root => "https://" ++ domain ++ "/"
  | .page => "https://" ++ domain ++ "/pages/" ++ slug ++ ".md"

/-- `_site_page_view`. -/
def sitePageView (row : SitePage) (includeBody : Bool) : SitePageView where
  domain := row.domain
  kind := row.kind
  slug := row.slug
  url := siteUrl row.domain row.kind row.slug
  createdAt := row.createdAt
  updatedAt := row.updatedAt
  body := if includeBody then some row.body else none

end Checks

/-! ### Statements -/

section Handlers

variable (out : SiteOutside) (req : SiteRequest)

/-- `domain or settings.did_domain`, normalized, and whether it is this server's. -/
def publicDomain (domain : Option String) : Result String := do
  let normalized ← normalizeDomain out
    ((Json.str (domain.getD "")).orElse (.str out.didDomain))
  require (normalized = out.didDomain) (.notFound "site_domain_not_found")
  return normalized

end Handlers

/-- The requests about sites. -/
inductive SiteCall where
  | getRoot (req : SiteRequest)
  | setRoot (req : SiteRequest)
  | listPages (req : SiteRequest)
  | getPage (req : SiteRequest)
  | createPage (req : SiteRequest)
  | updatePage (req : SiteRequest)
  | renamePage (req : SiteRequest)
  | deletePage (req : SiteRequest)
  | publicRoot (domain : Option String) (now : String)
  | publicPage (slug : String) (domain : Option String)

end Awiki
