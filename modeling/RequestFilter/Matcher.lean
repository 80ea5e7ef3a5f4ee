import RequestFilter.DecisionCache
import RequestFilter.Glob
import RequestFilter.ResourceType
import RequestFilter.RuleIndex
import RequestFilter.Signature

/-!
# Deciding a request

A request is looked up in the cache first, then by the signatures of its URL, and only then against
every entry of the pattern map.

* `Matcher.check` holds one pattern against a request;
* `Matcher.bySignature` and `Matcher.byPatternMap` are the two searches, each with the number of
  regular expressions it evaluated;
* `Matcher.query` answers a request and updates cache and counters. It scans the pattern map in the
  order of its entries; `Matcher.queryInOrder` takes the order as an argument.
-/

namespace RequestFilter

/-- Counters of what the matcher did. -/
structure MatchStats where
  /-- Requests that got as far as the cache. -/
  queries : Nat := 0
  /-- Requests that the cache answered. -/
  cacheHits : Nat := 0
  /-- Evaluations of a regular expression, on a request URL or a page URL. -/
  regexEvaluations : Nat := 0
  deriving Repr, DecidableEq

/-- A request: its URL, the URL of the page that makes it, if known, and what it asks for. -/
structure Request where
  url : Text
  page : Option Text
  type : ResourceType
  deriving Repr, DecidableEq

/-- An answer: whether the request is blocked and, unless the cache knew, by which pattern. -/
structure Decision where
  blocked : Bool
  rule : Option Pattern
  deriving Repr, DecidableEq

/-- What is reported about a decision on a URL: the pattern that confirmed the block. -/
def Decision.report (d : Decision) (url : Text) : Option Text :=
  d.rule.map fun p => "blocked ".toList ++ url ++ " by '".toList ++ p.raw ++ "'".toList

namespace Matcher

/-! ## 1. One pattern -/

/-- Whether a pattern confirms a block, and how many evaluations that took. The pattern has to match
    the request URL and, if it is for third parties and the page is known, not the page URL. -/
def check (p : Pattern) (url : Text) (page : Option Text) : Bool × Nat :=
  if p.matchesIn url then
    match page with
    | some site => if p.isThirdParty then (!p.matchesIn site, 2) else (true, 1)
    | none => (true, 1)
  else (false, 1)

/-! ## 2. The two searches -/

/-- What a search came to: the pattern that confirmed the block, if any, and the number of
    evaluations. -/
structure Search where
  found : Option Pattern
  evaluations : Nat
  deriving Repr, DecidableEq

/-- The search that evaluated `n` regular expressions before this one. -/
def Search.after (n : Nat) (s : Search) : Search := { s with evaluations := n + s.evaluations }

/-- Follows the windows of a URL to the patterns that registered them. A pattern that was rejected
    once is passed over. -/
def bySignature (index : RuleIndex) (url : Text) (page : Option Text) :
    List PatternId → List Text → Search
  | _, [] => ⟨none, 0⟩
  | rejected, window :: windows =>
    match index.signature window with
    | none => bySignature index url page rejected windows
    | some id =>
      if id ∈ rejected then bySignature index url page rejected windows
      else match index.pattern id with
        | none => bySignature index url page (id :: rejected) windows
        | some p =>
          let (confirmed, n) := check p url page
          if confirmed then ⟨some p, n⟩
          else (bySignature index url page (id :: rejected) windows).after n

/-- Holds patterns against a request, one after the other, until one confirms the block. -/
def byPatternMap (index : RuleIndex) (url : Text) (page : Option Text) : List PatternId → Search
  | [] => ⟨none, 0⟩
  | id :: ids =>
    match index.pattern id with
    | none => byPatternMap index url page ids
    | some p =>
      let (confirmed, n) := check p url page
      if confirmed then ⟨some p, n⟩ else (byPatternMap index url page ids).after n

/-- Both searches: the pattern map is scanned only if no signature led to a block. The URL is cut
    into windows in its transliterated form, and matched as it is. -/
def search (index : RuleIndex) (order : List PatternId) (url : Text) (page : Option Text) : Search :=
  let first := bySignature index url page [] (Signature.windows (Glob.normalizeUrl url))
  match first.found with
  | some _ => first
  | none => (byPatternMap index url page order).after first.evaluations

/-! ## 3. Queries -/

/-- What the matcher carries from one query to the next. -/
structure Memory where
  cache : DecisionCache := {}
  stats : MatchStats := {}

/-- Answers a request, scanning the pattern map in the given order. Documents and empty URLs pass
    without leaving a trace. -/
def queryInOrder (index : RuleIndex) (order : List PatternId) (memory : Memory) (r : Request) :
    Decision × Memory :=
  if r.type = .document ∨ r.url = [] then (⟨false, none⟩, memory)
  else
    let stats := { memory.stats with queries := memory.stats.queries + 1 }
    match memory.cache[r.url]? with
    | some blocked =>
      (⟨blocked, none⟩, { memory with stats := { stats with cacheHits := stats.cacheHits + 1 } })
    | none =>
      let result := search index order r.url r.page
      let blocked := result.found.isSome
      (⟨blocked, result.found⟩,
        { cache := memory.cache.remember r.url blocked
          stats := { stats with
            regexEvaluations := stats.regexEvaluations + result.evaluations } })

/-- Answers a request. -/
def query (index : RuleIndex) (memory : Memory) (r : Request) : Decision × Memory :=
  queryInOrder index index.fullPatternIds memory r

end Matcher

end RequestFilter
