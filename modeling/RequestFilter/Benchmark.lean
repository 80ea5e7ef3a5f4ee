import RequestFilter.Matcher

/-!
# Benchmark

The same requests are put to a matcher many times, first with an empty cache for each pass, then
with one cache for all passes.

* `Benchmark.requests` are the requests of a run;
* `Benchmark.pass` puts all of them once, `Benchmark.run` puts them in both ways and counts.
-/

namespace RequestFilter

namespace Benchmark

/-- The page that makes every request. -/
def page : Text := "https://page.example.com/".toList

/-- A request made by that page. -/
def request (url : Text) (type : ResourceType) : Request := ⟨url, some page, type⟩

/-- The requests that are put if none are given. -/
def samples : List Request :=
  [request "http://ads.example.com/banner.js".toList .script,
   request "https://cdn.example.org/app.js".toList .script,
   request "https://static.example.net/img/logo.png".toList .image,
   request "http://tracker.example.net/pixel.gif?id=42".toList .image,
   request "https://news.example.org/style.css".toList .stylesheet,
   request "https://api.example.com/v1/items?page=3".toList .xmlHttpRequest]

/-- The requests for the given URLs. -/
def requests (urls : List Text) : List Request :=
  if urls.isEmpty then samples else urls.map (request · .other)

/-- Puts requests one after the other: the number of those blocked, and the memory after them. -/
def pass (index : RuleIndex) : Matcher.Memory → List Request → Nat × Matcher.Memory
  | memory, [] => (0, memory)
  | memory, r :: rest =>
    let (decision, next) := Matcher.query index memory r
    let (blocked, last) := pass index next rest
    ((if decision.blocked then 1 else 0) + blocked, last)

/-- Passes that start with an empty cache each. -/
def coldPasses (index : RuleIndex) (rs : List Request) : Nat → MatchStats → Nat × MatchStats
  | 0, stats => (0, stats)
  | n + 1, stats =>
    let (blocked, memory) := pass index { stats := stats } rs
    let (more, last) := coldPasses index rs n memory.stats
    (blocked + more, last)

/-- Passes that share a cache. -/
def cachedPasses (index : RuleIndex) (rs : List Request) : Nat → Matcher.Memory → Matcher.Memory
  | 0, memory => memory
  | n + 1, memory => cachedPasses index rs n (pass index memory rs).2

/-- What a run counted: the requests put in each of the two ways, how many of them were blocked, and
    the counters of the matcher over both ways. -/
structure Result where
  queries : Nat
  blocked : Nat
  stats : MatchStats
  deriving Repr, DecidableEq

/-- Puts requests for so many passes, at least one, in both ways. -/
def run (index : RuleIndex) (iterations : Nat) (rs : List Request) : Result :=
  let passes := max iterations 1
  let (blocked, stats) := coldPasses index rs passes {}
  let memory := cachedPasses index rs passes { stats := stats }
  ⟨passes * rs.length, blocked, memory.stats⟩

end Benchmark

end RequestFilter
