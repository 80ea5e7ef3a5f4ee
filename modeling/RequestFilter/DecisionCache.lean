import RequestFilter.TextMap

/-!
# The decision cache

What was decided for a request URL is remembered by the URL alone.

* `DecisionCache` maps URLs to decisions: `cache[url]?` looks one up, and `DecisionCache.remember`
  takes one in.
-/

namespace RequestFilter

/-- Request URLs with the decision taken on each: `true` for blocked. -/
abbrev DecisionCache := TextMap Bool

namespace DecisionCache

/-- Remembers a decision in place of any earlier one. -/
def remember (cache : DecisionCache) (url : Text) (blocked : Bool) : DecisionCache :=
  cache.insert url blocked

end DecisionCache

end RequestFilter
