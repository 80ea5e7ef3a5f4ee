import RequestFilter.TextMap
import RequestFilter.Unicode.Blank

/-!
# Element hiding

Selectors of page elements to hide, for every site or for single domains. They are checked and
collected; no request is decided by them.

* `ElementHiding.isValidSelector` says which selectors are accepted;
* `ElementHiding.addGeneric?` and `ElementHiding.addPerDomain?` take in a selector or refuse it;
* `ElementHiding.cssFor` joins what applies to a domain.
-/

namespace RequestFilter

/-- The selectors for every site, and those for single domains, oldest first. -/
structure ElementHiding where
  generic : List Text := []
  perDomain : TextMap (List Text) := {}

namespace ElementHiding

/-! ## 1. Selectors -/

/-- The text from the first occurrence of a character on, that character included. -/
def fromFirst (c : Char) (t : Text) : Text := t.dropWhile (· != c)

/-- Behind the first opening bracket comes a colon, and behind the first such colon a closing
    bracket. -/
def hasBracketedColon (selector : Text) : Bool :=
  (fromFirst ':' (fromFirst '[' selector)).contains ']'

/-- A selector is accepted if it has no single quote and, where it has a colon, one between
    brackets: this shuts out pseudo-classes and texts that look like scripts. -/
def isValidSelector (selector : Text) : Bool :=
  !selector.contains '\'' && (!selector.contains ':' || hasBracketedColon selector)

/-! ## 2. Additions -/

/-- Adds a selector for every site; none if it is refused. -/
def addGeneric? (h : ElementHiding) (selector : Text) : Option ElementHiding :=
  if isValidSelector selector then some { h with generic := h.generic ++ [selector] } else none

/-- Adds a selector for one domain. -/
def addFor (h : ElementHiding) (selector domain : Text) : ElementHiding :=
  let selectors := h.perDomain[domain]?.getD []
  { h with perDomain := h.perDomain.insert domain (selectors ++ [selector]) }

/-- An item of a domain list that is meant for one browser only. -/
def browserMark : Text := "~pregecko2".toList

/-- The domains of a comma-separated list. A leading `~` is dropped, and so are empty items. -/
def domains (list : Text) : List Text :=
  ((Text.splitOn ',' list).filter (· != browserMark)).filterMap fun item =>
    let domain := Text.trim ((Text.dropStart? ['~'] item).getD item)
    if domain.isEmpty then none else some domain

/-- Adds the selector behind the separator for each domain in front of it; none if the line has no
    separator or the selector is refused. -/
def addPerDomain? (h : ElementHiding) (line separator : Text) : Option ElementHiding :=
  (Text.splitOnce separator line).bind fun (list, selector) =>
    if selector.isEmpty || !isValidSelector selector then none
    else some ((domains list).foldl (addFor · selector ·) h)

/-! ## 3. What applies -/

/-- What stands between two selectors. -/
def separator : Text := " , ".toList

/-- The selectors that apply to a domain, those for every site first. -/
def cssFor (h : ElementHiding) (domain : Text) : Text :=
  Text.join separator (h.generic ++ h.perDomain[domain]?.getD [])

/-- The number of selectors for every site. -/
def genericCount (h : ElementHiding) : Nat := h.generic.length

/-- The number of domains with selectors of their own. -/
def domainCount (h : ElementHiding) : Nat := h.perDomain.size

/-- No selector was taken in. -/
def isEmpty (h : ElementHiding) : Bool := h.generic.isEmpty && h.perDomain.isEmpty

end ElementHiding

end RequestFilter
