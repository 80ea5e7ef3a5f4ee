import RequestFilter.Text.Basic
import Std.Data.TreeMap.Lemmas

/-!
# Maps from texts

Signatures, pattern keys, cached decisions and domains are looked up by text.

* `TextMap` keeps its keys in ascending order, each once;
* `TextMap.mem_toList` ties the list of its entries to the look-up `m[key]?`.
-/

namespace RequestFilter

/-- A map whose keys are texts, in ascending order. -/
abbrev TextMap (α : Type) := Std.TreeMap Text α

namespace TextMap

variable {α : Type}

/-- The entries are the keys with their values. -/
theorem mem_toList {m : TextMap α} {key : Text} {value : α} :
    (key, value) ∈ m.toList ↔ m[key]? = some value :=
  Std.TreeMap.mem_toList_iff_getElem?_eq_some

/-- After a registration a key has its old value, or else the new one. -/
theorem getElem?_insertIfNew (m : TextMap α) (key k : Text) (value : α) :
    (m.insertIfNew key value)[k]? = m[k]?.or (if key = k then some value else none) := by
  simp only [Std.TreeMap.getElem?_insertIfNew, Std.LawfulEqCmp.compare_eq_iff_eq]
  by_cases h : key = k
  · subst h
    by_cases hm : key ∈ m
    · simp [hm]
    · simp [hm]
  · simp [h]

end TextMap

end RequestFilter
