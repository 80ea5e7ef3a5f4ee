import Mathlib.Algebra.BigOperators.Ring.Finset
import RequestFilter.Proofs.Engine
import RequestFilter.Proofs.Outcomes

/-!
# How much a search evaluates

A search holds patterns against a request, one after the other: first those that own a window of the
URL, each of them once, and then those that the pattern map points at. Where none confirms a block,
all of them were tried.

* `RuleIndex.owners`: the patterns that own a window of a URL, in the order in which they are met;
  `Matcher.search_eq`: **a search tries the owners and then the pattern map**;
* `Pattern.trials`: what it takes to reject a request; `check_of_rejected`;
* `Matcher.evaluations_of_not_found`: where nothing is found, the trials add up;
* `Matcher.evaluations_of_passed`: **a request that passes costs the trials of all distinct owners
  and of all entries of the pattern map**, in whatever order the map is scanned.

NOT here: what a request costs that is blocked, which does depend on the order.
-/

namespace RequestFilter

/-! ## 1. The patterns that are tried -/

namespace RuleIndex

/-- The positions of the patterns that own a window of a URL, each once, in the order of the
    windows. -/
def owners (I : RuleIndex) (url : Text) : List PatternId :=
  ((Signature.windows (Glob.normalizeUrl url)).filterMap I.signature).eraseDups

theorem nodup_owners (I : RuleIndex) (url : Text) : (I.owners url).Nodup := nodup_eraseDups _

theorem mem_owners {I : RuleIndex} {url : Text} {id : PatternId} : id ∈ I.owners url ↔
    ∃ w ∈ Signature.windows (Glob.normalizeUrl url), I.signature w = some id := by
  simp [owners, List.mem_eraseDups, List.mem_filterMap]

end RuleIndex

namespace Matcher

section Search

variable {I : RuleIndex} {url : Text} {page : Option Text}

/-- **The scan by signatures tries the owners of the windows, each once.** -/
theorem bySignature_eq (rejected : List PatternId) (windows : List Text) :
    bySignature I url page rejected windows = byPatternMap I url page
      ((windows.filterMap I.signature).filter (· ∉ rejected)).eraseDups := by
  induction windows generalizing rejected with
  | nil => rfl
  | cons w windows ih =>
    rw [bySignature, List.filterMap_cons]
    cases hw : I.signature w with
    | none => exact ih rejected
    | some id =>
      by_cases hmem : id ∈ rejected
      · simp only [hmem, if_true, List.filter_cons, not_true_eq_false, decide_false,
          Bool.false_eq_true, if_false]
        exact ih rejected
      · -- behind this owner the scan passes over it, as over those rejected before
        have hrest : ((windows.filterMap I.signature).filter (· ∉ rejected)).filter
            (fun other => !other == id) =
              (windows.filterMap I.signature).filter (· ∉ id :: rejected) := by
          rw [List.filter_filter]
          refine List.filter_congr fun other _ => ?_
          by_cases hother : other = id <;> simp [hother]
        simp only [hmem, if_false, List.filter_cons, not_false_eq_true, decide_true, if_true,
          List.eraseDups_cons, byPatternMap, hrest, ih (id :: rejected)]

/-- What is scanned in two parts is scanned in one. -/
theorem byPatternMap_append (ids later : List PatternId) :
    byPatternMap I url page (ids ++ later) =
      match (byPatternMap I url page ids).found with
      | some _ => byPatternMap I url page ids
      | none => (byPatternMap I url page later).after (byPatternMap I url page ids).evaluations := by
  induction ids with
  | nil => simp [byPatternMap, Search.after]
  | cons id ids ih =>
    rw [List.cons_append, byPatternMap, byPatternMap]
    cases I.pattern id with
    | none => exact ih
    | some p =>
      cases hc : (check p url page).1 with
      | true => simp [hc]
      | false =>
        simp only [hc, Bool.false_eq_true, if_false, ih]
        cases hfound : (byPatternMap I url page ids).found with
        | some q => simp [Search.after, hfound]
        | none => simp [Search.after, hfound, Nat.add_assoc]

/-- **A search tries the owners of the windows and then the pattern map.** -/
theorem search_eq (order : List PatternId) :
    search I order url page = byPatternMap I url page (I.owners url ++ order) := by
  have howners : bySignature I url page [] (Signature.windows (Glob.normalizeUrl url)) =
      byPatternMap I url page (I.owners url) := by
    rw [bySignature_eq, RuleIndex.owners]
    simp
  cases hfound : (byPatternMap I url page (I.owners url)).found <;>
    simp only [search, byPatternMap_append, howners, hfound]

end Search

end Matcher

/-! ## 2. Trials -/

/-- The evaluations that it takes a pattern to reject a request for a URL: one on the URL, and a
    second one on the page if the URL matches. -/
def Pattern.trials (p : Pattern) (url : Text) : Nat := 1 + if p.matchesIn url then 1 else 0

/-- The trials of the pattern at a position. -/
def RuleIndex.trials (I : RuleIndex) (url : Text) (id : PatternId) : Nat :=
  ((I.pattern id).map (·.trials url)).getD 0

theorem RuleIndex.trials_of_pattern {I : RuleIndex} {id : PatternId} {p : Pattern}
    (h : I.pattern id = some p) (url : Text) : I.trials url id = p.trials url := by
  rw [trials, h]
  rfl

namespace Matcher

section Trials

variable {I : RuleIndex} {url : Text} {page : Option Text}

/-- A pattern that matches the URL is rejected for the page, which was looked at as well. -/
theorem check_of_rejected {p : Pattern} (h : (check p url page).1 = false) :
    (check p url page).2 = p.trials url := by
  unfold check Pattern.trials at *
  cases hmatch : p.matchesIn url with
  | false => rfl
  | true =>
    rw [hmatch] at h
    cases page with
    | none => cases h
    | some site =>
      cases hthird : p.isThirdParty with
      | true => rfl
      | false => simp [hthird] at h

/-- **Where nothing is found all trials were made.** -/
theorem evaluations_of_not_found {ids : List PatternId}
    (h : (byPatternMap I url page ids).found = none) :
    (byPatternMap I url page ids).evaluations = (ids.map (I.trials url)).sum := by
  induction ids with
  | nil => rfl
  | cons id ids ih =>
    rw [byPatternMap] at h ⊢
    rw [List.map_cons, List.sum_cons]
    cases hp : I.pattern id with
    | none =>
      simp only [hp] at h ⊢
      rw [ih h, RuleIndex.trials, hp]
      exact (Nat.zero_add _).symm
    | some p =>
      simp only [hp] at h ⊢
      cases hc : (check p url page).1 with
      | true => simp [hc] at h
      | false =>
        simp only [hc, Bool.false_eq_true, if_false, Search.after] at h ⊢
        rw [ih h, check_of_rejected hc, RuleIndex.trials_of_pattern hp]

end Trials

/-! ## 3. Requests that pass -/

/-- **What a request costs that passes.** In whatever order the pattern map is scanned, a request
    that is looked up for the first time and passes has cost the trials of all distinct patterns that
    own a window of its URL, and of all entries of the pattern map: one evaluation each, and a second
    one for each whose expression matches the URL. The owners of windows were tried before the
    pattern map, and none of them twice. -/
theorem evaluations_of_passed {I : RuleIndex} (hI : I.Reachable) {order : List PatternId}
    (horder : order.Perm I.fullPatternIds) {memory : Memory} {r : Request}
    (hdoc : r.type ≠ .document) (hne : r.url ≠ []) (hmiss : memory.cache[r.url]? = none)
    (hpass : (queryInOrder I order memory r).1.blocked = false) :
    let owners := ((Signature.windows (Glob.normalizeUrl r.url)).filterMap I.signature).toFinset
    (queryInOrder I order memory r).2.stats.regexEvaluations =
      memory.stats.regexEvaluations + (∑ id ∈ owners, I.trials r.url id) +
        (I.fullPatternIds.map (I.trials r.url)).sum ∧
    (∀ id, id ∈ owners ∨ id ∈ I.fullPatternIds →
      ∃ p, I.pattern id = some p ∧ I.trials r.url id = 1 + if p.matchesIn r.url then 1 else 0) ∧
    ∃ tried : List PatternId, tried.Nodup ∧ tried.toFinset = owners ∧
      search I order r.url r.page = byPatternMap I r.url r.page (tried ++ order) := by
  intro owners
  have hlook : r.isLookedUp = true := decide_eq_true ⟨hdoc, hne⟩
  have howners : (I.owners r.url).toFinset = owners := by
    ext id
    simp [RuleIndex.mem_owners, owners]
  have hnone : (search I order r.url r.page).found = none := by
    unfold queryInOrder at hpass
    simpa [hdoc, hne, hmiss] using hpass
  have hcost : (queryInOrder I order memory r).2.stats.regexEvaluations =
      memory.stats.regexEvaluations + (search I order r.url r.page).evaluations := by
    rw [queryInOrder_of_miss hlook hmiss]
  refine ⟨?_, fun id hid => ?_, I.owners r.url, I.nodup_owners r.url, howners, search_eq order⟩
  · rw [search_eq] at hnone hcost
    rw [hcost, evaluations_of_not_found hnone, List.map_append, List.sum_append, ← howners,
      List.sum_toFinset _ (I.nodup_owners r.url), (horder.map _).sum_eq, Nat.add_assoc]
  · have hlt : id < I.patterns.size := by
      rcases hid with hid | hid
      · rw [← howners, List.mem_toFinset, RuleIndex.mem_owners] at hid
        obtain ⟨w, -, hw⟩ := hid
        exact hI.wellFormed.signature w id hw
      · obtain ⟨k, hk⟩ := RuleIndex.mem_fullPatternIds.mp hid
        exact hI.wellFormed.fullPattern k id hk
    have hp : I.pattern id = some I.patterns[id] := Array.getElem?_eq_getElem hlt
    exact ⟨_, hp, RuleIndex.trials_of_pattern hp r.url⟩

/-- A rule that gets a window and a key, one for third parties that gets all other windows of the
    site, and a short one. -/
def costlyList : Text := "zz*server.e\n||adserver.example$third-party\n/zz/\n".toList

/-- A request of the site itself. -/
def costlyRequest : Request :=
  ⟨"http://adserver.example/x".toList, some "http://adserver.example/".toList, .script⟩

/-- The first rule is tried by its window and by its key, the second one on the request and on the
    page, although nine windows lead to these two, and the short one once. -/
theorem evaluations_of_passed_costly :
    let I := (({} : RuleSet).load 2000 costlyList).rules.index
    let owners :=
      ((Signature.windows (Glob.normalizeUrl costlyRequest.url)).filterMap I.signature).toFinset
    I.Reachable ∧ I.fullPatternIds.reverse.Perm I.fullPatternIds ∧
    costlyRequest.type ≠ .document ∧ costlyRequest.url ≠ [] ∧
    (queryInOrder I I.fullPatternIds.reverse {} costlyRequest).1.blocked = false ∧
    (queryInOrder I I.fullPatternIds.reverse {} costlyRequest).2.stats.regexEvaluations = 5 ∧
    (∑ id ∈ owners, I.trials costlyRequest.url id) +
      (I.fullPatternIds.map (I.trials costlyRequest.url)).sum = 5 := by
  intro I owners
  have hreachable : I.Reachable := .list (s := {}) .refl 2000 costlyList
  have horder := I.fullPatternIds.reverse_perm
  have hpass : (queryInOrder I I.fullPatternIds.reverse {} costlyRequest).1.blocked = false := by
    decide +kernel
  have hcount : (queryInOrder I I.fullPatternIds.reverse {}
      costlyRequest).2.stats.regexEvaluations = 5 := by
    decide +kernel
  have hsum := (evaluations_of_passed hreachable horder (by decide) (by decide) (by simp) hpass).1
  rw [hcount] at hsum
  exact ⟨hreachable, horder, by decide, by decide, hpass, hcount, by simpa using hsum.symm⟩

end Matcher

end RequestFilter
