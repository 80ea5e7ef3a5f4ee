import RequestFilter.Proofs.DomainLists
import RequestFilter.Proofs.IdleLines

/-!
# What is hidden for a domain

Selectors are collected line by line, over as many lists as are loaded, into one list for every site
and one for each domain. What is hidden for a domain in the end can be told from the lines alone.

* `LineKind.everywhere?`, `LineKind.inDomain`: the selectors that a line has for every site and for
  a domain, none if it is refused; `of_classify_eq_domainHider`: **a line that is taken for a hider
  of single domains has its separator**;
* `ElementHiding.Collects`: the selectors of the given lines were collected, in their order;
  `Collects.addLine`: **a line keeps this**, accepted or not;
* `RuleSet.Change.lines`: the lines that a change looks at; `collects_changes`: so it is behind all
  changes;
* `css_of_accepted`: **what is hidden is what was accepted**.

NOT here: which selectors are accepted (`Proofs/BracketedColons.lean`).
-/

namespace RequestFilter

open ElementHiding (Names Gains isValidSelector)

/-! ## 1. One line -/

namespace LineKind

/-- The selector that a line has for every site. -/
def everywhere? : LineKind → Option Text
  | .elementHider selector => if isValidSelector selector then some selector else none
  | _ => none

/-- The selectors that a line has for a domain: its own, once for each of its items that names the
    domain. -/
def inDomain (domain : Text) : LineKind → List Text
  | .domainHider line separator =>
    match Text.splitOnce separator line with
    | some (list, selector) =>
      if selector ≠ [] ∧ isValidSelector selector then
        List.replicate ((Text.splitOn ',' list).countP (Names · domain)) selector
      else []
    | none => []
  | _ => []

/-- **A line that is taken for a hider of single domains has its separator**: two number signs if
    they stand anywhere, and else one. -/
theorem of_classify_eq_domainHider {line l separator : Text}
    (h : classify line = .domainHider l separator) :
    l = line ∧ separator <:+: line ∧
      separator = if ['#', '#'] <:+: line then ['#', '#'] else ['#'] := by
  unfold classify at h
  repeat' split at h
  all_goals cases h
  · rename_i htwo
    have hin := Text.occursIn_iff.mp htwo
    exact ⟨rfl, hin, (if_pos hin).symm⟩
  · rename_i htwo hone
    have hin : '#' ∈ line := List.contains_iff_mem.mp hone
    obtain ⟨before, after, hline⟩ := List.append_of_mem hin
    refine ⟨rfl, ⟨before, after, by simp [hline]⟩, (if_neg fun h => htwo ?_).symm⟩
    exact Text.occursIn_iff.mpr h

end LineKind

namespace ElementHiding

/-- The selectors of the lines were collected, in their order. -/
structure Collects (h : ElementHiding) (kinds : List LineKind) : Prop where
  generic : h.generic = kinds.filterMap LineKind.everywhere?
  specific : ∀ domain, h.specific domain = kinds.flatMap (LineKind.inDomain domain)
  mem : ∀ domain, domain ∈ h.perDomain ↔ ∃ kind ∈ kinds, kind.inDomain domain ≠ []

theorem collects_empty : Collects {} [] where
  generic := rfl
  specific domain := by simp [ElementHiding.specific]
  mem domain := by simp

section Line

variable {h : ElementHiding} {kinds : List LineKind}

theorem exists_mem_concat {kind : LineKind} {p : LineKind → Prop} :
    (∃ k ∈ kinds ++ [kind], p k) ↔ (∃ k ∈ kinds, p k) ∨ p kind := by
  simp only [List.mem_append, List.mem_singleton, or_and_right, exists_or, exists_eq_left]

/-- A line without selectors adds nothing. -/
theorem Collects.idle (hc : Collects h kinds) {kind : LineKind} (hnone : kind.everywhere? = none)
    (hnil : ∀ domain, kind.inDomain domain = []) : Collects h (kinds ++ [kind]) where
  generic := by simp [hc.generic, hnone]
  specific domain := by simp [hc.specific, hnil]
  mem domain := by rw [hc.mem, exists_mem_concat, hnil, or_iff_left (not_not.mpr rfl)]

/-- A selector for every site is added behind the others. -/
theorem Collects.addGeneric (hc : Collects h kinds) (selector : Text) :
    Collects ((h.addGeneric? selector).getD h) (kinds ++ [.elementHider selector]) := by
  rw [addGeneric?]
  split
  · rename_i hvalid
    refine ⟨?_, fun domain => ?_, fun domain => ?_⟩
    · simp [hc.generic, LineKind.everywhere?, hvalid]
    · rw [List.flatMap_append, ← hc.specific]
      simp [ElementHiding.specific, LineKind.inDomain]
    · rw [exists_mem_concat, ← hc.mem]
      simp [LineKind.inDomain]
  · rename_i hrefused
    exact hc.idle (by simp [LineKind.everywhere?, hrefused]) fun _ => rfl

/-- A selector for single domains is added for each time that one is named. -/
theorem Collects.addPerDomain (hc : Collects h kinds) (line separator : Text) :
    Collects ((h.addPerDomain? line separator).getD h)
      (kinds ++ [.domainHider line separator]) := by
  cases hadd : h.addPerDomain? line separator with
  | some g =>
    obtain ⟨list, selector, hsplit, hne, hvalid, hgains⟩ := addPerDomain?_eq_some hadd
    have hkind : ∀ domain, LineKind.inDomain domain (.domainHider line separator) =
        List.replicate ((domains list).count domain) selector := by
      intro domain
      simp only [LineKind.inDomain, hsplit, count_domains, if_pos (And.intro hne hvalid)]
    refine ⟨?_, fun domain => ?_, fun domain => ?_⟩
    · simp [hgains.generic, hc.generic, LineKind.everywhere?]
    · simp [hgains.specific, hc.specific, hkind]
    · rw [Option.getD_some, hgains.mem, hc.mem, exists_mem_concat, hkind, ne_eq,
        List.replicate_eq_nil_iff, List.count_eq_zero, not_not]
  | none =>
    refine hc.idle rfl fun domain => ?_
    rw [LineKind.inDomain]
    split
    · rename_i list selector hsplit
      refine if_neg fun haccepted => ?_
      obtain ⟨g, hg, -⟩ := exists_addPerDomain? (h := h) hsplit haccepted.1 haccepted.2
      exact absurd (hg.symm.trans hadd) nofun
    · rfl

/-- **A line keeps it**, if it is not too long to be looked at. -/
theorem Collects.addLine (hc : Collects h kinds) {maxLine : Nat} {line : Text}
    (hlong : line.byteSize ≤ maxLine) :
    Collects ((h.addLine? maxLine line).getD h) (kinds ++ [LineKind.classify line]) := by
  rw [addLine?, if_neg (Nat.not_lt.mpr hlong)]
  cases LineKind.classify line with
  | elementHider selector => exact hc.addGeneric selector
  | domainHider line separator => exact hc.addPerDomain line separator
  | _ => exact hc.idle rfl fun _ => rfl

end Line

end ElementHiding

namespace RuleSet

/-! ## 2. Changes -/

/-- The lines that a load looks at, without the blanks at their ends. -/
def readLines (maxLine : Nat) (lines : List Text) : List Text :=
  (lines.map Text.trimEnd).filter (·.byteSize ≤ maxLine)

/-- The lines that a change looks at. -/
def Change.lines : Change → List Text
  | .list maxLine text => readLines maxLine (Text.lines text)
  | _ => []

section Changes

variable {s : RuleSet} {kinds : List LineKind}

theorem collects_foldl (hc : s.hider.Collects kinds) (maxLine : Nat) (lines : List Text) :
    (lines.foldl (takeIn maxLine) s).hider.Collects
      (kinds ++ (readLines maxLine lines).map LineKind.classify) := by
  induction lines generalizing s kinds with
  | nil => simpa [readLines] using hc
  | cons line lines ih =>
    have hnext := @hider_takeIn maxLine s line
    by_cases hlong : (Text.trimEnd line).byteSize ≤ maxLine
    · have hfirst := hc.addLine hlong
      rw [← hnext] at hfirst
      simpa [readLines, hlong] using ih hfirst
    · rw [ElementHiding.addLine?, if_pos (Nat.not_le.mp hlong), Option.getD_none] at hnext
      rw [← hnext] at hc
      simpa [readLines, hlong] using ih hc

/-- **Behind all changes the selectors of all lines were collected.** -/
theorem collects_changes (hc : s.hider.Collects kinds) (cs : List Change) :
    (s.changes cs).hider.Collects (kinds ++ (cs.flatMap Change.lines).map LineKind.classify) := by
  induction cs generalizing s kinds with
  | nil => simpa [changes] using hc
  | cons c cs ih =>
    rw [List.flatMap_cons, List.map_append, ← List.append_assoc]
    refine ih ?_
    cases c with
    | list maxLine text =>
      show (s.load maxLine text).rules.hider.Collects _
      rw [load, rules_loadLines]
      exact collects_foldl hc maxLine (Text.lines text)
    | rule r => simpa [Change.lines, change] using hc
    | clear => simpa [Change.lines, change] using hc

end Changes

/-- **What is hidden is what was accepted.** Let lists be loaded behind a clearing of the element
    hiding, and let anything be done to the index in between. What is hidden for a domain are the
    accepted selectors for every site, in the order of their lines, and then those of the accepted
    lines for single domains, in their order, once for each item that names the domain; no other
    line adds to it. As many domains have selectors of their own as are named on accepted lines. And
    every line that is taken for a hider of single domains has its separator, and is cut where it
    comes first. -/
theorem css_of_accepted (s : RuleSet) (cs : List Change) :
    let hider := ({ s with hider := {} }.changes cs).hider
    let kinds := (cs.flatMap Change.lines).map LineKind.classify
    (∀ domain, hider.cssFor domain = Text.join " , ".toList
      (kinds.filterMap LineKind.everywhere? ++ kinds.flatMap (LineKind.inDomain domain))) ∧
    (∃ named : List Text, named.Nodup ∧ hider.domainCount = named.length ∧
      ∀ domain, domain ∈ named ↔ ∃ kind ∈ kinds, kind.inDomain domain ≠ []) ∧
    ∀ line l separator, LineKind.classify line = .domainHider l separator →
      l = line ∧ separator = (if ['#', '#'] <:+: line then ['#', '#'] else ['#']) ∧
      ∃ list selector, Text.splitOnce separator line = some (list, selector) ∧
        line = list ++ separator ++ selector ∧ ¬ separator <:+: list ++ separator.dropLast := by
  intro hider kinds
  have hc : hider.Collects kinds := by
    simpa using collects_changes (s := { s with hider := {} }) ElementHiding.collects_empty cs
  refine ⟨fun domain => ?_, ⟨hider.perDomain.keys, Std.TreeMap.nodup_keys,
    Std.TreeMap.length_keys.symm, fun domain => ?_⟩, fun line l separator hkind => ?_⟩
  · rw [ElementHiding.cssFor_eq, hc.generic, hc.specific]
    rfl
  · rw [Std.TreeMap.mem_keys, hc.mem]
  · obtain ⟨rfl, hin, hseparator⟩ := LineKind.of_classify_eq_domainHider hkind
    refine ⟨rfl, hseparator, ?_⟩
    cases hsplit : Text.splitOnce separator l with
    | none => exact absurd hin (Text.splitOnce_eq_none_iff.mp hsplit)
    | some cut =>
      have hne : separator ≠ [] := by
        rw [hseparator]
        split <;> decide
      have hline := Text.eq_append_of_splitOnce hsplit
      refine ⟨cut.1, cut.2, rfl, hline, ?_⟩
      rw [hline] at hsplit
      exact (Text.splitOnce_append_iff hne).mp hsplit

/-- Two lists, with rules and a refused selector among their lines. -/
def hiderLists : List Change :=
  [.list 2000 "##.ad\na.com,~b.com,~pregecko2, a.com##.x\n||ads^\na.com#.y'\n".toList, .clear,
   .list 2000 "a.com#.z\n##.ad\n".toList]

/-- One domain is named twice on a line, and one selector for every site comes again. -/
theorem css_of_accepted_twice :
    let hider := (({} : RuleSet).changes hiderLists).hider
    hider.cssFor "a.com".toList = ".ad , .ad , .x , .x , .z".toList ∧ hider.domainCount = 2 := by
  obtain ⟨hcss, -, -⟩ := css_of_accepted {} hiderLists
  exact ⟨(hcss "a.com".toList).trans (by decide +kernel), by decide +kernel⟩

end RuleSet

end RequestFilter
