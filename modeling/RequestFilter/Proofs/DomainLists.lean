import Mathlib.Data.List.Basic
import RequestFilter.ElementHiding
import RequestFilter.Proofs.GlobRules

/-!
# Lists of domains

A hider for single domains is a comma-separated list, a separator and a selector. It is cut where
the separator comes first, and the selector is added for each item that names a domain.

* `Text.splitOnce_append_iff`: **where a separator comes first**; `splitOnce_eq_none_iff`: and
  whether it comes at all;
* `ElementHiding.Names`: the item of a list names the domain; `domains_eq`: the domains of a list
  are those that its items name (`named?`), in order;
* `ElementHiding.Gains`: a selector was added for domains; `gains_foldl`: **once for each time a
  domain is named**; `addPerDomain?_eq_some`, `exists_addPerDomain?`: what an accepted line adds.
-/

namespace RequestFilter

/-! ## 1. First occurrences -/

namespace Text

theorem eq_append_of_splitOnce {sep t before after : Text}
    (h : splitOnce sep t = some (before, after)) : t = before ++ sep ++ after :=
  (cutsAt_splitOnce sep).eq_append h

theorem splitOnce_eq_none_iff {sep t : Text} : splitOnce sep t = none ↔ ¬ sep <:+: t :=
  (cutsAt_splitOnce sep).eq_none_iff

/-- **A separator comes first at its own place** if it is not made up earlier, be it with its own
    beginning. -/
theorem splitOnce_append_iff {sep : Text} (hsep : sep ≠ []) {before after : Text} :
    splitOnce sep (before ++ sep ++ after) = some (before, after) ↔
      ¬ sep <:+: before ++ sep.dropLast := by
  have hlength : sep.dropLast.length + 1 = sep.length := by
    have := List.length_pos_iff.mpr hsep
    rw [List.length_dropLast]
    omega
  induction before with
  | nil =>
    refine iff_of_true ?_ fun hin => absurd hin.length_le (by rw [List.nil_append]; omega)
    obtain ⟨c, rest, rfl⟩ := List.exists_cons_of_ne_nil hsep
    rw [List.nil_append, List.cons_append, splitOnce, ← List.cons_append, dropStart?_append]
  | cons c before ih =>
    -- a start as long as the separator ends in front of the last character of its own place
    have hpre : sep <+: c :: (before ++ sep ++ after) ↔ sep <+: c :: (before ++ sep.dropLast) := by
      have hwhole : c :: (before ++ sep ++ after) =
          c :: (before ++ sep.dropLast) ++ sep.getLast hsep :: after := by
        conv_lhs => rw [← List.dropLast_concat_getLast hsep]
        simp
      rw [hwhole]
      refine ⟨fun h => ?_, fun h => h.trans (List.prefix_append _ _)⟩
      refine List.prefix_of_prefix_length_le h (List.prefix_append _ _) ?_
      rw [List.length_cons, List.length_append]
      omega
    rw [List.cons_append, List.cons_append, List.cons_append, splitOnce, List.infix_cons_iff,
      not_or]
    cases hstart : dropStart? sep (c :: (before ++ sep ++ after)) with
    | some rest =>
      have hin := hpre.mp ⟨rest, (eq_append_of_dropStart? hstart).symm⟩
      simp [hin]
    | none =>
      have hnot := mt hpre.mpr (dropStart?_eq_none hstart)
      refine Iff.trans ?_ (ih.trans (and_iff_right hnot).symm)
      simp

end Text

namespace ElementHiding

/-! ## 2. Items -/

/-- An item without the sign that it may begin with. -/
def withoutSign : Text → Text
  | '~' :: rest => rest
  | item => item

/-- The item names the domain: it is not meant for one browser only, and this is what is left of it
    without its sign and without the blanks at its ends. -/
def Names (item domain : Text) : Prop :=
  item ≠ browserMark ∧ domain ≠ [] ∧ Text.trim (withoutSign item) = domain

instance (item domain : Text) : Decidable (Names item domain) := by
  unfold Names
  infer_instance

/-- The domain that an item names. -/
def named? (item : Text) : Option Text :=
  if item = browserMark ∨ Text.trim (withoutSign item) = [] then none
  else some (Text.trim (withoutSign item))

theorem named?_eq_some {item domain : Text} : named? item = some domain ↔ Names item domain := by
  rw [named?, Names, Option.ite_none_left_eq_some, not_or, Option.some.injEq, and_assoc]
  refine and_congr_right fun _ => ⟨fun ⟨hne, heq⟩ => ⟨heq ▸ hne, heq⟩, fun ⟨hne, heq⟩ => ?_⟩
  exact ⟨heq ▸ hne, heq⟩

theorem dropStart?_sign (item : Text) :
    (Text.dropStart? ['~'] item).getD item = withoutSign item := by
  cases item with
  | nil => rfl
  | cons c rest =>
    rw [Text.dropStart?]
    by_cases hc : '~' = c
    · subst hc
      rfl
    · rw [if_neg hc, Option.getD_none, withoutSign]
      exact fun _ heq => hc (List.cons.inj heq).1.symm

/-- **The domains of a list are those that its items name.** -/
theorem domains_eq (list : Text) : domains list = (Text.splitOn ',' list).filterMap named? := by
  rw [domains, List.filterMap_filter]
  refine List.filterMap_congr fun item _ => ?_
  rw [dropStart?_sign, named?]
  by_cases hmark : item = browserMark <;> simp [hmark]

/-- A domain is named as often as there are items that name it. -/
theorem count_domains (list domain : Text) :
    (domains list).count domain = (Text.splitOn ',' list).countP (Names · domain) := by
  rw [domains_eq, List.count_filterMap]
  refine List.countP_congr fun item _ => ?_
  rw [beq_iff_eq, named?_eq_some, decide_eq_true_iff]

/-! ## 3. Additions -/

/-- The selectors for a domain alone. -/
def specific (h : ElementHiding) (domain : Text) : List Text := h.perDomain[domain]?.getD []

theorem cssFor_eq (h : ElementHiding) (domain : Text) :
    h.cssFor domain = Text.join separator (h.generic ++ h.specific domain) := rfl

/-- A selector was added, once for each of the domains. -/
structure Gains (h : ElementHiding) (selector : Text) (domains : List Text) (g : ElementHiding) :
    Prop where
  generic : g.generic = h.generic
  specific : ∀ domain,
    g.specific domain = h.specific domain ++ List.replicate (domains.count domain) selector
  mem : ∀ domain, domain ∈ g.perDomain ↔ domain ∈ h.perDomain ∨ domain ∈ domains

theorem gains_addFor (h : ElementHiding) (selector domain : Text) :
    Gains h selector [domain] (h.addFor selector domain) where
  generic := rfl
  specific other := by
    show ((h.perDomain.insert domain _)[other]?).getD [] = _
    simp only [Std.TreeMap.getElem?_insert, Std.LawfulEqCmp.compare_eq_iff_eq, specific]
    by_cases hother : domain = other
    · subst hother
      simp
    · simp [hother]
  mem other := by
    show other ∈ h.perDomain.insert domain _ ↔ _
    rw [Std.TreeMap.mem_insert, Std.LawfulEqCmp.compare_eq_iff_eq, List.mem_singleton, or_comm,
      eq_comm]

theorem Gains.trans {h g f : ElementHiding} {selector : Text} {ds es : List Text}
    (hg : Gains h selector ds g) (hf : Gains g selector es f) : Gains h selector (ds ++ es) f where
  generic := hf.generic.trans hg.generic
  specific domain := by
    rw [hf.specific, hg.specific, List.append_assoc, List.replicate_append_replicate,
      List.count_append]
  mem domain := by rw [hf.mem, hg.mem, List.mem_append, or_assoc]

/-- **A selector is added once for each time a domain is named.** -/
theorem gains_foldl (h : ElementHiding) (selector : Text) (domains : List Text) :
    Gains h selector domains (domains.foldl (addFor · selector ·) h) := by
  induction domains generalizing h with
  | nil => exact ⟨rfl, fun _ => (List.append_nil _).symm, fun _ => by simp⟩
  | cons domain domains ih => exact (gains_addFor h selector domain).trans (ih _)

section PerDomain

variable {h g : ElementHiding} {line sep list selector : Text}

theorem exists_addPerDomain? (hsplit : Text.splitOnce sep line = some (list, selector))
    (hne : selector ≠ []) (hvalid : isValidSelector selector = true) :
    ∃ g, h.addPerDomain? line sep = some g ∧ Gains h selector (domains list) g := by
  refine ⟨_, ?_, gains_foldl h selector (domains list)⟩
  rw [addPerDomain?, hsplit, Option.bind_some]
  simp [hne, hvalid]

/-- What an accepted line adds. -/
theorem addPerDomain?_eq_some (hadd : h.addPerDomain? line sep = some g) :
    ∃ list selector, Text.splitOnce sep line = some (list, selector) ∧ selector ≠ [] ∧
      isValidSelector selector = true ∧ Gains h selector (domains list) g := by
  obtain ⟨⟨list, selector⟩, hsplit, hsome⟩ := Option.bind_eq_some_iff.mp hadd
  simp only [Option.ite_none_left_eq_some, Option.some.injEq] at hsome
  obtain ⟨haccepted, rfl⟩ := hsome
  obtain ⟨hne, hvalid⟩ : selector ≠ [] ∧ isValidSelector selector = true := by
    simpa using haccepted
  exact ⟨list, selector, hsplit, hne, hvalid, gains_foldl h selector (domains list)⟩

end PerDomain

end ElementHiding

end RequestFilter
