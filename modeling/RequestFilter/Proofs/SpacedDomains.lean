import Mathlib.Data.List.Forall2
import Mathlib.Data.List.TakeWhile
import RequestFilter.Proofs.DomainLists

/-!
# Spaces around domains

Blanks around the items of a list of domains are taken off, but only once an item was held against
the mark of one browser and has lost its sign. So spaces are of no account around an item without a
sign; and around one with a sign they are, for a space in front of it hides the sign, and a space on
either side hides the mark.

* `Text.SameButSpaces`: two texts that differ in the spaces at their ends;
* `ElementHiding.ReadAlike`: what of an item the spaces can hide is hidden in both or in neither;
  `named?_eq_iff`: **exactly then two items that are the same but for spaces name the same**;
* `ElementHiding.HidesAlike`: what hides the same for every domain, and for as many domains;
  `hidesAlike_iff_perm`: **a selector added for two lists of domains, if these are rearranged**;
* `splitOnce_spaced_iff`: where the separator comes first behind other spaces;
* `spaces_around_domains`: **when spaces around the domains of an accepted line are of no account**.
-/

namespace RequestFilter

namespace Text

/-! ## 1. Spaces at the ends -/

/-- A text with spaces in front and behind. -/
def spaced (before after : Nat) (core : Text) : Text :=
  List.replicate before ' ' ++ core ++ List.replicate after ' '

/-- The texts are the same but for spaces at their ends. -/
def SameButSpaces (s t : Text) : Prop := ∃ core i j k l, s = spaced i j core ∧ t = spaced k l core

theorem trim_cons_blank {c : Char} (hc : Unicode.isBlank c = true) (t : Text) :
    trim (c :: t) = trim t := by
  rw [trim, trim, trimStart, trimStart, List.dropWhile_cons_of_pos hc]

theorem trim_concat_blank {c : Char} (hc : Unicode.isBlank c = true) (t : Text) :
    trim (t ++ [c]) = trim t := by
  have hend : ∀ s : Text, trimEnd (s ++ [c]) = trimEnd s := by
    intro s
    rw [trimEnd, trimEnd, List.reverse_append, List.reverse_singleton, List.singleton_append,
      List.dropWhile_cons_of_pos hc]
  rw [trim, trim, trimStart, trimStart, List.dropWhile_append]
  split
  · rename_i hnil
    rw [List.isEmpty_iff.mp hnil, List.dropWhile_cons_of_pos hc]
    rfl
  · exact hend _

/-- Spaces at the ends are blanks. -/
theorem trim_spaced (i j : Nat) (core : Text) : trim (spaced i j core) = trim core := by
  have hspace : Unicode.isBlank ' ' = true := by decide
  unfold spaced
  induction i with
  | zero =>
    rw [List.replicate_zero, List.nil_append]
    induction j with
    | zero => rw [List.replicate_zero, List.append_nil]
    | succ j ih => rw [List.replicate_succ', ← List.append_assoc, trim_concat_blank hspace, ih]
  | succ i ih =>
    rw [List.replicate_succ, List.cons_append, List.cons_append, trim_cons_blank hspace, ih]

/-- A character that is not blank stays as often as it was. -/
theorem count_trim {c : Char} (hc : Unicode.isBlank c = false) (t : Text) :
    (trim t).count c = t.count c := by
  have hdrop : ∀ s : Text, (s.dropWhile Unicode.isBlank).count c = s.count c := by
    intro s
    have hblanks : (s.takeWhile Unicode.isBlank).count c = 0 := by
      refine List.count_eq_zero.mpr fun hmem => ?_
      rw [List.mem_takeWhile_imp hmem] at hc
      cases hc
    conv_rhs => rw [← List.takeWhile_append_dropWhile (p := Unicode.isBlank) (l := s)]
    rw [List.count_append, hblanks, Nat.zero_add]
  rw [trim, trimEnd, List.count_reverse, hdrop, List.count_reverse, trimStart, hdrop]

/-- Such a character keeps a text from being empty. -/
theorem trim_ne_nil {c : Char} (hc : Unicode.isBlank c = false) {t : Text} (h : c ∈ t) :
    trim t ≠ [] := by
  intro hnil
  have hcount := count_trim hc t
  rw [hnil, List.count_nil] at hcount
  exact List.count_eq_zero.mp hcount.symm h

/-- A stretch without spaces lies between the spaces at the ends. -/
theorem infix_of_infix_spaced {w core : Text} {i j : Nat} (hw : ' ' ∉ w)
    (h : w <:+: spaced i j core) : w <:+: core := by
  have hnil : w <:+: [] → w <:+: core := fun hin => hin.trans List.nil_infix
  unfold spaced at h
  induction i with
  | zero =>
    rw [List.replicate_zero, List.nil_append] at h
    induction j with
    | zero => rwa [List.replicate_zero, List.append_nil] at h
    | succ j ih =>
      rw [List.replicate_succ', ← List.append_assoc] at h
      exact (infix_or_infix_of_infix_append_sep hw h).elim ih hnil
  | succ i ih =>
    rw [List.replicate_succ, List.cons_append, List.cons_append] at h
    exact (infix_or_infix_of_infix_append_sep (s := []) hw h).elim hnil ih

/-- A stretch without spaces and commas lies in one list as in the other, if their items are the
    same but for spaces. -/
theorem infix_of_sameButSpaces {w s t : Text} (hne : w ≠ []) (hspace : ' ' ∉ w) (hcomma : ',' ∉ w)
    (hitems : List.Forall₂ SameButSpaces (splitOn ',' s) (splitOn ',' t)) (h : w <:+: t) :
    w <:+: s := by
  have hother : ∀ {ss ts : List Text}, List.Forall₂ SameButSpaces ss ts → ∀ piece ∈ ts,
      ∃ item ∈ ss, SameButSpaces item piece := by
    intro ss ts hall
    induction hall with
    | nil => exact fun _ hmem => absurd hmem List.not_mem_nil
    | cons hfirst _ ih =>
      intro piece hmem
      rcases List.mem_cons.mp hmem with rfl | hlater
      · exact ⟨_, List.mem_cons_self, hfirst⟩
      · obtain ⟨item, hitem, hsame⟩ := ih piece hlater
        exact ⟨item, List.mem_cons_of_mem _ hitem, hsame⟩
  rw [← join_splitOn ',' t] at h
  obtain ⟨piece, hpiece, hin⟩ := infix_of_infix_join hne hcomma h
  obtain ⟨item, hitem, core, i, j, k, l, rfl, rfl⟩ := hother hitems piece hpiece
  have hcore : core <:+: spaced i j core := ⟨_, _, rfl⟩
  exact ((infix_of_infix_spaced hspace hin).trans hcore).trans (infix_of_mem_splitOn hitem)

/-! ## 2. Joined pieces -/

theorem join_cons (sep piece : Text) {others : List Text} (h : others ≠ []) :
    join sep (piece :: others) = piece ++ sep ++ join sep others := by
  obtain ⟨next, rest, rfl⟩ := List.exists_cons_of_ne_nil h
  rfl

/-- What stands in front of a piece and behind it among joined pieces. -/
theorem join_append_cons (sep : Text) (before : List Text) (piece : Text) (after : List Text) :
    join sep (before ++ piece :: after) =
      before.flatMap (· ++ sep) ++ (piece ++ after.flatMap (sep ++ ·)) := by
  induction before with
  | nil =>
    rw [List.nil_append, List.flatMap_nil, List.nil_append]
    induction after generalizing piece with
    | nil => rw [join, List.flatMap_nil, List.append_nil]
    | cons next after ih =>
      rw [join_cons sep piece (List.cons_ne_nil next after), ih, List.flatMap_cons]
      simp only [List.append_assoc]
  | cons first before ih =>
    rw [List.cons_append, join_cons sep first (by simp), ih, List.flatMap_cons]
    simp only [List.append_assoc]

/-- Another piece that is not empty makes them longer. -/
theorem length_join_lt (sep : Text) (pieces : List Text) {piece : Text} (hne : piece ≠ [])
    (more : List Text) :
    (join sep pieces).length < (join sep (pieces ++ piece :: more)).length := by
  have hlength : (join sep pieces).length ≤ (pieces.flatMap (· ++ sep)).length := by
    induction pieces with
    | nil => exact Nat.le_refl _
    | cons first pieces ih =>
      rw [List.flatMap_cons, List.length_append, List.length_append]
      by_cases hnil : pieces = []
      · subst hnil
        exact Nat.le_add_right _ _ |>.trans (Nat.le_add_right _ _)
      · rw [join_cons sep first hnil, List.length_append, List.length_append]
        exact Nat.add_le_add_left ih _
  have hpos := List.length_pos_iff.mpr hne
  rw [join_append_cons, List.length_append, List.length_append]
  omega

/-- A text that goes on in another way is not the same text behind one more character. -/
theorem append_ne_cons_append {c : Char} (s : Text) {t u : Text} (h : t.head? ≠ some c) :
    s ++ t ≠ c :: (s ++ u) := by
  induction s with
  | nil =>
    rintro rfl
    exact h rfl
  | cons d s ih =>
    intro heq
    rw [List.cons_append, List.cons_append, List.cons.injEq] at heq
    obtain ⟨rfl, heq⟩ := heq
    exact ih heq

end Text

namespace ElementHiding

/-! ## 3. Items that read alike -/

/-- Both items show a sign at their start or neither does, and both are the mark of one browser or
    neither is. -/
def ReadAlike (item other : Text) : Prop :=
  (item.head? = some '~' ↔ other.head? = some '~') ∧ (item = browserMark ↔ other = browserMark)

theorem withoutSign_of_head? {item : Text} (h : item.head? ≠ some '~') :
    withoutSign item = item := by
  unfold withoutSign
  split
  · exact absurd rfl h
  · rfl

theorem ne_browserMark {item : Text} (h : item.head? ≠ some '~') : item ≠ browserMark := by
  rintro rfl
  exact h rfl

/-- An item without a sign names what is between its blanks. -/
theorem named?_of_head? {item : Text} (h : item.head? ≠ some '~') :
    named? item = if Text.trim item = [] then none else some (Text.trim item) := by
  rw [named?, withoutSign_of_head? h]
  simp only [ne_browserMark h, false_or]

/-- A sign at the start is that of the text between the spaces. -/
theorem exists_of_head?_spaced {i j : Nat} {core : Text}
    (h : (Text.spaced i j core).head? = some '~') :
    ∃ rest, core = '~' :: rest ∧
      Text.trim (withoutSign (Text.spaced i j core)) = Text.trim rest := by
  cases i with
  | succ i => cases h
  | zero =>
    cases core with
    | nil =>
      cases j with
      | zero => cases h
      | succ j => cases h
    | cons c rest =>
      obtain rfl : c = '~' := Option.some.inj h
      exact ⟨rest, rfl, Text.trim_spaced 0 j rest⟩

/-- A sign that a space hides is part of the name. -/
theorem named?_hidden {i j k l : Nat} {core : Text}
    (hsign : (Text.spaced i j core).head? = some '~')
    (hhidden : (Text.spaced k l core).head? ≠ some '~') :
    named? (Text.spaced i j core) ≠ named? (Text.spaced k l core) := by
  have hblank : Unicode.isBlank '~' = false := by decide
  obtain ⟨rest, rfl, hrest⟩ := exists_of_head?_spaced hsign
  have hne : Text.trim ('~' :: rest) ≠ [] := Text.trim_ne_nil hblank List.mem_cons_self
  rw [named?_of_head? hhidden, Text.trim_spaced, if_neg hne, Ne, named?_eq_some]
  rintro ⟨-, -, heq⟩
  -- the sign counts in one of the names only
  have hcount := congrArg (List.count '~') (hrest.symm.trans heq)
  rw [Text.count_trim hblank, Text.count_trim hblank, List.count_cons_self] at hcount
  exact absurd hcount (Nat.ne_of_lt (Nat.lt_succ_self _))

/-- An item that would name the same as the mark of one browser, and that like it names nothing, is
    the mark. -/
theorem eq_browserMark {item other : Text}
    (htrim : Text.trim (withoutSign item) = Text.trim (withoutSign other))
    (hnamed : named? item = named? other) (hmark : item = browserMark) : other = browserMark := by
  subst hmark
  by_contra hother
  have hne : Text.trim (withoutSign other) ≠ [] := by
    rw [← htrim]
    decide
  have hsome : named? browserMark = some (Text.trim (withoutSign other)) := by
    rw [hnamed, named?_eq_some]
    exact ⟨hother, hne, rfl⟩
  exact (named?_eq_some.mp hsome).1 rfl

/-- **Two items that are the same but for spaces name the same exactly if they read alike.** -/
theorem named?_eq_iff {item other : Text} (h : Text.SameButSpaces item other) :
    named? item = named? other ↔ ReadAlike item other := by
  obtain ⟨core, i, j, k, l, rfl, rfl⟩ := h
  by_cases hitem : (Text.spaced i j core).head? = some '~'
  · by_cases hother : (Text.spaced k l core).head? = some '~'
    · obtain ⟨rest, rfl, hrest⟩ := exists_of_head?_spaced hitem
      obtain ⟨_, heq, hother'⟩ := exists_of_head?_spaced hother
      obtain rfl := (List.cons.inj heq).2
      have htrim := hrest.trans hother'.symm
      constructor
      · intro hnamed
        exact ⟨iff_of_true hitem hother, eq_browserMark htrim hnamed,
          eq_browserMark htrim.symm hnamed.symm⟩
      · rintro ⟨-, hmark⟩
        rw [named?, named?, htrim]
        simp only [hmark]
    · exact iff_of_false (named?_hidden hitem hother) fun h => hother (h.1.mp hitem)
  · by_cases hother : (Text.spaced k l core).head? = some '~'
    · exact iff_of_false (named?_hidden hother hitem).symm fun h => hitem (h.1.mpr hother)
    · refine iff_of_true ?_ ⟨iff_of_false hitem hother,
        iff_of_false (ne_browserMark hitem) (ne_browserMark hother)⟩
      rw [named?_of_head? hitem, named?_of_head? hother, Text.trim_spaced, Text.trim_spaced]

/-! ## 4. What is hidden -/

/-- The same is hidden for every domain, and as many domains have selectors of their own. -/
structure HidesAlike (g f : ElementHiding) : Prop where
  css : ∀ domain, g.cssFor domain = f.cssFor domain
  domainCount : g.domainCount = f.domainCount

/-- As many domains have selectors of their own if they are the same domains. -/
theorem domainCount_congr {g f : ElementHiding}
    (h : ∀ domain, domain ∈ g.perDomain ↔ domain ∈ f.perDomain) :
    g.domainCount = f.domainCount := by
  have hperm : g.perDomain.keys.Perm f.perDomain.keys := by
    rw [List.perm_ext_iff_of_nodup Std.TreeMap.nodup_keys Std.TreeMap.nodup_keys]
    simpa only [Std.TreeMap.mem_keys] using h
  rw [domainCount, domainCount, ← Std.TreeMap.length_keys, ← Std.TreeMap.length_keys,
    hperm.length_eq]

section Gains

variable {h g f : ElementHiding} {selector : Text} {ds es : List Text}

/-- A selector is hidden for a domain as often as it is added for it. -/
theorem Gains.count_le (hne : selector ≠ []) (hg : Gains h selector ds g)
    (hf : Gains h selector es f) {domain : Text} (hcss : g.cssFor domain = f.cssFor domain) :
    es.count domain ≤ ds.count domain := by
  by_contra hlt
  obtain ⟨k, hk⟩ := Nat.exists_eq_add_of_lt (Nat.not_le.mp hlt)
  have hmore : f.generic ++ f.specific domain =
      (g.generic ++ g.specific domain) ++ selector :: List.replicate k selector := by
    rw [hf.generic, hf.specific, hg.generic, hg.specific, hk, Nat.add_assoc,
      ← List.replicate_append_replicate, List.replicate_succ]
    simp only [List.append_assoc]
  have hlonger := Text.length_join_lt separator (g.generic ++ g.specific domain) hne
    (List.replicate k selector)
  rw [← hmore, ← cssFor_eq, ← cssFor_eq, hcss] at hlonger
  exact Nat.lt_irrefl _ hlonger

/-- **What a selector adds for two lists of domains hides alike exactly if the lists are
    rearranged.** -/
theorem hidesAlike_iff_perm (hne : selector ≠ []) (hg : Gains h selector ds g)
    (hf : Gains h selector es f) : HidesAlike g f ↔ ds.Perm es := by
  constructor
  · intro halike
    rw [List.perm_iff_count]
    intro domain
    have hcss := halike.css domain
    exact Nat.le_antisymm (hf.count_le hne hg hcss.symm) (hg.count_le hne hf hcss)
  · intro hperm
    refine ⟨fun domain => ?_, domainCount_congr fun domain => ?_⟩
    · rw [cssFor_eq, cssFor_eq, hg.generic, hf.generic, hg.specific, hf.specific,
        hperm.count_eq domain]
    · rw [hg.mem, hf.mem, hperm.mem_iff]

/-- Another selector that begins with one more character hides something else where the first one
    counts. -/
theorem not_hidesAlike_of_cons {c : Char} (hc : c ≠ ' ') (hne : selector ≠ [])
    (hg : Gains h selector ds g) (hf : Gains h (c :: selector) es f) {domain : Text}
    (hmem : domain ∈ ds) : ¬ HidesAlike g f := by
  intro halike
  have hcss := halike.css domain
  obtain ⟨k, hk⟩ := Nat.exists_eq_add_of_lt (List.count_pos_iff.mpr hmem)
  rw [Nat.zero_add] at hk
  rw [cssFor_eq, cssFor_eq, hg.generic, hf.generic, hg.specific, hf.specific, hk,
    List.replicate_succ, ← List.append_assoc, ← List.append_assoc] at hcss
  cases hcount : es.count domain with
  | zero =>
    rw [hcount, List.replicate_zero, List.append_nil] at hcss
    have hlonger := Text.length_join_lt separator (h.generic ++ h.specific domain) hne
      (List.replicate k selector)
    rw [hcss] at hlonger
    exact Nat.lt_irrefl _ hlonger
  | succ m =>
    rw [hcount, List.replicate_succ, Text.join_append_cons, Text.join_append_cons,
      List.append_cancel_left_eq, List.cons_append] at hcss
    refine Text.append_ne_cons_append selector ?_ hcss
    cases k with
    | zero => simp
    | succ k => simpa [List.replicate_succ, separator] using hc.symm

end Gains

/-! ## 5. The separator -/

section Separator

variable {separator line list list' selector : Text}

/-- **Where the separator comes first behind other spaces**: where it came before, unless a `#`
    stands right in front of it now. -/
theorem splitOnce_spaced_iff (hseparator : separator = ['#', '#'] ∨ separator = ['#'])
    (hsplit : Text.splitOnce separator line = some (list, selector))
    (hspaces : List.Forall₂ Text.SameButSpaces (Text.splitOn ',' list) (Text.splitOn ',' list')) :
    (list'.getLast? ≠ some '#' →
      Text.splitOnce separator (list' ++ separator ++ selector) = some (list', selector)) ∧
    (list'.getLast? = some '#' → ∃ shorter, list' = shorter ++ ['#'] ∧
      Text.splitOnce separator (list' ++ separator ++ selector) =
        some (shorter, '#' :: selector)) := by
  have hne : separator ≠ [] := by rcases hseparator with rfl | rfl <;> decide
  have hspace : ' ' ∉ separator := by rcases hseparator with rfl | rfl <;> decide
  have hcomma : ',' ∉ separator := by rcases hseparator with rfl | rfl <;> decide
  have hfirst : ¬ separator <:+: list := by
    obtain rfl := Text.eq_append_of_splitOnce hsplit
    have hnot := (Text.splitOnce_append_iff hne).mp hsplit
    exact fun hin => hnot (hin.trans (List.prefix_append _ _).isInfix)
  have hnot : ¬ separator <:+: list' := fun hin =>
    hfirst (Text.infix_of_sameButSpaces hne hspace hcomma hspaces hin)
  constructor
  · intro hlast
    rw [Text.splitOnce_append_iff hne]
    rcases hseparator with rfl | rfl
    · rw [List.dropLast_cons_of_ne_nil (by decide), List.dropLast_singleton, List.infix_concat_iff]
      rintro (⟨front, hfront⟩ | hin)
      · have hlist : front ++ ['#'] = list' := by
          rw [← List.append_left_inj ['#'], ← hfront, List.append_assoc]
          rfl
        exact hlast (hlist ▸ List.getLast?_concat)
      · exact hnot hin
    · simpa using hnot
  · intro hlast
    obtain ⟨shorter, rfl⟩ := List.getLast?_eq_some_iff.mp hlast
    refine ⟨shorter, rfl, ?_⟩
    rcases hseparator with rfl | rfl
    · have hline : shorter ++ ['#'] ++ ['#', '#'] ++ selector =
          shorter ++ ['#', '#'] ++ '#' :: selector := by simp
      rw [hline, Text.splitOnce_append_iff hne]
      exact hnot
    · exact absurd (List.suffix_append shorter ['#']).isInfix hnot

/-- A `#` stands in an item that names some domain. -/
theorem exists_mem_domains (h : '#' ∈ list) : ∃ domain, domain ∈ domains list := by
  have hcomma : '#' ≠ ',' := by decide
  obtain ⟨item, hitem, hmem⟩ := Text.exists_mem_splitOn h hcomma
  have hrest : '#' ∈ withoutSign item := by
    unfold withoutSign
    split
    · exact (List.mem_cons.mp hmem).resolve_left (by decide)
    · exact hmem
  refine ⟨Text.trim (withoutSign item), ?_⟩
  rw [domains_eq, List.mem_filterMap]
  refine ⟨item, hitem, named?_eq_some.mpr ⟨?_, Text.trim_ne_nil (by decide) hrest, rfl⟩⟩
  rintro rfl
  exact absurd hmem (by decide)

/-- Items that read alike name the same domains in the same order. -/
theorem domains_congr
    (hspaces : List.Forall₂ Text.SameButSpaces (Text.splitOn ',' list) (Text.splitOn ',' list'))
    (halike : List.Forall₂ ReadAlike (Text.splitOn ',' list) (Text.splitOn ',' list')) :
    domains list = domains list' := by
  have hnamed := List.Forall₂.mp (fun _ _ hsame => (named?_eq_iff hsame).mpr) hspaces halike
  rw [domains_eq, domains_eq]
  generalize Text.splitOn ',' list = items, Text.splitOn ',' list' = items' at hnamed
  induction hnamed with
  | nil => rfl
  | cons hfirst _ ih => rw [List.filterMap_cons, List.filterMap_cons, hfirst, ih]

/-- If a single item differs, the domains are rearranged only if it names the same. -/
theorem domains_perm_iff {before after : List Text} {item item' : Text}
    (hlist : Text.splitOn ',' list = before ++ item :: after)
    (hlist' : Text.splitOn ',' list' = before ++ item' :: after) :
    (domains list).Perm (domains list') ↔ named? item = named? item' := by
  have hcons : ∀ x : Text, (x :: after).filterMap named? =
      (named? x).toList ++ after.filterMap named? := by
    intro x
    rw [List.filterMap_cons]
    cases named? x <;> rfl
  rw [domains_eq, domains_eq, hlist, hlist', List.filterMap_append, List.filterMap_append,
    List.perm_append_left_iff, hcons, hcons, List.perm_append_right_iff]
  cases named? item <;> cases named? item' <;> simp

end Separator

/-! ## 6. Lines -/

/-- **When spaces around the domains of an accepted line are of no account.** Put spaces around the
    items of its list, or take some away: the line is accepted as it was. It hides the same for the
    same domains, if no item shows or hides its sign by that and none becomes or ceases to be the
    mark of one browser, and if no `#` comes to stand right in front of the separator. For a change
    around a single item this is all there is to it: it hides the same only then. -/
theorem spaces_around_domains {h g : ElementHiding} {separator line list list' selector : Text}
    (hseparator : separator = ['#', '#'] ∨ separator = ['#'])
    (hsplit : Text.splitOnce separator line = some (list, selector))
    (haccepted : h.addPerDomain? line separator = some g)
    (hspaces : List.Forall₂ Text.SameButSpaces (Text.splitOn ',' list) (Text.splitOn ',' list')) :
    ∃ f, h.addPerDomain? (list' ++ separator ++ selector) separator = some f ∧
      (List.Forall₂ ReadAlike (Text.splitOn ',' list) (Text.splitOn ',' list') →
        list'.getLast? ≠ some '#' → HidesAlike g f) ∧
      ∀ before item item' after, Text.splitOn ',' list = before ++ item :: after →
        Text.splitOn ',' list' = before ++ item' :: after →
        (HidesAlike g f ↔ ReadAlike item item' ∧ list'.getLast? ≠ some '#') := by
  obtain ⟨_, _, hsplit', hne, hvalid, hg⟩ := addPerDomain?_eq_some haccepted
  obtain ⟨rfl, rfl⟩ := Prod.mk.inj (Option.some.inj (hsplit.symm.trans hsplit'))
  obtain ⟨hkept, hmoved⟩ := splitOnce_spaced_iff hseparator hsplit hspaces
  by_cases hlast : list'.getLast? = some '#'
  · -- the separator begins one character earlier, and the selector has grown by it
    obtain ⟨shorter, -, hshorter⟩ := hmoved hlast
    have hvalid' : isValidSelector ('#' :: selector) = true := by
      rw [← hvalid]
      simp [isValidSelector, hasBracketedColon, fromFirst]
    obtain ⟨f, hf, hgains⟩ := exists_addPerDomain? (h := h) hshorter (List.cons_ne_nil _ _) hvalid'
    have hsign : ['#'] <:+: list := by
      obtain ⟨front, rfl⟩ := List.getLast?_eq_some_iff.mp hlast
      exact Text.infix_of_sameButSpaces (by decide) (by decide) (by decide) hspaces
        (List.suffix_append front ['#']).isInfix
    obtain ⟨domain, hdomain⟩ := exists_mem_domains (hsign.subset List.mem_cons_self)
    have hnot : ¬ HidesAlike g f := not_hidesAlike_of_cons (by decide) hne hg hgains hdomain
    exact ⟨f, hf, fun _ hother => absurd hlast hother, fun _ _ _ _ _ _ =>
      iff_of_false hnot fun h => h.2 hlast⟩
  · obtain ⟨f, hf, hgains⟩ := exists_addPerDomain? (h := h) (hkept hlast) hne hvalid
    have hperm := hidesAlike_iff_perm hne hg hgains
    refine ⟨f, hf, fun halike _ => ?_, fun before item item' after hlist hlist' => ?_⟩
    · rw [hperm, domains_congr hspaces halike]
    · rw [hperm, domains_perm_iff hlist hlist', and_iff_left hlast]
      refine named?_eq_iff ?_
      have hitems := List.forall₂_drop before.length hspaces
      rw [hlist, hlist', List.drop_left, List.drop_left] at hitems
      exact (List.forall₂_cons.mp hitems).1

/-- Around a name, and behind a sign, spaces are of no account. -/
theorem spaces_around_domains_behind :
    let list := "example.com,~news.example.com ,~pregecko2".toList
    let list' := "  example.com ,~news.example.com,~pregecko2".toList
    let selector := ".ad".toList
    Text.splitOnce ['#', '#'] (list ++ ['#', '#'] ++ selector) = some (list, selector) ∧
      List.Forall₂ Text.SameButSpaces (Text.splitOn ',' list) (Text.splitOn ',' list') ∧
      List.Forall₂ ReadAlike (Text.splitOn ',' list) (Text.splitOn ',' list') ∧
      list'.getLast? ≠ some '#' ∧
      ∃ g f, addPerDomain? {} (list ++ ['#', '#'] ++ selector) ['#', '#'] = some g ∧
        addPerDomain? {} (list' ++ ['#', '#'] ++ selector) ['#', '#'] = some f ∧
        HidesAlike g f := by
  intro list list' selector
  have hsplit : Text.splitOnce ['#', '#'] (list ++ ['#', '#'] ++ selector) =
      some (list, selector) := by decide
  have hspaces : List.Forall₂ Text.SameButSpaces (Text.splitOn ',' list) (Text.splitOn ',' list') :=
    .cons ⟨"example.com".toList, 0, 0, 2, 1, rfl, rfl⟩
      (.cons ⟨"~news.example.com".toList, 0, 1, 0, 0, rfl, rfl⟩
        (.cons ⟨"~pregecko2".toList, 0, 0, 0, 0, rfl, rfl⟩ .nil))
  have halike : List.Forall₂ ReadAlike (Text.splitOn ',' list) (Text.splitOn ',' list') :=
    .cons ⟨by decide, by decide⟩ (.cons ⟨by decide, by decide⟩ (.cons ⟨by decide, by decide⟩ .nil))
  have hlast : list'.getLast? ≠ some '#' := by decide
  obtain ⟨g, hg, -⟩ := exists_addPerDomain? (h := {}) hsplit (by decide) (by decide)
  obtain ⟨f, hf, hsame, -⟩ := spaces_around_domains (Or.inl rfl) hsplit hg hspaces
  exact ⟨hsplit, hspaces, halike, hlast, g, f, hg, hf, hsame halike hlast⟩

/-- A space in front of a sign is of account: the domain loses its selector. -/
theorem space_hides_sign :
    let list := "example.com,~news.example.com".toList
    let list' := "example.com, ~news.example.com".toList
    let domain := "news.example.com".toList
    List.Forall₂ Text.SameButSpaces (Text.splitOn ',' list) (Text.splitOn ',' list') ∧
      (addPerDomain? {} (list ++ "##.ad".toList) ['#', '#']).map (·.cssFor domain) =
        some ".ad".toList ∧
      (addPerDomain? {} (list' ++ "##.ad".toList) ['#', '#']).map (·.cssFor domain) = some [] := by
  refine ⟨?_, by decide +kernel, by decide +kernel⟩
  exact .cons ⟨"example.com".toList, 0, 0, 0, 0, rfl, rfl⟩
    (.cons ⟨"~news.example.com".toList, 0, 0, 1, 0, rfl, rfl⟩ .nil)

end ElementHiding

end RequestFilter
