import RequestFilter.Cli.Lists
import RequestFilter.Proofs.TimelyFetches

/-!
# The counters of loads

Every line that is loaded counts once by what became of it, and what is counted is there: as many
patterns as rules, and no more selectors for every site than were accepted.

* `RuleSet.Adds`: what the counters of a load say about the rules before and behind it,
  `adds_addLine`: **a line counts for what it adds**; `adds_loadBytes`: so does a list;
* `Tester.Accounted`: the counters of a tester say how its rules came from nothing,
  `accounted_apply`: every operation keeps that, because a reload forgets both;
* `accounted_addFiles`: so it is with lists from files;
* `load_stats_balance`: **the counters of a tester balance behind every run, and so do those of
  compiled lists**.

NOT here: which lines hold a rule (`RuleSet.rulesOf`), and how many selectors there are for single
domains.
-/

namespace RequestFilter

/-! ## 1. One line -/

namespace ElementHiding

variable {h next : ElementHiding}

theorem genericCount_of_addGeneric? {selector : Text} (hadd : h.addGeneric? selector = some next) :
    next.genericCount = h.genericCount + 1 := by
  unfold addGeneric? at hadd
  split at hadd
  · obtain rfl := Option.some.inj hadd
    exact List.length_append
  · cases hadd

/-- What is added for single domains is not for every site. -/
theorem genericCount_of_addPerDomain? {line separator : Text}
    (hadd : h.addPerDomain? line separator = some next) : next.genericCount = h.genericCount := by
  have hfold : ∀ (selector : Text) (domains : List Text) (h : ElementHiding),
      (domains.foldl (addFor · selector ·) h).genericCount = h.genericCount := by
    intro selector domains
    induction domains with
    | nil => exact fun _ => rfl
    | cons domain domains ih => exact fun h => ih (h.addFor selector domain)
  obtain ⟨⟨list, selector⟩, -, hsome⟩ := Option.bind_eq_some_iff.mp hadd
  simp only at hsome
  split at hsome
  · cases hsome
  · obtain rfl := Option.some.inj hsome
    exact hfold selector (domains list) h

end ElementHiding

/-- The lines by what became of them, all in all. -/
def LoadStats.accountedLines (n : LoadStats) : Nat :=
  n.rules + n.shadowed + n.comments + n.whitelist + n.sections + n.domainScoped + n.subdocument +
    n.hiderAccepted + n.hiderRejected + n.invalid + n.tooLong

theorem LoadStats.accountedLines_merge (m n : LoadStats) :
    (m.merge n).accountedLines = m.accountedLines + n.accountedLines := by
  simp only [accountedLines, merge]
  omega

/-- A line counts as one, and for one thing. -/
theorem LineResult.accountedLines_stats (result : LineResult) :
    result.stats.lines = 1 ∧ result.stats.accountedLines = 1 := by
  cases result <;> exact ⟨rfl, rfl⟩

namespace RuleSet

/-- What the counters of a load say: every line was counted for one thing, every rule that was
    indexed brought a pattern, and every selector for every site was accepted. -/
structure Adds (s : RuleSet) (n : LoadStats) (t : RuleSet) : Prop where
  lines : n.lines = n.accountedLines
  patterns : t.index.stats.patterns = s.index.stats.patterns + n.rules
  generic : t.hider.genericCount ≤ s.hider.genericCount + n.hiderAccepted

theorem Adds.refl (s : RuleSet) : Adds s {} s := ⟨rfl, rfl, Nat.le_refl _⟩

theorem Adds.trans {s t u : RuleSet} {m n : LoadStats} (h : Adds s m t) (h' : Adds t n u) :
    Adds s (m.merge n) u where
  lines := by
    rw [LoadStats.accountedLines_merge, ← h.lines, ← h'.lines]
    rfl
  patterns := by
    rw [h'.patterns, h.patterns, Nat.add_assoc]
    rfl
  generic := by
    have hlater := h'.generic
    have hfirst := h.generic
    simp only [LoadStats.merge]
    omega

section Line

variable (s : RuleSet) (maxLine number : Nat) (line : Text)

theorem hider_addRule (r : Rule) : (s.addRule number r).rules.hider = s.hider := by
  unfold addRule
  split
  · rfl
  · rfl
  · simp only
    split <;> rfl

/-- A selector is accepted if it is taken in. -/
theorem genericCount_addSelector {hider : Option ElementHiding}
    (h : ∀ next, hider = some next → next.genericCount ≤ s.hider.genericCount + 1) :
    (s.addSelector hider).rules.hider.genericCount ≤
      s.hider.genericCount + (s.addSelector hider).result.stats.hiderAccepted := by
  cases hider with
  | none => exact Nat.le_add_right _ _
  | some next => exact h next rfl

theorem genericCount_addLine : (s.addLine maxLine number line).rules.hider.genericCount ≤
    s.hider.genericCount + (s.addLine maxLine number line).result.stats.hiderAccepted := by
  unfold addLine
  split
  · exact Nat.le_add_right _ _
  cases LineKind.classify line with
  | elementHider selector =>
    exact genericCount_addSelector s fun next hadd =>
      Nat.le_of_eq (ElementHiding.genericCount_of_addGeneric? hadd)
  | domainHider line separator =>
    exact genericCount_addSelector s fun next hadd =>
      Nat.le_succ_of_le (Nat.le_of_eq (ElementHiding.genericCount_of_addPerDomain? hadd))
  | rule r =>
    simp only [hider_addRule]
    exact Nat.le_add_right _ _
  | _ => exact Nat.le_add_right _ _

theorem patterns_addLine : (s.addLine maxLine number line).rules.index.stats.patterns =
    s.index.stats.patterns + (s.addLine maxLine number line).result.stats.rules := by
  cases hrule : ruleOn? maxLine line with
  | none =>
    obtain ⟨hindex, hresult⟩ := addLine_of_no_rule (s := s) number hrule
    rw [hindex, (LineResult.stats_of_not_isRule hresult).1, Nat.add_zero]
  | some c =>
    obtain ⟨hindex, hresult⟩ := addLine_of_rule (s := s) number hrule
    rw [hindex, hresult, LineResult.stats_ofOutcome]
    cases hplace : c.place s.index with
    | mk o J =>
      rcases CompiledRule.place_cases hplace with ⟨rfl, hfiled⟩ | ⟨rfl, rfl⟩
      · exact (congrArg Array.size hfiled.patterns).trans (Array.size_push _)
      · rfl

/-- **A line counts for what it adds.** -/
theorem adds_addLine : Adds s (s.addLine maxLine number line).result.stats
    (s.addLine maxLine number line).rules where
  lines := by
    obtain ⟨hone, hsum⟩ :=
      LineResult.accountedLines_stats (s.addLine maxLine number line).result
    rw [hone, hsum]
  patterns := patterns_addLine s maxLine number line
  generic := genericCount_addLine s maxLine number line

end Line

theorem adds_loadLines (maxLine number : Nat) (s : RuleSet) (lines : List Text) :
    Adds s (loadLines maxLine number s lines).result (loadLines maxLine number s lines).rules := by
  induction lines generalizing number s with
  | nil => exact .refl s
  | cons line lines ih => exact (adds_addLine s maxLine number _).trans (ih _ _)

/-- **A list counts for what it adds.** -/
theorem adds_loadBytes (s : RuleSet) (maxLine : Nat) (path : Text) (content : Bytes) :
    Adds s (s.loadBytes maxLine path content).result (s.loadBytes maxLine path content).rules :=
  adds_loadLines maxLine 1 s (Text.lines (Text.ofBytesLossy content))

end RuleSet

/-! ## 2. A tester -/

/-- The counters say how the rules came from nothing. -/
def Tester.Accounted (t : Tester) : Prop := RuleSet.Adds {} t.loadStats t.rules

theorem Tester.Accounted.takeIn {t : Tester} (h : t.Accounted) (path : Path) (content : Bytes) :
    (t.takeIn path content).Accounted :=
  h.trans (RuleSet.adds_loadBytes t.rules t.config.maxLineLen.toNat path content)

namespace Session

/-- Where nothing is there, nothing was counted. -/
theorem Blank.accounted {s : Session} (h : s.Blank) : s.tester.Accounted := by
  unfold Tester.Accounted
  rw [h.rules, h.loadStats]
  exact .refl _

theorem accounted_loadSubscriptions {s : Session} (h : s.tester.Accounted) (now : Nat) :
    (s.loadSubscriptions now).tester.Accounted := by
  refine loadSubscriptions_induction (P := fun s => s.tester.Accounted) ?_ ?_ ?_ h now
  · rintro s t hs ⟨-, state, htester⟩
    rw [htester]
    exact hs
  · intro s url path hs
    rw [tester_loadPath]
    split
    · exact hs
    · exact hs.takeIn path _
  · exact fun _ _ _ hs => hs

theorem accounted_start {config : Config} {files : FileTree} {now : Nat} {s₀ : Session}
    (h : (start config files now).2 = .ok s₀) : s₀.tester.Accounted := by
  obtain ⟨filters, files, events, rfl⟩ := exists_of_start h
  exact accounted_loadSubscriptions (Blank.accounted ⟨rfl, rfl, rfl, rfl⟩) now

/-- A reload forgets the rules together with their counters. -/
theorem accounted_reload (s : Session) (now : Nat) : (s.reload now).tester.Accounted := by
  obtain ⟨events, hreload⟩ := exists_of_reload s now
  rw [hreload]
  exact accounted_loadSubscriptions (Blank.accounted ⟨rfl, rfl, rfl, rfl⟩) now

theorem accounted_completeFetch {s : Session} (h : s.tester.Accounted) (c : FetchCompletion) :
    (s.completeFetch c).tester.Accounted := by
  rw [tester_completeFetch, Tester.fetchEnds]
  have hstops : (s.tester.stopWaiting c.request.sourceUrl).Accounted := h
  split
  · exact h
  split
  · exact hstops
  split
  · exact hstops
  split
  · exact hstops
  · exact hstops.takeIn _ _

/-- **Every operation keeps the accounts.** -/
theorem accounted_apply {s : Session} (h : s.tester.Accounted) (op : Operation) :
    (s.apply op).tester.Accounted := by
  cases op with
  | query r => exact h
  | setFilters now filters =>
    obtain ⟨files, hset⟩ := exists_of_setFilters s now filters
    rw [apply, hset]
    exact h
  | reload now => exact accounted_reload s now
  | editFilters now filters =>
    have hforgets : (Operation.editFilters now filters).forgets = true := rfl
    obtain ⟨t, later, -, hreload⟩ := exists_reload hforgets s
    rw [hreload]
    exact accounted_reload t later
  | completeFetch c => exact accounted_completeFetch h c
  | fileChange files => exact h

theorem accounted_run {s : Session} (h : s.tester.Accounted) (ops : List Operation) :
    (s.run ops).tester.Accounted := by
  induction ops generalizing s with
  | nil => exact h
  | cons op ops ih => exact ih (accounted_apply h op)

end Session

/-! ## 3. Lists from files -/

theorem Cli.CompiledLists.accounted_addFiles {files : FileTree} {maxLine number : Nat}
    {c d : CompiledLists} {paths : List Path} (h : RuleSet.Adds {} c.stats c.rules)
    (hd : (addFiles files maxLine number c paths).result = .ok d) :
    RuleSet.Adds {} d.stats d.rules := by
  induction paths generalizing number c with
  | nil =>
    obtain rfl := Except.ok.inj hd
    exact h
  | cons path paths ih =>
    unfold addFiles at hd
    cases hread : files.read path with
    | error e =>
      rw [hread] at hd
      cases hd
    | ok content =>
      rw [hread] at hd
      exact ih (h.trans (RuleSet.adds_loadBytes c.rules maxLine path content)) hd

/-! ## 4. The balance -/

/-- The counters balance: each line was counted for one thing, each pattern as one rule, and each
    selector for every site as accepted. -/
structure RuleSet.Balance (s : RuleSet) (n : LoadStats) : Prop where
  lines : n.lines = n.rules + n.shadowed + n.comments + n.whitelist + n.sections + n.domainScoped +
    n.subdocument + n.hiderAccepted + n.hiderRejected + n.invalid + n.tooLong
  rules : n.rules = s.index.stats.patterns
  generic : s.hider.genericCount ≤ n.hiderAccepted

/-- What came from nothing balances. -/
theorem RuleSet.Adds.balance {s : RuleSet} {n : LoadStats} (h : Adds {} n s) : s.Balance n where
  lines := h.lines
  rules := (h.patterns.trans (Nat.zero_add _)).symm
  generic := Nat.le_trans h.generic (Nat.le_of_eq (Nat.zero_add _))

/-- **The counters of loads balance**: those of a tester whatever has been done to it since the
    start, and those of lists that were compiled from files. -/
theorem load_stats_balance :
    (∀ (config : Config) (files : FileTree) (now : Nat) (s₀ : Session),
      (Session.start config files now).2 = .ok s₀ → ∀ ops : List Session.Operation,
        (s₀.run ops).tester.rules.Balance (s₀.run ops).tester.loadStats) ∧
    ∀ (files : FileTree) (maxLine : Nat) (paths : List Path) (c : Cli.CompiledLists),
      (Cli.CompiledLists.ofFiles files maxLine paths).result = .ok c → c.rules.Balance c.stats := by
  constructor
  · intro config files now s₀ hstart ops
    exact (Session.accounted_run (Session.accounted_start hstart) ops).balance
  · intro files maxLine paths c hc
    unfold Cli.CompiledLists.ofFiles at hc
    split at hc
    · cases hc
    · exact (Cli.CompiledLists.accounted_addFiles (.refl _) hc).balance

/-- A list with a rule, the same once more, a selector, a comment and a broken expression. -/
def mixedFiles : FileTree where
  entries := Std.TreeMap.ofList
    [(["l".toList],
      Entry.file (Text.toBytes "||ads^\n||ads^\n##.ad\n! ads\n/(/\n".toList) 0)]

/-- The tester of `Session.lateConfig` has its one rule, and of the five lines of the other list
    each counts for something else. -/
theorem load_stats_balance_mixed :
    (∃ s₀, (Session.start Session.lateConfig {} 0).2 = .ok s₀ ∧
      (s₀.run Session.lateRun).index.stats.patterns = 1 ∧
      (s₀.run Session.lateRun).tester.rules.Balance (s₀.run Session.lateRun).tester.loadStats) ∧
    ∃ c, (Cli.CompiledLists.ofFiles mixedFiles 2000 ["/l".toList]).result = .ok c ∧
      c.stats = { lines := 5, rules := 1, shadowed := 1, comments := 1, hiderAccepted := 1,
                  invalid := 1 } ∧
      c.rules.Balance c.stats := by
  constructor
  · obtain ⟨s₀, hstart, hone⟩ := exists_ok_of_map (show
      (Session.start Session.lateConfig {} 0).2.toOption.map
        (fun s => (s.run Session.lateRun).index.stats.patterns) = some 1 by decide +kernel)
    exact ⟨s₀, hstart, hone, load_stats_balance.1 _ _ _ s₀ hstart Session.lateRun⟩
  · obtain ⟨c, hc, hstats⟩ := exists_ok_of_map (show
      (Cli.CompiledLists.ofFiles mixedFiles 2000 ["/l".toList]).result.toOption.map (·.stats) =
        some { lines := 5, rules := 1, shadowed := 1, comments := 1, hiderAccepted := 1,
               invalid := 1 } by decide +kernel)
    exact ⟨c, hc, hstats, load_stats_balance.2 _ _ _ c hc⟩

end RequestFilter
