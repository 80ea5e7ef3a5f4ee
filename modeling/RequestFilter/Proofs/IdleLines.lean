import RequestFilter.Proofs.Accounts
import RequestFilter.Proofs.SharedKeys
import RequestFilter.Proofs.SplitLists

/-!
# Idle lines

Most lines of a list have no say in what is blocked, and most have none in what is hidden. They may
be deleted: the index comes to the same from the lines alone whose rules are filed, and the element
hiding from the lines alone whose selectors are accepted. And a rule that asks for what is not
supported leaves no trace.

* `Text.rawLines`: the lines of a text with their ends, so that a text without some of its lines is
  a text again (`rawLines_flatten`);
* `Rule.options_of_compile`: **no rule that compiles asks for subdocuments**;
  `LineKind.of_classify_eq_rule`: and none stands on a line that names a domain;
* `index_takeIn`, `hider_takeIn`: what a line does to either part of a rule set;
* `RuleSet.keptLines`: a list without the lines that are idle when they come in; `SelfContained`: a
  part of a rule set to which nothing else matters, `SelfContained.foldl_keptLines`: **it comes to
  the same from the lines that are kept**;
* `load_thinned`: **idle lines have no influence**.

NOT here: what the counters and the reports of a load say of idle lines (`Proofs/Accounts.lean`).
-/

namespace RequestFilter

/-! ## 1. Lines with their ends -/

namespace Text

/-- The lines of a text, each with the newline that ends it. -/
def rawLines : Text → List Text
  | [] => []
  | '\n' :: rest => ['\n'] :: rawLines rest
  | c :: rest =>
    match rawLines rest with
    | [] => [[c]]
    | line :: more => (c :: line) :: more

theorem rawLines_newline (t : Text) : rawLines ('\n' :: t) = ['\n'] :: rawLines t := rfl

theorem rawLines_cons {c : Char} (hc : c ≠ '\n') (t : Text) :
    rawLines (c :: t) = match rawLines t with
      | [] => [[c]]
      | line :: more => (c :: line) :: more := rawLines.eq_3 c t hc

/-- **Some of the lines of a text are the lines of the text that they make.** -/
theorem rawLines_flatten {t : Text} {lines : List Text} (h : lines.Sublist (rawLines t)) :
    rawLines lines.flatten = lines := by
  induction t generalizing lines with
  | nil => rw [List.sublist_nil.mp h]; rfl
  | cons c t ih =>
    by_cases hc : c = '\n'
    · rw [hc, rawLines_newline] at h
      cases h with
      | cons _ h => exact ih h
      | cons_cons _ h => exact congrArg (List.cons ['\n']) (ih h)
    · rw [rawLines_cons hc] at h
      cases hraw : rawLines t with
      | nil =>
        rw [hraw] at h
        cases h with
        | cons _ h => rw [List.sublist_nil.mp h]; rfl
        | cons_cons _ h => rw [List.sublist_nil.mp h]; exact rawLines_cons hc []
      | cons line more =>
        rw [hraw] at h ih
        cases h with
        | cons _ h => exact ih (h.cons line)
        | @cons_cons rest _ _ h =>
          -- without its first character the first line is one of the rest of the text
          have hrest := ih (h.cons_cons line)
          rw [List.flatten_cons] at hrest
          rw [List.flatten_cons, List.cons_append, rawLines_cons hc, hrest]

/-- Texts that differ in the blanks at their ends do so behind any character. -/
theorem trimEnd_cons_congr {s t : Text} (c : Char) (h : trimEnd s = trimEnd t) :
    trimEnd (c :: s) = trimEnd (c :: t) := by
  have hdrop := List.reverse_injective h
  rw [trimEnd, trimEnd, List.reverse_cons, List.reverse_cons, List.dropWhile_append,
    List.dropWhile_append, hdrop]

/-- The end of a line is blank. -/
theorem map_trimEnd_rawLines (t : Text) : (rawLines t).map trimEnd = (lines t).map trimEnd := by
  induction t with
  | nil => rfl
  | cons c t ih =>
    by_cases hc : c = '\n'
    · rw [hc]
      exact congrArg (List.cons []) ih
    by_cases ht : c = '\r' ∧ t.head? = some '\n'
    · obtain ⟨rfl, hnewline⟩ := ht
      obtain ⟨more, rfl⟩ := List.head?_eq_some_iff.mp hnewline
      rw [lines_crlf, ← ih]
      rfl
    rw [rawLines_cons hc, lines_cons hc ht]
    cases hraw : rawLines t with
    | nil =>
      rw [hraw, List.map_nil, eq_comm, List.map_eq_nil_iff] at ih
      rw [ih]
    | cons raw others =>
      cases hlines : lines t with
      | nil => simp [hraw, hlines] at ih
      | cons line more =>
        rw [hraw, hlines, List.map_cons, List.map_cons, List.cons.injEq] at ih
        simp only [List.map_cons]
        rw [trimEnd_cons_congr c ih.1, ih.2]

end Text

/-! ## 2. What is not supported -/

namespace Rule

/-- Options that do not ask for subdocuments do not do so in any case of the letters. -/
theorem notInfix_of_asksForSubdocuments {options : Text}
    (h : asksForSubdocuments options = false) {word : Text}
    (hword : word.equalsIgnoringCase "subdocument".toList = true) : ¬ word <:+: options := by
  intro hinfix
  have hlower : word.map Char.toLower = "subdocument".toList.map Char.toLower :=
    beq_iff_eq.mp hword
  have hoccurs : "subdocument".toList <:+: options.map Char.toLower := by
    have hmap := hinfix.map Char.toLower
    rwa [hlower] at hmap
  rw [asksForSubdocuments, Text.occursIn_iff.mpr hoccurs] at h
  cases h

theorem asksForSubdocuments_of_compileLiteral {line body options : Text} {c : CompiledRule}
    (h : compileLiteral line body options = .ok c) : asksForSubdocuments options = false := by
  by_contra hasks
  rw [compileLiteral, if_pos (Bool.eq_true_of_not_eq_false hasks)] at h
  cases h

theorem asksForSubdocuments_of_compileGlob {anchor glob options : Text} {c : CompiledRule}
    (h : compileGlob anchor glob options = .ok c) : asksForSubdocuments options = false := by
  by_contra hasks
  rw [compileGlob, if_pos (Bool.eq_true_of_not_eq_false hasks)] at h
  split at h <;> cases h

/-- **No rule that compiles asks for subdocuments**, and its options are those on its line. -/
theorem options_of_compile {r : Rule} {c : CompiledRule} (h : r.compile = .ok c) :
    ∃ o, c.pattern.options = some o ∧ asksForSubdocuments o = false ∧
      (o = (splitOptions r.body r.kind).2 ∨
        ∃ body options, regexLiteral? r.body = some (body, options) ∧
          o = joinOptions r.kind options) := by
  unfold compile at h
  split at h
  · rename_i body options hlit
    obtain ⟨-, hwritten⟩ := Option.ite_none_right_eq_some.mp hlit
    obtain ⟨hpattern, -⟩ := compileLiteral_eq_ok h
    exact ⟨_, (compilePattern_eq_ok hpattern).2.2, asksForSubdocuments_of_compileLiteral h,
      .inr ⟨body, options, hwritten, rfl⟩⟩
  · obtain ⟨hpattern, -⟩ := compileGlob_eq_ok h
    exact ⟨_, (compilePattern_eq_ok hpattern).2.2, asksForSubdocuments_of_compileGlob h, .inl rfl⟩

section Stretches

variable {w : Text} (hcomma : ',' ∉ w)
include hcomma

/-- A word among the options stands in the tag or in what is written behind the pattern. -/
theorem infix_of_infix_joinOptions {kind : RuleKind} {options : Option Text}
    (h : w <:+: joinOptions kind options) : w <:+: kind.tag ∨ ∃ o, options = some o ∧ w <:+: o := by
  unfold joinOptions at h
  split at h
  · exact .inl h
  · exact .inl h
  · rename_i options hne
    exact (Text.infix_or_infix_of_infix_append_sep hcomma h).imp_right fun ho => ⟨options, rfl, ho⟩

theorem infix_of_infix_splitOptions (hw : w ≠ []) {line : Text} {kind : RuleKind}
    (h : w <:+: (splitOptions line kind).2) : w <:+: kind.tag ∨ w <:+: line := by
  have hpiece : ∀ piece ∈ Text.splitOn '$' line, piece <:+: line :=
    fun _ => Text.infix_of_mem_splitOn
  unfold splitOptions at h
  split at h
  · exact .inl h
  · exact .inl h
  · rename_i pattern options hsplit
    refine (infix_of_infix_joinOptions hcomma h).imp_right ?_
    rintro ⟨o, heq, ho⟩
    obtain rfl := Option.some.inj heq
    exact ho.trans (hpiece _ (by simp [hsplit]))
  · rename_i first second rest hrest hsplit
    refine (infix_of_infix_joinOptions hcomma h).imp_right ?_
    rintro ⟨o, heq, ho⟩
    obtain rfl := Option.some.inj heq
    obtain ⟨piece, hmem, hin⟩ := Text.infix_of_infix_join hw hcomma ho
    exact hin.trans (hpiece _ (by simp [hsplit, hmem]))

/-- **A word among the options of a rule stands on its line**, or in the tag of its kind. -/
theorem infix_of_infix_options (hw : w ≠ []) {r : Rule} {c : CompiledRule}
    (h : r.compile = .ok c) {o : Text} (ho : c.pattern.options = some o) (hin : w <:+: o) :
    w <:+: r.kind.tag ∨ w <:+: r.body := by
  obtain ⟨o', ho', -, hwritten⟩ := options_of_compile h
  obtain rfl := Option.some.inj (ho.symm.trans ho')
  rcases hwritten with rfl | ⟨body, options, hlit, rfl⟩
  · exact infix_of_infix_splitOptions hcomma hw hin
  · refine (infix_of_infix_joinOptions hcomma hin).imp_right ?_
    rintro ⟨behind, rfl, hbehind⟩
    rw [eq_of_regexLiteral? hlit]
    exact hbehind.trans ⟨'/' :: body ++ ['/', '$'], [], by simp⟩

end Stretches

end Rule

/-- A line with a rule names no domain, and the rule stands at its end. -/
theorem LineKind.of_classify_eq_rule {line : Text} {r : Rule} (h : classify line = .rule r) :
    ¬ "domain=".toList <:+: line ∧ r.body <:+ line := by
  constructor
  · intro hdomain
    unfold classify at h
    -- only comments, exceptions and section tags come first
    split at h
    · cases h
    split at h
    · cases h
    split at h
    · cases h
    rw [if_pos (Text.occursIn_iff.mpr hdomain)] at h
    cases h
  · unfold classify at h
    repeat' split at h
    all_goals cases h
    · exact List.suffix_append ['|', '|'] _
    · exact List.suffix_append ['|'] _
    · exact List.suffix_refl _

/-- A pattern was there before, or is that of one of the rules that are filed. -/
theorem RuleIndex.pattern_fileAll {I : RuleIndex} {cs : List CompiledRule} {id : PatternId}
    {p : Pattern} (h : (I.fileAll cs).2.pattern id = some p) :
    I.pattern id = some p ∨ ∃ c ∈ cs, c.pattern = p := by
  induction cs generalizing I with
  | nil => exact .inl h
  | cons c cs ih =>
    rw [RuleIndex.fileAll_cons] at h
    rcases ih h with hfirst | ⟨d, hd, hp⟩
    · cases hplace : c.place I with
      | mk o J =>
        rw [hplace] at hfirst
        rcases CompiledRule.place_cases hplace with ⟨-, hfiled⟩ | ⟨-, rfl⟩
        · exact (hfiled.pattern_cases hfirst).imp_right
            fun hnew => ⟨c, List.mem_cons_self, hnew.2.symm⟩
        · exact .inl hfirst
    · exact .inr ⟨d, List.mem_cons_of_mem c hd, hp⟩

namespace RuleSet

/-- **A pattern that a list adds has supported options**: they name no domain and do not ask for
    subdocuments. -/
theorem options_of_added {s : RuleSet} {maxLine : Nat} {text : Text} {id : PatternId} {p : Pattern}
    (hid : s.index.patterns.size ≤ id)
    (hp : (s.load maxLine text).rules.index.pattern id = some p) :
    ∃ o, p.options = some o ∧ ¬ "domain=".toList <:+: o ∧
      Rule.asksForSubdocuments o = false := by
  rw [(RuleIndex.tallies_load s maxLine text).index] at hp
  have hnew : s.index.pattern id = none := Array.getElem?_eq_none hid
  rcases RuleIndex.pattern_fileAll hp with hold | ⟨c, hc, rfl⟩
  · rw [hnew] at hold
    cases hold
  obtain ⟨r, ⟨line, -, -, hkind⟩, hcompile⟩ := exists_brings_of_mem_rulesOf hc
  obtain ⟨o, ho, hasks, -⟩ := Rule.options_of_compile hcompile
  obtain ⟨hdomain, hbody⟩ := LineKind.of_classify_eq_rule hkind
  refine ⟨o, ho, fun hin => ?_, hasks⟩
  rcases Rule.infix_of_infix_options (by decide) (by decide) hcompile ho hin with htag | hline
  · cases hkindOf : r.kind <;> rw [hkindOf] at htag <;> exact absurd htag (by decide)
  · exact hdomain (hline.trans hbody.isInfix)

/-! ## 3. One line -/

/-- Takes in one line of a list. -/
def takeIn (maxLine : Nat) (s : RuleSet) (line : Text) : RuleSet :=
  (s.addLine maxLine 1 (Text.trimEnd line)).rules

theorem rules_loadLines (maxLine number : Nat) (s : RuleSet) (lines : List Text) :
    (loadLines maxLine number s lines).rules = lines.foldl (takeIn maxLine) s := by
  induction lines generalizing number s with
  | nil => rfl
  | cons line lines ih =>
    obtain ⟨hrules, -⟩ := s.addLine_number maxLine (Text.trimEnd line) number 1
    rw [loadLines, List.foldl_cons, takeIn, ← hrules]
    exact ih (number + 1) _

/-- **A list is taken in line by line**, and how a line ends does not matter. -/
theorem rules_load_rawLines (s : RuleSet) (maxLine : Nat) (text : Text) :
    (s.load maxLine text).rules = (Text.rawLines text).foldl (takeIn maxLine) s := by
  have htrim : ∀ lines : List Text, lines.foldl (takeIn maxLine) s =
      (lines.map Text.trimEnd).foldl (fun s line => (s.addLine maxLine 1 line).rules) s := by
    intro lines
    rw [List.foldl_map]
    rfl
  rw [load, rules_loadLines, htrim, ← Text.map_trimEnd_rawLines, ← htrim]

/-- The line adds a rule to the index: it is not too long, it is a URL rule, and this compiles and
    is not shadowed. -/
def addsRule (maxLine : Nat) (I : RuleIndex) (line : Text) : Bool :=
  line.byteSize ≤ maxLine && match LineKind.classify line with
    | .rule r => match I.compileRule r with
      | .ok (o, _) => o.isIndexed
      | .error _ => false
    | _ => false

end RuleSet

/-- Adds the selector on a line; none if the line is too long or has no selector, or if the selector
    is refused. -/
def ElementHiding.addLine? (h : ElementHiding) (maxLine : Nat) (line : Text) :
    Option ElementHiding :=
  if maxLine < line.byteSize then none
  else match LineKind.classify line with
    | .elementHider selector => h.addGeneric? selector
    | .domainHider line separator => h.addPerDomain? line separator
    | _ => none

namespace RuleSet

variable {maxLine : Nat}

theorem addsRule_of_ruleOn? {I : RuleIndex} {line : Text} {c : CompiledRule}
    (h : ruleOn? maxLine line = some c) : addsRule maxLine I line = (c.place I).1.isIndexed := by
  obtain ⟨hlong, r, hkind, hr⟩ := ruleOn?_eq_some.mp h
  simp [addsRule, hkind, RuleIndex.compileRule, hr, Except.map, Nat.not_lt.mp hlong]

/-- What a line does to the index is up to its rule. -/
theorem index_takeIn (s : RuleSet) (line : Text) : (s.takeIn maxLine line).index =
    ((ruleOn? maxLine (Text.trimEnd line)).map fun c => (c.place s.index).2).getD s.index := by
  cases hrule : ruleOn? maxLine (Text.trimEnd line) with
  | none => exact (addLine_of_no_rule 1 hrule).1
  | some c => exact (addLine_of_rule 1 hrule).1

/-- What a line does to the element hiding is up to its selector. -/
theorem hider_takeIn (s : RuleSet) (line : Text) : (s.takeIn maxLine line).hider =
    (s.hider.addLine? maxLine (Text.trimEnd line)).getD s.hider := by
  have hselector : ∀ hider : Option ElementHiding,
      (s.addSelector hider).rules.hider = hider.getD s.hider := by
    rintro (_ | hider) <;> rfl
  unfold takeIn addLine ElementHiding.addLine?
  split
  · rfl
  cases LineKind.classify (Text.trimEnd line) with
  | elementHider selector => exact hselector _
  | domainHider line separator => exact hselector _
  | rule r => exact hider_addRule s 1 r
  | _ => rfl

/-! ## 4. Deletion -/

/-- The lines of a list that are to be kept. It is asked of the rule set that a line finds whether it
    is, behind all lines in front of it, kept or not. -/
def keptLines (maxLine : Nat) (keep : RuleSet → Text → Bool) : RuleSet → List Text → List Text
  | _, [] => []
  | s, line :: lines =>
    let later := keptLines maxLine keep (s.takeIn maxLine line) lines
    if keep s (Text.trimEnd line) then line :: later else later

/-- A list without the lines that are not to be kept. -/
def thinned (s : RuleSet) (maxLine : Nat) (keep : RuleSet → Text → Bool) (text : Text) : Text :=
  (keptLines maxLine keep s (Text.rawLines text)).flatten

theorem sublist_keptLines (keep : RuleSet → Text → Bool) (s : RuleSet) (lines : List Text) :
    (keptLines maxLine keep s lines).Sublist lines := by
  induction lines generalizing s with
  | nil => exact .slnil
  | cons line lines ih =>
    unfold keptLines
    split
    · exact (ih _).cons_cons line
    · exact (ih _).cons line

/-- A part of a rule set to which nothing else matters, and which a line that is not to be kept
    leaves as it is. -/
structure SelfContained {α : Type} (maxLine : Nat) (part : RuleSet → α)
    (keep : RuleSet → Text → Bool) : Prop where
  congr : ∀ {s t : RuleSet} (line : Text), part s = part t →
    part (s.takeIn maxLine line) = part (t.takeIn maxLine line)
  idle : ∀ {s : RuleSet} {line : Text}, keep s (Text.trimEnd line) = false →
    part (s.takeIn maxLine line) = part s

namespace SelfContained

variable {α : Type} {part : RuleSet → α} {keep : RuleSet → Text → Bool} {s t : RuleSet}

theorem foldl_takeIn (h : SelfContained maxLine part keep) (hpart : part s = part t)
    (lines : List Text) :
    part (lines.foldl (takeIn maxLine) s) = part (lines.foldl (takeIn maxLine) t) := by
  induction lines generalizing s t with
  | nil => exact hpart
  | cons line lines ih => exact ih (h.congr line hpart)

/-- **It comes to the same from the lines that are kept.** -/
theorem foldl_keptLines (h : SelfContained maxLine part keep) (hpart : part s = part t)
    (lines : List Text) : part (lines.foldl (takeIn maxLine) s) =
      part ((keptLines maxLine keep s lines).foldl (takeIn maxLine) t) := by
  -- the second rule set has missed the idle lines, which matter to the other part only
  induction lines generalizing s t with
  | nil => exact hpart
  | cons line lines ih =>
    rw [List.foldl_cons, keptLines]
    cases hkeep : keep s (Text.trimEnd line) with
    | true =>
      rw [if_pos rfl, List.foldl_cons]
      exact ih (h.congr line hpart)
    | false =>
      rw [if_neg Bool.false_ne_true]
      exact ih ((h.idle hkeep).trans hpart)

/-- So it is with lists. -/
theorem load (h : SelfContained maxLine part keep) (hpart : part t = part s) (text : Text) :
    part (t.load maxLine text).rules = part (s.load maxLine text).rules ∧
      part (t.load maxLine (s.thinned maxLine keep text)).rules =
        part (s.load maxLine text).rules := by
  simp only [rules_load_rawLines]
  refine ⟨h.foldl_takeIn hpart _, ?_⟩
  rw [thinned, Text.rawLines_flatten (sublist_keptLines keep s _)]
  exact (h.foldl_keptLines hpart.symm _).symm

end SelfContained

theorem selfContained_index (maxLine : Nat) :
    SelfContained maxLine RuleSet.index fun s line => addsRule maxLine s.index line where
  congr line hindex := by rw [index_takeIn, index_takeIn, hindex]
  idle {s line} hidle := by
    rw [index_takeIn]
    cases hrule : ruleOn? maxLine (Text.trimEnd line) with
    | none => rfl
    | some c =>
      rw [addsRule_of_ruleOn? hrule] at hidle
      cases hplace : c.place s.index with
      | mk o J =>
        rw [hplace] at hidle
        rcases CompiledRule.place_cases hplace with ⟨rfl, -⟩ | ⟨-, rfl⟩
        · cases hidle
        · exact congrArg Prod.snd hplace

theorem selfContained_hider (maxLine : Nat) :
    SelfContained maxLine RuleSet.hider fun s line => (s.hider.addLine? maxLine line).isSome where
  congr line hhider := by rw [hider_takeIn, hider_takeIn, hhider]
  idle hidle := by
    rw [hider_takeIn, Option.not_isSome_iff_eq_none.mp (Bool.eq_false_iff.mp hidle)]
    rfl

/-- **Idle lines have no influence.** Whatever is in the index and in the element hiding: the index
    comes to the same from a list without the lines that add no rule to it when they come in, and
    the element hiding from the list without those that add no selector. Neither depends on how the
    other one is at first. And no pattern that is added has options that name a domain or that, in
    any case of the letters, ask for subdocuments. -/
theorem load_thinned (s : RuleSet) (maxLine : Nat) (text : Text) :
    let rules := s.thinned maxLine (fun t line => addsRule maxLine t.index line) text
    let selectors := s.thinned maxLine (fun t line => (t.hider.addLine? maxLine line).isSome) text
    let loaded := (s.load maxLine text).rules
    (∀ t : RuleSet, t.index = s.index → (t.load maxLine text).rules.index = loaded.index ∧
      (t.load maxLine rules).rules.index = loaded.index) ∧
    (∀ t : RuleSet, t.hider = s.hider → (t.load maxLine text).rules.hider = loaded.hider ∧
      (t.load maxLine selectors).rules.hider = loaded.hider) ∧
    ∀ id p, s.index.patterns.size ≤ id → loaded.index.pattern id = some p →
      ∃ o, p.options = some o ∧ ¬ "domain=".toList <:+: o ∧
        ∀ word : Text, word.equalsIgnoringCase "subdocument".toList = true → ¬ word <:+: o := by
  intro rules selectors loaded
  refine ⟨fun t ht => (selfContained_index maxLine).load ht text,
    fun t ht => (selfContained_hider maxLine).load ht text, fun id p hid hp => ?_⟩
  obtain ⟨o, ho, hdomain, hasks⟩ := options_of_added hid hp
  exact ⟨o, ho, hdomain, fun word => Rule.notInfix_of_asksForSubdocuments hasks⟩

/-- A rule set with one rule and one selector. -/
def oldRules : RuleSet := (({} : RuleSet).load 2000 "||old^\n##.old\n".toList).rules

/-- A list from which one rule and one selector are taken in. With its blanks the rule would be too
    long; it comes once more later on, and in front of it comes a rule that is shadowed at once. -/
def mostlyIdle : Text :=
  ["! ads\r\n", "||old^\n", "||ads^          \r\n", "||ads^\n", "||bannerserver^\n", "ads$domain=x\n",
    "a$SubDocument\n", "/(/\n", "##a'b\n", "x.net#@#.ad\n", "x.net##.ad\n", "*"].flatMap String.toList

/-- The rule and the selector alone come to the same. -/
theorem load_thinned_idle :
    let loaded := (oldRules.load 13 mostlyIdle).rules
    (load { index := oldRules.index } 13 "||ads^          \r\n".toList).rules.index =
        loaded.index ∧
      (load { hider := oldRules.hider } 13 "x.net##.ad\n".toList).rules.hider = loaded.hider ∧
      ∃ p o, loaded.index.pattern 1 = some p ∧ p.options = some o ∧ ¬ "domain=".toList <:+: o ∧
        ¬ "SubDocument".toList <:+: o := by
  intro loaded
  obtain ⟨hrules, hselectors, hsome⟩ :
      oldRules.thinned 13 (fun t line => addsRule 13 t.index line) mostlyIdle =
          "||ads^          \r\n".toList ∧
        oldRules.thinned 13 (fun t line => (t.hider.addLine? 13 line).isSome) mostlyIdle =
          "x.net##.ad\n".toList ∧
        (loaded.index.pattern 1).isSome = true := by
    decide +kernel
  obtain ⟨hindex, hhider, hadded⟩ := load_thinned oldRules 13 mostlyIdle
  rw [hrules] at hindex
  rw [hselectors] at hhider
  obtain ⟨p, hp⟩ := Option.isSome_iff_exists.mp hsome
  obtain ⟨o, ho, hdomain, hsubdocument⟩ := hadded 1 p (by decide +kernel) hp
  exact ⟨(hindex _ rfl).2, (hhider _ rfl).2, p, o, hp, ho, hdomain,
    hsubdocument "SubDocument".toList (by decide)⟩

end RuleSet

end RequestFilter
