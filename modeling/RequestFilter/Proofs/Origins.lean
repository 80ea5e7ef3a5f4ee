import Mathlib.Data.List.DropRight
import RequestFilter.Proofs.Recompiling
import RequestFilter.Proofs.Search

/-!
# Where a block comes from

An index goes through rules, lists and clearings. Whatever it went through, a request is blocked
exactly if some pattern that its URL leads to matches it and does not spare its page, and the
pattern that is named for a block was written since the index was last cleared.

* `Pattern.Confirms`: what it takes of a pattern to confirm a block; `search_found` says of the
  pattern that a search names that it does, and that the URL leads to it;
* `RuleIndex.StemsFrom`: every pattern and every entry of an index belongs to one of the given
  rules; `stemsFrom_place`, `stemsFrom_fileAll`: **filing such a rule keeps this**;
* `RuleSet.Change`: what can be done to an index; `sinceClear`: the changes that still count;
  `Change.Brings`: the rules that a change is written with; `stemsFrom_changes`: **an index stems
  from the rules that were written since it was last cleared**;
* `answers_plainly`: **the matcher answers by its plain definition**.

NOT here: requests whose URL the cache knows (`Proofs/Engine.lean`).
-/

namespace RequestFilter

/-! ## 1. The pattern that is named -/

/-- The pattern matches the URL, and is not one for third parties that matches the page as well. -/
def Pattern.Confirms (p : Pattern) (url : Text) (page : Option Text) : Prop :=
  p.matchesIn url = true ∧
    ¬ (p.isThirdParty = true ∧ ∃ site, page = some site ∧ p.matchesIn site = true)

namespace Matcher

theorem check_iff_confirms {p : Pattern} {url : Text} {page : Option Text} :
    (check p url page).1 = true ↔ p.Confirms url page := by
  rw [check_iff]
  refine and_congr_right fun _ => ?_
  simp only [Option.mem_def, not_and, not_exists, Bool.not_eq_true]
  exact ⟨fun h hthird site hsite => h site hsite hthird,
    fun h site hsite hthird => h hthird site hsite⟩

section Found

variable {index : RuleIndex} {url : Text} {page : Option Text} {p : Pattern}

/-- The pattern that the signatures lead to is the one of some window, and confirms the block. -/
theorem bySignature_found {windows : List Text} {rejected : List PatternId}
    (h : (bySignature index url page rejected windows).found = some p) :
    ∃ w ∈ windows, ∃ id, index.signature w = some id ∧ index.pattern id = some p ∧
      (check p url page).1 = true := by
  induction windows generalizing rejected with
  | nil => cases h
  | cons w windows ih =>
    have hlater : ∀ {rejected : List PatternId},
        (bySignature index url page rejected windows).found = some p →
        ∃ v ∈ w :: windows, ∃ id, index.signature v = some id ∧ index.pattern id = some p ∧
          (check p url page).1 = true := by
      intro rejected hfound
      obtain ⟨v, hv, hrest⟩ := ih hfound
      exact ⟨v, List.mem_cons_of_mem w hv, hrest⟩
    unfold bySignature at h
    cases hs : index.signature w with
    | none =>
      rw [hs] at h
      exact hlater h
    | some id =>
      simp only [hs] at h
      split at h
      · exact hlater h
      · cases hp : index.pattern id with
        | none =>
          simp only [hp] at h
          exact hlater h
        | some q =>
          simp only [hp] at h
          split at h
          · rename_i hconfirmed
            obtain rfl := Option.some.inj h
            exact ⟨w, List.mem_cons_self, id, hs, hp, hconfirmed⟩
          · exact hlater h

/-- The pattern that a scan stops at is one of those it went through, and confirms the block. -/
theorem byPatternMap_found {ids : List PatternId}
    (h : (byPatternMap index url page ids).found = some p) :
    ∃ id ∈ ids, index.pattern id = some p ∧ (check p url page).1 = true := by
  induction ids with
  | nil => cases h
  | cons id ids ih =>
    have hlater : (byPatternMap index url page ids).found = some p →
        ∃ i ∈ id :: ids, index.pattern i = some p ∧ (check p url page).1 = true := by
      intro hfound
      obtain ⟨i, hi, hrest⟩ := ih hfound
      exact ⟨i, List.mem_cons_of_mem id hi, hrest⟩
    unfold byPatternMap at h
    cases hp : index.pattern id with
    | none =>
      rw [hp] at h
      exact hlater h
    | some q =>
      simp only [hp] at h
      split at h
      · rename_i hconfirmed
        obtain rfl := Option.some.inj h
        exact ⟨id, List.mem_cons_self, hp, hconfirmed⟩
      · exact hlater h

/-- **The URL leads to the pattern that a search names, and this pattern confirms the block.** -/
theorem search_found {order : List PatternId} (horder : order.Perm index.fullPatternIds)
    (h : (search index order url page).found = some p) :
    ∃ id, index.LeadsTo url id ∧ index.pattern id = some p ∧ p.Confirms url page := by
  unfold search at h
  simp only at h
  split at h
  · obtain ⟨w, hw, id, hs, hp, hc⟩ := bySignature_found h
    exact ⟨id, Or.inl ⟨w, hw, hs⟩, hp, check_iff_confirms.mp hc⟩
  · obtain ⟨id, hid, hp, hc⟩ := byPatternMap_found h
    have hkey := RuleIndex.mem_fullPatternIds.mp (horder.mem_iff.mp hid)
    exact ⟨id, Or.inr hkey, hp, check_iff_confirms.mp hc⟩

/-- Where the cache does not know the URL, a block comes with the pattern that a search named. -/
theorem exists_rule_of_blocked {order : List PatternId} {memory : Memory} {r : Request}
    (hmiss : memory.cache[r.url]? = none)
    (h : (queryInOrder index order memory r).1.blocked = true) :
    ∃ p, (queryInOrder index order memory r).1.rule = some p ∧
      (search index order r.url r.page).found = some p := by
  unfold queryInOrder at h ⊢
  split at h
  · cases h
  · rename_i hpass
    simp only [hmiss, if_neg hpass] at h ⊢
    obtain ⟨p, hp⟩ := Option.isSome_iff_exists.mp h
    exact ⟨p, hp, hp⟩

end Found

end Matcher

/-! ## 2. Origins -/

namespace RuleIndex

/-- Every pattern is that of one of the given rules, and every entry leads to the pattern of a rule
    that may be filed under it. -/
structure StemsFrom (S : CompiledRule → Prop) (I : RuleIndex) : Prop where
  pattern : ∀ id p, I.pattern id = some p → ∃ c, S c ∧ c.pattern = p
  signature : ∀ s id, I.signature s = some id →
    ∃ c, S c ∧ I.pattern id = some c.pattern ∧ s ∈ c.slots
  fullPattern : ∀ k id, I.fullPattern k = some id →
    ∃ c, S c ∧ I.pattern id = some c.pattern ∧ k = c.key

section StemsFrom

variable {S T : CompiledRule → Prop} {I J : RuleIndex}

theorem stemsFrom_empty (S : CompiledRule → Prop) : StemsFrom S {} where
  pattern id p h := by simp [RuleIndex.pattern] at h
  signature s id h := by simp [RuleIndex.signature] at h
  fullPattern k id h := by simp [RuleIndex.fullPattern] at h

theorem StemsFrom.mono (h : StemsFrom S I) (hST : ∀ c, S c → T c) : StemsFrom T I where
  pattern id p hp := by
    obtain ⟨c, hc, rfl⟩ := h.pattern id p hp
    exact ⟨c, hST c hc, rfl⟩
  signature s id hs := by
    obtain ⟨c, hc, hrest⟩ := h.signature s id hs
    exact ⟨c, hST c hc, hrest⟩
  fullPattern k id hk := by
    obtain ⟨c, hc, hrest⟩ := h.fullPattern k id hk
    exact ⟨c, hST c hc, hrest⟩

/-- **Placing one of the rules keeps it.** -/
theorem stemsFrom_place (hI : StemsFrom S I) {c : CompiledRule} (hc : S c) {o : Outcome}
    (h : c.place I = (o, J)) : StemsFrom S J := by
  rcases CompiledRule.place_cases h with ⟨-, hfiled⟩ | ⟨-, rfl⟩
  · have hself := hfiled.pattern_self
    refine ⟨fun id p hp => ?_, fun s id hs => ?_, fun k id hk => ?_⟩
    · rcases hfiled.pattern_cases hp with hold | ⟨-, rfl⟩
      · exact hI.pattern id p hold
      · exact ⟨c, hc, rfl⟩
    · rcases hfiled.signature_cases hs with hold | ⟨-, hmem, rfl⟩
      · obtain ⟨d, hd, hp, hslot⟩ := hI.signature s id hold
        exact ⟨d, hd, hfiled.extends.pattern id _ hp, hslot⟩
      · exact ⟨c, hc, hself, (CompiledRule.mem_signaturesIn.mp hmem).1⟩
    · rcases hfiled.fullPattern_cases hk with hold | ⟨-, hkey, rfl⟩
      · obtain ⟨d, hd, hp, hslot⟩ := hI.fullPattern k id hold
        exact ⟨d, hd, hfiled.extends.pattern id _ hp, hslot⟩
      · exact ⟨c, hc, hself, CompiledRule.eq_key_of_keyIn hkey⟩
  · exact hI

theorem stemsFrom_fileAll {cs : List CompiledRule} (hcs : ∀ c ∈ cs, S c) (hI : StemsFrom S I) :
    StemsFrom S (I.fileAll cs).2 := by
  induction cs generalizing I with
  | nil => exact hI
  | cons c cs ih =>
    have hfirst := stemsFrom_place hI (hcs c List.mem_cons_self) rfl
    exact ih (fun d hd => hcs d (List.mem_cons_of_mem c hd)) hfirst

theorem stemsFrom_after {r : Rule} (hr : ∀ c, r.compile = .ok c → S c) (hI : StemsFrom S I) :
    StemsFrom S (I.after r) := by
  unfold after
  split
  · rename_i o J h
    obtain ⟨c, hc, hplace⟩ := compileRule_eq_ok.mp h
    exact stemsFrom_place hI (hr c hc) hplace
  · exact hI

end StemsFrom

end RuleIndex

/-! ## 3. Changes -/

namespace RuleSet

/-- What can be done to an index. -/
inductive Change where
  | rule (r : Rule)
  | list (maxLine : Nat) (text : Text)
  | clear

/-- The index begins anew. -/
def Change.clears : Change → Bool
  | .clear => true
  | _ => false

/-- The rules that a change is written with: the rule itself, or those on the lines of a list that
    are not too long. -/
def Change.Brings (r : Rule) : Change → Prop
  | .rule q => q = r
  | .list maxLine text => ∃ line ∈ Text.lines text, (Text.trimEnd line).byteSize ≤ maxLine ∧
      LineKind.classify (Text.trimEnd line) = .rule r
  | .clear => False

/-- The changes since the index was last cleared. -/
def sinceClear (cs : List Change) : List Change := cs.rtakeWhile (!·.clears)

/-- The effect of a change. Element hiders are no part of the index. -/
def change (s : RuleSet) : Change → RuleSet
  | .rule r => { s with index := s.index.after r }
  | .list maxLine text => (s.load maxLine text).rules
  | .clear => { s with index := {} }

/-- The effect of changes, one after the other. -/
def changes (s : RuleSet) (cs : List Change) : RuleSet := cs.foldl change s

theorem changes_concat (s : RuleSet) (cs : List Change) (c : Change) :
    s.changes (cs ++ [c]) = (s.changes cs).change c := List.foldl_concat ..

/-- The rules of a list stand on its lines. -/
theorem exists_brings_of_mem_rulesOf {maxLine : Nat} {text : Text} {c : CompiledRule}
    (h : c ∈ rulesOf maxLine text) :
    ∃ r, (Change.list maxLine text).Brings r ∧ r.compile = .ok c := by
  obtain ⟨line, hline, hrule⟩ := List.mem_filterMap.mp h
  obtain ⟨hlong, r, hkind, hr⟩ := ruleOn?_eq_some.mp hrule
  exact ⟨r, ⟨line, hline, Nat.not_lt.mp hlong, hkind⟩, hr⟩

/-- The compiled rules of changes. -/
def Written (cs : List Change) (c : CompiledRule) : Prop :=
  ∃ change ∈ cs, ∃ r, change.Brings r ∧ r.compile = .ok c

/-- **An index stems from the rules that were written since it was last cleared.** -/
theorem stemsFrom_changes (cs : List Change) :
    RuleIndex.StemsFrom (Written (sinceClear cs)) (({} : RuleSet).changes cs).index := by
  induction cs using List.reverseRecOn with
  | nil => exact RuleIndex.stemsFrom_empty _
  | append_singleton cs last ih =>
    rw [changes_concat]
    cases last with
    | clear => exact RuleIndex.stemsFrom_empty _
    | rule r =>
      have hsince : sinceClear (cs ++ [.rule r]) = sinceClear cs ++ [.rule r] :=
        List.rtakeWhile_concat_pos _ _ _ rfl
      rw [hsince]
      refine RuleIndex.stemsFrom_after (fun c hc => ?_) (ih.mono fun c hc => ?_)
      · exact ⟨.rule r, by simp, r, rfl, hc⟩
      · obtain ⟨change, hmem, hrest⟩ := hc
        exact ⟨change, List.mem_append_left _ hmem, hrest⟩
    | list maxLine text =>
      have hsince : sinceClear (cs ++ [.list maxLine text]) =
          sinceClear cs ++ [.list maxLine text] := List.rtakeWhile_concat_pos _ _ _ rfl
      rw [hsince, change, (RuleIndex.tallies_load _ maxLine text).index]
      refine RuleIndex.stemsFrom_fileAll (fun c hc => ?_) (ih.mono fun c hc => ?_)
      · exact ⟨.list maxLine text, by simp, exists_brings_of_mem_rulesOf hc⟩
      · obtain ⟨change, hmem, hrest⟩ := hc
        exact ⟨change, List.mem_append_left _ hmem, hrest⟩

/-! ## 4. The plain definition -/

/-- **The matcher answers by its plain definition.** Whatever an index went through and in whatever
    order its pattern map is scanned, a request that is looked up for the first time is blocked
    exactly if its URL leads to a pattern that matches it and does not spare its page; and the
    pattern that is named for the block confirms it and was compiled from a rule that was written
    since the index was last cleared. -/
theorem answers_plainly (cs : List Change) {order : List PatternId}
    (horder : order.Perm (({} : RuleSet).changes cs).index.fullPatternIds) (stats : MatchStats)
    {r : Request} (hdoc : r.type ≠ .document) (hne : r.url ≠ []) :
    let I := (({} : RuleSet).changes cs).index
    let answer := (Matcher.queryInOrder I order { stats := stats } r).1
    (answer.blocked = true ↔
      ∃ id p, I.LeadsTo r.url id ∧ I.pattern id = some p ∧ p.Confirms r.url r.page) ∧
    (answer.blocked = true → ∃ p, answer.rule = some p ∧ p.Confirms r.url r.page ∧
      ∃ change ∈ sinceClear cs, ∃ q, change.Brings q ∧ ∃ c, q.compile = .ok c ∧ c.pattern = p) := by
  intro I answer
  have hmiss : ({ stats := stats } : Matcher.Memory).cache[r.url]? = none := by simp
  constructor
  · rw [RuleIndex.blocked_iff_stops horder hmiss]
    simp only [RuleIndex.Stops, RuleIndex.Blocks, Matcher.check_iff_confirms, hdoc, hne,
      ne_eq, not_false_eq_true, true_and]
    exact Iff.rfl
  · intro hblocked
    obtain ⟨p, hrule, hfound⟩ := Matcher.exists_rule_of_blocked hmiss hblocked
    obtain ⟨id, -, hp, hconfirms⟩ := Matcher.search_found horder hfound
    obtain ⟨c, hwritten, rfl⟩ := (stemsFrom_changes cs).pattern id p hp
    obtain ⟨change, hmem, q, hq, hc⟩ := hwritten
    exact ⟨c.pattern, hrule, hconfirms, change, hmem, q, hq, c, hc, rfl⟩

/-- A list, a clearing, and a list with a rule for third parties. -/
def twoLists : List Change :=
  [.list 2000 "||old.net^\n".toList, .clear,
   .list 2000 "! trackers\n||tracker.net^$third-party\n".toList]

/-- The tracker is blocked on another site by the second list, and the first list is gone. -/
theorem answers_plainly_tracker :
    let I := (({} : RuleSet).changes twoLists).index
    let r : Request := ⟨"http://tracker.net/t.js".toList, some "http://news.org/".toList, .script⟩
    r.type ≠ .document ∧ r.url ≠ [] ∧ I.fullPatternIds.Perm I.fullPatternIds ∧
    (Matcher.queryInOrder I I.fullPatternIds {} r).1.blocked = true ∧
    (∃ p, (Matcher.queryInOrder I I.fullPatternIds {} r).1.rule = some p ∧
      p.Confirms r.url r.page ∧ ∃ change ∈ sinceClear twoLists, ∃ q, change.Brings q ∧
        ∃ c, q.compile = .ok c ∧ c.pattern = p) := by
  intro I r
  have hblocked : (Matcher.queryInOrder I I.fullPatternIds {} r).1.blocked = true := by
    decide +kernel
  have hplain := answers_plainly twoLists (.refl _) {} (r := r) (by decide) (by decide)
  exact ⟨by decide, by decide, .refl _, hblocked, hplain.2 hblocked⟩

end RuleSet

end RequestFilter
