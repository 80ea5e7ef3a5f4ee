import RequestFilter.Proofs.RepeatedLoads
import RequestFilter.Proofs.StaleSources

/-!
# A list that is fetched again

A tester whose only subscription is out of date compiles the old text and asks for a new one. When
the new text comes in, its rules are added to the old ones: no rule is taken out before a reload.

* `RuleSet.ofTexts`: texts loaded into nothing; `index_ofTexts`: their index is that of all their
  rules, one after the other;
* `completeFetch_of_read`: what comes in at the end of a fetch;
* `Session.Refetch`: a tester with one subscription and an old text of it, up to the end of the
  fetch and beyond; `start_loads`, `completion_loads`: which texts it has compiled by then;
* `refetch_answers`: **behind the fetch it answers as if it had compiled the old text and the new
  one** -- so as if it had compiled the new one only, where that begins with the rules of the old
  one and none of these asks again.

NOT here: a URL that was asked for before the fetch ended (`Proofs/Recall.lean`).
-/

namespace RequestFilter

namespace RuleSet

/-! ## 1. Texts one after the other -/

/-- Texts loaded into nothing. -/
def ofTexts (maxLine : Nat) (texts : List Text) : RuleSet :=
  texts.foldl (fun s text => (s.load maxLine text).rules) {}

theorem fst_loadAll (maxLine : Nat) (texts : List Text) :
    (loadAll maxLine texts).1 = ofTexts maxLine texts := by
  induction texts using List.reverseRecOn with
  | nil => rfl
  | append_singleton texts text ih =>
    rw [loadAll_concat, loadNext, ih, ofTexts, ofTexts, List.foldl_append]
    rfl

/-- The index of some texts is that of all their rules. -/
theorem index_ofTexts (maxLine : Nat) (texts : List Text) : (ofTexts maxLine texts).index =
    (RuleIndex.fileAll {} (texts.flatMap (rulesOf maxLine))).2 := by
  induction texts using List.reverseRecOn with
  | nil => rfl
  | append_singleton texts text ih =>
    rw [ofTexts, List.foldl_append, ← ofTexts, List.flatMap_append, RuleIndex.fileAll_append, ← ih]
    simpa using (RuleIndex.tallies_load (ofTexts maxLine texts) maxLine text).index

/-- Only the index of a rule set counts for the index after one more text. -/
theorem index_load_of_ofTexts {s : RuleSet} {maxLine : Nat} {texts : List Text}
    (h : s.index = (ofTexts maxLine texts).index) (text : Text) :
    (s.load maxLine text).rules.index = (ofTexts maxLine (texts ++ [text])).index := by
  rw [(RuleIndex.tallies_load s maxLine text).index, h, index_ofTexts, index_ofTexts,
    List.flatMap_append, RuleIndex.fileAll_append]
  simp

/-- A text that begins with the rules of another one replaces it, if none of these asks again. -/
theorem index_ofTexts_of_prefix {maxLine : Nat} {old new : Text}
    (hbegins : rulesOf maxLine old <+: rulesOf maxLine new)
    (hsilent : (ofTexts maxLine [old]).index.keysAskedAgain (rulesOf maxLine old) = []) :
    (ofTexts maxLine [old, new]).index = (ofTexts maxLine [new]).index := by
  obtain ⟨more, hmore⟩ := hbegins
  have hold : (ofTexts maxLine [old]).index = (RuleIndex.fileAll {} (rulesOf maxLine old)).2 := by
    simpa using index_ofTexts maxLine [old]
  have hsettled : (ofTexts maxLine [old]).index.Settled (rulesOf maxLine old) :=
    ⟨covered_load {} maxLine old, hsilent⟩
  rw [hold] at hsettled
  simp only [index_ofTexts, List.flatMap_cons, List.flatMap_nil, List.append_nil, ← hmore,
    RuleIndex.fileAll_append, hsettled.fileAll.1]

end RuleSet

namespace Session

/-! ## 2. What comes in -/

/-- The text that was fetched comes in, if the fetch was asked for in this generation and its source
    is still subscribed to. -/
theorem completeFetch_of_read {s : Session} {q : FetchRequest} {content : Bytes}
    (hgeneration : q.generation = s.tester.generation) (hfilters : q.sourceUrl ∈ s.tester.filters)
    (hread : s.files.read q.destination = .ok content) :
    (s.completeFetch ⟨q, true⟩).index = (s.tester.rules.load s.tester.config.maxLineLen.toNat
      (Text.ofBytesLossy content)).rules.index := by
  rw [index, tester_completeFetch, Tester.fetchEnds, if_neg (not_not.mpr hgeneration),
    if_neg (by simp [hfilters]), if_neg (by simp), hread]
  rfl

/-! ## 3. A fetch of an old text -/

/-- A tester whose only subscription lies on another machine and has an old text here: what happens
    to the tester before the fetch of the new text ends, and what happens behind that. In between
    there is no reload, and no other fetch ends. -/
structure Refetch where
  config : Config
  files : FileTree
  now : Nat
  started : Session
  url : Text
  path : Path
  old : Bytes
  before : List Operation
  new : Bytes
  later : List Operation
  start_eq : (start config files now).2 = .ok started
  filters_eq : started.tester.filters = [url]
  remote : SourceLocation.ofUrl config.adblockDir url = .cached path
  read_old : started.files.read path = .ok old
  stale : Subscription.isFresh started.files path config.freshness now = false
  quiet : ∀ op ∈ before ++ later, op.forgets = false ∧ op.isCompletion = false
  subscribed : url ∈ (started.run before).tester.filters
  read_new : (started.run before).files.read path = .ok new

namespace Refetch

/-- The fetch that was asked for. -/
def request (f : Refetch) : FetchRequest := ⟨f.url, f.path, f.started.tester.generation⟩

/-- The tester behind it all. -/
def after (f : Refetch) : Session :=
  ((f.started.run f.before).completeFetch ⟨f.request, true⟩).run f.later

/-- The rules of some texts, under the limit for lines that the configuration sets. -/
def compiled (f : Refetch) (contents : List Bytes) : RuleSet :=
  RuleSet.ofTexts f.config.maxLineLen.toNat (contents.map Text.ofBytesLossy)

/-- The rules of a text. -/
def rulesOf (f : Refetch) (content : Bytes) : List CompiledRule :=
  RuleSet.rulesOf f.config.maxLineLen.toNat (Text.ofBytesLossy content)

variable (f : Refetch)

theorem quiet_before {op : Operation} (h : op ∈ f.before) :
    op.forgets = false ∧ op.isCompletion = false := f.quiet op (List.mem_append_left _ h)

theorem quiet_later {op : Operation} (h : op ∈ f.later) :
    op.forgets = false ∧ op.isCompletion = false := f.quiet op (List.mem_append_right _ h)

theorem config_eq : f.started.tester.config = f.config := (hasLoaded_start f.start_eq).1

/-- **At the start the old text is compiled and one fetch is asked for.** -/
theorem start_loads :
    f.started.index = (f.compiled [f.old]).index ∧ f.started.tester.requests = [f.request] := by
  obtain ⟨hconfig, hloaded⟩ := hasLoaded_start f.start_eq
  obtain ⟨hremote, hpath⟩ := Config.ofUrl_eq_cached.mp f.remote
  have hdue : f.config.isDue f.started.files f.now f.url = true := by
    rw [Config.isDue_of_remote hremote, ← hpath, f.stale]
    rfl
  have htexts : f.config.texts f.started.files [f.url] = [Text.ofBytesLossy f.old] := by
    simp [Config.texts, Config.text?, f.remote, SourceLocation.path, f.read_old, Except.toOption]
  have hrules : f.started.tester.rules = _ := congrArg Prod.fst hloaded.rules
  have hrequests := hloaded.requests
  rw [hconfig, f.filters_eq, htexts, RuleSet.fst_loadAll] at hrules
  rw [hconfig, f.filters_eq, List.filter_singleton, hdue] at hrequests
  refine ⟨congrArg RuleSet.index hrules, ?_⟩
  rw [hrequests, request, hpath]
  rfl

/-- **Behind the fetch the old text is compiled, and then the new one.** -/
theorem completion_loads : f.after.index = (f.compiled [f.old, f.new]).index := by
  have hold : (f.started.run f.before).index = (f.compiled [f.old]).index := by
    rw [index_run fun op h => f.quiet_before h, f.start_loads.1]
  have hconfig := config_run f.started f.before
  have hgeneration := generation_run (s := f.started) fun op h => (f.quiet_before h).1
  rw [after, index_run fun op h => f.quiet_later h,
    completeFetch_of_read hgeneration.symm f.subscribed f.read_new, hconfig, f.config_eq]
  exact RuleSet.index_load_of_ofTexts hold _

/-- A URL that is not asked for is not remembered. -/
theorem remembered_after {url : Text} (h : ∀ op ∈ f.before ++ f.later, op.asks url = false) :
    f.after.remembered url = none := by
  have hbefore : ∀ op ∈ f.before, op.forgets = false ∧ op.asks url = false := fun op hop =>
    ⟨(f.quiet_before hop).1, h op (List.mem_append_left _ hop)⟩
  have hlater : ∀ op ∈ f.later, op.forgets = false ∧ op.asks url = false := fun op hop =>
    ⟨(f.quiet_later hop).1, h op (List.mem_append_right _ hop)⟩
  rw [after, remembered_run hlater, (keeps_completeFetch _ _).remembered, remembered_run hbefore,
    remembered_start f.start_eq]

end Refetch

/-! ## 4. Answers behind the fetch -/

/-- A tester with the rules of a rule set and no memory of a URL. -/
structure Unasked (t : Session) (rules : RuleSet) (url : Text) : Prop where
  index : t.index = rules.index
  memory : t.remembered url = none

theorem Unasked.blocked_iff {t : Session} {rules : RuleSet} {r : Request}
    (h : t.Unasked rules r.url) :
    (t.tester.query r).1.blocked = true ↔ rules.index.Stops (seen r) := by
  have hmiss : t.tester.memory.cache[(seen r).url]? = none := h.memory
  rw [query_eq, RuleIndex.blocked_iff_stops (.refl _) hmiss, h.index]

/-- Two of them answer alike, if their indices are the same. -/
theorem Unasked.blocked_eq {s t : Session} {rules others : RuleSet} {r : Request}
    (h : s.Unasked rules r.url) (h' : t.Unasked others r.url)
    (hindex : rules.index = others.index) :
    (s.tester.query r).1.blocked = (t.tester.query r).1.blocked := by
  rw [Bool.eq_iff_iff, h.blocked_iff, h'.blocked_iff, hindex]

/-- The tester behind a fetch is one with the rules of the two texts. -/
theorem Refetch.unasked_after (f : Refetch) {url : Text}
    (h : ∀ op ∈ f.before ++ f.later, op.asks url = false) :
    f.after.Unasked (f.compiled [f.old, f.new]) url := ⟨f.completion_loads, f.remembered_after h⟩

/-- **Behind the fetch of a new text a tester answers as if it had compiled the old text and the new
    one.** A request for a URL that was not asked for is answered as by any tester with the rules of
    the two texts, one after the other. So what the old text blocks stays blocked; and the request
    is answered as by a tester with the new text only, if that begins with the rules of the old one
    and none of these asks again. -/
theorem refetch_answers (f : Refetch) (r : Request)
    (hnew : ∀ op ∈ f.before ++ f.later, op.asks r.url = false) :
    f.started.tester.requests = [f.request] ∧
    (∀ t : Session, t.Unasked (f.compiled [f.old, f.new]) r.url →
      (f.after.tester.query r).1.blocked = (t.tester.query r).1.blocked) ∧
    (∀ t : Session, t.Unasked (f.compiled [f.old]) r.url →
      (t.tester.query r).1.blocked = true → (f.after.tester.query r).1.blocked = true) ∧
    (f.rulesOf f.old <+: f.rulesOf f.new →
      (f.compiled [f.old]).index.keysAskedAgain (f.rulesOf f.old) = [] →
      ∀ t : Session, t.Unasked (f.compiled [f.new]) r.url →
        (f.after.tester.query r).1.blocked = (t.tester.query r).1.blocked) := by
  have hafter := f.unasked_after hnew
  refine ⟨f.start_loads.2, fun t ht => hafter.blocked_eq ht rfl, fun t ht hblocked => ?_,
    fun hbegins hsilent t ht => ?_⟩
  · rw [ht.blocked_iff] at hblocked
    rw [hafter.blocked_iff]
    have hgrows : (f.compiled [f.old]).index.Grows (f.compiled [f.old, f.new]).index :=
      .list .refl _ (Text.ofBytesLossy f.new)
    exact hgrows.extends.stops hblocked
  · exact hafter.blocked_eq ht (RuleSet.index_ofTexts_of_prefix hbegins hsilent)

/-! ## 5. A text that is replaced -/

/-- The subscription of `lateConfig`, and where its text lies. -/
def listUrl : Text := "https://l/a".toList
def listPath : Path := "/d/adblock/df7597ccacf6a24df8366acafa8c3744".toList

/-- The text a day ago, the text with a line added, and another one. -/
def dayOldText : Text := "||ads^\n".toList
def longerText : Text := "||ads^\n||bad^\n".toList
def otherText : Text := "||bad^\n".toList

/-- The files once another text is stored. -/
def filesWith (text : Text) : FileTree :=
  lateFiles.put ["d".toList, "adblock".toList, "df7597ccacf6a24df8366acafa8c3744".toList]
    (.file text.toBytes 0)

/-- A request that the line added is for. -/
def badRequest : Request := ⟨"http://bad/x.js".toList, none, .script⟩

/-- A tester with some rules that was never asked for anything. -/
def newTester (rules : RuleSet) : Session := ⟨{ config := lateConfig, rules := rules }, {}, []⟩

theorem unasked_newTester (rules : RuleSet) (url : Text) : (newTester rules).Unasked rules url :=
  ⟨rfl, by simp [remembered, newTester]⟩

theorem exists_refetch {text : Text} (h : (filesWith text).read listPath = .ok text.toBytes) :
    ∃ f : Refetch, f.config = lateConfig ∧ f.old = dayOldText.toBytes ∧ f.new = text.toBytes ∧
      f.before ++ f.later = [.fileChange (filesWith text)] := by
  obtain ⟨s₀, hstart, hfacts⟩ := exists_ok_of_map (show
    (start lateConfig lateFiles 86400000).2.toOption.map (fun s => (s.tester.filters,
      (s.files.read listPath).toOption.map id,
      Subscription.isFresh s.files listPath lateConfig.freshness 86400000)) =
    some ([listUrl], some dayOldText.toBytes, false) by decide +kernel)
  obtain ⟨hfilters, hrest⟩ := Prod.mk.inj hfacts
  obtain ⟨hread, hstale⟩ := Prod.mk.inj hrest
  obtain ⟨_, hread, rfl⟩ := exists_ok_of_map hread
  refine ⟨{
    config := lateConfig
    files := lateFiles
    now := 86400000
    started := s₀
    url := listUrl
    path := listPath
    old := dayOldText.toBytes
    before := [.fileChange (filesWith text)]
    new := text.toBytes
    later := []
    start_eq := hstart
    filters_eq := hfilters
    remote := by decide +kernel
    read_old := hread
    stale := hstale
    quiet := by simp [Operation.forgets, Operation.isCompletion]
    subscribed := by
      show listUrl ∈ s₀.tester.filters
      simp [hfilters]
    read_new := h }, rfl, rfl, rfl, rfl⟩

/-- Behind the fetch of the longer text the line added counts, as in a tester with that text only,
    and the old line still does. -/
theorem refetch_answers_longer : ∃ f : Refetch, f.started.tester.requests = [f.request] ∧
    (f.after.tester.query badRequest).1.blocked =
      ((newTester (f.compiled [f.old, f.new])).tester.query badRequest).1.blocked ∧
    (f.after.tester.query badRequest).1.blocked =
      ((newTester (f.compiled [f.new])).tester.query badRequest).1.blocked ∧
    (f.after.tester.query badRequest).1.blocked = true ∧
    (f.after.tester.query earlyRequest).1.blocked = true := by
  obtain ⟨f, hconfig, hold, hnew, hops⟩ := exists_refetch (show
    (filesWith longerText).read listPath = .ok longerText.toBytes by rfl)
  have hasks : ∀ url, ∀ op ∈ f.before ++ f.later, op.asks url = false := by
    simp [hops, Operation.asks]
  have hbegins : f.rulesOf f.old <+: f.rulesOf f.new := by
    rw [Refetch.rulesOf, Refetch.rulesOf, hconfig, hold, hnew]
    decide +kernel
  have hsilent : (f.compiled [f.old]).index.keysAskedAgain (f.rulesOf f.old) = [] := by
    rw [Refetch.rulesOf, Refetch.compiled, hconfig, hold]
    decide +kernel
  have hads : ((newTester (f.compiled [f.old])).tester.query earlyRequest).1.blocked = true := by
    rw [Refetch.compiled, hconfig, hold]
    decide +kernel
  have hbad : ((newTester (f.compiled [f.new])).tester.query badRequest).1.blocked = true := by
    rw [Refetch.compiled, hconfig, hnew]
    decide +kernel
  obtain ⟨hrequests, hboth, -, hlonger⟩ := refetch_answers f badRequest (hasks _)
  obtain ⟨-, -, hkept, -⟩ := refetch_answers f earlyRequest (hasks _)
  have hreplaced := hlonger hbegins hsilent _ (unasked_newTester _ _)
  exact ⟨f, hrequests, hboth _ (unasked_newTester _ _), hreplaced, hreplaced.trans hbad,
    hkept _ (unasked_newTester _ _) hads⟩

/-- The new text need not replace the old one: a rule that is no longer in it still counts. -/
theorem old_rules_stay : ¬ ∀ (f : Refetch) (r : Request),
    (∀ op ∈ f.before ++ f.later, op.asks r.url = false) →
      ∀ t : Session, t.Unasked (f.compiled [f.new]) r.url →
        (f.after.tester.query r).1.blocked = (t.tester.query r).1.blocked := by
  intro h
  obtain ⟨f, hconfig, hold, hnew, hops⟩ := exists_refetch (show
    (filesWith otherText).read listPath = .ok otherText.toBytes by rfl)
  have hasks : ∀ op ∈ f.before ++ f.later, op.asks earlyRequest.url = false := by
    simp [hops, Operation.asks]
  have hclaimed := h f earlyRequest hasks _ (unasked_newTester _ _)
  rw [(f.unasked_after hasks).blocked_eq (unasked_newTester _ _) rfl] at hclaimed
  simp only [Refetch.compiled, hconfig, hold, hnew] at hclaimed
  revert hclaimed
  decide +kernel

end Session

end RequestFilter
