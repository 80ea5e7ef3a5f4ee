import Mathlib.Data.List.Nodup
import RequestFilter.Proofs.Reloads

/-!
# Stale sources

Loading the subscriptions goes through their list once. Each of them is taken in as far as there is
a text of it, and a new text is asked for where there is none on this machine or it is too old. A
source that is listed twice is asked for twice, and waited for once.

* `Config.isDue`: a source has to be fetched; `Config.fetchOf`: the fetch of it; `Config.texts`: the
  texts that there are of subscriptions;
* `RuleSet.loadAll`: texts one after the other, with their counters;
* `Session.HasLoaded`: what a tester is once part of its subscriptions are loaded;
  `HasLoaded.loadSource`: **one more of them is taken in, and asked for if it is due**;
* `asks_for_stale`: **a new tester and a reload ask for the sources that are due, in the order of
  the list, and for nothing else, and take in the texts of all that can be read**.

NOT here: what becomes of the fetches (`Proofs/EndedFetches.lean`).
-/

namespace RequestFilter

/-! ## 1. Sources that are due -/

namespace Config

variable (c : Config) (files : FileTree)

/-- Where the text of a source on another machine is cached. -/
def cachePath (url : Text) : Path := c.adblockDir.join (Subscription.cacheFileName url)

/-- A source has to be fetched: it lies on another machine, and its text is missing here or was last
    changed as long ago as texts are good for. -/
def isDue (now : Nat) (url : Text) : Bool :=
  !FileUrl.isFileUrl url &&
    match files.find (c.cachePath url) with
    | .error _ => true
    | .ok entry => decide (entry.modified + c.freshness ≤ now)

/-- The text that there is of a source, fresh or not. -/
def text? (url : Text) : Option Text :=
  (files.read (SourceLocation.ofUrl c.adblockDir url).path).toOption.map Text.ofBytesLossy

/-- The texts that there are of subscriptions. -/
def texts (filters : List Text) : List Text :=
  filters.filterMap (c.text? files)

/-- The fetch of a source in a generation. -/
def fetchOf (generation : Nat) (url : Text) : FetchRequest := ⟨url, c.cachePath url, generation⟩

variable {c files} {now : Nat} {url : Text}

theorem ofUrl_of_isFileUrl (h : FileUrl.isFileUrl url = true) :
    SourceLocation.ofUrl c.adblockDir url = .inPlace (FileUrl.pathOr url) := if_pos h

theorem ofUrl_of_remote (h : FileUrl.isFileUrl url = false) :
    SourceLocation.ofUrl c.adblockDir url = .cached (c.cachePath url) :=
  if_neg (Bool.eq_false_iff.mp h)

theorem ofUrl_eq_cached {path : Path} : SourceLocation.ofUrl c.adblockDir url = .cached path ↔
    FileUrl.isFileUrl url = false ∧ path = c.cachePath url := by
  cases hurl : FileUrl.isFileUrl url with
  | true => simp [ofUrl_of_isFileUrl hurl]
  | false => simp [ofUrl_of_remote hurl, eq_comm]

theorem isDue_of_isFileUrl (h : FileUrl.isFileUrl url = true) : c.isDue files now url = false := by
  rw [isDue, h]
  rfl

/-- A source on another machine is due if its text is not fresh. -/
theorem isDue_of_remote (h : FileUrl.isFileUrl url = false) : c.isDue files now url =
    !Subscription.isFresh files (c.cachePath url) c.freshness now := by
  rw [isDue, h, Bool.not_false, Bool.true_and, Subscription.isFresh]
  cases files.find (c.cachePath url) with
  | error e => rfl
  | ok entry =>
    rw [Bool.eq_iff_iff]
    simp only [decide_eq_true_eq, Bool.not_eq_true', Bool.or_eq_false_iff, decide_eq_false_iff_not]
    omega

theorem texts_concat (filters : List Text) (url : Text) :
    c.texts files (filters ++ [url]) = c.texts files filters ++ (c.text? files url).toList := by
  rw [texts, List.filterMap_append, texts]
  cases h : c.text? files url <;> simp [h]

end Config

/-! ## 2. One source -/

/-- One more text is loaded behind others, and what it counts is added. -/
def RuleSet.loadNext (maxLine : Nat) (before : RuleSet × LoadStats) (text : Text) :
    RuleSet × LoadStats :=
  let loaded := before.1.load maxLine text
  (loaded.rules, before.2.merge loaded.result)

/-- Texts loaded into nothing, one after the other. -/
def RuleSet.loadAll (maxLine : Nat) (texts : List Text) : RuleSet × LoadStats :=
  texts.foldl (loadNext maxLine) ({}, {})

theorem RuleSet.loadAll_concat (maxLine : Nat) (texts : List Text) (text : Text) :
    loadAll maxLine (texts ++ [text]) = loadNext maxLine (loadAll maxLine texts) text :=
  List.foldl_append

namespace Tester

/-- The tester has taken in a text, if there is one. -/
def loadText (t : Tester) : Option Text → Tester
  | none => t
  | some text =>
    let loaded := t.rules.load t.config.maxLineLen.toNat text
    { t with rules := loaded.rules, loadStats := t.loadStats.merge loaded.result }

/-- The tester has asked for a source. -/
def askFor (t : Tester) (url : Text) : Tester :=
  { t with
    pending := t.pending.insert url
    requests := t.requests ++ [t.config.fetchOf t.generation url] }

/-- What a text changes. -/
theorem exists_of_loadText (t : Tester) (text : Option Text) : ∃ rules loadStats,
    t.loadText text = { t with rules := rules, loadStats := loadStats } := by
  cases text <;> exact ⟨_, _, rfl⟩

end Tester

namespace Session

variable (s : Session) (url : Text) (path : Path)

theorem loadText_loadPath : (s.loadPath url path).tester =
    s.tester.loadText ((s.files.read path).toOption.map Text.ofBytesLossy) := by
  rw [tester_loadPath]
  cases s.files.read path <;> rfl

/-- Where nothing lies, nothing can be read. -/
theorem loadText_loadPath_of_exists :
    (if s.files.exists? path then s.loadPath url path else s).tester =
      s.tester.loadText ((s.files.read path).toOption.map Text.ofBytesLossy) := by
  split
  · exact loadText_loadPath s url path
  · rename_i hmissing
    cases hread : s.files.read path with
    | error e => rfl
    | ok content => exact absurd (FileTree.exists?_of_read hread) hmissing

/-- **A source is taken in as far as there is a text of it, and asked for if it is due.** -/
theorem tester_loadSource (now : Nat) : (s.loadSource now url).tester =
    if s.tester.config.isDue s.files now url then
      (s.tester.loadText (s.tester.config.text? s.files url)).askFor url
    else s.tester.loadText (s.tester.config.text? s.files url) := by
  unfold loadSource Config.text?
  rw [Tester.adblockDir]
  cases hurl : FileUrl.isFileUrl url with
  | true =>
    rw [Config.ofUrl_of_isFileUrl hurl, Config.isDue_of_isFileUrl hurl]
    exact loadText_loadPath s url _
  | false =>
    rw [Config.ofUrl_of_remote hurl, Config.isDue_of_remote hurl]
    simp only [SourceLocation.path]
    rw [← loadText_loadPath_of_exists s url]
    have hkeeps : Keeps s (if s.files.exists? (s.tester.config.cachePath url) then
        s.loadPath url (s.tester.config.cachePath url) else s) := by
      split
      · exact keeps_loadPath s url _
      · exact .refl s
    cases Subscription.isFresh s.files (s.tester.config.cachePath url)
      s.tester.config.freshness now with
    | true => rfl
    | false =>
      simp only [ask, Tester.askFor, Config.fetchOf, hkeeps.config]
      rfl

end Session

/-! ## 3. All of them -/

/-- A tester in which some subscriptions are loaded from files at a time, and the fetches that it
    had asked for before that. Its rules and counters are those of the texts that there are of them,
    in their order; it has asked for each of them that is due as often as it is listed, and waits
    for those and for nothing else. -/
structure Tester.HasLoaded (files : FileTree) (now : Nat) (old : List FetchRequest)
    (loaded : List Text) (t : Tester) : Prop where
  requests : t.requests =
    old ++ (loaded.filter (t.config.isDue files now)).map (t.config.fetchOf t.generation)
  pending : ∀ url, url ∈ t.pending ↔ url ∈ loaded ∧ t.config.isDue files now url = true
  once : t.pending.Nodup
  rules : (t.rules, t.loadStats) =
    RuleSet.loadAll t.config.maxLineLen.toNat (t.config.texts files loaded)

namespace Tester.HasLoaded

variable {files : FileTree} {now : Nat} {old : List FetchRequest} {loaded : List Text} {t : Tester}

/-- The state does not count. -/
theorem withState (h : t.HasLoaded files now old loaded) (state : TesterState) :
    { t with state := state }.HasLoaded files now old loaded :=
  ⟨h.requests, h.pending, h.once, h.rules⟩

/-- The text of one more source comes behind the others. -/
theorem rules_loadText (h : t.HasLoaded files now old loaded) (url : Text) :
    ((t.loadText (t.config.text? files url)).rules,
        (t.loadText (t.config.text? files url)).loadStats) =
      RuleSet.loadAll t.config.maxLineLen.toNat (t.config.texts files (loaded ++ [url])) := by
  rw [Config.texts_concat]
  cases t.config.text? files url with
  | none =>
    rw [Option.toList_none, List.append_nil]
    exact h.rules
  | some text =>
    show RuleSet.loadNext t.config.maxLineLen.toNat (t.rules, t.loadStats) text = _
    rw [h.rules, Option.toList_some, RuleSet.loadAll_concat]

/-- **One more source is loaded.** -/
theorem concat (h : t.HasLoaded files now old loaded) (url : Text) :
    (if t.config.isDue files now url then (t.loadText (t.config.text? files url)).askFor url
      else t.loadText (t.config.text? files url)).HasLoaded files now old (loaded ++ [url]) := by
  have hrules := h.rules_loadText url
  obtain ⟨rules, loadStats, htext⟩ := t.exists_of_loadText (t.config.text? files url)
  rw [htext] at hrules ⊢
  split
  · rename_i hdue
    refine ⟨?_, fun other => ?_, h.once.insert, hrules⟩
    · simp [askFor, h.requests, hdue]
    · show other ∈ t.pending.insert url ↔
        other ∈ loaded ++ [url] ∧ t.config.isDue files now other = true
      by_cases hother : other = url
      · simp [hother, hdue]
      · simp [hother, h.pending]
  · rename_i hdue
    refine ⟨?_, fun other => ?_, h.once, hrules⟩
    · simp [h.requests, hdue]
    · show other ∈ t.pending ↔ other ∈ loaded ++ [url] ∧ t.config.isDue files now other = true
      by_cases hother : other = url
      · simp [hother, hdue, h.pending]
      · simp [hother, h.pending]

end Tester.HasLoaded

namespace Session

theorem hasLoaded_loadSources {now : Nat} {old : List FetchRequest} {loaded : List Text}
    (filters : List Text) {s : Session} (h : s.tester.HasLoaded s.files now old loaded) :
    (filters.foldl (loadSource now) s).tester.HasLoaded s.files now old (loaded ++ filters) := by
  induction filters generalizing s loaded with
  | nil => rwa [List.append_nil]
  | cons url filters ih =>
    have hnext := h.concat url
    have hfiles := (keeps_loadSource s now url).files
    rw [← tester_loadSource, ← hfiles] at hnext
    rw [← hfiles]
    simpa using ih hnext

/-- **Loading the subscriptions loads all of them.** -/
theorem Blank.hasLoaded {s : Session} (h : s.Blank) (now : Nat) :
    (s.loadSubscriptions now).tester.HasLoaded s.files now s.tester.requests s.tester.filters := by
  obtain ⟨events, hentered⟩ := exists_of_enter s .compiling
  have hempty : (s.enter .compiling).tester.HasLoaded s.files now s.tester.requests [] := by
    rw [hentered]
    refine ⟨by simp, by simp [h.pending], by simp [h.pending], ?_⟩
    simp only [h.rules, h.loadStats]
    rfl
  have hfiles := (passes_enter s .compiling).files
  rw [← hfiles] at hempty
  have hloaded := hasLoaded_loadSources s.tester.filters hempty
  rw [List.nil_append, hfiles] at hloaded
  unfold loadSubscriptions
  rw [tester_settle]
  exact hloaded.withState _

/-! ## 4. New testers and reloads -/

/-- A new tester has loaded its subscriptions. -/
theorem hasLoaded_start {config : Config} {files : FileTree} {now : Nat} {s₀ : Session}
    (hstart : (start config files now).2 = .ok s₀) : s₀.tester.config = config ∧
      s₀.tester.HasLoaded s₀.files now [] s₀.tester.filters := by
  obtain ⟨filters, files, events, rfl⟩ := exists_of_start hstart
  let s : Session := ⟨{ config := config, filters := filters }, files, events⟩
  have hkeeps := keeps_loadSubscriptions s now
  have hblank : s.Blank := ⟨rfl, rfl, rfl, rfl⟩
  refine ⟨hkeeps.config, ?_⟩
  rw [hkeeps.files, hkeeps.filters]
  exact hblank.hasLoaded now

/-- **A new tester and a reload ask for the sources that are due, and for nothing else.** A new
    tester loads the subscriptions that it finds once its directory is made, in generation 0. A
    reload loads those of the tester from the files that are left, in the next generation. Both ask,
    in the order of the list, once for each entry that lies on another machine and whose cached text
    is missing or was last changed as long ago as texts are good for; what they wait for are the
    sources of those entries, each once; and their rules, their selectors and their counters are
    those of the texts that can be read, fresh or not, in the order of the list. -/
theorem asks_for_stale :
    (∀ (config : Config) (files made : FileTree) (now : Nat),
      files.makeDirectories now config.adblockDir = (made, .ok ()) →
      ∃ s₀, start config files now = (made, .ok s₀) ∧ s₀.files = made ∧
        s₀.tester.config = config ∧ s₀.tester.generation = 0 ∧
        s₀.tester.filters = config.subscriptions made ∧
        s₀.tester.HasLoaded made now [] (config.subscriptions made)) ∧
    ∀ (s : Session) (now : Nat),
      let left := Subscription.withoutCacheFiles s.files s.tester.adblockDir
      (s.reload now).files = left ∧ (s.reload now).tester.config = s.tester.config ∧
        (s.reload now).tester.generation = s.tester.generation + 1 ∧
        (s.reload now).tester.filters = s.tester.filters ∧
        (s.reload now).tester.HasLoaded left now s.tester.requests s.tester.filters := by
  refine ⟨fun config files made now hmade => ?new, fun s now => ?reload⟩
  case new =>
    obtain ⟨events, hstart⟩ := start_of_made hmade
    let s : Session := ⟨{ config := config, filters := config.subscriptions made }, made, events⟩
    have hkeeps := keeps_loadSubscriptions s now
    have hblank : s.Blank := ⟨rfl, rfl, rfl, rfl⟩
    exact ⟨_, hstart, hkeeps.files, hkeeps.config, hkeeps.generation, hkeeps.filters,
      hblank.hasLoaded now⟩
  case reload =>
    intro left
    obtain ⟨events, hreload⟩ := exists_of_reload s now
    let t : Session := ⟨s.tester.anew, left, events⟩
    have hkeeps := keeps_loadSubscriptions t now
    have hblank : t.Blank := ⟨rfl, rfl, rfl, rfl⟩
    rw [hreload]
    exact ⟨hkeeps.files, hkeeps.config, hkeeps.generation, hkeeps.filters, hblank.hasLoaded now⟩

/-! ## 5. Texts of different ages -/

/-- Texts are good for a second. The third source is listed twice and has no text here, and the
    last one lies on this machine. -/
def agedConfig : Config :=
  { Config.standard "/d".toList with
      freshnessSecs := 1
      defaultFilters := ["https://l/a".toList, "https://l/b".toList, "https://l/c".toList,
        "https://l/c".toList, "file:///l".toList] }

/-- The text of the first source is a second old, and that of the second one is not. -/
def agedFiles : FileTree where
  entries := Std.TreeMap.ofList
    [(["d".toList], Entry.directory 0), (["d".toList, "adblock".toList], Entry.directory 0),
     (["d".toList, "adblock".toList, "df7597ccacf6a24df8366acafa8c3744".toList],
      Entry.file (Text.toBytes "||ads^\n".toList) 0),
     (["d".toList, "adblock".toList, "c7276f68f814f6224230d3a7e4061532".toList],
      Entry.file (Text.toBytes "||bad^\n".toList) 1),
     (["l".toList], Entry.file (Text.toBytes "###ad\n".toList) 0)]

/-- The start asks for the old text and twice for the missing one, and takes in the other three. The
    reload removes what is cached, and asks for all that lies on other machines. -/
theorem asks_for_stale_aged : ∃ s₀, start agedConfig agedFiles 1000 = (agedFiles, .ok s₀) ∧
    s₀.tester.requests.map (·.sourceUrl) =
      ["https://l/a".toList, "https://l/c".toList, "https://l/c".toList] ∧
    (∀ url, url ∈ s₀.tester.pending ↔ url ∈ ["https://l/a".toList, "https://l/c".toList]) ∧
    (s₀.tester.loadStats.rules, s₀.tester.loadStats.hiderAccepted) = (2, 1) ∧
    (s₀.reload 1000).tester.requests.map (fun q => (q.sourceUrl, q.generation)) =
      [("https://l/a".toList, 0), ("https://l/c".toList, 0), ("https://l/c".toList, 0),
       ("https://l/a".toList, 1), ("https://l/b".toList, 1), ("https://l/c".toList, 1),
       ("https://l/c".toList, 1)] := by
  have hmade : agedFiles.makeDirectories 1000 agedConfig.adblockDir = (agedFiles, .ok ()) :=
    FileTree.makeDirectories_of_directory
      (show agedFiles.directory agedConfig.adblockDir = .ok ["d".toList, "adblock".toList] by
        decide +kernel) 1000
  have hlisted : agedConfig.subscriptions agedFiles = agedConfig.defaultFilters := by
    decide +kernel
  have hdue : agedConfig.defaultFilters.filter (agedConfig.isDue agedFiles 1000) =
      ["https://l/a".toList, "https://l/c".toList, "https://l/c".toList] := by decide +kernel
  obtain ⟨hnew, hreload⟩ := asks_for_stale
  obtain ⟨s₀, hstart, hfiles, hconfig, hgeneration, hfilters, hloaded⟩ := hnew _ _ _ 1000 hmade
  obtain ⟨-, hconfig', hgeneration', -, hreloaded⟩ := hreload s₀ 1000
  have hrequests := hloaded.requests
  have hagain := hreloaded.requests
  rw [hconfig, hgeneration, hlisted, hdue, List.nil_append] at hrequests
  rw [hconfig', hgeneration', hconfig, hgeneration, hfilters, hlisted, hrequests, hfiles,
    Tester.adblockDir, hconfig] at hagain
  refine ⟨s₀, hstart, by rw [hrequests]; rfl, fun url => ?_, ?_, ?_⟩
  · rw [hloaded.pending, hconfig, hlisted, ← List.mem_filter, hdue]
    simp
  · have hstats : s₀.tester.loadStats = _ := congrArg Prod.snd hloaded.rules
    rw [hstats, hconfig, hlisted]
    decide +kernel
  · rw [hagain]
    decide +kernel

end Session

end RequestFilter
