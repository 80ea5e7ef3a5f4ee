import RequestFilter.Cli.Commands
import RequestFilter.Proofs.Refetch

/-!
# Requests that are checked against a file

A request can be decided in two ways: by the command that compiles a file for the one request, and
by a tester that subscribes to the file. Both compile the same rules and hold them against the same
request, with one difference: the tester takes an empty page URL for none, and the command does
not.

* `RuleIndex.SparesOnEmptyPage`: the patterns that a URL leads to spare the empty page;
  `stops_iff_seen`: **this is all that the difference comes to**;
* `Cli.perform_check`: what the command comes to;
* `Session.index_start`: **a new tester compiles the texts that there are of its subscriptions**;
* `Cli.check_blocks_iff`: **the command blocks what the tester blocks, unless the page is empty and
  spared**; `Cli.check_allows_empty`: a request for which this makes a difference.
-/

namespace RequestFilter

namespace RuleIndex

/-! ## 1. The empty page -/

/-- Every pattern that the URL leads to and that matches it spares the empty page. -/
def SparesOnEmptyPage (I : RuleIndex) (url : Text) : Prop :=
  ∀ id p, I.LeadsTo url id → I.pattern id = some p → p.matchesIn url = true →
    p.isThirdParty = true ∧ p.matchesIn [] = true

theorem blocks_empty_iff {I : RuleIndex} {url : Text} :
    I.Blocks url (some []) ↔ ¬ I.SparesOnEmptyPage url := by
  simp only [SparesOnEmptyPage, Blocks, Matcher.check_iff, not_forall, not_and]
  constructor
  · intro h
    obtain ⟨id, p, hlead, hp, hmatch, hspares⟩ := h
    refine ⟨id, p, hlead, hp, hmatch, fun hthird => ?_⟩
    simp [hspares [] rfl hthird]
  · intro h
    obtain ⟨id, p, hlead, hp, hmatch, hspares⟩ := h
    refine ⟨id, p, hlead, hp, hmatch, fun site hsite hthird => ?_⟩
    obtain rfl := Option.mem_some.mp hsite
    simpa using hspares hthird

/-- What is blocked from the empty page is blocked if the page is not known. -/
theorem blocks_none_of_empty {I : RuleIndex} {url : Text} (h : I.Blocks url (some [])) :
    I.Blocks url none := by
  obtain ⟨id, p, hlead, hp, hc⟩ := h
  exact ⟨id, p, hlead, hp, Matcher.check_iff.mpr ⟨(Matcher.check_iff.mp hc).1, by simp⟩⟩

/-- **A request is stopped as it is if it is stopped as a tester sees it**, unless the page is empty
    and spared. -/
theorem stops_iff_seen {I : RuleIndex} {r : Request} : I.Stops r ↔
    I.Stops (Session.seen r) ∧ ¬ (r.page = some [] ∧ I.SparesOnEmptyPage r.url) := by
  obtain ⟨url, page, type⟩ := r
  by_cases hempty : page = some []
  · subst hempty
    have hseen : Session.seen ⟨url, some [], type⟩ = ⟨url, none, type⟩ := rfl
    rw [hseen]
    simp only [Stops, blocks_empty_iff, true_and]
    constructor
    · intro h
      obtain ⟨hdoc, hne, hspares⟩ := h
      exact ⟨⟨hdoc, hne, blocks_none_of_empty (blocks_empty_iff.mpr hspares)⟩, hspares⟩
    · intro h
      obtain ⟨⟨hdoc, hne, -⟩, hspares⟩ := h
      exact ⟨hdoc, hne, hspares⟩
  · have hseen : Session.seen ⟨url, page, type⟩ = ⟨url, page, type⟩ := by
      cases page with
      | none => rfl
      | some site =>
        have hne : site ≠ [] := fun h => hempty (congrArg some h)
        simp [Session.seen, hne]
    simp [hseen, hempty]

end RuleIndex

/-! ## 2. The command -/

namespace Cli

/-- **A file that can be read is compiled and the request decided by its rules**, and one line tells
    how. -/
theorem perform_check {files : FileTree} {path : Path} {content : Bytes}
    (hread : files.read path = .ok content) (config : Config) (now : Nat) (url : Text)
    (page : Option Text) (type : Text) :
    (perform config files now (.check [path] url page type)).failure = none ∧
    ∃ blocked, (perform config files now (.check [path] url page type)).lines =
        [.plain (decisionLine ⟨url, page, .ofName type⟩ blocked)] ∧
      (blocked = true ↔ (RuleSet.ofTexts config.maxLineLen.toNat
        [Text.ofBytesLossy content]).index.Stops ⟨url, page, .ofName type⟩) := by
  have hmiss : ({} : DecisionCache)[url]? = none := by simp
  simp only [perform, check, withLists, CompiledLists.ofFiles, CompiledLists.addFiles, hread]
  exact ⟨rfl, _, rfl, RuleIndex.blocked_iff_stops (.refl _) hmiss⟩

theorem decisionLine_inj {r : Request} {blocked other : Bool} :
    decisionLine r blocked = decisionLine r other ↔ blocked = other := by
  refine ⟨fun h => ?_, fun h => h ▸ rfl⟩
  -- the first letter tells them apart
  have hfirst : ∀ b, (decisionLine r b).head? = some (if b then 'B' else 'A') := fun b => by
    cases b <;> rfl
  have hletters := congrArg List.head? h
  rw [hfirst, hfirst] at hletters
  revert hletters
  cases blocked <;> cases other <;> decide

end Cli

/-! ## 3. The tester -/

namespace Session

/-- **A new tester compiles the texts that there are of its subscriptions**, one after the other. -/
theorem index_start {config : Config} {files : FileTree} {now : Nat} {s₀ : Session}
    (hstart : (start config files now).2 = .ok s₀) : s₀.index = (RuleSet.ofTexts
      config.maxLineLen.toNat (config.texts s₀.files s₀.tester.filters)).index := by
  obtain ⟨hconfig, hloaded⟩ := hasLoaded_start hstart
  have hrules : s₀.tester.rules = _ := congrArg Prod.fst hloaded.rules
  rw [index, hrules, hconfig, RuleSet.fst_loadAll]

end Session

namespace Cli

/-! ## 4. Both -/

/-- **The command blocks what the tester blocks, unless the page is empty and spared.** Let the
    content of a file be the only text that there is of the subscriptions of a new tester, fresh or
    not, and let the tester take in lines of the same length as the command. Then the command, given
    the file, prints one line for the request, and this says that it is blocked exactly if the tester
    blocks it and it is not so that the page is empty and every pattern which the URL leads to, and
    which matches it, is for third parties and matches the empty text too. -/
theorem check_blocks_iff {config config' : Config} {files files' : FileTree} {path : Path}
    {now : Nat} {s₀ : Session} {content : Bytes} (hread : files.read path = .ok content)
    (hstart : (Session.start config' files' now).2 = .ok s₀)
    (hsource : config'.texts s₀.files s₀.tester.filters = [Text.ofBytesLossy content])
    (hline : config'.maxLineLen = config.maxLineLen) (later : Nat) (url : Text)
    (page : Option Text) (type : Text) :
    let r : Request := ⟨url, page, .ofName type⟩
    let printed := perform config files later (.check [path] url page type)
    let blocks := (s₀.tester.query r).1.blocked = true ∧
      ¬ (page = some [] ∧ s₀.index.SparesOnEmptyPage url)
    printed.failure = none ∧
      (printed.lines = [.plain (decisionLine r true)] ↔ blocks) ∧
      (printed.lines = [.plain (decisionLine r false)] ↔ ¬ blocks) := by
  intro r printed blocks
  obtain ⟨hfailure, blocked, hlines, hblocked⟩ := perform_check hread config later url page type
  have hindex := Session.index_start hstart
  rw [hsource, hline] at hindex
  have hunasked : s₀.Unasked (RuleSet.ofTexts config.maxLineLen.toNat
      [Text.ofBytesLossy content]) r.url := ⟨hindex, Session.remembered_start hstart _⟩
  have hblocks : blocked = true ↔ blocks := by
    rw [hblocked, RuleIndex.stops_iff_seen, ← hunasked.blocked_iff, ← hunasked.index]
  have hprints : ∀ b, printed.lines = [.plain (decisionLine r b)] ↔ blocked = b := fun b => by
    rw [show printed.lines = _ from hlines, List.singleton_inj, Line.plain.injEq, decisionLine_inj]
  refine ⟨hfailure, (hprints true).trans hblocks, ?_⟩
  rw [hprints false, ← hblocks, Bool.not_eq_true]

/-! ## 5. A pattern that matches the empty text -/

/-- A list with a rule for third parties that matches every text, the empty one too. -/
def emptyMatchList : Text := "/(x*)/$third-party\n".toList

/-- A tester that subscribes to it, and its files. -/
def emptyMatchConfig : Config :=
  { Config.standard "/d".toList with defaultFilters := ["file:///l".toList] }
def emptyMatchFiles : FileTree where
  entries := Std.TreeMap.ofList
    [(["d".toList], Entry.directory 0), (["d".toList, "adblock".toList], Entry.directory 0),
     (["l".toList], Entry.file emptyMatchList.toBytes 0)]

/-- A request that the rule is for. -/
def pageRequest (page : Option Text) : Request := ⟨"http://a/x.js".toList, page, .script⟩

/-- The tester has the rule, and blocks the request from the empty page. -/
theorem exists_start_emptyMatch : emptyMatchFiles.read "/l".toList = .ok emptyMatchList.toBytes ∧
    ∃ s₀, (Session.start emptyMatchConfig emptyMatchFiles 0).2 = .ok s₀ ∧
    s₀.tester.filters = ["file:///l".toList] ∧
    s₀.files.read (SourceLocation.ofUrl emptyMatchConfig.adblockDir "file:///l".toList).path =
      .ok emptyMatchList.toBytes ∧
    (∀ page ∈ [none, some []], (s₀.tester.query (pageRequest page)).1.blocked = true) ∧
    ∀ url, s₀.index.SparesOnEmptyPage url := by
  obtain ⟨s₀, hstart, hfacts⟩ := exists_ok_of_map (show
    (Session.start emptyMatchConfig emptyMatchFiles 0).2.toOption.map (fun s =>
      (s.tester.filters, s.index.patterns.toList.all (fun p => p.isThirdParty && p.matchesIn []),
        [none, some []].all fun page => (s.tester.query (pageRequest page)).1.blocked)) =
    some (["file:///l".toList], true, true) by decide +kernel)
  simp only [Prod.mk.injEq] at hfacts
  obtain ⟨hfilters, hspares, hblocks⟩ := hfacts
  have hdirectory : emptyMatchFiles.directory emptyMatchConfig.adblockDir =
      .ok ["d".toList, "adblock".toList] := by decide +kernel
  have hfiles : s₀.files = emptyMatchFiles :=
    (Session.keeps_start_of_directory hdirectory hstart).1
  have hread : emptyMatchFiles.read "/l".toList = .ok emptyMatchList.toBytes := by decide +kernel
  have hpath : (SourceLocation.ofUrl emptyMatchConfig.adblockDir "file:///l".toList).path =
      "/l".toList := by decide +kernel
  refine ⟨hread, s₀, hstart, hfilters, by rw [hpath, hfiles, hread], fun page hpage =>
    List.all_eq_true.mp hblocks page hpage, fun url id p _ hp _ => ?_⟩
  have hboth := List.all_eq_true.mp hspares p (RuleIndex.mem_patterns hp)
  exact Bool.and_eq_true_iff.mp hboth

/-- From the empty page the command lets the request pass, and from no page it does not. -/
theorem check_blocks_iff_empty : ∃ s₀,
    (Session.start emptyMatchConfig emptyMatchFiles 0).2 = .ok s₀ ∧
    s₀.tester.filters = ["file:///l".toList] ∧
    emptyMatchFiles.read "/l".toList = .ok emptyMatchList.toBytes ∧
    (perform emptyMatchConfig emptyMatchFiles 0
      (.check ["/l".toList] "http://a/x.js".toList none "script".toList)).lines =
        [.plain (decisionLine (pageRequest none) true)] ∧
    (perform emptyMatchConfig emptyMatchFiles 0
      (.check ["/l".toList] "http://a/x.js".toList (some []) "script".toList)).lines =
        [.plain (decisionLine (pageRequest (some [])) false)] := by
  obtain ⟨hread, s₀, hstart, hfilters, hsource, hblocks, hspares⟩ := exists_start_emptyMatch
  have htexts : emptyMatchConfig.texts s₀.files s₀.tester.filters =
      [Text.ofBytesLossy emptyMatchList.toBytes] := by
    rw [hfilters, Config.texts, List.filterMap_cons, Config.text?, hsource]
    rfl
  have hboth := check_blocks_iff hread hstart htexts rfl 0 "http://a/x.js".toList
  have htype : ResourceType.ofName "script".toList = .script := by decide
  obtain ⟨-, hwithout, -⟩ := hboth none "script".toList
  obtain ⟨-, -, hempty⟩ := hboth (some []) "script".toList
  rw [htype] at hwithout hempty
  exact ⟨s₀, hstart, hfilters, hread, hwithout.mpr ⟨hblocks none (by simp), by simp⟩,
    hempty.mpr fun hblocked => hblocked.2 ⟨rfl, hspares _⟩⟩

/-- So the command and the tester need not decide a request alike. -/
theorem check_allows_empty : ¬ ∀ (config config' : Config) (files files' : FileTree) (path : Path)
    (now later : Nat) (s₀ : Session) (subscription : Text) (content : Bytes) (url : Text)
    (page : Option Text) (type : Text), files.read path = .ok content →
      (Session.start config' files' now).2 = .ok s₀ → s₀.tester.filters = [subscription] →
      s₀.files.read (SourceLocation.ofUrl config'.adblockDir subscription).path = .ok content →
      config'.maxLineLen = config.maxLineLen →
      ((perform config files later (.check [path] url page type)).lines =
          [.plain (decisionLine ⟨url, page, .ofName type⟩ true)] ↔
        (s₀.tester.query ⟨url, page, .ofName type⟩).1.blocked = true) := by
  intro hall
  obtain ⟨hread, s₀, hstart, hfilters, hsource, hblocks, -⟩ := exists_start_emptyMatch
  have hprints := (hall emptyMatchConfig emptyMatchConfig emptyMatchFiles emptyMatchFiles
    "/l".toList 0 0 s₀ "file:///l".toList emptyMatchList.toBytes "http://a/x.js".toList (some [])
    "script".toList hread hstart hfilters hsource rfl).mpr (hblocks (some []) (by simp))
  exact absurd hprints (by decide +kernel)

end Cli

end RequestFilter
