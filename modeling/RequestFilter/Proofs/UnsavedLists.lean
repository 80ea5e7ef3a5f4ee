import RequestFilter.Proofs.HiddenPlaces
import RequestFilter.Proofs.TimelyFetches

/-!
# Lists that could not be saved

Once a tester is started it does not look at the list of subscriptions any more. So whether a change
of the subscriptions could be saved shows in what is told of it, and in the file of the list; it
shows in nothing that the tester does from then on.

* `Config.Spares`: a subscription is not read through the list; `Session.otherEvents`: what is told
  of apart from lists that could not be saved;
* `Session.Twins`: two sessions that differ in the file of the list only, and in whether they were
  told of it; `Twins.loadSubscriptions`, `Twins.reload`, `Twins.setFilters`,
  `Twins.completeFetch`: **no operation tells them apart**;
* `Operation.Parallel`: what is done to both of them, `Twins.run`;
* `saves_go_unnoticed`: **whether the list is saved makes no difference to a tester that reads
  nothing through it**; `unsaved_list_noticed`: to one that does it may.

NOT here: what a tester finds that is started again (`Proofs/SavedLists.lean`).
-/

namespace RequestFilter

/-- The text of a subscription is not read through the list, nor from it or from below it. -/
def Config.Spares (c : Config) (files : FileTree) (url : Text) : Prop :=
  FileUrl.isFileUrl url = true → ¬ files.Meets (c.listPlace files) (FileUrl.pathOr url)

/-- It is told that a list could not be saved. -/
def TesterEvent.isUnsavedList : TesterEvent → Bool
  | .unsavedList _ => true
  | _ => false

namespace Session

/-! ## 1. Saving -/

/-- Apart from lists that could not be saved, what a session has told of. -/
def otherEvents (s : Session) : List TesterEvent := s.events.filter (!·.isUnsavedList)

theorem filter_unsaved {told : List TesterEvent} (h : ∀ e ∈ told, ∃ cause, e = .unsavedList cause) :
    told.filter (!·.isUnsavedList) = [] := by
  refine List.filter_eq_nil_iff.mpr fun e he => ?_
  obtain ⟨cause, rfl⟩ := h e he
  simp [TesterEvent.isUnsavedList]

section Saving

variable (s : Session) (now : Nat) (filters : List Text)

/-- A change of the subscriptions changes nothing among the files but the list. -/
theorem alikeOutside_setFilters : s.files.AlikeOutside (s.tester.config.listPlace s.files)
    (s.setFilters now filters).1.files := by
  unfold setFilters
  simp only
  split
  · rename_i files hwrite
    exact FileTree.alikeOutside_write hwrite
  · exact .refl _ _

/-- **If a change can be saved, the path of the directory does not lead through the list.** -/
theorem not_meets_of_setFilters (h : (s.setFilters now filters).2 = .ok ()) :
    ¬ s.files.Meets (s.tester.config.listPlace s.files) s.tester.config.adblockDir := by
  unfold setFilters at h
  simp only at h
  split at h
  · rename_i files hwrite
    exact Config.not_meets_of_write hwrite
  · cases h

end Saving

/-! ## 2. Twins -/

/-- Two sessions that differ in what lies at the place of the list, and in having told that it could
    not be saved. None of their subscriptions is read through the list. Relative paths start from
    where they do in the given files. -/
structure Twins (c : Config) (files : FileTree) (s t : Session) : Prop where
  config : s.tester.config = c
  current : s.files.current = files.current
  spared : ∀ url ∈ s.tester.filters, c.Spares files url
  tester : t.tester = s.tester
  alike : s.files.AlikeOutside (c.listPlace files) t.files
  told : t.otherEvents = s.otherEvents

namespace Twins

variable {c : Config} {files : FileTree} {s t : Session} (h : Twins c files s t)
include h

/-- Both tell of the same besides. -/
theorem tell (events : List TesterEvent) :
    (t.events ++ events).filter (!·.isUnsavedList) =
      (s.events ++ events).filter (!·.isUnsavedList) := by
  have htold : t.events.filter _ = s.events.filter _ := h.told
  rw [List.filter_append, List.filter_append, htold]

theorem report (e : TesterEvent) : Twins c files (s.report e) (t.report e) :=
  ⟨h.config, h.current, h.spared, h.tester, h.alike, h.tell [e]⟩

theorem enter (state : TesterState) : Twins c files (s.enter state) (t.enter state) := by
  unfold Session.enter
  rw [h.tester]
  split
  · exact h
  · exact ⟨h.config, h.current, h.spared, rfl, h.alike, h.tell _⟩

theorem settle : Twins c files s.settle t.settle := by
  unfold Session.settle
  rw [h.tester]
  split
  · exact h.enter .ready
  · exact h

theorem read {path : Path} (hpath : ¬ files.Meets (c.listPlace files) path) :
    t.files.read path = s.files.read path :=
  h.alike.read fun hmeets => hpath ((FileTree.meets_congr h.current).mp hmeets)

theorem loadPath (url : Text) {path : Path} (hpath : ¬ files.Meets (c.listPlace files) path) :
    Twins c files (s.loadPath url path) (t.loadPath url path) := by
  unfold Session.loadPath
  rw [h.read hpath, h.tester]
  split
  · exact h.report _
  · simp only [List.append_assoc]
    exact ⟨h.config, h.current, h.spared, rfl, h.alike, h.tell _⟩

theorem ask (url : Text) (path : Path) : Twins c files (s.ask url path) (t.ask url path) := by
  unfold Session.ask
  rw [h.tester]
  exact ⟨h.config, h.current, h.spared, rfl, h.alike, h.tell _⟩

/-- The same change of both testers does not tell them apart. -/
theorem alter (f : Tester → Tester) (hconfig : (f s.tester).config = s.tester.config)
    (hspared : ∀ url ∈ (f s.tester).filters, c.Spares files url) :
    Twins c files { s with tester := f s.tester } { t with tester := f t.tester } :=
  ⟨hconfig.trans h.config, h.current, hspared, congrArg f h.tester, h.alike, h.told⟩

theorem forget : Twins c files s.forget t.forget :=
  h.alter (fun u => { u with
    rules := {}
    memory := { u.memory with cache := {} }
    loadStats := {}
    pending := []
    generation := u.generation + 1 }) rfl h.spared

theorem setFilters (now : Nat) {filters : List Text}
    (hspares : ∀ url ∈ filters, c.Spares files url) :
    Twins c files (s.setFilters now filters).1 (t.setFilters now filters).1 := by
  obtain ⟨sfiles, hset⟩ := exists_of_setFilters s now filters
  obtain ⟨tfiles, hset'⟩ := exists_of_setFilters t now filters
  have hsplace : s.tester.config.listPlace s.files = c.listPlace files := by
    rw [h.config]
    exact FileTree.target_congr h.current _
  have htplace : t.tester.config.listPlace t.files = c.listPlace files := by
    rw [h.tester, h.config]
    exact FileTree.target_congr (h.alike.current.trans h.current) _
  have hs := hsplace ▸ alikeOutside_setFilters s now filters
  have ht := htplace ▸ alikeOutside_setFilters t now filters
  rw [hset] at hs ⊢
  rw [hset'] at ht ⊢
  rw [h.tester]
  have halike := (hs.symm.trans h.alike).trans ht
  exact ⟨h.config, hs.current.trans h.current, hspares, rfl, halike, h.told⟩

/-- What is queried changes the memory only. -/
theorem query (r : Request) : Twins c files (s.apply (.query r)) (t.apply (.query r)) :=
  h.alter (fun u => (u.query r).2) rfl h.spared

theorem completeFetch {q : FetchCompletion}
    (hpath : ¬ files.Meets (c.listPlace files) q.request.destination) :
    Twins c files (s.completeFetch q) (t.completeFetch q) := by
  have hsettled := (h.alter (fun u => { u with
    pending := u.pending.filter (· ≠ q.request.sourceUrl) }) rfl h.spared).settle
  unfold Session.completeFetch
  simp only
  rw [h.tester] at hsettled ⊢
  split
  · exact h.report _
  split
  · exact hsettled.report _
  split
  · exact hsettled.report _
  · exact hsettled.loadPath _ hpath

variable (hdirectory : ¬ files.Meets (c.listPlace files) c.adblockDir)
include hdirectory

theorem loadSource (now : Nat) {url : Text} (hspares : c.Spares files url) :
    Twins c files (s.loadSource now url) (t.loadSource now url) := by
  have hpath := Config.not_meets_ofUrl hdirectory url hspares
  unfold Session.loadSource
  rw [h.tester, Tester.adblockDir, h.config]
  cases hsource : SourceLocation.ofUrl c.adblockDir url with
  | inPlace path =>
    rw [hsource] at hpath
    exact h.loadPath url hpath
  | cached path =>
    rw [hsource] at hpath
    have hmeets : ¬ s.files.Meets (c.listPlace files) path := fun hmeets =>
      hpath ((FileTree.meets_congr h.current).mp hmeets)
    have hloaded : Twins c files (if s.files.exists? path then s.loadPath url path else s)
        (if s.files.exists? path then t.loadPath url path else t) := by
      split
      · exact h.loadPath url hpath
      · exact h
    simp only
    rw [h.alike.exists? hmeets, h.alike.isFresh hmeets]
    split
    · exact hloaded
    · exact hloaded.ask url path

theorem loadSources (now : Nat) {filters : List Text}
    (hspares : ∀ url ∈ filters, c.Spares files url) :
    Twins c files (filters.foldl (Session.loadSource now) s)
      (filters.foldl (Session.loadSource now) t) := by
  induction filters generalizing s t with
  | nil => exact h
  | cons url filters ih =>
    obtain ⟨hurl, hfilters⟩ := List.forall_mem_cons.mp hspares
    exact ih (h.loadSource hdirectory now hurl) hfilters

/-- **Loading the subscriptions does not tell them apart.** -/
theorem loadSubscriptions (now : Nat) :
    Twins c files (s.loadSubscriptions now) (t.loadSubscriptions now) := by
  unfold Session.loadSubscriptions
  rw [h.tester]
  exact ((h.enter .compiling).loadSources hdirectory now h.spared).settle

theorem removeCacheFiles : Twins c files s.removeCacheFiles t.removeCacheFiles := by
  obtain ⟨hplace, hmeets⟩ : c.listPlace s.files = c.listPlace files ∧
      ¬ s.files.Meets (c.listPlace s.files) c.adblockDir := by
    have hplace : c.listPlace s.files = c.listPlace files := FileTree.target_congr h.current _
    exact ⟨hplace, fun hm => hdirectory ((FileTree.meets_congr h.current).mp (hplace ▸ hm))⟩
  have hdir : s.tester.adblockDir = c.adblockDir := by rw [Tester.adblockDir, h.config]
  have halike := h.alike
  rw [← hplace] at halike
  have hleft := Config.alikeOutside_withoutCacheFiles hmeets halike
  unfold Session.removeCacheFiles
  rw [hdir, show t.tester.adblockDir = c.adblockDir by rw [h.tester, hdir]]
  rcases Config.removeCacheFiles_alike hmeets halike with ⟨refused, hs, ht⟩ | ⟨e, hs, ht⟩
  · obtain ⟨_, hclears, -⟩ := Subscription.exists_clears s.files c.adblockDir
    rw [hs, ht]
    exact ⟨h.config, hclears.current.trans h.current, h.spared, h.tester, hplace ▸ hleft, h.tell _⟩
  · rw [hs, ht]
    exact h.report _

/-- **A reload does not tell them apart**, whatever lies at the place of the list. -/
theorem reload (now : Nat) : Twins c files (s.reload now) (t.reload now) := by
  have hcleared := ((h.enter .reloading).removeCacheFiles hdirectory).forget
  unfold Session.reload
  simp only
  rw [hcleared.tester]
  exact (hcleared.report _).loadSubscriptions hdirectory now

theorem editFilters (now : Nat) {filters : List Text}
    (hspares : ∀ url ∈ filters, c.Spares files url) :
    Twins c files (s.editFilters now filters) (t.editFilters now filters) := by
  have hset := h.setFilters now hspares
  obtain ⟨told, htold, hs⟩ := exists_of_editFilters s now filters
  obtain ⟨told', htold', ht⟩ := exists_of_editFilters t now filters
  have hboth : Twins c files
      { (s.setFilters now filters).1 with events := s.events ++ told }
      { (t.setFilters now filters).1 with events := t.events ++ told' } := by
    refine ⟨hset.config, hset.current, hset.spared, hset.tester, hset.alike, ?_⟩
    rw [otherEvents, otherEvents, List.filter_append, List.filter_append,
      filter_unsaved htold, filter_unsaved htold', List.append_nil, List.append_nil]
    exact h.told
  rw [hs, ht]
  exact hboth.reload hdirectory now

end Twins

/-! ## 3. Runs -/

/-- The same is done to both of two sessions: no text is to be read through the list, and where the
    files change from outside, they again differ at the place of the list only. -/
inductive Operation.Parallel (c : Config) (files : FileTree) : Operation → Operation → Prop
  | query (r : Request) : Parallel c files (.query r) (.query r)
  | setFilters (now : Nat) {filters : List Text} (h : ∀ url ∈ filters, c.Spares files url) :
    Parallel c files (.setFilters now filters) (.setFilters now filters)
  | reload (now : Nat) : Parallel c files (.reload now) (.reload now)
  | editFilters (now : Nat) {filters : List Text} (h : ∀ url ∈ filters, c.Spares files url) :
    Parallel c files (.editFilters now filters) (.editFilters now filters)
  | completeFetch {q : FetchCompletion}
    (h : ¬ files.Meets (c.listPlace files) q.request.destination) :
    Parallel c files (.completeFetch q) (.completeFetch q)
  | fileChange {left right : FileTree} (hcurrent : left.current = files.current)
    (halike : left.AlikeOutside (c.listPlace files) right) :
    Parallel c files (.fileChange left) (.fileChange right)

section Runs

variable {c : Config} {files : FileTree} {s t : Session}
  (hdirectory : ¬ files.Meets (c.listPlace files) c.adblockDir)
include hdirectory

/-- **No operation tells twins apart.** -/
theorem Twins.apply (h : Twins c files s t) {op op' : Operation}
    (hop : Operation.Parallel c files op op') : Twins c files (s.apply op) (t.apply op') := by
  cases hop with
  | query r => exact h.query r
  | setFilters now hspares => exact h.setFilters now hspares
  | reload now => exact h.reload hdirectory now
  | editFilters now hspares => exact h.editFilters hdirectory now hspares
  | completeFetch hpath => exact h.completeFetch hpath
  | fileChange hcurrent halike => exact ⟨h.config, hcurrent, h.spared, h.tester, halike, h.told⟩

/-- **Nor does any run**, and they give the same answers. -/
theorem Twins.run (h : Twins c files s t) {ops ops' : List Operation}
    (hops : List.Forall₂ (Operation.Parallel c files) ops ops') :
    Twins c files (s.run ops) (t.run ops') ∧ t.answers ops' = s.answers ops := by
  induction hops generalizing s t with
  | nil => exact ⟨h, rfl⟩
  | cons hop hops ih =>
    obtain ⟨htwins, hanswers⟩ := ih (h.apply hdirectory hop)
    refine ⟨htwins, ?_⟩
    cases hop with
    | query r => exact congrArg₂ List.cons (by rw [h.tester]) hanswers
    | _ => exact hanswers

end Runs

/-- **Whether the list is saved makes no difference to a tester that reads nothing through it.** A
    change of the subscriptions changes nothing else in a tester, whether it is saved or not. Let a
    tester go on from any state among two file systems that differ only in what lies at the place of
    the list, in one of which at least a list can be saved. Let none of its subscriptions be read
    through the list, now or later, nor any text that is said to have been fetched. Then whatever is
    done to both, and so at every step, they give the same answers, the testers are the same, they
    tell of the same apart from lists that could not be saved, and the files differ at the place of
    the list only. The fetches that the tester asks for are not stored there. -/
theorem saves_go_unnoticed {config : Config} {files : FileTree} {now : Nat} {s₀ : Session}
    (hstart : (start config files now).2 = .ok s₀) (before : List Operation) :
    let s := s₀.run before
    (∀ later filters,
      (s.setFilters later filters).1.tester = { s.tester with filters := filters }) ∧
    ∀ (other : FileTree) (later : Nat) (saved : List Text),
      let t : Session := { s with files := other }
      s.files.AlikeOutside (config.listPlace s.files) other →
      (s.setFilters later saved).2 = .ok () ∨ (t.setFilters later saved).2 = .ok () →
      (∀ url ∈ s.tester.filters, config.Spares s.files url) →
      (∀ ops ops', List.Forall₂ (Operation.Parallel config s.files) ops ops' →
        t.answers ops' = s.answers ops ∧ (t.run ops').tester = (s.run ops).tester ∧
        (t.run ops').otherEvents = (s.run ops).otherEvents ∧
        (s.run ops).files.AlikeOutside (config.listPlace s.files) (t.run ops').files) ∧
      ∀ ops : List Operation, ∀ q ∈ (s.run ops).tester.requests,
        ¬ s.files.Meets (config.listPlace s.files) q.destination := by
  intro s
  refine ⟨fun later filters => ?_, ?_⟩
  · obtain ⟨files, hset⟩ := exists_of_setFilters s later filters
    rw [hset]
  intro other later saved t halike hsaved hspared
  have hconfig : s.tester.config = config := (storesIn_run hstart before).config
  have hdirectory : ¬ s.files.Meets (config.listPlace s.files) config.adblockDir := by
    rw [← hconfig]
    rcases hsaved with hsaved | hsaved
    · exact not_meets_of_setFilters s later saved hsaved
    · have hother : ¬ other.Meets (s.tester.config.listPlace other) s.tester.config.adblockDir :=
        not_meets_of_setFilters t later saved hsaved
      rwa [Config.listPlace, FileTree.target_congr halike.current,
        FileTree.meets_congr halike.current] at hother
  refine ⟨fun ops ops' hops => ?run, fun ops q hq => ?destination⟩
  case run =>
    have htwins : Twins config s.files s t := ⟨hconfig, rfl, hspared, rfl, halike, rfl⟩
    obtain ⟨hrun, hanswers⟩ := htwins.run hdirectory hops
    exact ⟨hanswers, hrun.tester, hrun.told, hrun.alike⟩
  case destination =>
    have hstores := storesIn_run hstart (before ++ ops)
    rw [run_append] at hstores
    rw [hstores.destination q hq]
    exact Config.not_meets_cached hdirectory q.sourceUrl

/-! ## 4. A directory in the place of the list -/

/-- A tester without subscriptions, and its files: a list of one's own lies beside its directory. -/
def bareConfig : Config := { Config.standard "/d".toList with defaultFilters := [] }
def bareFiles : FileTree where
  entries := Std.TreeMap.ofList
    [(["d".toList], Entry.directory 0), (["d".toList, "adblock".toList], Entry.directory 0),
     (["d".toList, "l".toList], Entry.file (Text.toBytes "||ads^\n".toList) 0)]

/-- A directory lies in the place of the list. -/
def barred (files : FileTree) : FileTree :=
  files.put ["d".toList, "adblock".toList, "filters.list".toList] (.directory 0)

/-- Two lists are subscribed to, one after the other: one's own, and one that has to be fetched. -/
def bareRun (files : FileTree) : List Operation :=
  [.editFilters 0 ["file:///d/l".toList], .query earlyRequest,
   .setFilters 0 ["https://l/a".toList], .reload 0, .fileChange files,
   .completeFetch ⟨lateFetch 2, true⟩, .query earlyRequest]

theorem alikeOutside_barred (files : FileTree) :
    files.AlikeOutside (bareConfig.listPlace bareFiles) (barred files) :=
  FileTree.alikeOutside_put (by decide) _

/-- What the run does does not meet the list. -/
theorem parallel_bareRun : List.Forall₂ (Operation.Parallel bareConfig bareFiles)
    (bareRun lateFiles) (bareRun (barred lateFiles)) := by
  have hown : bareConfig.Spares bareFiles "file:///d/l".toList := fun _ => by decide +kernel
  have hremote : bareConfig.Spares bareFiles "https://l/a".toList := fun hfile =>
    absurd hfile (by decide)
  refine .cons (.editFilters 0 (List.forall_mem_singleton.mpr hown)) <| .cons (.query _) <|
    .cons (.setFilters 0 (List.forall_mem_singleton.mpr hremote)) <| .cons (.reload 0) <|
    .cons (.fileChange rfl (alikeOutside_barred lateFiles)) <| .cons (.completeFetch ?_) <|
    .cons (.query _) .nil
  decide +kernel

/-- One list is saved and the other is not, and both testers block what the lists say. -/
theorem saves_go_unnoticed_barred : ∃ s, (start bareConfig bareFiles 0).2 = .ok s ∧
    let t : Session := { s with files := barred bareFiles }
    (s.setFilters 0 []).2 = .ok () ∧
    (t.setFilters 0 []).2 = .error (.io bareConfig.filtersListPath .isADirectory) ∧
    (t.run (bareRun (barred lateFiles))).tester = (s.run (bareRun lateFiles)).tester ∧
    (t.answers (bareRun (barred lateFiles))).map (·.blocked) = [true, true] := by
  obtain ⟨s, hstart, hfacts⟩ := exists_ok_of_map (show
    (start bareConfig bareFiles 0).2.toOption.map (fun s => ((s.setFilters 0 []).2,
      (({ s with files := barred bareFiles } : Session).setFilters 0 []).2,
      (s.answers (bareRun lateFiles)).map (·.blocked))) =
    some (.ok (), .error (.io bareConfig.filtersListPath .isADirectory), [true, true]) by
      decide +kernel)
  simp only [Prod.mk.injEq] at hfacts
  obtain ⟨hsaved, hunsaved, hblocked⟩ := hfacts
  obtain ⟨hfiles, -, hfilters⟩ := keeps_start_of_directory
    (show bareFiles.directory bareConfig.adblockDir = .ok ["d".toList, "adblock".toList] by
      decide +kernel) hstart
  have hnone : bareConfig.subscriptions bareFiles = [] := by decide +kernel
  obtain ⟨-, hboth⟩ := saves_go_unnoticed hstart []
  rw [run, List.foldl_nil, hfiles] at hboth
  obtain ⟨hruns, -⟩ := hboth (barred bareFiles) 0 [] (alikeOutside_barred bareFiles) (.inl hsaved)
    (by simp [hfilters, hnone])
  obtain ⟨hanswers, htester, -⟩ := hruns _ _ parallel_bareRun
  exact ⟨s, hstart, hsaved, hunsaved, htester, by rw [hanswers, hblocked]⟩

/-! ## 5. Texts that are read through the list -/

/-- A list of one's own that is looked up through the place of the list. -/
def throughUrl : Text := "file:///d/adblock/filters.list%2F..%2F..%2Fl".toList

/-- A subscription that is a rule if the list is taken for a text; the end of a fetch that nobody
    has asked for, which says that the text is stored there; and a request that the rule is for. -/
def ruleUrl : Text := "ads.example.com".toList
def madeUpFetch : FetchCompletion := ⟨⟨ruleUrl, bareConfig.filtersListPath, 0⟩, true⟩
def ruleRequest : Request := ⟨"http://ads.example.com;/x.js".toList, none, .script⟩

/-- To a tester that reads something through the list it may make a difference, even where no
    subscription leads to the list or to what lies below it: a list of one's own may be looked up
    through it, and a fetch that was not asked for may be said to have been stored there. -/
theorem unsaved_list_noticed : ∃ s, (start bareConfig bareFiles 0).2 = .ok s ∧
    let t : Session := { s with files := barred s.files }
    let place := bareConfig.listPlace s.files
    let through : List Operation := [.editFilters 0 [throughUrl], .query earlyRequest]
    let madeUp : List Operation :=
      [.setFilters 0 [ruleUrl], .completeFetch madeUpFetch, .query ruleRequest]
    s.files.AlikeOutside place t.files ∧
    (∀ filters ∈ [[throughUrl], [ruleUrl]], (s.setFilters 0 filters).2 = .ok () ∧
      (t.setFilters 0 filters).2 = .error (.io bareConfig.filtersListPath .isADirectory) ∧
      ∀ url ∈ filters, FileUrl.isFileUrl url = true →
        ¬ place <+: s.files.target (FileUrl.pathOr url)) ∧
    ((s.answers through).map (·.blocked) = [false] ∧
      (t.answers through).map (·.blocked) = [true]) ∧
    (s.answers madeUp).map (·.blocked) = [true] ∧
      (t.answers madeUp).map (·.blocked) = [false] := by
  obtain ⟨s, hstart, hfacts⟩ := exists_ok_of_map (show
    (start bareConfig bareFiles 0).2.toOption.map (fun s =>
      let t : Session := { s with files := barred s.files }
      let through : List Operation := [.editFilters 0 [throughUrl], .query earlyRequest]
      let madeUp : List Operation :=
        [.setFilters 0 [ruleUrl], .completeFetch madeUpFetch, .query ruleRequest]
      ([[throughUrl], [ruleUrl]].map fun filters =>
          ((s.setFilters 0 filters).2, (t.setFilters 0 filters).2),
        [through, madeUp].map fun ops =>
          ((s.answers ops).map (·.blocked), (t.answers ops).map (·.blocked)))) =
    some ([(.ok (), .error (.io bareConfig.filtersListPath .isADirectory)),
        (.ok (), .error (.io bareConfig.filtersListPath .isADirectory))],
      [([false], [true]), ([true], [false])]) by decide +kernel)
  simp only [List.map_cons, List.map_nil, Prod.mk.injEq, List.cons.injEq, and_true] at hfacts
  obtain ⟨⟨⟨hsaved, hunsaved⟩, hsaved', hunsaved'⟩, hthrough, hmadeUp⟩ := hfacts
  obtain ⟨hfiles, -⟩ := keeps_start_of_directory
    (show bareFiles.directory bareConfig.adblockDir = .ok ["d".toList, "adblock".toList] by
      decide +kernel) hstart
  have hnamed : ¬ bareConfig.listPlace bareFiles <+:
      bareFiles.target (FileUrl.pathOr throughUrl) := by decide +kernel
  refine ⟨s, hstart, ?alike, ?saves, hthrough, hmadeUp⟩
  case alike =>
    rw [hfiles]
    exact alikeOutside_barred bareFiles
  case saves =>
    rw [List.forall_mem_cons, List.forall_mem_singleton, List.forall_mem_singleton,
      List.forall_mem_singleton, hfiles]
    rw [hfiles] at hunsaved hunsaved'
    exact ⟨⟨hsaved, hunsaved, fun _ => hnamed⟩, hsaved', hunsaved', fun hfile =>
      absurd hfile (by decide)⟩

end Session

end RequestFilter
