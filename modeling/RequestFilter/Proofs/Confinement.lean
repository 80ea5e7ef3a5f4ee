import RequestFilter.Proofs.Reloads

/-!
# What a tester does to the files

Whatever it subscribes to and whatever is done to it, a tester keeps to its directory: it makes the
directory, saves the list of subscriptions there and removes the other files that lie directly in
it. Texts are fetched to files in the directory too, and never over the list.

* `SavesAt` and `RemovesAt`: the list is saved, a cached text is removed;
* `Session.Operation.Touches`: what an operation may do to a place; `touches_apply`: **all that it
  does to the files is of that kind**;
* `Session.StoresIn`: fetches are stored under digests of their sources, `storesIn_run`;
* `confined`: **a tester keeps to its directory in every run**.

NOT here: what the host does when it stores a fetched text.
-/

namespace RequestFilter

/-! ## 1. The list and the cached texts -/

/-- The list of subscriptions is saved in its file, which need not have been there. -/
structure SavesAt (c : Config) (filters : List Text) (before after : FileTree) (place : Location) :
    Prop where
  place_eq : place = before.target c.adblockDir ++ [Config.filtersListFile]
  noDirectory : ∀ modified, before.at? place ≠ some (.directory modified)
  saved : ∃ modified, after.at? place = some (.file (Subscription.toText filters).toBytes modified)

/-- A file that lies directly in the directory of the cached texts, other than the list, is
    removed. -/
structure RemovesAt (c : Config) (before after : FileTree) (place : Location) : Prop where
  named : ∃ name, place = before.target c.adblockDir ++ [name] ∧ name ≠ Config.filtersListFile
  file : ∃ content modified, before.at? place = some (.file content modified)
  removed : after.at? place = none

/-- **What is removed with the cached texts** are files that lie directly in their directory. -/
theorem Subscription.removesAt_withoutCacheFiles (c : Config) (files : FileTree) :
    (withoutCacheFiles files c.adblockDir).current = files.current ∧
    (withoutCacheFiles files c.adblockDir).pinned = files.pinned ∧
    ∀ place, (withoutCacheFiles files c.adblockDir).at? place ≠ files.at? place →
      RemovesAt c files (withoutCacheFiles files c.adblockDir) place := by
  obtain ⟨names, hclears, -⟩ := exists_clears files c.adblockDir
  refine ⟨hclears.current, hclears.pinned, fun place hchanged => ?_⟩
  have hremoved : IsRemoved files c.adblockDir place :=
    not_not.mp fun hkept => hchanged (at?_withoutCacheFiles_of_not c hkept)
  obtain ⟨parent, name, hdirectory, rfl, -, htakes⟩ := id hremoved
  refine ⟨⟨name, ?_, htakes.cached⟩, htakes.file, Option.eq_none_iff_forall_ne_some.mpr ?_⟩
  · rw [FileTree.locate_eq_target (FileTree.locate_of_directory hdirectory).1]
  · exact fun entry hat => ((at?_withoutCacheFiles c files).mp hat).2 hremoved

/-- The list is no cached text: where it is saved nothing is removed. -/
theorem SavesAt.not_removesAt {c : Config} {filters : List Text} {files saved left : FileTree}
    {place : Location} (h : SavesAt c filters files saved place)
    (hcurrent : saved.current = files.current) : ¬ RemovesAt c saved left place := by
  intro hremoves
  obtain ⟨name, hname, hother⟩ := hremoves.named
  rw [h.place_eq, FileTree.target_congr hcurrent] at hname
  exact hother (List.singleton_inj.mp (List.append_cancel_left hname)).symm

namespace Session

/-! ## 2. Operations -/

/-- What an operation may do to a place. A change from outside may do anything. -/
def Operation.Touches (c : Config) (before after : FileTree) (place : Location) : Operation → Prop
  | .query _ | .completeFetch _ => False
  | .setFilters _ filters => SavesAt c filters before after place
  | .reload _ => RemovesAt c before after place
  | .editFilters _ filters =>
    SavesAt c filters before after place ∨ RemovesAt c before after place
  | .fileChange _ => True

theorem touches_setFilters (s : Session) (now : Nat) (filters : List Text) :
    (s.setFilters now filters).1.files.current = s.files.current ∧
    (s.setFilters now filters).1.files.pinned = s.files.pinned ∧
    ∀ place, (s.setFilters now filters).1.files.at? place ≠ s.files.at? place →
      SavesAt s.tester.config filters s.files (s.setFilters now filters).1.files place := by
  unfold setFilters
  simp only
  split
  · rename_i files hwrite
    obtain ⟨there, hlocate, hno, rfl⟩ := FileTree.write_eq_ok.mp hwrite
    have hne := FileTree.ne_nil_of_at? hno
    have htarget := FileTree.locate_eq_target hlocate
    rw [Config.target_filtersListPath] at htarget
    refine ⟨rfl, rfl, fun place hchanged => ?_⟩
    simp only [FileTree.at?_put hne] at hchanged
    split at hchanged
    · rename_i hplace
      subst hplace
      exact ⟨htarget, hno, now, by rw [FileTree.at?_put hne, if_pos rfl]⟩
    · exact absurd rfl hchanged
  · exact ⟨rfl, rfl, fun place h => absurd rfl h⟩

/-- **All that an operation does to the files** is to save the list and to remove cached texts. -/
theorem touches_apply (s : Session) {op : Operation} (hop : ∀ files, op ≠ .fileChange files) :
    (s.apply op).files.current = s.files.current ∧ (s.apply op).files.pinned = s.files.pinned ∧
    ∀ place, (s.apply op).files.at? place ≠ s.files.at? place →
      op.Touches s.tester.config s.files (s.apply op).files place := by
  cases op with
  | query r => exact ⟨rfl, rfl, fun place h => absurd rfl h⟩
  | setFilters now filters => exact touches_setFilters s now filters
  | reload now =>
    have hfiles : (s.apply (.reload now)).files = _ := files_reload s now
    rw [hfiles]
    exact Subscription.removesAt_withoutCacheFiles s.tester.config s.files
  | editFilters now filters =>
    have hfiles : (s.apply (.editFilters now filters)).files = _ := files_editFilters s now filters
    obtain ⟨hcurrent, hpinned, hsaves⟩ := touches_setFilters s now filters
    obtain ⟨hcurrent', hpinned', hremoves⟩ := Subscription.removesAt_withoutCacheFiles s.tester.config
      (s.setFilters now filters).1.files
    rw [hfiles]
    refine ⟨hcurrent'.trans hcurrent, hpinned'.trans hpinned, fun place hchanged => ?_⟩
    by_cases hsaved : (s.setFilters now filters).1.files.at? place = s.files.at? place
    · -- the list is the same, so it is the reload that has changed something
      obtain ⟨⟨name, hname, hother⟩, hfile, hgone⟩ := hremoves place (hsaved ▸ hchanged)
      rw [FileTree.target_congr hcurrent] at hname
      exact Or.inr ⟨⟨name, hname, hother⟩, hsaved ▸ hfile, hgone⟩
    · have hlist := hsaves place hsaved
      have hkept := not_imp_comm.mp (hremoves place) (hlist.not_removesAt hcurrent)
      obtain ⟨modified, hat⟩ := hlist.saved
      exact Or.inl ⟨hlist.place_eq, hlist.noDirectory, modified, hkept.trans hat⟩
  | completeFetch c =>
    have hfiles : (s.apply (.completeFetch c)).files = s.files := (keeps_completeFetch s c).files
    rw [hfiles]
    exact ⟨rfl, rfl, fun place h => absurd rfl h⟩
  | fileChange files => exact absurd rfl (hop files)

/-! ## 3. Fetches -/

/-- Every fetch that was asked for is to be stored where the text of its source is cached. -/
structure StoresIn (c : Config) (s : Session) : Prop where
  config : s.tester.config = c
  destination : ∀ q ∈ s.tester.requests,
    q.destination = c.adblockDir.join (Subscription.cacheFileName q.sourceUrl)

theorem StoresIn.loadSubscriptions {c : Config} {s : Session} (h : StoresIn c s) (now : Nat) :
    StoresIn c (s.loadSubscriptions now) := by
  refine loadSubscriptions_induction (P := StoresIn c) ?passes ?load ?ask h now
  case passes =>
    intro s t hs hpasses
    exact ⟨hpasses.keeps.config.trans hs.config, hpasses.requests ▸ hs.destination⟩
  case load =>
    intro s url path hs
    refine ⟨(keeps_loadPath s url path).config.trans hs.config, ?_⟩
    have hrequests : (s.loadPath url path).tester.requests = s.tester.requests :=
      congrArg Ledger.requests (ledger_loadPath s url path)
    rw [hrequests]
    exact hs.destination
  case ask =>
    intro s url path hcached hs
    refine ⟨hs.config, fun q hq => ?_⟩
    rcases List.mem_append.mp hq with hq | hq
    · exact hs.destination q hq
    · rw [List.mem_singleton.mp hq]
      unfold SourceLocation.ofUrl at hcached
      split at hcached
      · cases hcached
      · rw [← SourceLocation.cached.inj hcached, Tester.adblockDir, hs.config]

theorem storesIn_start {c : Config} {files : FileTree} {now : Nat} {s₀ : Session}
    (h : (start c files now).2 = .ok s₀) : StoresIn c s₀ := by
  obtain ⟨filters, files, events, rfl⟩ := exists_of_start h
  have hnew : StoresIn c ⟨{ config := c, filters := filters }, files, events⟩ := ⟨rfl, by simp⟩
  exact hnew.loadSubscriptions now

theorem StoresIn.reload {c : Config} {s : Session} (h : StoresIn c s) (now : Nat) :
    StoresIn c (s.reload now) := by
  obtain ⟨events, hreload⟩ := exists_of_reload s now
  have hnew : StoresIn c
      ⟨s.tester.anew, Subscription.withoutCacheFiles s.files s.tester.adblockDir, events⟩ :=
    ⟨h.config, h.destination⟩
  rw [hreload]
  exact hnew.loadSubscriptions now

/-- **No operation has a fetch stored elsewhere.** -/
theorem StoresIn.apply {c : Config} {s : Session} (h : StoresIn c s) (op : Operation) :
    StoresIn c (s.apply op) := by
  have hset : ∀ now filters, StoresIn c (s.setFilters now filters).1 := by
    intro now filters
    have hrequests : (s.setFilters now filters).1.tester.requests = s.tester.requests :=
      congrArg Ledger.requests (ledger_setFilters s now filters)
    refine ⟨(loads_setFilters s now filters).config.trans h.config, ?_⟩
    rw [hrequests]
    exact h.destination
  cases op with
  | query r => exact ⟨h.config, h.destination⟩
  | setFilters now filters => exact hset now filters
  | reload now => exact h.reload now
  | editFilters now filters =>
    obtain ⟨told, -, hedit⟩ := exists_of_editFilters s now filters
    obtain ⟨hconfig, hdestination⟩ := hset now filters
    have hchanged : StoresIn c { (s.setFilters now filters).1 with events := s.events ++ told } :=
      ⟨hconfig, hdestination⟩
    rw [Session.apply, hedit]
    exact hchanged.reload now
  | completeFetch q =>
    have hrequests : (s.completeFetch q).tester.requests = s.tester.requests :=
      (congrArg Ledger.requests (ledger_completeFetch s q)).trans
        (s.ledger.fetchEnds_requests q.request).2
    refine ⟨(keeps_completeFetch s q).config.trans h.config, ?_⟩
    show ∀ q' ∈ (s.completeFetch q).tester.requests, _
    rw [hrequests]
    exact h.destination
  | fileChange files => exact ⟨h.config, h.destination⟩

theorem storesIn_run {c : Config} {files : FileTree} {now : Nat} {s₀ : Session}
    (h : (start c files now).2 = .ok s₀) (ops : List Operation) : StoresIn c (s₀.run ops) := by
  induction ops using List.reverseRecOn with
  | nil => exact storesIn_start h
  | append_singleton ops op ih =>
    rw [run_concat]
    exact ih.apply op

end Session

/-! ## 4. Names of cached texts -/

/-- The name under which a text is cached is 32 digits. -/
structure IsDigest (name : Text) : Prop where
  length : name.length = 32
  digits : ∀ c ∈ name, c ∈ "0123456789abcdef".toList

theorem Subscription.isDigest_cacheFileName (url : Text) : IsDigest (cacheFileName url) :=
  ⟨Md5.length_hex _, fun _ => Md5.mem_hex⟩

theorem IsDigest.ne {name other : Text} (h : IsDigest name) (hother : other.length ≠ 32) :
    name ≠ other := fun heq => hother (heq ▸ h.length)

theorem IsDigest.isName {name : Text} (h : IsDigest name) : Path.isName name = true :=
  Path.isName_iff.mpr ⟨h.ne (by decide), h.ne (by decide), h.ne (by decide),
    fun hmem => absurd (h.digits _ hmem) (by decide)⟩

/-- So it leads one step further than the directory, and not to the list. -/
theorem IsDigest.target {name : Text} (h : IsDigest name) (c : Config) (tree : FileTree) :
    c.adblockDir.join name = c.adblockDir ++ '/' :: name ∧
      tree.target (c.adblockDir.join name) = tree.target c.adblockDir ++ [name] ∧
      name ≠ Config.filtersListFile :=
  ⟨c.adblockDir_join (Path.slash_notMem_of_isName h.isName), c.target_join tree h.isName,
    h.ne (by decide)⟩

namespace Session

/-! ## 5. Runs -/

/-- The files that are given back at the start are those that the tester goes on with. -/
theorem files_start (config : Config) (files : FileTree) (now : Nat) :
    (start config files now).1 = (files.makeDirectories now config.adblockDir).1 ∧
      ∀ s₀, (start config files now).2 = .ok s₀ → s₀.files = (start config files now).1 := by
  unfold start
  split
  · rename_i made e hmade
    rw [hmade]
    exact ⟨rfl, fun s₀ h => by cases h⟩
  · rename_i made _ hmade
    obtain ⟨events, hread⟩ := exists_of_readSubscriptions config made
    rw [hmade]
    refine ⟨?_, fun s₀ h => ?_⟩
    · rw [hread]
      exact (keeps_loadSubscriptions _ now).files
    · rw [← Except.ok.inj h]

/-- **A tester keeps to its directory, in every run.** At the start it does nothing to the files but
    to make its directory, with those that are missing on the way, whether this succeeds or not.
    From then on, whatever has happened before and whatever the files and the subscriptions are by
    then, what an operation changes is the list of subscriptions, which it saves, or a file other
    than the list that lies directly in the directory, which it removes; queries and the ends of
    fetches change nothing, and no operation pins a file or lets go of it. And every fetch is to be
    stored directly in the directory, under a name of 32 hexadecimal digits, so never in the place
    of the list. -/
theorem confined (config : Config) (files : FileTree) (now : Nat) :
    FileTree.Makes (files.base config.adblockDir) config.adblockDir.pieces files
      (start config files now).1 ∧
    ∀ s₀, (start config files now).2 = .ok s₀ → s₀.files = (start config files now).1 ∧
      ∀ ops : List Operation,
        (∀ op : Operation, (∀ others, op ≠ .fileChange others) →
          ((s₀.run ops).apply op).files.current = (s₀.run ops).files.current ∧
          ((s₀.run ops).apply op).files.pinned = (s₀.run ops).files.pinned ∧
          ∀ place, ((s₀.run ops).apply op).files.at? place ≠ (s₀.run ops).files.at? place →
            op.Touches config (s₀.run ops).files ((s₀.run ops).apply op).files place) ∧
        ∀ q ∈ (s₀.run ops).tester.requests, ∃ name, IsDigest name ∧
          name ≠ Config.filtersListFile ∧ q.destination = config.adblockDir ++ '/' :: name ∧
          ∀ (tree : FileTree) (place : Location), tree.locate q.destination = .ok place →
            place = tree.target config.adblockDir ++ [name] := by
  obtain ⟨hmade, hgoes⟩ := files_start config files now
  refine ⟨?_, fun s₀ hstart => ⟨hgoes s₀ hstart, fun ops => ⟨fun op hop => ?_, fun q hq => ?_⟩⟩⟩
  · rw [hmade]
    exact FileTree.makes_makeDirectories files now config.adblockDir
  · have htouches := touches_apply (s₀.run ops) hop
    rwa [(storesIn_run hstart ops).config] at htouches
  · have hdigest := Subscription.isDigest_cacheFileName q.sourceUrl
    have hstored := (storesIn_run hstart ops).destination q hq
    refine ⟨_, hdigest, (hdigest.target config files).2.2, ?_, fun tree place hlocate => ?_⟩
    · rw [hstored, (hdigest.target config files).1]
    · rw [FileTree.locate_eq_target hlocate, hstored, (hdigest.target config tree).2.1]

/-- The place of the cached text of `lateConfig`, and that of its list. -/
def latePlace : Location :=
  ["d".toList, "adblock".toList, "df7597ccacf6a24df8366acafa8c3744".toList]
def lateListPlace : Location := ["d".toList, "adblock".toList, "filters.list".toList]

/-- A tester that makes its directory is given a subscription that looks like a path out of it. It
    saves the list, and removes the cached text that was stored meanwhile. -/
theorem confined_late : ∃ s₀, (start lateConfig {} 0).2 = .ok s₀ ∧
    FileTree.MakesAt [] lateConfig.adblockDir.pieces {} s₀.files ["d".toList] ∧
    let s := s₀.run [.fileChange lateFiles]
    let saved := s.apply (.setFilters 0 ["/../a;".toList])
    let edited := s.apply (.editFilters 0 ["/../a;".toList])
    SavesAt lateConfig ["/../a;".toList] s.files saved.files lateListPlace ∧
    (SavesAt lateConfig ["/../a;".toList] s.files edited.files latePlace ∨
      RemovesAt lateConfig s.files edited.files latePlace) ∧
    ∃ q ∈ edited.tester.requests, q.sourceUrl = "/../a;".toList ∧ ∃ name, IsDigest name ∧
      q.destination = lateConfig.adblockDir ++ '/' :: name := by
  obtain ⟨s₀, hstart, hfacts⟩ := exists_ok_of_map (show (start lateConfig {} 0).2.toOption.map
    (fun s₀ =>
      let s := s₀.run [.fileChange lateFiles]
      let saved := s.apply (.setFilters 0 ["/../a;".toList])
      let edited := s.apply (.editFilters 0 ["/../a;".toList])
      (s₀.files.at? ["d".toList], saved.files.at? lateListPlace, edited.files.at? latePlace,
        edited.tester.requests.getLast?.map (·.sourceUrl))) =
      some (some (.directory 0), some (.file (Text.toBytes "/../a;;".toList) 0), none,
        some "/../a;".toList) by decide +kernel)
  simp only [Prod.mk.injEq] at hfacts
  obtain ⟨hdirectory, hlist, hgone, hlast⟩ := hfacts
  obtain ⟨q, hq, hsource⟩ := Option.map_eq_some_iff.mp hlast
  have hbefore : (s₀.run [.fileChange lateFiles]).files = lateFiles := rfl
  obtain ⟨hmakes, hrest⟩ := confined lateConfig {} 0
  obtain ⟨hgoes, hruns⟩ := hrest s₀ hstart
  obtain ⟨htouches, -⟩ := hruns [.fileChange lateFiles]
  obtain ⟨-, hstored⟩ := hruns [.fileChange lateFiles, .editFilters 0 ["/../a;".toList]]
  refine ⟨s₀, hstart, ?made, ?saved, ?edited, q, List.mem_of_getLast? hq, hsource, ?stored⟩
  case made =>
    have hbase : FileTree.base {} lateConfig.adblockDir = [] := by decide +kernel
    rw [← hgoes, hbase] at hmakes
    refine hmakes.places _ ?_
    rw [hdirectory]
    decide +kernel
  case saved =>
    refine (htouches (.setFilters 0 ["/../a;".toList]) (by simp)).2.2 _ ?_
    rw [hlist, hbefore]
    decide +kernel
  case edited =>
    refine (htouches (.editFilters 0 ["/../a;".toList]) (by simp)).2.2 _ ?_
    rw [hgone, hbefore]
    decide +kernel
  case stored =>
    obtain ⟨name, hdigest, -, hdestination, -⟩ := hstored q (List.mem_of_getLast? hq)
    exact ⟨name, hdigest, hdestination⟩

end Session

end RequestFilter
