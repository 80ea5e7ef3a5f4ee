import RequestFilter.Proofs.Confinement

/-!
# Lists of one's own

A list in a file of one's own is read where it lies. A reload lets it be, unless it lies where the
cached texts do: whatever lies directly in their directory is the tester's, and is removed if it can
be.

* `Subscription.RemovesAlong`: the file that a path leads to is removed with the cached texts;
  `removesAlong_cached`: the text of a source on another machine is, unless it is pinned;
* `Subscription.read_withoutCacheFiles_iff`: what is read once the cached texts are removed;
* `Session.text_kept_iff`: **the texts of subscriptions that outlast a reload are those that do not
  lie among the cached texts, and those that cannot be removed from there**;
* `Session.own_list_removed`: a list of one's own that does not outlast it.
-/

namespace RequestFilter

namespace Subscription

/-! ## 1. Among the cached texts -/

/-- The path leads to a file that is removed with the cached texts. -/
def RemovesAlong (files : FileTree) (directory path : Path) : Prop :=
  ∃ place, files.locate path = .ok place ∧ IsRemoved files directory place

variable {files : FileTree} {path : Path} {content : Bytes}

/-- **The text of a source on another machine** lies among the cached texts, if it is there at all,
    so it is removed unless it is pinned. -/
theorem removesAlong_cached (c : Config) {url : Text}
    (h : files.read (c.adblockDir.join (cacheFileName url)) = .ok content) :
    RemovesAlong files c.adblockDir (c.adblockDir.join (cacheFileName url)) ↔
      ∀ place, files.locate (c.adblockDir.join (cacheFileName url)) = .ok place →
        files.pinned[place]? = none := by
  have hdigest := isDigest_cacheFileName url
  obtain ⟨place, modified, hlocate, hat⟩ := FileTree.read_eq_ok.mp h
  constructor
  · rintro ⟨there, hthere, parent, name, -, -, -, htakes⟩ p hp
    rw [Except.ok.inj (hp.symm.trans hthere)]
    exact htakes.free
  · intro hfree
    obtain ⟨parent, hdirectory, rfl⟩ := c.directory_of_locate_join hdigest.isName hlocate
    exact ⟨_, hlocate, parent, _, hdirectory, rfl, hdigest.isName, (hdigest.target c files).2.2,
      hlocate, ⟨content, modified, hat⟩, hfree _ hlocate⟩

/-- **What is read once the cached texts are removed** is what was read before, unless it was one of
    them. -/
theorem read_withoutCacheFiles_iff (c : Config) (hread : files.read path = .ok content) :
    (withoutCacheFiles files c.adblockDir).read path = .ok content ↔
      ¬ RemovesAlong files c.adblockDir path := by
  obtain ⟨place, modified, hlocate, hat⟩ := FileTree.read_eq_ok.mp hread
  simp only [FileTree.read_eq_ok, locate_withoutCacheFiles, at?_withoutCacheFiles]
  constructor
  · rintro ⟨there, _, hthere, -, hkept⟩ ⟨p, hp, hremoved⟩
    rw [Except.ok.inj (hp.symm.trans hthere)] at hremoved
    exact hkept hremoved
  · intro hkept
    exact ⟨place, modified, hlocate, hat, fun hremoved => hkept ⟨place, hlocate, hremoved⟩⟩

/-- What was removed is not there any more. -/
theorem read_withoutCacheFiles (c : Config) (h : RemovesAlong files c.adblockDir path) :
    (withoutCacheFiles files c.adblockDir).read path = .error .notFound := by
  obtain ⟨place, hlocate, hremoved⟩ := h
  have hgone : (withoutCacheFiles files c.adblockDir).at? place = none :=
    Option.eq_none_iff_forall_ne_some.mpr fun entry hat =>
      ((at?_withoutCacheFiles c files).mp hat).2 hremoved
  simp [FileTree.read, FileTree.find, locate_withoutCacheFiles.mpr hlocate, hgone]

end Subscription

namespace Session

/-! ## 2. Reloads -/

/-- **The texts of subscriptions that outlast a reload are those that do not lie among the cached
    texts, and those that cannot be removed from there.** These are read as before, and every other
    text is not there any more. A text that was fetched lies among the cached ones. -/
theorem text_kept_iff (s : Session) (now : Nat) {url : Text} {path : Path} {content : Bytes}
    (hpath : (SourceLocation.ofUrl s.tester.adblockDir url).path = path)
    (hread : s.files.read path = .ok content) :
    ((s.reload now).files.read path = .ok content ↔
      ¬ Subscription.RemovesAlong s.files s.tester.adblockDir path) ∧
    ((s.reload now).files.read path ≠ .ok content →
      (s.reload now).files.read path = .error .notFound) ∧
    (FileUrl.isFileUrl url = false →
      (Subscription.RemovesAlong s.files s.tester.adblockDir path ↔
        ∀ place, s.files.locate path = .ok place → s.files.pinned[place]? = none)) := by
  have hkept := Subscription.read_withoutCacheFiles_iff s.tester.config hread
  rw [files_reload, ← Tester.adblockDir]
  refine ⟨hkept, fun hlost => ?_, fun hfetched => ?_⟩
  · exact Subscription.read_withoutCacheFiles s.tester.config (not_not.mp (hkept.not.mp hlost))
  · rw [SourceLocation.ofUrl, if_neg (by simp [hfetched])] at hpath
    subst hpath
    exact Subscription.removesAlong_cached s.tester.config hread

/-! ## 3. Three lists -/

/-- Three lists of one's own: one directly in the directory of the cached texts, one further down, and
    one beside the first that cannot be removed. -/
def ownConfig : Config :=
  { Config.standard "/d".toList with
    defaultFilters := ["file:///d/adblock/mine".toList, "file:///d/adblock/sub/mine".toList,
      "file:///d/adblock/held".toList] }
def ownFiles : FileTree where
  entries := Std.TreeMap.ofList
    [(["d".toList], Entry.directory 0), (["d".toList, "adblock".toList], Entry.directory 0),
     (["d".toList, "adblock".toList, "sub".toList], Entry.directory 0),
     (["d".toList, "adblock".toList, "mine".toList], Entry.file (Text.toBytes "||ads^\n".toList) 0),
     (["d".toList, "adblock".toList, "held".toList], Entry.file (Text.toBytes "||bad^\n".toList) 0),
     (["d".toList, "adblock".toList, "sub".toList, "mine".toList],
      Entry.file (Text.toBytes "||ads^\n".toList) 0)]
  pinned := Std.TreeMap.ofList
    [(["d".toList, "adblock".toList, "held".toList], FileError.notPermitted)]

/-- A tester with the lists. -/
theorem exists_start_own : ∃ s₀, (start ownConfig ownFiles 0).2 = .ok s₀ ∧
    s₀.files = ownFiles ∧ s₀.tester.config = ownConfig ∧
    s₀.tester.filters = ownConfig.defaultFilters := by
  have hdirectory : ownFiles.directory ownConfig.adblockDir =
      .ok ["d".toList, "adblock".toList] := by decide +kernel
  obtain ⟨events, hstart⟩ := start_of_directory hdirectory 0
  obtain ⟨hfiles, hconfig, hfilters⟩ := keeps_start_of_directory hdirectory
    (congrArg Prod.snd hstart)
  exact ⟨_, congrArg Prod.snd hstart, hfiles, hconfig, hfilters.trans (by decide +kernel)⟩

/-- A reload removes the first and leaves the others. -/
theorem text_kept_own : ∃ s₀, (start ownConfig ownFiles 0).2 = .ok s₀ ∧
    (∀ url ∈ s₀.tester.filters, FileUrl.isFileUrl url = true) ∧
    s₀.files.read "/d/adblock/mine".toList = .ok (Text.toBytes "||ads^\n".toList) ∧
    (s₀.reload 1).files.read "/d/adblock/mine".toList = .error .notFound ∧
    (s₀.reload 1).files.read "/d/adblock/sub/mine".toList = .ok (Text.toBytes "||ads^\n".toList) ∧
    (s₀.reload 1).files.read "/d/adblock/held".toList = .ok (Text.toBytes "||bad^\n".toList) := by
  obtain ⟨s₀, hstart, hfiles, hconfig, hfilters⟩ := exists_start_own
  have hdir : s₀.tester.adblockDir = "/d/adblock".toList := by
    rw [Tester.adblockDir, hconfig]
    decide
  have hdirectory : ownFiles.directory "/d/adblock".toList =
      .ok ["d".toList, "adblock".toList] := by decide +kernel
  have hmine : s₀.files.read "/d/adblock/mine".toList = .ok (Text.toBytes "||ads^\n".toList) := by
    rw [hfiles]
    decide +kernel
  have hbelow : s₀.files.read "/d/adblock/sub/mine".toList =
      .ok (Text.toBytes "||ads^\n".toList) := by
    rw [hfiles]
    decide +kernel
  have hheld : s₀.files.read "/d/adblock/held".toList = .ok (Text.toBytes "||bad^\n".toList) := by
    rw [hfiles]
    decide +kernel
  have hplaced (path : Path) (hpath : (SourceLocation.ofUrl "/d/adblock".toList
      ("file://".toList ++ path)).path = path) :
      (SourceLocation.ofUrl s₀.tester.adblockDir ("file://".toList ++ path)).path = path :=
    hdir ▸ hpath
  have hgone := text_kept_iff s₀ 1 (hplaced "/d/adblock/mine".toList (by decide +kernel)) hmine
  have hkept := text_kept_iff s₀ 1
    (hplaced "/d/adblock/sub/mine".toList (by decide +kernel)) hbelow
  have hstays := text_kept_iff s₀ 1 (hplaced "/d/adblock/held".toList (by decide +kernel)) hheld
  rw [hdir, hfiles] at hgone hkept hstays
  refine ⟨s₀, hstart, ?own, hmine, hgone.2.1 fun hread => hgone.1.mp hread ?mine,
    hkept.1.mpr ?below, hstays.1.mpr ?held⟩
  case own =>
    rw [hfilters]
    decide
  case mine =>
    have hlocate : ownFiles.locate "/d/adblock/mine".toList =
        .ok (["d".toList, "adblock".toList] ++ ["mine".toList]) := by decide +kernel
    exact ⟨_, hlocate, _, _, hdirectory, rfl, by decide, by decide, hlocate,
      ⟨Text.toBytes "||ads^\n".toList, 0, by decide +kernel⟩, by decide +kernel⟩
  case below =>
    rintro ⟨place, hlocate, parent, name, hparent, rfl, -⟩
    obtain rfl := Except.ok.inj (hdirectory.symm.trans hparent)
    have hdown : ownFiles.locate "/d/adblock/sub/mine".toList =
        .ok ["d".toList, "adblock".toList, "sub".toList, "mine".toList] := by decide +kernel
    exact absurd (congrArg List.length (Except.ok.inj (hdown.symm.trans hlocate))) (by simp)
  case held =>
    rintro ⟨place, hlocate, parent, name, -, -, -, htakes⟩
    have hthere : ownFiles.locate "/d/adblock/held".toList =
        .ok ["d".toList, "adblock".toList, "held".toList] := by decide +kernel
    have hfree := htakes.free
    rw [← Except.ok.inj (hthere.symm.trans hlocate)] at hfree
    exact absurd hfree (by decide +kernel)

/-- So a list of one's own need not outlast a reload, even if nothing else has happened since the
    tester was started. -/
theorem own_list_removed : ¬ ∀ (config : Config) (files : FileTree) (now : Nat) (s₀ : Session)
    (ops : List Operation) (later : Nat) (url : Text) (path : Path) (content : Bytes),
    (start config files now).2 = .ok s₀ → url ∈ (s₀.run ops).tester.filters →
      SourceLocation.ofUrl config.adblockDir url = .inPlace path →
      (s₀.run ops).files.read path = .ok content →
      ((s₀.run ops).reload later).files.read path = .ok content := by
  intro hall
  obtain ⟨s₀, hstart, hfiles, hconfig, hfilters⟩ := exists_start_own
  have hkept := hall ownConfig ownFiles 0 s₀ [] 1 "file:///d/adblock/mine".toList
    "/d/adblock/mine".toList (Text.toBytes "||ads^\n".toList) hstart
    (by rw [run, List.foldl_nil, hfilters]; decide) (by decide +kernel)
    (by rw [run, List.foldl_nil, hfiles]; decide +kernel)
  rw [run, List.foldl_nil, files_reload, hfiles, hconfig] at hkept
  have hgone : (Subscription.withoutCacheFiles ownFiles ownConfig.adblockDir).read
      "/d/adblock/mine".toList = .error .notFound := by decide +kernel
  rw [hgone] at hkept
  cases hkept

end Session

end RequestFilter
