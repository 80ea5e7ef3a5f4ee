import RequestFilter.Proofs.Places
import RequestFilter.Proofs.Runs

/-!
# Removing cached texts

The files in the directory of the cached texts are removed one after the other, by their names. One
that cannot be removed stays and is complained of, and the others are removed all the same.

* `Subscription.Takes`: the file of a name can be removed, `refusal`: it is there and cannot;
* `Subscription.Clears`: what is left behind the removal of some names; `clears_removeCacheFile`:
  behind one of them, `clears_foldl`: **behind all of them, and what is complained of**;
* `Subscription.IsRemoved`: the file at a place is removed with the cached texts;
  `at?_withoutCacheFiles`: **what is left is what is not removed**;
* `removeCacheFiles_of_directory`: **who finds the directory gets through all of its names**;
* `Session.keepsDirectories_apply`: a tester takes no directory away;
  `Session.events_removeCacheFiles`: what it complains of.
-/

namespace RequestFilter

namespace Subscription

/-! ## 1. One name -/

/-- The file of a name in a directory can be removed, and is: it is no list of subscriptions, its
    path leads to it, and it is not pinned. -/
structure Takes (files : FileTree) (directory : Path) (name : Text) (place : Location) : Prop where
  cached : name ≠ Config.filtersListFile
  found : files.locate (directory.join name) = .ok place
  file : ∃ content modified, files.at? place = some (.file content modified)
  free : files.pinned[place]? = none

/-- What is complained of when the file of a name is to be removed. -/
def refusal (files : FileTree) (directory : Path) (name : Text) : Option (Path × FileError) :=
  let path := directory.join name
  if isCacheName name && files.isFile path then
    match files.remove path with
    | .ok _ => none
    | .error e => some (path, e)
  else none

variable {tree mid left : FileTree} {directory : Path} {name : Text} {names more : List Text}

/-- A file is complained of that is there and pinned. -/
theorem refusal_eq_some {q : Path × FileError} : refusal tree directory name = some q ↔
    name ≠ Config.filtersListFile ∧ ∃ place content modified,
      tree.locate (directory.join name) = .ok place ∧
      tree.at? place = some (.file content modified) ∧
      ∃ e, tree.pinned[place]? = some e ∧ (directory.join name, e) = q := by
  unfold refusal isCacheName
  by_cases hname : name = Config.filtersListFile
  · simp [hname]
  cases hlocate : tree.locate (directory.join name) with
  | error e => simp [FileTree.isFile, FileTree.find, hlocate]
  | ok place =>
    cases hat : tree.at? place with
    | none => simp [FileTree.isFile, FileTree.find, hlocate, hat]
    | some entry =>
      cases entry with
      | directory modified => simp [FileTree.isFile, FileTree.find, hlocate, hat, Entry.isFile]
      | file content modified =>
        simp only [FileTree.isFile, FileTree.find, FileTree.remove, hlocate, hat, Entry.isFile]
        cases hpin : tree.pinned[place]? <;> simp [hname, hat, hpin]

/-- **What is done about one name**: its file is removed, or it is left alone, and then perhaps
    complained of. -/
theorem removeCacheFile_cases (directory : Path) (r : Removal) (name : Text) :
    (∃ place, Takes r.files directory name place ∧ refusal r.files directory name = none ∧
      removeCacheFile directory r name = { r with files := r.files.erase place }) ∨
    (∀ place, ¬ Takes r.files directory name place) ∧ removeCacheFile directory r name =
      { r with refused := r.refused ++ (refusal r.files directory name).toList } := by
  unfold removeCacheFile refusal
  simp only
  split
  · rename_i hfile
    obtain ⟨hcached, hfile⟩ := Bool.and_eq_true_iff.mp hfile
    cases hremove : r.files.remove (directory.join name) with
    | ok next =>
      obtain ⟨place, content, modified, hlocate, hat, hfree, rfl⟩ :=
        FileTree.remove_eq_ok.mp hremove
      exact Or.inl ⟨place, ⟨bne_iff_ne.mp hcached, hlocate, ⟨content, modified, hat⟩, hfree⟩, rfl,
        rfl⟩
    | error e =>
      refine Or.inr ⟨fun place htakes => ?_, rfl⟩
      obtain ⟨content, modified, hat⟩ := htakes.file
      rw [FileTree.remove_eq_ok.mpr ⟨place, content, modified, htakes.found, hat, htakes.free, rfl⟩]
        at hremove
      cases hremove
  · rename_i hother
    refine Or.inr ⟨fun place htakes => hother ?_, by simp⟩
    obtain ⟨content, modified, hat⟩ := htakes.file
    exact Bool.and_eq_true_iff.mpr ⟨bne_iff_ne.mpr htakes.cached,
      FileTree.isFile_iff.mpr ⟨place, content, modified, htakes.found, hat⟩⟩

/-! ## 2. All names -/

/-- Behind the removal of the files of some names those are gone that could be removed, and nothing
    else has changed. -/
structure Clears (tree left : FileTree) (directory : Path) (names : List Text) : Prop where
  current : left.current = tree.current
  pinned : left.pinned = tree.pinned
  at? : ∀ {place entry}, left.at? place = some entry ↔
    tree.at? place = some entry ∧ ∀ name ∈ names, ¬ Takes tree directory name place

theorem Clears.refl (tree : FileTree) (directory : Path) : Clears tree tree directory [] :=
  ⟨rfl, rfl, by simp⟩

section Clears

variable (h : Clears tree left directory names)
include h

/-- Directories stay. -/
theorem Clears.enter {place : Location} : left.enter place = .ok () ↔ tree.enter place = .ok () := by
  simp only [FileTree.enter_iff, h.at?]
  refine exists_congr fun modified => and_iff_left_of_imp fun hat name _ htakes => ?_
  obtain ⟨content, other, hfile⟩ := htakes.file
  cases hat.symm.trans hfile

/-- So all paths lead where they led. -/
theorem Clears.locate {path : Path} {place : Location} :
    left.locate path = .ok place ↔ tree.locate path = .ok place :=
  ⟨FileTree.KeepsDirectories.locate ⟨h.current.symm, h.enter.mp⟩,
    FileTree.KeepsDirectories.locate ⟨h.current, h.enter.mpr⟩⟩

/-- What can be removed then could be removed before, and was not. -/
theorem Clears.takes_iff {place : Location} : Takes left directory name place ↔
    Takes tree directory name place ∧ ∀ other ∈ names, ¬ Takes tree directory other place := by
  constructor
  · intro htakes
    obtain ⟨content, modified, hat⟩ := htakes.file
    obtain ⟨hbefore, hkept⟩ := h.at?.mp hat
    exact ⟨⟨htakes.cached, h.locate.mp htakes.found, ⟨content, modified, hbefore⟩,
      h.pinned ▸ htakes.free⟩, hkept⟩
  · rintro ⟨htakes, hkept⟩
    obtain ⟨content, modified, hat⟩ := htakes.file
    exact ⟨htakes.cached, h.locate.mpr htakes.found, ⟨content, modified, h.at?.mpr ⟨hat, hkept⟩⟩,
      h.pinned.symm ▸ htakes.free⟩

/-- What is complained of does not depend on what was removed before. -/
theorem Clears.refusal_eq (name : Text) :
    refusal left directory name = refusal tree directory name := by
  refine Option.ext fun q => ?_
  simp only [refusal_eq_some, h.locate, h.pinned]
  refine and_congr_right fun _ => exists_congr fun place => exists_congr fun content =>
    exists_congr fun modified => and_congr_right fun _ => and_congr_left fun hrefused => ?_
  obtain ⟨e, hpinned, -⟩ := hrefused
  rw [h.at?]
  exact and_iff_left fun other _ htakes => by
    have hfree := htakes.free
    rw [hpinned] at hfree
    cases hfree

/-- More names may be gone through. -/
theorem Clears.trans {last : FileTree} (h' : Clears left last directory more) :
    Clears tree last directory (names ++ more) where
  current := h'.current.trans h.current
  pinned := h'.pinned.trans h.pinned
  at? {place entry} := by
    rw [h'.at?, h.at?, List.forall_mem_append, and_assoc]
    refine and_congr_right fun _ => and_congr_right fun hkept => ?_
    refine forall₂_congr fun name _ => not_congr ?_
    rw [h.takes_iff]
    exact and_iff_left hkept

end Clears

/-- Behind one name. -/
theorem clears_removeCacheFile (directory : Path) (r : Removal) (name : Text) :
    Clears r.files (removeCacheFile directory r name).files directory [name] ∧
      (removeCacheFile directory r name).refused =
        r.refused ++ (refusal r.files directory name).toList := by
  rcases removeCacheFile_cases directory r name with ⟨place, htakes, hrefusal, heq⟩ | ⟨hnone, heq⟩
  · obtain ⟨content, modified, hat⟩ := htakes.file
    have hfile : ∀ since, r.files.at? place ≠ some (.directory since) := by simp [hat]
    have hne : place ≠ [] := FileTree.ne_nil_of_at? hfile
    rw [heq, hrefusal]
    refine ⟨⟨rfl, rfl, fun {p entry} => ?_⟩, by simp⟩
    -- the name leads to one place only
    have honly : ∀ p, Takes r.files directory name p ↔ p = place := fun p =>
      ⟨fun h => Except.ok.inj (h.found.symm.trans htakes.found), fun h => h ▸ htakes⟩
    rw [FileTree.at?_erase hne, List.forall_mem_singleton, honly]
    split <;> simp [*]
  · rw [heq]
    exact ⟨⟨rfl, rfl, by simp [hnone]⟩, rfl⟩

/-- **Behind all names** those files are gone that could be removed, and each of the others that is
    there was complained of. -/
theorem clears_foldl (directory : Path) (names : List Text) (r : Removal) :
    Clears r.files (names.foldl (removeCacheFile directory) r).files directory names ∧
      (names.foldl (removeCacheFile directory) r).refused =
        r.refused ++ names.filterMap (refusal r.files directory) := by
  induction names generalizing r with
  | nil => exact ⟨.refl _ _, by simp⟩
  | cons name names ih =>
    obtain ⟨hfirst, hrefused⟩ := clears_removeCacheFile directory r name
    obtain ⟨hrest, hrefused'⟩ := ih (removeCacheFile directory r name)
    refine ⟨hfirst.trans hrest, ?_⟩
    rw [List.foldl_cons, hrefused', hrefused, List.append_assoc, funext hfirst.refusal_eq]
    cases hrefusal : refusal r.files directory name <;> simp [hrefusal]

/-! ## 3. The directory -/

/-- **Who finds the directory gets through all of its names.** -/
theorem removeCacheFiles_of_directory {place : Location}
    (h : tree.directory directory = .ok place) : ∃ left,
    removeCacheFiles tree directory =
      .ok ⟨left, (tree.namesIn place).filterMap (refusal tree directory)⟩ ∧
    Clears tree left directory (tree.namesIn place) := by
  obtain ⟨hclears, hrefused⟩ := clears_foldl directory (tree.namesIn place) { files := tree }
  refine ⟨_, ?_, hclears⟩
  rw [removeCacheFiles, FileTree.list, h]
  exact congrArg (fun refused => Except.ok (Removal.mk _ refused)) hrefused

theorem withoutCacheFiles_of_eq_ok {r : Removal} (h : removeCacheFiles tree directory = .ok r) :
    withoutCacheFiles tree directory = r.files := by
  rw [withoutCacheFiles, h]

/-- The names that are gone through: none, if the directory is not there. -/
theorem exists_clears (tree : FileTree) (directory : Path) : ∃ names,
    Clears tree (withoutCacheFiles tree directory) directory names ∧ ∀ name, name ∈ names ↔
      ∃ parent, tree.directory directory = .ok parent ∧ name ∈ tree.namesIn parent := by
  unfold withoutCacheFiles
  cases hdirectory : tree.directory directory with
  | error e =>
    rw [removeCacheFiles, FileTree.list, hdirectory]
    exact ⟨[], .refl tree directory, by simp⟩
  | ok parent =>
    obtain ⟨left, hremove, hclears⟩ := removeCacheFiles_of_directory hdirectory
    rw [hremove]
    exact ⟨_, hclears, by simp⟩

theorem locate_withoutCacheFiles {path : Path} {place : Location} :
    (withoutCacheFiles tree directory).locate path = .ok place ↔ tree.locate path = .ok place := by
  obtain ⟨names, hclears, -⟩ := exists_clears tree directory
  exact hclears.locate

/-- No directory is removed. -/
theorem keepsDirectories_withoutCacheFiles (tree : FileTree) (directory : Path) :
    tree.KeepsDirectories (withoutCacheFiles tree directory) := by
  obtain ⟨names, hclears, -⟩ := exists_clears tree directory
  exact ⟨hclears.current, hclears.enter.mpr⟩

/-- The file at a place is removed with the cached texts: it lies directly in their directory, it is
    not the list of subscriptions, the path that is put together from the directory and its name
    leads to it, which it does unless it is too long, and it is not pinned. -/
def IsRemoved (files : FileTree) (directory : Path) (place : Location) : Prop :=
  ∃ parent name, files.directory directory = .ok parent ∧ place = parent ++ [name] ∧
    Path.isName name = true ∧ Takes files directory name place

/-- **What is left once the cached texts are removed is what is not one of them**, or cannot be
    removed. -/
theorem at?_withoutCacheFiles (c : Config) (files : FileTree) {place : Location} {entry : Entry} :
    (withoutCacheFiles files c.adblockDir).at? place = some entry ↔
      files.at? place = some entry ∧ ¬ IsRemoved files c.adblockDir place := by
  obtain ⟨names, hclears, hnames⟩ := exists_clears files c.adblockDir
  rw [hclears.at?]
  refine and_congr_right fun hat => ⟨fun hkept hremoved => ?_, fun hkept name hname htakes => ?_⟩
  · obtain ⟨parent, name, hdirectory, rfl, hisName, htakes⟩ := hremoved
    refine hkept name ((hnames name).mpr ⟨parent, hdirectory, ?_⟩) htakes
    exact FileTree.mem_namesIn.mpr ⟨hisName, by rw [hat]; rfl⟩
  · obtain ⟨parent, hdirectory, hlisted⟩ := (hnames name).mp hname
    have hisName := (FileTree.mem_namesIn.mp hlisted).1
    obtain ⟨parent', hdirectory', rfl⟩ := c.directory_of_locate_join hisName htakes.found
    exact hkept ⟨parent', name, hdirectory', rfl, hisName, htakes⟩

/-- Nothing but files is removed, and nothing is put in their place. -/
theorem at?_withoutCacheFiles_of_not (c : Config) {files : FileTree} {place : Location}
    (h : ¬ IsRemoved files c.adblockDir place) :
    (withoutCacheFiles files c.adblockDir).at? place = files.at? place :=
  Option.ext fun entry => by rw [at?_withoutCacheFiles, and_iff_left h]

end Subscription

namespace Session

/-! ## 4. Operations -/

theorem files_reload (s : Session) (now : Nat) : (s.reload now).files =
    Subscription.withoutCacheFiles s.files s.tester.config.adblockDir := by
  obtain ⟨events, hreload⟩ := exists_of_reload s now
  rw [hreload, (keeps_loadSubscriptions _ now).files]
  rfl

/-- Changed subscriptions are saved and loaded, and the cached texts removed in between. -/
theorem files_editFilters (s : Session) (now : Nat) (filters : List Text) :
    (s.editFilters now filters).files =
      Subscription.withoutCacheFiles (s.setFilters now filters).1.files
        s.tester.config.adblockDir := by
  obtain ⟨told, -, hedit⟩ := exists_of_editFilters s now filters
  rw [hedit, files_reload]
  simp only
  rw [(loads_setFilters s now filters).config]

/-- **A tester takes no directory away**, whatever it does. -/
theorem keepsDirectories_apply (s : Session) {op : Operation}
    (hop : ∀ files, op ≠ .fileChange files) : s.files.KeepsDirectories (s.apply op).files := by
  have hset (now : Nat) (filters : List Text) :
      s.files.KeepsDirectories (s.setFilters now filters).1.files := by
    unfold setFilters
    simp only
    split
    · rename_i files hwrite
      obtain ⟨place, -, hno, rfl⟩ := FileTree.write_eq_ok.mp hwrite
      exact FileTree.keepsDirectories_put hno _
    · exact .refl s.files
  cases op with
  | query r => exact .refl s.files
  | setFilters now filters => exact hset now filters
  | reload now =>
    have hfiles : (s.apply (.reload now)).files = _ := files_reload s now
    rw [hfiles]
    exact Subscription.keepsDirectories_withoutCacheFiles _ _
  | editFilters now filters =>
    have hfiles : (s.apply (.editFilters now filters)).files = _ := files_editFilters s now filters
    rw [hfiles]
    exact (hset now filters).trans (Subscription.keepsDirectories_withoutCacheFiles _ _)
  | completeFetch q =>
    have hfiles : (s.apply (.completeFetch q)).files = s.files := (keeps_completeFetch s q).files
    rw [hfiles]
    exact .refl s.files
  | fileChange files => exact absurd rfl (hop files)

/-- **Whoever finds the directory complains of the files that are there and cannot be removed**, and
    of nothing else. -/
theorem events_removeCacheFiles {s : Session} {place : Location}
    (h : s.files.directory s.tester.adblockDir = .ok place) : ∃ told,
    s.removeCacheFiles.events = s.events ++ told ∧ ∀ e, e ∈ told ↔
      ∃ name content modified cause, Path.isName name = true ∧ name ≠ Config.filtersListFile ∧
        s.files.locate (s.tester.adblockDir.join name) = .ok (place ++ [name]) ∧
        s.files.at? (place ++ [name]) = some (.file content modified) ∧
        s.files.pinned[place ++ [name]]? = some cause ∧
        e = .unremovedFile (s.tester.adblockDir.join name) cause := by
  obtain ⟨left, hremove, -⟩ := Subscription.removeCacheFiles_of_directory h
  refine ⟨((s.files.namesIn place).filterMap
    (Subscription.refusal s.files s.tester.adblockDir)).map .ofRefusal, ?_, fun e => ?_⟩
  · rw [removeCacheFiles, hremove]
  simp only [List.mem_map, List.mem_filterMap]
  constructor
  · rintro ⟨q, ⟨name, hname, hrefusal⟩, rfl⟩
    obtain ⟨hcached, p, content, modified, hlocate, hat, cause, hpinned, rfl⟩ :=
      Subscription.refusal_eq_some.mp hrefusal
    have hisName := (FileTree.mem_namesIn.mp hname).1
    obtain ⟨parent, hparent, rfl⟩ := s.tester.config.directory_of_locate_join hisName hlocate
    obtain rfl : place = parent := Except.ok.inj (h.symm.trans hparent)
    exact ⟨name, content, modified, cause, hisName, hcached, hlocate, hat, hpinned, rfl⟩
  · rintro ⟨name, content, modified, cause, hisName, hcached, hlocate, hat, hpinned, rfl⟩
    have hname : name ∈ s.files.namesIn place :=
      FileTree.mem_namesIn.mpr ⟨hisName, by rw [hat]; rfl⟩
    exact ⟨_, ⟨name, hname, Subscription.refusal_eq_some.mpr
      ⟨hcached, _, content, modified, hlocate, hat, cause, hpinned, rfl⟩⟩, rfl⟩

end Session

end RequestFilter
