import RequestFilter.Proofs.Places

/-!
# Directories that are made

A directory is made with those that are missing on the way. Nothing else happens to the tree, whether
all of it succeeds or not, and once it succeeds the directory is there.

* `FileTree.Makes`: directories on a path are made and nothing else happens, `makes_makeMissing`,
  `makes_makeDirectories`;
* `leadsToDirectory_makeMissing`: what is made is there;
  `Config.directory_of_makeDirectories`: **so is the directory of the cached texts once it is made**.
-/

namespace RequestFilter

namespace FileTree

/-! ## 1. What happens -/

/-- A directory is made in a place where nothing was and that the pieces pass through. -/
structure MakesAt (base : Location) (pieces : List Text) (before after : FileTree)
    (place : Location) : Prop where
  free : before.at? place = none
  made : ∃ modified, after.at? place = some (.directory modified)
  passed : ∃ front, front <+: pieces ∧ place = Location.follow base front

/-- Nothing happens but that directories are made that the pieces pass through. -/
structure Makes (base : Location) (pieces : List Text) (before after : FileTree) : Prop where
  current : after.current = before.current
  pinned : after.pinned = before.pinned
  places : ∀ place, after.at? place ≠ before.at? place → MakesAt base pieces before after place

section Makes

variable {base : Location} {pieces : List Text} {tree next : FileTree}

theorem Makes.refl (base : Location) (pieces : List Text) (tree : FileTree) :
    Makes base pieces tree tree := ⟨rfl, rfl, fun _ h => absurd rfl h⟩

theorem Makes.trans {last : FileTree} (h : Makes base pieces tree next)
    (h' : Makes base pieces next last) : Makes base pieces tree last where
  current := h'.current.trans h.current
  pinned := h'.pinned.trans h.pinned
  places place hchanged := by
    by_cases hfirst : next.at? place = tree.at? place
    · -- what the second one makes was free from the beginning
      have hmade := h'.places place (hfirst ▸ hchanged)
      exact ⟨hfirst ▸ hmade.free, hmade.made, hmade.passed⟩
    · obtain ⟨hfree, ⟨modified, hmade⟩, hpassed⟩ := h.places place hfirst
      refine ⟨hfree, ⟨modified, ?_⟩, hpassed⟩
      by_cases hsecond : last.at? place = next.at? place
      · rw [hsecond, hmade]
      · have hnone := (h'.places place hsecond).free
        rw [hmade] at hnone
        cases hnone

theorem Makes.mono (h : Makes base pieces tree next) {more : List Text} (hmore : pieces <+: more) :
    Makes base more tree next where
  current := h.current
  pinned := h.pinned
  places place hchanged := by
    obtain ⟨hfree, hmade, front, hfront, hplace⟩ := h.places place hchanged
    exact ⟨hfree, hmade, front, hfront.trans hmore, hplace⟩

theorem makes_makeDirectory {now : Nat} (h : tree.makeDirectory now base pieces = .ok next) :
    Makes base pieces tree next := by
  unfold makeDirectory at h
  split at h
  · cases h
  rename_i place hwalk
  split at h
  · cases h
  rename_i hfree
  obtain rfl := Except.ok.inj h
  have hno : ∀ modified, tree.at? place ≠ some (.directory modified) := by simp [hfree]
  have hne := ne_nil_of_at? hno
  refine ⟨rfl, rfl, fun p hchanged => ?_⟩
  rw [at?_put hne] at hchanged
  split at hchanged
  · rename_i hp
    subst hp
    exact ⟨hfree, ⟨now, by rw [at?_put hne, if_pos rfl]⟩, pieces, List.prefix_refl _,
      walk_eq_follow hwalk⟩
  · exact absurd rfl hchanged

/-- **Whether all of it succeeds or not**, nothing happens on the way but that directories are
    made. -/
theorem makes_makeMissing (now : Nat) (base : Location) (tree : FileTree) (pieces : List Text) :
    Makes base pieces.reverse tree (makeMissing now base tree pieces).1 := by
  induction pieces generalizing tree with
  | nil => exact .refl _ _ _
  | cons last parents ih =>
    have hparents := (ih tree).mono (show parents.reverse <+: (last :: parents).reverse by simp)
    rw [makeMissing]
    split
    · exact hparents
    simp only
    split
    · rename_i next hmade
      exact makes_makeDirectory hmade
    · -- what is missing on the way is made first
      split
      · rename_i next e hrest
        rwa [hrest] at hparents
      · rename_i next _ hrest
        rw [hrest] at hparents
        split
        · rename_i made hmade
          exact hparents.trans (makes_makeDirectory hmade)
        · exact hparents
    · exact .refl _ _ _

theorem makes_makeDirectories (tree : FileTree) (now : Nat) (path : Path) :
    Makes (tree.base path) path.pieces tree (tree.makeDirectories now path).1 := by
  unfold makeDirectories
  split
  · exact .refl _ _ _
  split
  · exact .refl _ _ _
  · have hmakes := makes_makeMissing now (tree.base path) tree path.pieces.reverse
    rwa [List.reverse_reverse] at hmakes

end Makes

/-! ## 2. What is there then -/

section Made

variable {base : Location} {pieces : List Text} {tree next made : FileTree} {now : Nat}

/-- A directory that was made is there. -/
theorem leadsToDirectory_makeDirectory (h : tree.makeDirectory now base pieces = .ok next) :
    next.leadsToDirectory base pieces = true := by
  unfold makeDirectory at h
  split at h
  · cases h
  rename_i place hwalk
  split at h
  · cases h
  rename_i hfree
  obtain rfl := Except.ok.inj h
  have hno : ∀ modified, tree.at? place ≠ some (.directory modified) := by simp [hfree]
  refine leadsToDirectory_iff.mpr ⟨place, (keepsDirectories_put hno _).walk hwalk, ?_⟩
  exact enter_iff.mpr ⟨now, by rw [at?_put (ne_nil_of_at? hno), if_pos rfl]⟩

/-- **Once all that is missing is made, the pieces lead to a directory**, if the last of them is a
    name or leads up. -/
theorem leadsToDirectory_makeMissing {last : Text} {parents : List Text}
    (hlast : ¬ (last.isEmpty || last == Path.here) = true)
    (h : makeMissing now base tree (last :: parents) = (made, .ok ())) :
    made.leadsToDirectory base (last :: parents).reverse = true := by
  rw [makeMissing, if_neg hlast] at h
  simp only at h
  split at h
  · rename_i next hmade
    obtain rfl := (Prod.mk.inj h).1
    exact leadsToDirectory_makeDirectory hmade
  · split at h
    · cases h
    · split at h
      · rename_i next hmade
        obtain rfl := (Prod.mk.inj h).1
        exact leadsToDirectory_makeDirectory hmade
      · obtain ⟨rfl, hchecked⟩ := Prod.mk.inj h
        split at hchecked
        · rename_i hthere
          exact hthere
        · cases hchecked
  · obtain ⟨rfl, hchecked⟩ := Prod.mk.inj h
    split at hchecked
    · rename_i hthere
      exact hthere
    · cases hchecked

end Made

end FileTree

/-- **The directory of the cached texts is there once it is made.** -/
theorem Config.directory_of_makeDirectories {c : Config} {tree made : FileTree} {now : Nat}
    (h : tree.makeDirectories now c.adblockDir = (made, .ok ())) :
    ∃ place, made.directory c.adblockDir = .ok place := by
  have hcurrent : made.current = tree.current := by
    have hmakes := (FileTree.makes_makeDirectories tree now c.adblockDir).current
    rwa [h] at hmakes
  obtain ⟨front, hpieces⟩ := c.exists_pieces_adblockDir
  unfold FileTree.makeDirectories at h
  split at h
  · cases h
  rename_i hnul
  split at h
  · cases h
  rename_i hlong
  rw [hpieces, List.reverse_append, List.reverse_singleton, List.singleton_append] at h
  have hleads := FileTree.leadsToDirectory_makeMissing (by decide) h
  rw [List.reverse_cons, List.reverse_reverse, ← hpieces] at hleads
  obtain ⟨place, hwalk, henter⟩ := FileTree.leadsToDirectory_iff.mp hleads
  refine ⟨place, ?_⟩
  have hbase : made.base c.adblockDir = tree.base c.adblockDir := by
    rw [FileTree.base, FileTree.base, hcurrent]
  have hempty : ¬ c.adblockDir.isEmpty = true := by
    simpa using c.adblockDir_ne_nil
  rw [FileTree.directory, FileTree.locate, if_neg hnul, if_neg hlong, if_neg hempty, hbase, hwalk]
  simp only [henter]

end RequestFilter
