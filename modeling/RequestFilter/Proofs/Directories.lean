import RequestFilter.Files.FileTree

/-!
# Directories that are there

Where a path leads to a directory already, nothing is made on the way to it.

* `walk_append`: a path is followed piece by piece; `leadsToDirectory_of_concat`: what is passed
  through is a directory;
* `makeDirectories_of_directory`: **a directory that is there is not made**.
-/

namespace RequestFilter

namespace FileTree

variable {tree : FileTree} {base : Location}

theorem walk_append (pieces more : List Text) : tree.walk base (pieces ++ more) =
    (tree.walk base pieces).bind (tree.walk · more) := by
  induction pieces generalizing base with
  | nil => rfl
  | cons piece rest ih =>
    simp only [List.cons_append, walk]
    cases tree.enter base with
    | error e => rfl
    | ok _ =>
      simp only
      split
      · exact ih
      · split
        · exact ih
        · split
          · rfl
          · exact ih

theorem leadsToDirectory_iff {pieces : List Text} : tree.leadsToDirectory base pieces = true ↔
    ∃ place, tree.walk base pieces = .ok place ∧ tree.enter place = .ok () := by
  unfold leadsToDirectory
  cases tree.walk base pieces with
  | error e => simp
  | ok place => cases h : tree.enter place <;> simp [Except.isOk, Except.toBool, h]

/-- What is passed through is a directory. -/
theorem leadsToDirectory_of_concat {pieces : List Text} {last : Text}
    (h : tree.leadsToDirectory base (pieces ++ [last]) = true) :
    tree.leadsToDirectory base pieces = true := by
  obtain ⟨place, hwalk, -⟩ := leadsToDirectory_iff.mp h
  rw [walk_append] at hwalk
  cases hbefore : tree.walk base pieces with
  | error e =>
    rw [hbefore] at hwalk
    cases hwalk
  | ok before =>
    rw [hbefore] at hwalk
    -- the last piece is looked up in what the others lead to
    cases hthrough : tree.enter before with
    | error e => simp [Except.bind, walk, hthrough] at hwalk
    | ok _ => exact leadsToDirectory_iff.mpr ⟨before, hbefore, hthrough⟩

theorem makeDirectory_of_leadsToDirectory {pieces : List Text}
    (h : tree.leadsToDirectory base pieces = true) (now : Nat) :
    tree.makeDirectory now base pieces = .error .alreadyExists := by
  obtain ⟨place, hwalk, henter⟩ := leadsToDirectory_iff.mp h
  unfold makeDirectory
  unfold enter at henter
  cases hplace : tree.at? place with
  | none => simp [hplace] at henter
  | some entry => simp [hwalk, hplace]

theorem makeMissing_of_leadsToDirectory {pieces : List Text}
    (h : tree.leadsToDirectory base pieces.reverse = true) (now : Nat) :
    makeMissing now base tree pieces = (tree, .ok ()) := by
  induction pieces with
  | nil => rfl
  | cons last parents ih =>
    rw [makeMissing]
    split
    · rw [List.reverse_cons] at h
      exact ih (leadsToDirectory_of_concat h)
    · simp only [makeDirectory_of_leadsToDirectory h, h, if_true]

theorem walk_of_locate {path : Path} {place : Location} (h : tree.locate path = .ok place) :
    ¬ path.contains '\x00' = true ∧ ¬ maxPath < path.byteSize ∧
      tree.walk (tree.base path) path.pieces = .ok place := by
  unfold locate at h
  split at h
  · cases h
  rename_i hnul
  split at h
  · cases h
  rename_i hlong
  split at h
  · cases h
  exact ⟨hnul, hlong, h⟩

theorem locate_of_directory {path : Path} {place : Location} (h : tree.directory path = .ok place) :
    tree.locate path = .ok place ∧ tree.enter place = .ok () := by
  unfold directory at h
  split at h
  · cases h
  rename_i there hlocate
  split at h
  · cases h
  rename_i henter
  cases h
  exact ⟨hlocate, henter⟩

/-- **A directory that is there is not made.** -/
theorem makeDirectories_of_directory {path : Path} {place : Location}
    (h : tree.directory path = .ok place) (now : Nat) :
    tree.makeDirectories now path = (tree, .ok ()) := by
  obtain ⟨hlocate, henter⟩ := locate_of_directory h
  obtain ⟨hnul, hlong, hwalk⟩ := walk_of_locate hlocate
  have hleads : tree.leadsToDirectory (tree.base path) path.pieces = true :=
    leadsToDirectory_iff.mpr ⟨place, hwalk, henter⟩
  rw [← List.reverse_reverse path.pieces] at hleads
  rw [makeDirectories, if_neg hnul, if_neg hlong]
  exact makeMissing_of_leadsToDirectory hleads now

end FileTree

end RequestFilter
