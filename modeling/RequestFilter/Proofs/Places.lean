import RequestFilter.Config
import RequestFilter.Proofs.Directories
import RequestFilter.Proofs.Stretches

/-!
# Places

Where a path leads is a matter of its pieces, as long as there is a directory wherever it passes
through. So a change of the tree that takes no directory away leaves all paths where they led.

* `Location.follow`: pieces followed without a look at the tree; `FileTree.target`: the place of a
  path, `locate_eq_target`;
* `Config.adblockDir_join`, `Config.target_join`, `Config.directory_of_locate_join`: a name in the
  directory of the cached texts;
* `at?_put`, `at?_erase`: what lies at a place behind a change;
* `FileTree.KeepsDirectories`: no directory is taken away; `KeepsDirectories.locate`: **then all
  paths lead where they led**;
* `write_eq_ok`, `find_eq_ok`, `read_eq_ok`, `remove_eq_ok`: writing, reading and removing, said of
  places; `read_of_write`: **what was written is read**;
* `mem_namesIn`: the names in a directory.
-/

namespace RequestFilter

/-! ## 1. Pieces -/

/-- The place that pieces lead to, if everything that they pass through is a directory. -/
def Location.follow : Location → List Text → Location
  | place, [] => place
  | place, piece :: rest =>
    if piece.isEmpty || piece == Path.here then follow place rest
    else if piece == Path.up then follow place.dropLast rest
    else follow (place ++ [piece]) rest

theorem Location.follow_append (place : Location) (pieces more : List Text) :
    follow place (pieces ++ more) = follow (follow place pieces) more := by
  induction pieces generalizing place with
  | nil => rfl
  | cons piece rest ih =>
    simp only [List.cons_append, follow]
    split
    · exact ih _
    · split <;> exact ih _

namespace Path

theorem isName_iff {name : Text} : isName name = true ↔
    name ≠ [] ∧ name ≠ here ∧ name ≠ up ∧ '/' ∉ name := by
  simp [isName, and_assoc]

theorem slash_notMem_of_isName {name : Text} (h : isName name = true) : '/' ∉ name :=
  (isName_iff.mp h).2.2.2

/-- A name in a directory whose path does not end with a slash. -/
theorem join_name {directory name : Text} (hne : directory ≠ [])
    (hlast : directory.getLast? ≠ some '/') (hname : '/' ∉ name) :
    join directory name = directory ++ '/' :: name := by
  have hrelative : isAbsolute name = false := by
    cases name with
    | nil => rfl
    | cons c rest =>
      have hc : c ≠ '/' := fun h => hname (h ▸ List.mem_cons_self)
      simp [isAbsolute, hc]
  simp [join, hrelative, hne, hlast]

theorem pieces_name {directory name : Text} (hname : '/' ∉ name) :
    pieces (directory ++ '/' :: name) = pieces directory ++ [name] := by
  rw [pieces, Text.splitOn_append_sep, Text.splitOn_eq_singleton hname, pieces]

end Path

/-- A name leads one step down. -/
theorem Location.follow_name (place : Location) {name : Text} (h : Path.isName name = true) :
    follow place [name] = place ++ [name] := by
  obtain ⟨hne, hhere, hup, -⟩ := Path.isName_iff.mp h
  simp [follow, hne, hhere, hup]

namespace FileTree

/-- The place that a path leads to, if it leads anywhere. -/
def target (tree : FileTree) (path : Path) : Location :=
  Location.follow (tree.base path) path.pieces

theorem target_congr {tree other : FileTree} (h : other.current = tree.current) (path : Path) :
    other.target path = tree.target path := by
  unfold target base
  rw [h]

section Walk

variable {tree : FileTree}

/-- A piece is looked up in a directory, and its name must not be too long. -/
theorem walk_cons (base : Location) (piece : Text) (rest : List Text) :
    tree.walk base (piece :: rest) = match tree.enter base with
      | .error e => .error e
      | .ok _ =>
        if maxName < piece.byteSize then .error .nameTooLong
        else tree.walk (Location.follow base [piece]) rest := by
  -- the pieces that are no names are short
  have hshort : piece.isEmpty = true ∨ piece = Path.here ∨ piece = Path.up →
      ¬ maxName < piece.byteSize := by
    rintro (hempty | rfl | rfl)
    · rw [List.isEmpty_iff.mp hempty]
      decide
    · decide
    · decide
  simp only [walk, Location.follow]
  cases tree.enter base with
  | error e => rfl
  | ok _ =>
    by_cases hstay : (piece.isEmpty || piece == Path.here) = true
    · have hkind : piece.isEmpty = true ∨ piece = Path.here := by simpa using hstay
      simp [hstay, hshort (hkind.imp_right Or.inl)]
    by_cases hup : (piece == Path.up) = true
    · simp [hstay, hup, hshort (.inr (.inr (beq_iff_eq.mp hup)))]
    · simp [hstay, hup]

theorem walk_cons_iff {base place : Location} {piece : Text} {rest : List Text} :
    tree.walk base (piece :: rest) = .ok place ↔ tree.enter base = .ok () ∧
      piece.byteSize ≤ maxName ∧ tree.walk (Location.follow base [piece]) rest = .ok place := by
  rw [walk_cons, ← Nat.not_lt]
  cases tree.enter base with
  | error e => simp
  | ok _ =>
    by_cases hlong : maxName < piece.byteSize
    · simp [hlong]
    · simp [hlong]

theorem walk_eq_follow {base place : Location} {pieces : List Text}
    (h : tree.walk base pieces = .ok place) : place = Location.follow base pieces := by
  induction pieces generalizing base with
  | nil => exact (Except.ok.inj h).symm
  | cons piece rest ih =>
    rw [← List.singleton_append, Location.follow_append]
    exact ih (walk_cons_iff.mp h).2.2

/-- **A path that leads anywhere leads to its target.** -/
theorem locate_eq_target {path : Path} {place : Location} (h : tree.locate path = .ok place) :
    place = tree.target path := walk_eq_follow (walk_of_locate h).2.2

end Walk

end FileTree

/-! ## 2. The directory of the cached texts -/

namespace Config

theorem exists_adblockDir (c : Config) : ∃ front, c.adblockDir = front ++ "adblock".toList := by
  unfold adblockDir Path.join
  split
  · exact ⟨[], rfl⟩
  · split
    · exact ⟨c.dataDir, rfl⟩
    · exact ⟨c.dataDir ++ ['/'], by simp⟩

theorem adblockDir_ne_nil (c : Config) : c.adblockDir ≠ [] := by
  obtain ⟨front, h⟩ := c.exists_adblockDir
  simp [h]

/-- The last piece of its path is its name. -/
theorem exists_pieces_adblockDir (c : Config) :
    ∃ front, c.adblockDir.pieces = front ++ ["adblock".toList] := by
  have hname : '/' ∉ "adblock".toList := by decide
  unfold adblockDir Path.join
  split
  · exact ⟨[], by decide⟩
  · split
    · rename_i hlast
      obtain ⟨front, hfront⟩ := List.getLast?_eq_some_iff.mp hlast
      rw [hfront, List.append_assoc]
      exact ⟨_, Path.pieces_name hname⟩
    · exact ⟨_, Path.pieces_name hname⟩

theorem adblockDir_join (c : Config) {name : Text} (hname : '/' ∉ name) :
    c.adblockDir.join name = c.adblockDir ++ '/' :: name := by
  refine Path.join_name c.adblockDir_ne_nil ?_ hname
  obtain ⟨front, h⟩ := c.exists_adblockDir
  simp [h]

/-- What lies in the directory starts from where the directory does. -/
theorem base_join (c : Config) (tree : FileTree) {name : Text} (hname : '/' ∉ name) :
    tree.base (c.adblockDir.join name) = tree.base c.adblockDir := by
  rw [c.adblockDir_join hname]
  cases hdir : c.adblockDir with
  | nil => exact absurd hdir c.adblockDir_ne_nil
  | cons first rest => rfl

/-- A name in the directory leads one step further than the directory. -/
theorem target_join (c : Config) (tree : FileTree) {name : Text} (h : Path.isName name = true) :
    tree.target (c.adblockDir.join name) = tree.target c.adblockDir ++ [name] := by
  have hname := Path.slash_notMem_of_isName h
  rw [FileTree.target, c.base_join tree hname, c.adblockDir_join hname, Path.pieces_name hname,
    Location.follow_append, Location.follow_name _ h, FileTree.target]

/-- The list of subscriptions lies in the directory. -/
theorem target_filtersListPath (c : Config) (tree : FileTree) :
    tree.target c.filtersListPath = tree.target c.adblockDir ++ [filtersListFile] :=
  c.target_join tree (by decide)

/-- What lies in the directory is looked up in it: it is there, and no name of a file leads out of
    it. -/
theorem directory_of_locate_join (c : Config) {tree : FileTree} {name : Text} {place : Location}
    (hisName : Path.isName name = true) (h : tree.locate (c.adblockDir.join name) = .ok place) :
    ∃ directory, tree.directory c.adblockDir = .ok directory ∧ place = directory ++ [name] := by
  have hname := Path.slash_notMem_of_isName hisName
  have htarget := FileTree.locate_eq_target h
  rw [c.target_join tree hisName] at htarget
  obtain ⟨hnul, hlong, hwalk⟩ := FileTree.walk_of_locate h
  rw [c.base_join tree hname, c.adblockDir_join hname, Path.pieces_name hname,
    FileTree.walk_append] at hwalk
  rw [c.adblockDir_join hname] at hnul hlong
  have hnul' : ¬ c.adblockDir.contains '\x00' = true := fun hmem => hnul (by
    simpa using Or.inl (by simpa using hmem))
  have hlong' : ¬ FileTree.maxPath < c.adblockDir.byteSize := fun hlt => hlong (by
    rw [Text.byteSize_append]
    omega)
  have hempty : ¬ c.adblockDir.isEmpty = true := by
    simpa using c.adblockDir_ne_nil
  cases hdirectory : tree.walk (tree.base c.adblockDir) c.adblockDir.pieces with
  | error e =>
    rw [hdirectory] at hwalk
    cases hwalk
  | ok directory =>
    rw [hdirectory] at hwalk
    have henter := (FileTree.walk_cons_iff.mp hwalk).1
    have hlocate : tree.locate c.adblockDir = .ok directory := by
      rw [FileTree.locate, if_neg hnul', if_neg hlong', if_neg hempty, hdirectory]
    refine ⟨directory, ?_, ?_⟩
    · simp [FileTree.directory, hlocate, henter]
    · rw [htarget, FileTree.locate_eq_target hlocate]

end Config

namespace FileTree

variable {tree other : FileTree}

/-! ## 3. Changes -/

/-- Behind a change at one place. The root cannot be changed. -/
theorem at?_put {place : Location} (hne : place ≠ []) (entry : Entry) (p : Location) :
    (tree.put place entry).at? p = if p = place then some entry else tree.at? p := by
  unfold at? put
  by_cases hp : p = place
  · subst hp
    simp [hne]
  · simp [Std.TreeMap.getElem?_insert, hp, Ne.symm hp]

/-- Once something is taken away. -/
theorem at?_erase {place : Location} (hne : place ≠ []) (p : Location) :
    (tree.erase place).at? p = if p = place then none else tree.at? p := by
  unfold at? erase
  by_cases hp : p = place
  · subst hp
    simp [hne]
  · simp [Std.TreeMap.getElem?_erase, hp, Ne.symm hp]

theorem ne_nil_of_at? {place : Location}
    (h : ∀ modified, tree.at? place ≠ some (.directory modified)) : place ≠ [] := by
  rintro rfl
  exact h 0 rfl

theorem enter_iff {place : Location} :
    tree.enter place = .ok () ↔ ∃ modified, tree.at? place = some (.directory modified) := by
  unfold enter
  cases tree.at? place with
  | none => simp
  | some entry => cases entry <;> simp

/-- No directory is taken away, and relative paths start from where they did. -/
structure KeepsDirectories (tree other : FileTree) : Prop where
  current : other.current = tree.current
  enter : ∀ {place}, tree.enter place = .ok () → other.enter place = .ok ()

theorem KeepsDirectories.walk (h : KeepsDirectories tree other) {base place : Location}
    {pieces : List Text} (hwalk : tree.walk base pieces = .ok place) :
    other.walk base pieces = .ok place := by
  induction pieces generalizing base with
  | nil => exact hwalk
  | cons piece rest ih =>
    obtain ⟨henter, hshort, hrest⟩ := walk_cons_iff.mp hwalk
    exact walk_cons_iff.mpr ⟨h.enter henter, hshort, ih hrest⟩

/-- **Where no directory is taken away all paths lead where they led.** -/
theorem KeepsDirectories.locate (h : KeepsDirectories tree other) {path : Path} {place : Location}
    (hlocate : tree.locate path = .ok place) : other.locate path = .ok place := by
  obtain ⟨hnul, hlong, hwalk⟩ := walk_of_locate hlocate
  have hne : ¬ path.isEmpty = true := by
    intro hempty
    rw [FileTree.locate, if_neg hnul, if_neg hlong, if_pos hempty] at hlocate
    cases hlocate
  have hbase : other.base path = tree.base path := by rw [base, base, h.current]
  rw [FileTree.locate, if_neg hnul, if_neg hlong, if_neg hne, hbase]
  exact h.walk hwalk

theorem KeepsDirectories.refl (tree : FileTree) : KeepsDirectories tree tree := ⟨rfl, id⟩

theorem KeepsDirectories.trans {last : FileTree} (h : KeepsDirectories tree other)
    (h' : KeepsDirectories other last) : KeepsDirectories tree last :=
  ⟨h'.current.trans h.current, fun henter => h'.enter (h.enter henter)⟩

/-- So directories are found where they were. -/
theorem KeepsDirectories.directory (h : KeepsDirectories tree other) {path : Path} {place : Location}
    (hdirectory : tree.directory path = .ok place) : other.directory path = .ok place := by
  obtain ⟨hlocate, henter⟩ := locate_of_directory hdirectory
  rw [FileTree.directory, h.locate hlocate]
  simp only [h.enter henter]

/-- Files in the place of a file, or of nothing, take no directory away. -/
theorem keepsDirectories_put {place : Location}
    (h : ∀ modified, tree.at? place ≠ some (.directory modified)) (entry : Entry) :
    KeepsDirectories tree (tree.put place entry) where
  current := rfl
  enter {p} hp := by
    obtain ⟨modified, hat⟩ := enter_iff.mp hp
    have hother : p ≠ place := fun heq => h modified (heq ▸ hat)
    refine enter_iff.mpr ⟨modified, ?_⟩
    rw [at?_put (ne_nil_of_at? h), if_neg hother, hat]

/-! ## 4. Reading and writing -/

/-- What is written lies where the path leads, in place of a file or of nothing. -/
theorem write_eq_ok {now : Nat} {path : Path} {content : Bytes} :
    tree.write now path content = .ok other ↔ ∃ place, tree.locate path = .ok place ∧
      (∀ modified, tree.at? place ≠ some (.directory modified)) ∧
      other = tree.put place (.file content now) := by
  unfold write
  cases tree.locate path with
  | error e => simp
  | ok place =>
    simp only [Except.ok.injEq, exists_eq_left']
    cases tree.at? place with
    | none => simp [eq_comm]
    | some entry => cases entry <;> simp [eq_comm]

theorem find_eq_ok {path : Path} {entry : Entry} : tree.find path = .ok entry ↔
    ∃ place, tree.locate path = .ok place ∧ tree.at? place = some entry := by
  unfold find
  cases tree.locate path with
  | error e => simp
  | ok place => cases h : tree.at? place <;> simp [h]

theorem read_eq_ok {path : Path} {content : Bytes} : tree.read path = .ok content ↔
    ∃ place modified, tree.locate path = .ok place ∧
      tree.at? place = some (.file content modified) := by
  rw [exists_comm]
  simp only [← find_eq_ok]
  unfold read
  cases tree.find path with
  | error e => simp
  | ok entry => cases entry <;> simp

/-- **What was written is read.** -/
theorem read_of_write {now : Nat} {path : Path} {content : Bytes}
    (h : tree.write now path content = .ok other) : other.read path = .ok content := by
  obtain ⟨place, hlocate, hno, rfl⟩ := write_eq_ok.mp h
  have hleads := (keepsDirectories_put hno (.file content now)).locate hlocate
  refine read_eq_ok.mpr ⟨place, now, hleads, ?_⟩
  rw [at?_put (ne_nil_of_at? hno), if_pos rfl]

theorem isFile_iff {path : Path} : tree.isFile path = true ↔ ∃ place content modified,
    tree.locate path = .ok place ∧ tree.at? place = some (.file content modified) := by
  unfold isFile find
  cases tree.locate path with
  | error e => simp
  | ok place =>
    cases hat : tree.at? place with
    | none => simp [hat]
    | some entry => cases entry <;> simp [hat, Entry.isFile]

/-- What is removed lay where the path leads, and was a file that is not pinned. -/
theorem remove_eq_ok {path : Path} : tree.remove path = .ok other ↔ ∃ place content modified,
    tree.locate path = .ok place ∧ tree.at? place = some (.file content modified) ∧
      tree.pinned[place]? = none ∧ other = tree.erase place := by
  unfold remove
  cases tree.locate path with
  | error e => simp
  | ok place =>
    cases hat : tree.at? place with
    | none => simp [hat]
    | some entry =>
      cases entry with
      | directory modified => simp [hat]
      | file content modified =>
        simp only [Except.ok.injEq, exists_and_left, exists_eq_left', hat, Option.some.injEq,
          Entry.file.injEq]
        cases hpin : tree.pinned[place]? <;> simp [eq_comm]

/-! ## 5. Names in a directory -/

/-- The name of a place in a directory is the last step to it. -/
theorem nameIn_eq_some {directory place : Location} {name : Text} :
    nameIn directory place = some name ↔ place = directory ++ [name] := by
  unfold nameIn
  constructor
  · intro h
    split at h
    · rename_i hdirectory
      obtain ⟨front, rfl⟩ := List.getLast?_eq_some_iff.mp h
      rw [List.dropLast_concat] at hdirectory
      rw [hdirectory]
    · cases h
  · rintro rfl
    simp

theorem mem_namesIn {directory : Location} {name : Text} : name ∈ tree.namesIn directory ↔
    Path.isName name = true ∧ (tree.at? (directory ++ [name])).isSome = true := by
  have hne : (directory ++ [name]).isEmpty = false := by simp
  rw [namesIn, List.mem_filter, List.mem_filterMap, and_comm, at?, hne]
  simp only [nameIn_eq_some, exists_eq_right, Std.TreeMap.mem_keys, Bool.false_eq_true, if_false,
    ← Std.TreeMap.contains_eq_isSome_getElem?, Std.TreeMap.contains_iff_mem]

end FileTree

end RequestFilter
