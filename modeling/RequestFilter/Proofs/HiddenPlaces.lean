import Mathlib.Data.List.Infix
import Mathlib.Data.List.Nodup
import RequestFilter.Proofs.OwnLists

/-!
# Trees that differ at one place

What lies at one place of a file tree, or below it, cannot be told by anything that is looked up
elsewhere: neither what is found, nor why something is not.

* `FileTree.Meets`: a path leads to a place, below it or through it;
* `FileTree.AlikeOutside`: two trees differ at a place and below it, and nowhere else;
  `AlikeOutside.locate`: **what does not meet the place leads to the same**, `AlikeOutside.find`,
  `AlikeOutside.read`: and finds the same;
* `alikeOutside_write`: what is written changes the tree at its place only;
* `Config.not_meets_of_write`: **where the list can be written, the path of its directory does not
  lead through it**, and so no text of a source on another machine is looked up through it;
* `alikeOutside_withoutCacheFiles`, `removeCacheFiles_alike`: **the cached texts are removed alike
  from trees that differ at the place of the list**.
-/

namespace RequestFilter

/-! ## 1. Ways -/

/-- Who is below a place is still there one piece further, unless it was the place itself. -/
theorem Location.prefix_follow {place base : Location} (h : place <+: base) (hne : place ≠ base)
    (piece : Text) : place <+: follow base [piece] := by
  obtain ⟨rest, rfl⟩ := h
  have hrest : rest ≠ [] := fun hnil => hne (by rw [hnil, List.append_nil])
  simp only [follow]
  split
  · exact List.prefix_append place rest
  split
  · rw [List.dropLast_append_of_ne_nil hrest]
    exact List.prefix_append place _
  · rw [List.append_assoc]
    exact List.prefix_append place _

/-- **Who leaves what lies below a place passes through it.** -/
theorem Location.exists_follow_eq {place base : Location} {pieces : List Text}
    (hbelow : place <+: base) (hout : ¬ place <+: follow base pieces) :
    ∃ front, front <+: pieces ∧ follow base front = place := by
  induction pieces generalizing base with
  | nil => exact absurd hbelow hout
  | cons piece rest ih =>
    by_cases hhere : place = base
    · exact ⟨[], List.nil_prefix, hhere.symm⟩
    · rw [← List.singleton_append, follow_append] at hout
      obtain ⟨front, hfront, hvisit⟩ := ih (prefix_follow hbelow hhere piece) hout
      refine ⟨piece :: front, List.cons_prefix_cons.mpr ⟨rfl, hfront⟩, ?_⟩
      rwa [← List.singleton_append, follow_append]

namespace FileTree

/-- The path leads to the place, below it, or through it. -/
def Meets (tree : FileTree) (place : Location) (path : Path) : Prop :=
  ∃ front, front <+: path.pieces ∧ place <+: Location.follow (tree.base path) front

instance (tree : FileTree) (place : Location) (path : Path) : Decidable (tree.Meets place path) :=
  decidable_of_iff
    (∃ front ∈ path.pieces.inits, place <+: Location.follow (tree.base path) front) <| by
      simp only [Meets, List.mem_inits]

theorem meets_congr {tree other : FileTree} (h : other.current = tree.current) {place : Location}
    {path : Path} : other.Meets place path ↔ tree.Meets place path := by
  unfold Meets base
  rw [h]

section Walk

variable {tree : FileTree} {base place : Location}

/-- What has pieces behind it is a directory. -/
theorem enter_of_walk {front rest : List Text} {piece : Text}
    (h : tree.walk base (front ++ piece :: rest) = .ok place) :
    tree.enter (Location.follow base front) = .ok () := by
  rw [walk_append] at h
  cases hfront : tree.walk base front with
  | error e =>
    rw [hfront] at h
    cases h
  | ok through =>
    rw [hfront] at h
    rw [← walk_eq_follow hfront]
    exact (walk_cons_iff.mp h).1

/-- **No way to a file leads through it**, or through what would be below it: that would have to be
    a directory. -/
theorem not_prefix_of_walk {pieces front : List Text} {name : Text}
    (h : tree.walk base (pieces ++ [name]) = .ok place)
    (hplace : place = Location.follow base pieces ++ [name]) (hfile : tree.enter place ≠ .ok ())
    (hfront : front <+: pieces) : ¬ place <+: Location.follow base front := by
  intro hbelow
  obtain ⟨rest, rfl⟩ := hfront
  have hout : ¬ place <+: Location.follow (Location.follow base front) rest := by
    rw [← Location.follow_append, hplace]
    intro hshorter
    exact absurd hshorter.length_le (by simp)
  obtain ⟨more, ⟨last, rfl⟩, hvisit⟩ := Location.exists_follow_eq hbelow hout
  refine hfile ?_
  rw [← hvisit, ← Location.follow_append]
  -- behind what leads to the place stands the name, if nothing else
  cases last with
  | nil =>
    have hthrough : tree.walk base ((front ++ more) ++ [name]) = .ok place := by simpa using h
    exact enter_of_walk hthrough
  | cons piece last =>
    have hthrough : tree.walk base ((front ++ more) ++ piece :: (last ++ [name])) = .ok place := by
      simpa using h
    exact enter_of_walk hthrough

end Walk

/-! ## 2. Trees -/

/-- The trees differ at a place and below it, and nowhere else. -/
structure AlikeOutside (place : Location) (tree other : FileTree) : Prop where
  current : other.current = tree.current
  at? : ∀ {p}, ¬ place <+: p → other.at? p = tree.at? p
  pinned : ∀ {p}, ¬ place <+: p → other.pinned[p]? = tree.pinned[p]?

namespace AlikeOutside

variable {place : Location} {tree other : FileTree}

theorem refl (place : Location) (tree : FileTree) : AlikeOutside place tree tree :=
  ⟨rfl, fun _ => rfl, fun _ => rfl⟩

theorem symm (h : AlikeOutside place tree other) : AlikeOutside place other tree :=
  ⟨h.current.symm, fun hp => (h.at? hp).symm, fun hp => (h.pinned hp).symm⟩

theorem trans {last : FileTree} (h : AlikeOutside place tree other)
    (h' : AlikeOutside place other last) : AlikeOutside place tree last :=
  ⟨h'.current.trans h.current, fun hp => (h'.at? hp).trans (h.at? hp),
    fun hp => (h'.pinned hp).trans (h.pinned hp)⟩

variable (h : AlikeOutside place tree other)
include h

theorem enter {p : Location} (hp : ¬ place <+: p) : other.enter p = tree.enter p := by
  unfold FileTree.enter
  rw [h.at? hp]

theorem walk {base : Location} {pieces : List Text}
    (hout : ∀ front, front <+: pieces → ¬ place <+: Location.follow base front) :
    other.walk base pieces = tree.walk base pieces := by
  induction pieces generalizing base with
  | nil => rfl
  | cons piece rest ih =>
    have hrest : ∀ front, front <+: rest →
        ¬ place <+: Location.follow (Location.follow base [piece]) front := fun front hfront => by
      rw [← Location.follow_append]
      exact hout _ (List.cons_prefix_cons.mpr ⟨rfl, hfront⟩)
    have hbase : ¬ place <+: base := hout [] List.nil_prefix
    rw [walk_cons, walk_cons, h.enter hbase, ih hrest]

variable {path : Path} (hpath : ¬ tree.Meets place path)
include hpath

/-- **What does not meet the place leads to the same**, or is refused alike. -/
theorem locate : other.locate path = tree.locate path := by
  have hbase : other.base path = tree.base path := by rw [base, base, h.current]
  unfold FileTree.locate
  rw [hbase, h.walk fun front hfront hbelow => hpath ⟨front, hfront, hbelow⟩]

theorem at?_of_locate {p : Location} (hlocate : tree.locate path = .ok p) :
    other.at? p = tree.at? p ∧ other.pinned[p]? = tree.pinned[p]? := by
  have hout : ¬ place <+: p := by
    rw [locate_eq_target hlocate]
    exact fun hbelow => hpath ⟨_, List.prefix_rfl, hbelow⟩
  exact ⟨h.at? hout, h.pinned hout⟩

theorem find : other.find path = tree.find path := by
  unfold FileTree.find
  rw [h.locate hpath]
  cases hlocate : tree.locate path with
  | error e => rfl
  | ok p => simp only [(h.at?_of_locate hpath hlocate).1]

theorem read : other.read path = tree.read path := by
  unfold FileTree.read
  rw [h.find hpath]

theorem exists? : other.exists? path = tree.exists? path := by
  unfold FileTree.exists?
  rw [h.find hpath]

theorem isFresh (freshness now : Nat) : Subscription.isFresh other path freshness now =
    Subscription.isFresh tree path freshness now := by
  unfold Subscription.isFresh
  rw [h.find hpath]

theorem directory : other.directory path = tree.directory path := by
  unfold FileTree.directory
  rw [h.locate hpath]
  cases hlocate : tree.locate path with
  | error e => rfl
  | ok p =>
    unfold FileTree.enter
    simp only [(h.at?_of_locate hpath hlocate).1]

end AlikeOutside

/-- The keys of two maps are the same, and in the same order, as far as both have them. -/
theorem filter_keys_congr {α β : Type} {cmp : α → α → Ordering} [Std.TransCmp cmp]
    [Std.LawfulEqCmp cmp] {t u : Std.TreeMap α β cmp} {test : α → Bool}
    (h : ∀ k, test k = true → (k ∈ t ↔ k ∈ u)) : t.keys.filter test = u.keys.filter test := by
  have hsorted (v : Std.TreeMap α β cmp) :
      (v.keys.filter test).Pairwise fun a b => cmp a b = .lt := Std.TreeMap.ordered_keys.filter _
  have hnodup (v : Std.TreeMap α β cmp) : (v.keys.filter test).Nodup :=
    Std.TreeMap.nodup_keys.filter _
  have hmem (k : α) : k ∈ t.keys.filter test ↔ k ∈ u.keys.filter test := by
    simp only [List.mem_filter, Std.TreeMap.mem_keys]
    exact and_congr_left fun hk => h k hk
  refine List.Perm.eq_of_pairwise ?_ (hsorted t) (hsorted u)
    ((List.perm_ext_iff_of_nodup (hnodup t) (hnodup u)).mpr hmem)
  exact fun a b _ _ hab hba => absurd hba (Std.OrientedCmp.not_lt_of_lt hab)

/-- **The same names are listed**, apart from that of the place. -/
theorem AlikeOutside.filter_namesIn {tree other : FileTree} {directory : Location} {last : Text}
    (h : AlikeOutside (directory ++ [last]) tree other) (test : Text → Bool)
    (htest : test last = false) :
    (other.namesIn directory).filter test = (tree.namesIn directory).filter test := by
  -- the names are read off those keys that have one, in the order of the keys
  let listed (k : Location) : Option Text := ((nameIn directory k).filter Path.isName).filter test
  have hnames (t : FileTree) : (t.namesIn directory).filter test =
      (t.entries.keys.filter fun k => (listed k).isSome).filterMap listed := by
    rw [namesIn, List.filter_filterMap, List.filter_filterMap, List.filterMap_filter]
    refine List.filterMap_congr fun k _ => ?_
    show listed k = if (listed k).isSome = true then listed k else none
    cases listed k <;> rfl
  rw [hnames, hnames, filter_keys_congr fun k hk => ?_]
  obtain ⟨name, hname⟩ := Option.isSome_iff_exists.mp hk
  obtain ⟨hname, hother⟩ := Option.filter_eq_some_iff.mp hname
  obtain rfl := nameIn_eq_some.mp (Option.filter_eq_some_iff.mp hname).1
  have hat := h.at? (p := directory ++ [name]) fun hbelow => by
    rw [List.prefix_append_right_inj] at hbelow
    rw [← (List.cons_prefix_cons.mp hbelow).1, htest] at hother
    cases hother
  have hne : (directory ++ [name]).isEmpty = false := by simp
  rw [← Std.TreeMap.contains_iff_mem, ← Std.TreeMap.contains_iff_mem,
    Std.TreeMap.contains_eq_isSome_getElem?, Std.TreeMap.contains_eq_isSome_getElem?]
  simp only [FileTree.at?, hne, Bool.false_eq_true, if_false] at hat
  rw [hat]

theorem alikeOutside_put {tree : FileTree} {place : Location} (hne : place ≠ []) (entry : Entry) :
    AlikeOutside place tree (tree.put place entry) := by
  refine ⟨rfl, fun {p} hp => ?_, fun _ => rfl⟩
  have hother : p ≠ place := fun heq => hp (heq ▸ List.prefix_rfl)
  rw [at?_put hne, if_neg hother]

/-- What is written is at the place to which its path leads. -/
theorem alikeOutside_write {tree next : FileTree} {now : Nat} {path : Path} {content : Bytes}
    (h : tree.write now path content = .ok next) :
    AlikeOutside (tree.target path) tree next := by
  obtain ⟨place, hlocate, hno, rfl⟩ := write_eq_ok.mp h
  rw [← locate_eq_target hlocate]
  exact alikeOutside_put (ne_nil_of_at? hno) _

end FileTree

/-! ## 3. The list -/

namespace Config

variable {c : Config} {files : FileTree}

/-- The place of the list. -/
def listPlace (c : Config) (files : FileTree) : Location := files.target c.filtersListPath

/-- **Where the list can be written, the path of its directory does not lead through it.** -/
theorem not_meets_of_write {now : Nat} {content : Bytes} {next : FileTree}
    (h : files.write now c.filtersListPath content = .ok next) :
    ¬ files.Meets (c.listPlace files) c.adblockDir := by
  obtain ⟨place, hlocate, hno, -⟩ := FileTree.write_eq_ok.mp h
  obtain rfl : place = c.listPlace files := FileTree.locate_eq_target hlocate
  have hname : '/' ∉ filtersListFile := by decide
  have hwalk := (FileTree.walk_of_locate hlocate).2.2
  rw [filtersListPath, c.base_join files hname, c.adblockDir_join hname, Path.pieces_name hname]
    at hwalk
  have hfile : files.enter (c.listPlace files) ≠ .ok () := fun henter => by
    obtain ⟨modified, hat⟩ := FileTree.enter_iff.mp henter
    exact hno modified hat
  rintro ⟨front, hfront, hbelow⟩
  exact FileTree.not_prefix_of_walk hwalk (c.target_filtersListPath files) hfile hfront hbelow

section Spared

variable (h : ¬ files.Meets (c.listPlace files) c.adblockDir)
include h

/-- **What has another name than the list is not looked up through it.** -/
theorem not_meets_join {name : Text} (hname : Path.isName name = true)
    (hother : name ≠ filtersListFile) :
    ¬ files.Meets (c.listPlace files) (c.adblockDir.join name) := by
  have hslash := Path.slash_notMem_of_isName hname
  rintro ⟨front, hfront, hbelow⟩
  rw [c.adblockDir_join hslash, Path.pieces_name hslash] at hfront
  rcases List.prefix_concat_iff.mp hfront with rfl | hfront
  · rw [← Path.pieces_name hslash, ← c.adblockDir_join hslash, ← FileTree.target,
      c.target_join files hname, listPlace, c.target_filtersListPath,
      List.prefix_append_right_inj] at hbelow
    exact hother (List.cons_prefix_cons.mp hbelow).1.symm
  · rw [c.base_join files hslash] at hbelow
    exact h ⟨front, hfront, hbelow⟩

/-- Such is what is cached. -/
theorem not_meets_cached (url : Text) :
    ¬ files.Meets (c.listPlace files) (c.adblockDir.join (Subscription.cacheFileName url)) :=
  have hdigest := Subscription.isDigest_cacheFileName url
  not_meets_join h hdigest.isName (hdigest.target c files).2.2

/-- So no text is looked up through the list, unless it is one's own. -/
theorem not_meets_ofUrl (url : Text) (hspares : FileUrl.isFileUrl url = true →
    ¬ files.Meets (c.listPlace files) (FileUrl.pathOr url)) :
    ¬ files.Meets (c.listPlace files) (SourceLocation.ofUrl c.adblockDir url).path := by
  unfold SourceLocation.ofUrl
  split
  · rename_i hown
    exact hspares hown
  · exact not_meets_cached h url

/-! ## 4. Removals -/

variable {other : FileTree} (halike : files.AlikeOutside (c.listPlace files) other)
include halike

open Subscription

/-- Of a name other than that of the list the same is removed in both trees. -/
theorem takes_alike {name : Text} (hname : Path.isName name = true) {place : Location} :
    Takes other c.adblockDir name place ↔ Takes files c.adblockDir name place := by
  constructor
  · rintro ⟨hcached, hfound, hfile, hfree⟩
    have hpath := not_meets_join h hname hcached
    rw [halike.locate hpath] at hfound
    obtain ⟨hat, hpinned⟩ := halike.at?_of_locate hpath hfound
    exact ⟨hcached, hfound, hat ▸ hfile, hpinned ▸ hfree⟩
  · rintro ⟨hcached, hfound, hfile, hfree⟩
    have hpath := not_meets_join h hname hcached
    obtain ⟨hat, hpinned⟩ := halike.at?_of_locate hpath hfound
    exact ⟨hcached, (halike.locate hpath).trans hfound, hat ▸ hfile, hpinned ▸ hfree⟩

/-- And the same is complained of. -/
theorem refusal_alike {name : Text} (hname : Path.isName name = true) :
    refusal other c.adblockDir name = refusal files c.adblockDir name := by
  refine Option.ext fun q => ?_
  rw [refusal_eq_some, refusal_eq_some]
  refine and_congr_right fun hcached => ?_
  have hpath := not_meets_join h hname hcached
  rw [halike.locate hpath]
  refine exists_congr fun place => exists_congr fun content => exists_congr fun modified =>
    and_congr_right fun hlocate => ?_
  rw [(halike.at?_of_locate hpath hlocate).1, (halike.at?_of_locate hpath hlocate).2]

theorem isRemoved_alike {place : Location} :
    IsRemoved other c.adblockDir place ↔ IsRemoved files c.adblockDir place := by
  unfold IsRemoved
  rw [halike.directory h]
  exact exists_congr fun parent => exists_congr fun name => and_congr_right fun _ =>
    and_congr_right fun _ => and_congr_right fun hname => takes_alike h halike hname

/-- **The cached texts are removed from both trees alike.** -/
theorem alikeOutside_withoutCacheFiles : (withoutCacheFiles files c.adblockDir).AlikeOutside
    (c.listPlace files) (withoutCacheFiles other c.adblockDir) := by
  obtain ⟨_, hclears, -⟩ := exists_clears files c.adblockDir
  obtain ⟨_, hclears', -⟩ := exists_clears other c.adblockDir
  refine ⟨?current, fun {p} hp => Option.ext fun entry => ?at?, fun {p} hp => ?pinned⟩
  case current => rw [hclears'.current, hclears.current, halike.current]
  case at? =>
    rw [at?_withoutCacheFiles, at?_withoutCacheFiles, isRemoved_alike h halike, halike.at? hp]
  case pinned => rw [hclears'.pinned, hclears.pinned, halike.pinned hp]

/-- **And the same is complained of**, whether it is the directory or some of the names in it. -/
theorem removeCacheFiles_alike :
    (∃ refused,
      removeCacheFiles files c.adblockDir = .ok ⟨withoutCacheFiles files c.adblockDir, refused⟩ ∧
      removeCacheFiles other c.adblockDir = .ok ⟨withoutCacheFiles other c.adblockDir, refused⟩) ∨
    ∃ e, removeCacheFiles files c.adblockDir = .error e ∧
      removeCacheFiles other c.adblockDir = .error e := by
  have hsame := halike.directory h
  cases hdirectory : files.directory c.adblockDir with
  | error e =>
    rw [hdirectory] at hsame
    exact Or.inr ⟨e, by rw [removeCacheFiles, FileTree.list, hdirectory],
      by rw [removeCacheFiles, FileTree.list, hsame]⟩
  | ok parent =>
    rw [hdirectory] at hsame
    obtain ⟨left, hleft, -⟩ := removeCacheFiles_of_directory hdirectory
    obtain ⟨right, hright, -⟩ := removeCacheFiles_of_directory hsame
    -- nothing is complained of under the name of the list
    have hcached (tree : FileTree) : (tree.namesIn parent).filterMap
        (refusal tree c.adblockDir) =
          ((tree.namesIn parent).filter isCacheName).filterMap (refusal tree c.adblockDir) := by
      rw [List.filterMap_filter]
      refine List.filterMap_congr fun name _ => ?_
      cases hname : isCacheName name <;> simp [refusal, hname]
    have hplace : c.listPlace files = parent ++ [filtersListFile] := by
      rw [listPlace, c.target_filtersListPath,
        FileTree.locate_eq_target (FileTree.locate_of_directory hdirectory).1]
    rw [hplace] at halike
    have hnames := halike.filter_namesIn isCacheName (by decide)
    have hrefused : (other.namesIn parent).filterMap (refusal other c.adblockDir) =
        (files.namesIn parent).filterMap (refusal files c.adblockDir) := by
      rw [hcached other, hcached files, hnames]
      refine List.filterMap_congr fun name hname => ?_
      have hisName := (FileTree.mem_namesIn.mp (List.mem_filter.mp hname).1).1
      exact refusal_alike h (hplace.symm ▸ halike) hisName
    rw [hrefused] at hright
    rw [withoutCacheFiles_of_eq_ok hleft, withoutCacheFiles_of_eq_ok hright]
    exact Or.inl ⟨_, hleft, hright⟩

end Spared

end Config

end RequestFilter
