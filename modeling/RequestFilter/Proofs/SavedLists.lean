import Mathlib.Data.List.DropRight
import RequestFilter.Cli.Commands
import RequestFilter.Proofs.OwnLists
import RequestFilter.Proofs.WrittenText

/-!
# Lists of subscriptions that are saved

Subscriptions are saved with a semicolon behind each, and read back cut at the semicolons, without
blanks around them and without empty ones. So a list survives as far as its entries can be told
apart in what is written.

* `Subscription.Carried`: the entries that are read back as they are; `carried_of_mem_ofText`: all
  that is read is of that kind;
* `Subscription.ofText_toText`: **every entry is read back for itself**; `ofText_toText_eq_iff`: a
  list is read back as it is exactly if all its entries are;
* `Config.Saved`: the file of the list reads as some subscriptions; `saved_of_write`,
  `Session.saved_run`: it does once they are saved, and goes on doing so;
* `Config.Restores`: the subscriptions are those of a new tester, and those that are listed;
* `saved_lists_survive`: **saved subscriptions survive as they are read back**.
-/

namespace RequestFilter

namespace Text

/-! ## 1. Blanks at the ends -/

/-- There is no blank at either end. -/
structure Trimmed (t : Text) : Prop where
  first : ∀ c ∈ t.head?, Unicode.isBlank c = false
  last : ∀ c ∈ t.getLast?, Unicode.isBlank c = false

theorem trimEnd_eq (t : Text) : t.trimEnd = t.rdropWhile Unicode.isBlank := rfl

theorem trim_of_trimmed {t : Text} (h : t.Trimmed) : t.trim = t := by
  have hstart : t.trimStart = t := by
    cases t with
    | nil => rfl
    | cons c rest =>
      have hc := h.first c rfl
      simp [trimStart, hc]
  rw [trim, hstart, trimEnd_eq, List.rdropWhile_eq_self_iff]
  intro hne
  rw [h.last _ (List.getLast_mem_getLast? hne)]
  exact Bool.false_ne_true

theorem trim_infix (t : Text) : t.trim <:+: t := by
  rw [trim, trimEnd_eq]
  exact (List.rdropWhile_prefix _ _).isInfix.trans (List.dropWhile_suffix _).isInfix

theorem trimmed_trim (t : Text) : t.trim.Trimmed where
  first := by
    intro c hc
    -- what the end loses does not touch the start
    obtain ⟨rest, hrest⟩ := List.rdropWhile_prefix Unicode.isBlank t.trimStart
    have hstart : t.trimStart.head? = some c := by
      rw [← hrest]
      exact List.mem_head?_append_of_mem_head? hc
    have hblank := List.head?_dropWhile_not Unicode.isBlank t
    rwa [← trimStart, hstart] at hblank
  last := by
    intro c hc
    obtain ⟨hne, rfl⟩ := List.mem_getLast?_eq_getLast hc
    exact Bool.eq_false_iff.mpr (List.rdropWhile_last_not Unicode.isBlank t.trimStart hne)

end Text

namespace Subscription

/-! ## 2. Entries -/

/-- An entry that is read back as it is. -/
structure Carried (f : Text) : Prop where
  ne_nil : f ≠ []
  noSemicolon : ';' ∉ f
  trimmed : f.Trimmed

theorem ofText_of_carried {f : Text} (h : Carried f) : ofText f = [f] := by
  rw [ofText, Text.splitOn_eq_singleton h.noSemicolon, List.map_singleton,
    Text.trim_of_trimmed h.trimmed]
  simp [h.ne_nil]

/-- **All that is read is read back as it is.** -/
theorem carried_of_mem_ofText {t f : Text} (h : f ∈ ofText t) : Carried f := by
  obtain ⟨hmem, hne⟩ := List.mem_filter.mp h
  obtain ⟨piece, hpiece, rfl⟩ := List.mem_map.mp hmem
  refine ⟨by simpa using hne, fun hsemicolon => ?_, piece.trimmed_trim⟩
  exact Text.notMem_of_mem_splitOn hpiece (piece.trim_infix.subset hsemicolon)

theorem ofText_append (s t : Text) : ofText (s ++ ';' :: t) = ofText s ++ ofText t := by
  simp only [ofText, Text.splitOn_append_sep, List.map_append, List.filter_append]

/-- **Every entry is read back for itself**, whatever the others are. -/
theorem ofText_toText (filters : List Text) :
    ofText (toText filters) = filters.flatMap ofText := by
  induction filters with
  | nil => rfl
  | cons f rest ih =>
    rw [toText, List.flatMap_cons, List.append_assoc, List.singleton_append, ofText_append,
      List.flatMap_cons, ← ih, toText]

theorem ofText_toText_of_carried {filters : List Text} (h : ∀ f ∈ filters, Carried f) :
    ofText (toText filters) = filters := by
  rw [ofText_toText, List.flatMap_congr fun f hf => ofText_of_carried (h f hf)]
  exact List.flatMap_singleton' filters

/-- **A list is read back as it is exactly if all its entries are.** -/
theorem ofText_toText_eq_iff {filters : List Text} :
    ofText (toText filters) = filters ↔ ∀ f ∈ filters, Carried f := by
  refine ⟨fun h f hf => ?_, ofText_toText_of_carried⟩
  rw [← h] at hf
  exact carried_of_mem_ofText hf

end Subscription

namespace Config

/-! ## 3. The file of the list -/

/-- The file of the list reads as the subscriptions. -/
def Saved (c : Config) (files : FileTree) (filters : List Text) : Prop :=
  Subscription.read files c.filtersListPath = .ok (some filters)

theorem saved_iff {c : Config} {files : FileTree} {filters : List Text} : c.Saved files filters ↔
    ∃ content text, files.read c.filtersListPath = .ok content ∧
      Text.ofBytes? content = some text ∧ filters = Subscription.ofText text := by
  unfold Saved Subscription.read FileTree.readText
  cases files.read c.filtersListPath with
  | error e => cases e <;> simp
  | ok content => cases htext : Text.ofBytes? content <;> simp [htext, eq_comm]

/-- **What is saved is read back from the text that was written.** -/
theorem saved_of_write {c : Config} {files next : FileTree} {now : Nat} {filters : List Text}
    (h : Subscription.write files now c.filtersListPath filters = .ok next) :
    c.Saved next (Subscription.ofText (Subscription.toText filters)) :=
  saved_iff.mpr ⟨_, _, FileTree.read_of_write h, Text.ofBytes?_toBytes _, rfl⟩

variable {c : Config} {files : FileTree} {filters : List Text}

/-- The list is no cached text. -/
theorem Saved.withoutCacheFiles (h : c.Saved files filters) :
    c.Saved (Subscription.withoutCacheFiles files c.adblockDir) filters := by
  obtain ⟨content, text, hread, htext⟩ := saved_iff.mp h
  have hkept := (Subscription.read_withoutCacheFiles_iff c hread).mpr ?removed
  · exact saved_iff.mpr ⟨content, text, hkept, htext⟩
  rintro ⟨place, hlocate, parent, name, hdirectory, rfl, -, htakes⟩
  have htarget := FileTree.locate_eq_target hlocate
  rw [c.target_filtersListPath, ← FileTree.locate_eq_target
    (FileTree.locate_of_directory hdirectory).1] at htarget
  exact htakes.cached (List.singleton_inj.mp (List.append_cancel_left htarget))

/-- Where the list is there is the directory. -/
theorem Saved.exists_directory (h : c.Saved files filters) :
    ∃ place, files.directory c.adblockDir = .ok place := by
  obtain ⟨content, text, hread, -⟩ := saved_iff.mp h
  obtain ⟨place, -, hlocate, -⟩ := FileTree.read_eq_ok.mp hread
  obtain ⟨directory, hdirectory, -⟩ := c.directory_of_locate_join (by decide) hlocate
  exact ⟨directory, hdirectory⟩

/-- It is the data directory that counts. -/
theorem Saved.of_dataDir (h : c.Saved files filters) {other : Config}
    (hother : other.dataDir = c.dataDir) : other.Saved files filters := by
  have hpath : other.filtersListPath = c.filtersListPath := by
    rw [filtersListPath, adblockDir, hother, filtersListPath, adblockDir]
  rw [Saved, hpath]
  exact h

/-- The subscriptions are those of a new tester, which changes no file, and they are what is listed
    as subscribed. -/
structure Restores (c : Config) (files : FileTree) (filters : List Text) : Prop where
  start : ∀ now, ∃ s, Session.start c files now = (files, .ok s) ∧ s.tester.filters = filters
  listed : Cli.listFilters c files =
    { files := files
      lines := .plain (Text.ofNat filters.length ++ " filter list(s) (subscribed)".toList) ::
        filters.map fun url => .plain (' ' :: ' ' :: url) }

theorem Saved.restores (h : c.Saved files filters) : c.Restores files filters where
  start now := by
    obtain ⟨place, hdirectory⟩ := h.exists_directory
    obtain ⟨events, hstart⟩ := Session.start_of_directory hdirectory now
    have hfilters := (Session.keeps_start_of_directory hdirectory (congrArg Prod.snd hstart)).2.2
    refine ⟨_, hstart, hfilters.trans ?_⟩
    rw [Config.subscriptions, show Subscription.read files c.filtersListPath = _ from h]
  listed := by
    rw [Cli.listFilters, show Subscription.read files c.filtersListPath = _ from h]
    simp

end Config

namespace Session

/-! ## 4. Testers -/

/-- The operation neither changes the subscriptions nor comes from outside. -/
def Operation.keepsList : Operation → Bool
  | .query _ | .reload _ | .completeFetch _ => true
  | .setFilters _ _ | .editFilters _ _ | .fileChange _ => false

theorem saved_apply {c : Config} {s : Session} {filters : List Text} {op : Operation}
    (hconfig : s.tester.config = c) (h : c.Saved s.files filters) (hop : op.keepsList = true) :
    c.Saved (s.apply op).files filters := by
  cases op with
  | query r => exact h
  | reload now =>
    show c.Saved (s.reload now).files filters
    rw [files_reload, hconfig]
    exact h.withoutCacheFiles
  | completeFetch q =>
    show c.Saved (s.completeFetch q).files filters
    rw [(keeps_completeFetch s q).files]
    exact h
  | setFilters now others => cases hop
  | editFilters now others => cases hop
  | fileChange others => cases hop

theorem saved_run {c : Config} {s : Session} {filters : List Text} (hconfig : s.tester.config = c)
    (h : c.Saved s.files filters) {ops : List Operation} (hops : ∀ op ∈ ops, op.keepsList = true) :
    c.Saved (s.run ops).files filters := by
  induction ops using List.reverseRecOn with
  | nil => exact h
  | append_singleton ops op ih =>
    simp only [List.mem_append, List.mem_singleton] at hops
    rw [run_concat]
    exact saved_apply ((config_run s ops).trans hconfig) (ih fun o ho => hops o (Or.inl ho))
      (hops op (Or.inr rfl))

theorem saved_setFilters {s : Session} {now : Nat} {filters : List Text}
    (h : (s.setFilters now filters).2 = .ok ()) :
    s.tester.config.Saved (s.setFilters now filters).1.files
      (Subscription.ofText (Subscription.toText filters)) := by
  unfold setFilters at h ⊢
  simp only at h ⊢
  split at h
  · rename_i files hwrite
    exact Config.saved_of_write hwrite
  · cases h

end Session

theorem Cli.saved_setFilters {config : Config} {files : FileTree} {now : Nat} {urls : List Text}
    (h : (setFilters config files now urls).failure = none) :
    config.Saved (setFilters config files now urls).files
      (Subscription.ofText (Subscription.toText urls)) := by
  unfold setFilters at h ⊢
  simp only at h ⊢
  split at h
  · cases h
  · split at h
    · cases h
    · rename_i next hwrite
      exact Config.saved_of_write hwrite

/-! ## 5. Restarts -/

/-- **Saved subscriptions survive as they are read back.** If a tester or the command has saved some
    subscriptions, and the tester has gone on for a while without changing them, then whoever works
    with the same data directory, with whatever defaults, finds the entries of the text that was
    written: a new tester, which can be started and changes no file, and the command that lists
    them. These are the subscriptions as they were exactly if none is empty, has a semicolon in it
    or a blank at an end. No subscriptions are read back as none, and what was read once is read
    back as it is. -/
theorem saved_lists_survive :
    (∀ (s : Session) (now : Nat) (filters : List Text) (ops : List Session.Operation),
      (s.setFilters now filters).2 = .ok () → (∀ op ∈ ops, op.keepsList = true) →
        ∀ other : Config, other.dataDir = s.tester.config.dataDir →
          other.Restores ((s.setFilters now filters).1.run ops).files
            (Subscription.ofText (Subscription.toText filters))) ∧
    (∀ (config : Config) (files : FileTree) (now : Nat) (filters : List Text),
      (Cli.setFilters config files now filters).failure = none →
        ∀ other : Config, other.dataDir = config.dataDir →
          other.Restores (Cli.setFilters config files now filters).files
            (Subscription.ofText (Subscription.toText filters))) ∧
    (∀ filters, Subscription.ofText (Subscription.toText filters) = filters ↔
      ∀ f ∈ filters, Subscription.Carried f) ∧
    Subscription.ofText (Subscription.toText []) = [] ∧
    ∀ t, Subscription.ofText (Subscription.toText (Subscription.ofText t)) =
      Subscription.ofText t := by
  refine ⟨fun s now filters ops hok hops other hother => ?_,
    fun config files now filters hok other hother => ?_,
    fun _ => Subscription.ofText_toText_eq_iff, rfl,
    fun t => Subscription.ofText_toText_of_carried fun _ => Subscription.carried_of_mem_ofText⟩
  · have hconfig := (Session.loads_setFilters s now filters).config
    have hsaved := Session.saved_run hconfig (Session.saved_setFilters hok) hops
    exact (hsaved.of_dataDir hother).restores
  · exact ((Cli.saved_setFilters hok).of_dataDir hother).restores

/-- Of three entries one has a semicolon in it, one a blank in front, and one is empty; what a new
    tester finds is three others. No subscriptions are listed as none, and not as the default. -/
theorem saved_lists_survive_late : ∃ s₀, (Session.start Session.lateConfig {} 0).2 = .ok s₀ ∧
    (s₀.setFilters 0 ["a;b".toList, " c".toList, []]).2 = .ok () ∧
    (∃ s, (Session.start Session.lateConfig
        ((s₀.setFilters 0 ["a;b".toList, " c".toList, []]).1.run [.reload 1]).files 2).2 = .ok s ∧
      s.tester.filters = ["a".toList, "b".toList, "c".toList]) ∧
    (Cli.setFilters Session.lateConfig {} 0 []).failure = none ∧
    (Cli.listFilters Session.lateConfig (Cli.setFilters Session.lateConfig {} 0 []).files).lines =
      [.plain "0 filter list(s) (subscribed)".toList] ∧
    Subscription.Carried "https://l/a".toList := by
  obtain ⟨s₀, hstart, hset⟩ := exists_ok_of_map (show
    (Session.start Session.lateConfig {} 0).2.toOption.map (fun s =>
      (s.setFilters 0 ["a;b".toList, " c".toList, []]).2.toOption.map id) = some (some ()) by
        decide +kernel)
  obtain ⟨_, hok, -⟩ := exists_ok_of_map hset
  have hnone : (Cli.setFilters Session.lateConfig {} 0 []).failure = none := by decide +kernel
  have hconfig : s₀.tester.config = Session.lateConfig := (Session.storesIn_start hstart).config
  obtain ⟨htester, hcommand, hcarried, -⟩ := saved_lists_survive
  have hrestores := htester s₀ 0 _ [.reload 1] hok (by simp [Session.Operation.keepsList])
    Session.lateConfig (by rw [hconfig])
  obtain ⟨s, hagain, hfilters⟩ := hrestores.start 2
  refine ⟨s₀, hstart, hok, ⟨s, congrArg Prod.snd hagain, hfilters.trans (by decide +kernel)⟩,
    hnone, ?listed, ?carried⟩
  case listed =>
    rw [(hcommand Session.lateConfig {} 0 [] hnone Session.lateConfig rfl).listed]
    decide +kernel
  case carried =>
    exact (hcarried ["https://l/a".toList]).mp (by decide +kernel) _ (List.mem_singleton.mpr rfl)

end RequestFilter
