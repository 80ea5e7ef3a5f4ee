import Mathlib.Data.List.Forall2
import RequestFilter.Config.Reader
import RequestFilter.Proofs.Places
import RequestFilter.Proofs.WrittenJson
import RequestFilter.Proofs.WrittenText

/-!
# Configurations that were written

A configuration may be written with some of its fields, in any order and with others between them
that the program does not know. What is read of such a text are the fields that it writes.

* `Config.Writes`: an object writes some fields of a configuration; `writes_toJson`: the written
  form writes them all;
* `Config.choose`: some fields of a configuration, the others those of another;
* `Reader.run`: the reader over a text; `Listing.run`: over items with commas between them, given
  what it does on each;
* `Reader.run_value`: **a value of any form is passed over**, wherever one may be;
* `Reader.run_member`: a member of the object gives its field; `read_of_writes`: so an object gives
  those of all its members;
* `ofFile_of_written`: **configurations are read from files as they were written to them**.
-/

namespace RequestFilter

namespace Config

open Json (IsSpace Spaced Quotes IsValue Ends enclosed Token)

/-! ## 1. Texts that write a configuration -/

/-- The text writes the value of a field. -/
def WritesValue (c : Config) (f : Field) (t : Text) : Prop :=
  match f with
  | .dataDir => Quotes c.dataDir t
  | .freshnessSecs => t = Text.ofNat c.freshnessSecs.toNat
  | .defaultFilters => ∃ items space, IsSpace space ∧ t = enclosed '[' ']' items space ∧
      List.Forall₂ (fun filter item => Spaced (Quotes filter) item) c.defaultFilters items
  | .maxLineLen => t = Text.ofNat c.maxLineLen.toNat

/-- A member of an object: it is for a field and writes its value, or its name is that of no field
    and its value may be any. -/
inductive Member (c : Config) : Option Field → Text → Prop
  | known {f : Field} {name value : Text} (hname : Spaced (Quotes f.name) name)
      (hvalue : Spaced (c.WritesValue f) value) : Member c (some f) (name ++ ':' :: value)
  | unknown {label name value : Text} (hlabel : ∀ f : Field, f.name ≠ label)
      (hname : Spaced (Quotes label) name) (hvalue : IsValue value) :
      Member c none (name ++ ':' :: value)

/-- The text is an object that writes the fields, in the order of the list, and perhaps others that
    are unknown. -/
def Writes (c : Config) (fields : List Field) (t : Text) : Prop :=
  ∃ (members : List (Option Field × Text)) (space : Text), (∀ m ∈ members, Member c m.1 m.2) ∧
    fields = members.filterMap Prod.fst ∧ IsSpace space ∧
    Spaced (· = enclosed '{' '}' (members.map Prod.snd) space) t

/-- The fields of the list as they are in `c`; the others are those of `rest`. -/
def choose (c : Config) (fields : List Field) (rest : Config) : Config where
  dataDir := if .dataDir ∈ fields then c.dataDir else rest.dataDir
  freshnessSecs := if .freshnessSecs ∈ fields then c.freshnessSecs else rest.freshnessSecs
  defaultFilters := if .defaultFilters ∈ fields then c.defaultFilters else rest.defaultFilters
  maxLineLen := if .maxLineLen ∈ fields then c.maxLineLen else rest.maxLineLen

theorem choose_nil (c rest : Config) : c.choose [] rest = rest := rfl

theorem choose_all (c rest : Config) : c.choose Field.all rest = c := rfl

theorem choose_cons (c rest : Config) (f : Field) (fields : List Field) :
    c.choose (f :: fields) rest = c.choose fields (c.choose [f] rest) := by
  simp only [choose, List.mem_cons, List.not_mem_nil, or_false, Config.mk.injEq]
  cases f <;> simp

/-- The value of a field is written as it may be. -/
theorem writesValue_fieldJson (c : Config) (f : Field) : c.WritesValue f (c.fieldJson f) := by
  cases f with
  | dataDir => exact Json.quotes_quote _
  | freshnessSecs => rfl
  | defaultFilters =>
    refine ⟨_, [], Json.isSpace_nil, Json.array_eq _, ?_⟩
    exact List.forall₂_map_right_iff.mpr
      (List.forall₂_same.mpr fun filter _ => Spaced.of (Json.quotes_quote filter))
  | maxLineLen => rfl

/-- Any fields are written by an object of them. -/
theorem writes_object (c : Config) (fields : List Field) :
    c.Writes fields (Json.object (fields.map fun f => (f.name, c.fieldJson f))) := by
  refine ⟨fields.map fun f => (some f, Json.quote f.name ++ ':' :: c.fieldJson f), [], ?_, ?_,
    Json.isSpace_nil, Spaced.of ?_⟩
  · intro m hm
    obtain ⟨f, -, rfl⟩ := List.mem_map.mp hm
    exact .known (Spaced.of (Json.quotes_quote f.name)) (Spaced.of (c.writesValue_fieldJson f))
  · simp [List.filterMap_map]
  · rw [Json.object_eq, List.map_map, List.map_map]
    rfl

/-- **The written form of a configuration writes all its fields.** -/
theorem writes_toJson (c : Config) : c.Writes Field.all c.toJson := c.writes_object Field.all

/-! ## 2. Fields that are given -/

/-- The fields given, and one that is as in a configuration. -/
def Given.add (c : Config) (g : Given) : Field → Given
  | .dataDir => { g with dataDir := some c.dataDir }
  | .freshnessSecs => { g with freshnessSecs := some c.freshnessSecs }
  | .defaultFilters => { g with defaultFilters := some c.defaultFilters }
  | .maxLineLen => { g with maxLineLen := some c.maxLineLen }

theorem Given.has_add {c : Config} {g : Given} {f f' : Field} (hne : f' ≠ f) :
    (g.add c f).has f' = g.has f' := by
  cases f <;> cases f' <;> first | rfl | exact absurd rfl hne

theorem Given.onto_foldl_add (c : Config) (fields : List Field) (g : Given) (rest : Config) :
    (fields.foldl (Given.add c) g).onto rest = c.choose fields (g.onto rest) := by
  induction fields generalizing g with
  | nil => rw [List.foldl_nil, choose_nil]
  | cons f fields ih =>
    have hone : (g.add c f).onto rest = c.choose [f] (g.onto rest) := by
      cases f <;> simp [Given.add, Given.onto, choose]
    rw [List.foldl_cons, ih, hone, ← choose_cons]

theorem ofName?_name (f : Field) : Field.ofName? f.name = some f := by
  cases f <;> decide

theorem ofName?_eq_none {label : Text} (h : ∀ f : Field, f.name ≠ label) :
    Field.ofName? label = none := by
  simp [Field.ofName?, h]

namespace Reader

/-! ## 3. Runs over a text -/

variable {s s' : State} {t rest : Text}

/-- The reader over the tokens of a text. -/
def run (s : State) (t : Text) : Except Fault State := (Json.scan t).foldlM step s

theorem run_of_scan {token : Token} (hscan : Json.scan t = token :: Json.scan rest)
    (hstep : step s token = .ok s') : run s t = run s' rest := by
  rw [run, hscan, List.foldlM_cons, hstep]
  rfl

theorem run_space (h : IsSpace t) (s : State) (rest : Text) : run s (t ++ rest) = run s rest := by
  rw [run, Json.scan_space h, run]

theorem run_cons {c : Char} {token : Token} (hc : Json.Scanner.begin c = ([token], .between))
    (hstep : step s token = .ok s') (rest : Text) : run s (c :: rest) = run s' rest :=
  run_of_scan (Json.scan_cons hc) hstep

theorem run_quotes {text : Text} (h : Quotes text t) (hstep : step s (.string (some text)) = .ok s')
    (rest : Text) : run s (t ++ rest) = run s' rest :=
  run_of_scan (Json.scan_quotes h rest) hstep

/-- What is said of a text holds with blanks around it, if it holds before all that ends it. -/
theorem run_spaced {P : Text → Prop} (h : Spaced P t) (hrest : Ends rest)
    (hcore : ∀ core later, P core → Ends later → run s (core ++ later) = run s' later) :
    run s (t ++ rest) = run s' rest := by
  obtain ⟨before, core, after, hbefore, hP, hafter, rfl⟩ := h
  rw [List.append_assoc, List.append_assoc, run_space hbefore,
    hcore core _ hP (hrest.space hafter), run_space hafter]

/-! ## 4. Items with commas between them -/

section Listing

variable {σ : Type} {place : Due → σ → State}

/-- Read one behind the other, the items lead from one state between items to another. Each may
    stand first or behind a comma. -/
inductive Through (place : Due → σ → State) : σ → List Text → σ → Prop
  | nil (a : σ) : Through place a [] a
  | cons {a b last : σ} {item : Text} {items : List Text}
      (hitem : ∀ due rest, due ≠ .separator → Ends rest →
        run (place due a) (item ++ rest) = run (place .separator b) rest)
      (hitems : Through place b items last) : Through place a (item :: items) last

/-- Items that lead back to where the reader was. -/
theorem Through.of_forall {place : Due → Unit → State} {items : List Text}
    (h : ∀ item ∈ items, ∀ due rest, due ≠ .separator → Ends rest →
      run (place due ()) (item ++ rest) = run (place .separator ()) rest) :
    Through place () items () := by
  induction items with
  | nil => exact .nil ()
  | cons item items ih =>
    exact .cons (h item List.mem_cons_self) (ih fun t ht => h t (List.mem_cons_of_mem _ ht))

/-- The states between items, the token that closes them, and what it leads to. -/
structure Listing (place : Due → σ → State) (close : Token) (done : σ → State) : Prop where
  comma : ∀ a, step (place .separator a) .comma = .ok (place .item a)
  close : ∀ due a, due ≠ .item → step (place due a) close = .ok (done a)

variable {close : Token} {done : σ → State} {a b : σ} {items : List Text} {due : Due}

/-- Items with commas between them are read one behind the other. -/
theorem Listing.run_join (h : Listing place close done) (hitems : Through place a items b)
    (hne : items ≠ []) (hdue : due ≠ .separator) (hrest : Ends rest) :
    run (place due a) (Text.join [','] items ++ rest) = run (place .separator b) rest := by
  induction hitems generalizing due with
  | nil a => exact absurd rfl hne
  | @cons a b last item items hitem hitems ih =>
    cases items with
    | nil =>
      cases hitems
      exact hitem due rest hdue hrest
    | cons next items =>
      have hjoin : Text.join [','] (item :: next :: items) ++ rest =
          item ++ ',' :: (Text.join [','] (next :: items) ++ rest) := by simp [Text.join]
      rw [hjoin, hitem due _ hdue (Json.ends_cons (by decide)), run_cons rfl (h.comma b),
        ih (List.cons_ne_nil _ _) (by decide)]

/-- **A list is read to its end** if its items are. -/
theorem Listing.run (h : Listing place close done) (hitems : Through place a items b)
    {space : Text} (hspace : IsSpace space) {last : Char}
    (hlast : Json.Scanner.begin last = ([close], .between)) (hends : Ends (last :: rest)) :
    run (place .first a) (Text.join [','] items ++ (space ++ last :: rest)) =
      Reader.run (done b) rest := by
  by_cases hne : items = []
  · subst hne
    cases hitems
    rw [Text.join, List.nil_append, run_space hspace, run_cons hlast (h.close .first a (by decide))]
  · rw [h.run_join hitems hne (by decide) (hends.space hspace), run_space hspace,
      run_cons hlast (h.close .separator b (by decide))]

end Listing

/-! ## 5. Values that are passed over -/

/-- The reader passes over a value that starts here. -/
def Awaits (g : Given) (stack : List Bracket) (s : State) : Prop :=
  ∀ token next, skipValue g stack token = .ok next → step s token = .ok next

variable {g : Given} {stack : List Bracket}

theorem awaits_value : Awaits g [] (.value g none) := fun _ _ h => h

theorem awaits_member (inner : Bracket) :
    Awaits g (inner :: stack) (.skipped g (inner :: stack) .value) := fun _ _ h => h

theorem awaits_item {due : Due} (hdue : due ≠ .separator) :
    Awaits g (.bracket :: stack) (.skipped g (.bracket :: stack) (.items due)) := by
  intro token next h
  have hclose : token ≠ .closeBracket := by rintro rfl; cases h
  simpa [step, skip, Bracket.close, hclose, hdue] using h

/-- Between the items of an object or an array that is passed over. -/
def between (g : Given) (inner : Bracket) (stack : List Bracket) (due : Due) (_ : Unit) : State :=
  .skipped g (inner :: stack) (.items due)

theorem listing_between (inner : Bracket) :
    Listing (between g inner stack) inner.close fun _ => afterSkipped g stack where
  comma := by
    intro _
    cases inner <;> rfl
  close := by
    intro due _ hdue
    simp [between, step, skip, hdue]

/-- A name in an object that is passed over. -/
theorem run_skippedName {due : Due} (h : Spaced Json.IsString t) (hdue : due ≠ .separator)
    (rest : Text) : run (between g .brace stack due ()) (t ++ ':' :: rest) =
      run (.skipped g (.brace :: stack) .value) rest := by
  have hcolon : step (.skipped g (.brace :: stack) .colon) .colon =
      .ok (.skipped g (.brace :: stack) .value) := rfl
  rw [← run_cons (c := ':') rfl hcolon]
  refine run_spaced h (Json.ends_cons (by decide)) fun core later hcore _ => ?_
  obtain ⟨text, hscan⟩ := Json.scan_isString hcore later
  refine run_of_scan hscan ?_
  simp [between, step, skip, Bracket.close, hdue]

/-- **A value of any form is passed over**, as deep as it may go. -/
theorem run_value (h : IsValue t) (hs : Awaits g stack s) (hrest : Ends rest) :
    run s (t ++ rest) = run (afterSkipped g stack) rest := by
  induction h generalizing stack s rest with
  | word h =>
    obtain ⟨token, htoken, hscan⟩ := Json.scan_word h rest
    refine run_of_scan hscan (hs token _ ?_)
    simp only [List.mem_cons, List.not_mem_nil, or_false] at htoken
    rcases htoken with rfl | rfl | rfl <;> rfl
  | number h =>
    obtain ⟨n, hscan⟩ := Json.scan_isNumber h hrest
    exact run_of_scan hscan (hs _ _ rfl)
  | string h =>
    obtain ⟨text, hscan⟩ := Json.scan_isString h rest
    exact run_of_scan hscan (hs _ _ rfl)
  | @array items space _ hspace ih =>
    have hopen : step s .openBracket = .ok (.skipped g (.bracket :: stack) (.items .first)) :=
      hs _ _ rfl
    have hitems : Through (between g .bracket stack) () items () :=
      .of_forall fun item hitem due rest hdue hrest => ih item hitem (awaits_item hdue) hrest
    rw [Json.enclosed_append, run_cons rfl hopen]
    exact (listing_between .bracket).run hitems hspace rfl (Json.ends_cons (by decide))
  | @object members space hnames _ hspace ih =>
    have hopen : step s .openBrace = .ok (.skipped g (.brace :: stack) (.items .first)) :=
      hs _ _ rfl
    have hitems : Through (between g .brace stack) ()
        (members.map fun m => m.1 ++ ':' :: m.2) () := by
      refine .of_forall fun item hitem due rest hdue hrest => ?_
      obtain ⟨m, hm, rfl⟩ := List.mem_map.mp hitem
      rw [List.append_assoc, List.cons_append, run_skippedName (hnames m hm) hdue]
      exact ih m hm (awaits_member .brace) hrest
    rw [Json.enclosed_append, run_cons rfl hopen]
    exact (listing_between .brace).run hitems hspace rfl (Json.ends_cons (by decide))
  | spaced hbefore _ hafter ih =>
    rw [List.append_assoc, List.append_assoc, run_space hbefore, ih hs (hrest.space hafter),
      run_space hafter]

/-! ## 6. Members of the object -/

variable {c : Config}

theorem word?_ofNat (n : UInt64) : word? { whole := Text.ofNat n.toNat } = some n := by
  have hnat : Json.Numeral.toNat? { whole := Text.ofNat n.toNat } = some n.toNat := by
    simp [Json.Numeral.toNat?, Text.toNat?_ofNat]
  rw [word?, hnat, Option.bind_some, if_pos n.toNat_lt, UInt64.ofNat_toNat]

/-- Between the texts of the list of subscriptions. -/
theorem listing_texts (form : Form) (g : Given) : Listing (fun due sofar => .texts form g sofar due)
    .closeBracket fun sofar => .fields form { g with defaultFilters := some sofar } .separator where
  comma _ := rfl
  close due _ hdue := by cases due <;> first | rfl | exact absurd rfl hdue

theorem through_texts {texts items : List Text}
    (h : List.Forall₂ (fun text item => Spaced (Quotes text) item) texts items) (form : Form)
    (g : Given) (sofar : List Text) :
    Through (fun due sofar => .texts form g sofar due) sofar items (sofar ++ texts) := by
  induction h generalizing sofar with
  | nil => simpa using Through.nil sofar
  | @cons text item texts items hitem _ ih =>
    refine .cons (b := sofar ++ [text]) (fun due rest hdue hrest => ?_)
      (by simpa using ih (sofar ++ [text]))
    refine run_spaced hitem hrest fun core later hcore _ => run_quotes hcore ?_ later
    cases due <;> first | rfl | exact absurd rfl hdue

/-- **The value of a field is read as that of the configuration.** -/
theorem run_writesValue {f : Field} (h : c.WritesValue f t) (hrest : Ends rest) :
    run (.value g (some f)) (t ++ rest) = run (.fields .object (g.add c f) .separator) rest := by
  cases f with
  | dataDir => exact run_quotes h rfl rest
  | freshnessSecs =>
    obtain rfl : t = _ := h
    refine run_of_scan (Json.scan_ofNat _ hrest) ?_
    simp only [step, fieldValue, word?_ofNat, Given.add]
  | defaultFilters =>
    obtain ⟨items, space, hspace, rfl, hitems⟩ := h
    have hopen : step (.value g (some .defaultFilters)) .openBracket =
        .ok (.texts .object g [] .first) := rfl
    rw [Json.enclosed_append, run_cons rfl hopen]
    exact (listing_texts .object g).run (through_texts hitems .object g []) hspace rfl
      (Json.ends_cons (by decide))
  | maxLineLen =>
    obtain rfl : t = _ := h
    refine run_of_scan (Json.scan_ofNat _ hrest) ?_
    simp only [step, fieldValue, word?_ofNat, Given.add]

/-- A name in the object, unless its field was given. -/
theorem run_name {label : Text} {due : Due} (h : Spaced (Quotes label) t) (hdue : due ≠ .separator)
    (hnew : ∀ f ∈ Field.ofName? label, g.has f = false) (rest : Text) :
    run (.fields .object g due) (t ++ ':' :: rest) = run (.value g (Field.ofName? label)) rest := by
  have hstep : step (.fields .object g due) (.string (some label)) =
      .ok (.colon g (Field.ofName? label)) := by
    have hany : (Field.ofName? label).any g.has = false := by
      cases hfield : Field.ofName? label with
      | none => rfl
      | some f => exact hnew f hfield
    cases due <;> simp_all [step, objectField]
  have hcolon : step (.colon g (Field.ofName? label)) .colon =
      .ok (.value g (Field.ofName? label)) := by simp [step]
  rw [run_spaced h (Json.ends_cons (by decide)) fun core later hcore _ =>
    run_quotes hcore hstep later, run_cons rfl hcolon]

/-- **A member of the object gives its field**, if it is for one that was not given before. -/
theorem run_member {field : Option Field} {due : Due} (h : Member c field t)
    (hdue : due ≠ .separator) (hnew : ∀ f ∈ field, g.has f = false) (hrest : Ends rest) :
    run (.fields .object g due) (t ++ rest) =
      run (.fields .object (field.toList.foldl (Given.add c) g) .separator) rest := by
  cases h with
  | @known f name value hname hvalue =>
    rw [List.append_assoc, List.cons_append, run_name hname hdue (by rwa [ofName?_name]),
      ofName?_name]
    exact run_spaced hvalue hrest fun core later hcore hlater => run_writesValue hcore hlater
  | @unknown label name value hlabel hname hvalue =>
    have hnone := ofName?_eq_none hlabel
    rw [List.append_assoc, List.cons_append, run_name hname hdue (by simp [hnone]), hnone]
    exact run_value hvalue awaits_value hrest

/-- Between the members of the object. -/
theorem listing_fields :
    Listing (fun due g => .fields .object g due) .closeBrace fun g => .done g where
  comma _ := rfl
  close due _ hdue := by cases due <;> first | rfl | exact absurd rfl hdue

theorem through_fields {members : List (Option Field × Text)}
    (h : ∀ m ∈ members, Member c m.1 m.2) (hnodup : (members.filterMap Prod.fst).Nodup)
    (hnew : ∀ f ∈ members.filterMap Prod.fst, g.has f = false) :
    Through (fun due g => .fields .object g due) g (members.map Prod.snd)
      ((members.filterMap Prod.fst).foldl (Given.add c) g) := by
  induction members generalizing g with
  | nil => exact .nil g
  | cons m members ih =>
    obtain ⟨field, t⟩ := m
    have hrest := fun m hm => h m (List.mem_cons_of_mem _ hm)
    have hmember := h _ List.mem_cons_self
    cases field with
    | none =>
      refine .cons (fun due rest hdue hends => ?_) (ih hrest hnodup hnew)
      exact run_member hmember hdue (by simp) hends
    | some f =>
      obtain ⟨hf, hnodup⟩ := List.nodup_cons.mp hnodup
      refine .cons (b := g.add c f) (fun due rest hdue hends => ?_) (ih hrest hnodup ?_)
      · exact run_member hmember hdue (by simpa using hnew f List.mem_cons_self) hends
      · -- what is still to come is no field that was just given
        intro f' hf'
        rw [Given.has_add (by rintro rfl; exact hf hf')]
        exact hnew f' (List.mem_cons_of_mem _ hf')

/-- **An object gives the fields that it writes.** -/
theorem given_of_writes {fields : List Field} (h : c.Writes fields t) (hnodup : fields.Nodup) :
    given (Json.scan t) = .ok (fields.foldl (Given.add c) {}) := by
  obtain ⟨members, space, hmembers, rfl, hspace, hspaced⟩ := h
  have hthrough := through_fields hmembers hnodup (g := {}) fun f _ => by cases f <;> rfl
  have hrun : run .start (t ++ []) =
      run (.done ((members.filterMap Prod.fst).foldl (Given.add c) {})) [] := by
    refine run_spaced hspaced Json.ends_nil fun core later hcore _ => ?_
    subst hcore
    have hopen : step .start .openBrace = .ok (.fields .object {} .first) := rfl
    rw [Json.enclosed_append, run_cons rfl hopen]
    exact listing_fields.run hthrough hspace rfl (Json.ends_cons (by decide))
  rw [List.append_nil] at hrun
  rw [given, ← run, hrun]
  rfl

end Reader

/-! ## 7. Files -/

/-- **A text is read as the fields that it writes**, with the others as they are without it. -/
theorem read_of_writes {c : Config} {fields : List Field} {t : Text} (h : c.Writes fields t)
    (hnodup : fields.Nodup) (rest : Config) : read rest t = .ok (c.choose fields rest) := by
  have hrest : Given.onto {} rest = rest := rfl
  rw [read, Reader.given_of_writes h hnodup, Except.map, Given.onto_foldl_add, hrest]

theorem ofFile_of_writes {c : Config} {files : FileTree} {path : Path} {fields : List Field}
    {t : Text} (hread : files.read path = .ok t.toBytes) (h : c.Writes fields t)
    (hnodup : fields.Nodup) (rest : Config) :
    ofFile rest files path = .ok (c.choose fields rest) := by
  have htext : files.readText path = .ok t := by
    rw [FileTree.readText, hread]
    simp [Text.ofBytes?_toBytes]
  rw [ofFile, htext]
  simp only [read_of_writes h hnodup]

/-- **Configurations are read from files as they were written to them.** A file with the written
    form of a configuration reads as it, whatever the defaults are. A file with an object that
    writes some of its fields, each once, in any order, in any spelling, and with any others that
    are unknown, reads as these fields, with the defaults for those that it leaves out. -/
theorem ofFile_of_written (c rest : Config) (path : Path) :
    (∀ (files next : FileTree) (now : Nat), files.write now path c.toJson.toBytes = .ok next →
      ofFile rest next path = .ok c) ∧
    ∀ (files : FileTree) (fields : List Field) (t : Text), files.read path = .ok t.toBytes →
      c.Writes fields t → fields.Nodup → ofFile rest files path = .ok (c.choose fields rest) := by
  refine ⟨fun files next now h => ?_, fun files fields t hread h hnodup =>
    ofFile_of_writes hread h hnodup rest⟩
  rw [ofFile_of_writes (FileTree.read_of_write h) c.writes_toJson (by decide) rest, choose_all]

/-- A configuration with texts that need escapes and a number of 64 bits. -/
def awkward : Config where
  dataDir := [Char.ofNat 0x1F600, '/']
  freshnessSecs := 0
  defaultFilters := ["a\"\n".toList, []]
  maxLineLen := 18446744073709551615

/-- The second file has two fields out of order, one of them and its name with escapes of their own,
    and a field between them that is unknown and has values in it. -/
theorem ofFile_of_written_awkward : ∃ written edited : FileTree,
    FileTree.write {} 0 "/c".toList awkward.toJson.toBytes = .ok written ∧
    ofFile (standard []) written "/c".toList = .ok awkward ∧
    FileTree.write {} 0 "/c".toList (Text.toBytes (enclosed '{' '}'
      ["\"max_line_len\": 18446744073709551615".toList,
        " \"x\" :[1.5e+3, \x7b\"\\ud800\":null\x7d]".toList,
        "\"\\u0064ata_dir\":\"\\ud83d\\uDE00\\/\" ".toList] [] ++ ['\n'])) = .ok edited ∧
    ofFile (standard []) edited "/c".toList = .ok { standard [] with
      dataDir := awkward.dataDir, maxLineLen := awkward.maxLineLen } := by
  have hnothing := Json.isSpace_nil
  have hblank : IsSpace [' '] := by simp [IsSpace]
  have hbreak : IsSpace ['\n'] := by simp [IsSpace]
  have hmaxLine : Member awkward (some .maxLineLen)
      ("\"max_line_len\"".toList ++ ':' :: " 18446744073709551615".toList) :=
    .known (Spaced.of (Json.quotes_quote _)) ⟨[' '], _, [], hblank, rfl, hnothing, rfl⟩
  -- the field that is unknown
  have hdigit : ∀ c : Char, c.isDigit = true → Json.IsDigits [c] := fun c hc =>
    ⟨List.cons_ne_nil _ _, List.forall_mem_singleton.mpr hc⟩
  have hnumber : IsValue "1.5e+3".toList := .number ⟨[], ['1'], ['.', '5'], ['e', '+', '3'],
    .inl rfl, ⟨hdigit '1' rfl, by decide⟩, .inr ⟨['5'], hdigit '5' rfl, rfl⟩,
    .inr ⟨'e', ['+'], ['3'], .inl rfl, .inr (.inl rfl), hdigit '3' rfl, rfl⟩, rfl⟩
  have hhalf : Json.IsUnit "d800".toList 0xD800 := ⟨rfl, rfl⟩
  have hobject : IsValue "\x7b\"\\ud800\":null\x7d".toList := by
    refine @IsValue.object [("\"\\ud800\"".toList, "null".toList)] [] ?_ ?_ hnothing
    · rintro m (_ | ⟨_, ⟨⟩⟩)
      exact Spaced.of ⟨_, .unit hhalf .nil, rfl⟩
    · rintro m (_ | ⟨_, ⟨⟩⟩)
      exact .word (by decide)
  have harray : IsValue "[1.5e+3, \x7b\"\\ud800\":null\x7d]".toList := by
    refine @IsValue.array ["1.5e+3".toList, " \x7b\"\\ud800\":null\x7d".toList] [] ?_ hnothing
    rintro t (_ | ⟨_, (_ | ⟨_, ⟨⟩⟩)⟩)
    · exact hnumber
    · exact .spaced hblank hobject hnothing
  have hunknown : Member awkward none
      (" \"x\" ".toList ++ ':' :: "[1.5e+3, \x7b\"\\ud800\":null\x7d]".toList) :=
    @Member.unknown _ "x".toList _ _ (by intro f; cases f <;> decide)
      ⟨[' '], _, [' '], hblank, Json.quotes_quote _, hblank, rfl⟩ harray
  -- the directory
  have hletter : Json.IsUnit "0064".toList 'd'.toNat := ⟨rfl, rfl⟩
  have hhigh : Json.IsUnit "d83d".toList 0xD83D := ⟨rfl, rfl⟩
  have hlow : Json.IsUnit "DE00".toList 0xDE00 := ⟨rfl, rfl⟩
  have hname : Quotes Field.dataDir.name "\"\\u0064ata_dir\"".toList :=
    ⟨_, .unit hletter (Json.spells_escape "ata_dir".toList), rfl⟩
  have hdir : Quotes awkward.dataDir "\"\\ud83d\\uDE00\\/\"".toList :=
    ⟨_, .pair hhigh hlow (by decide) (by decide) (by decide) (.short (by decide) .nil), rfl⟩
  have hdataDir : Member awkward (some .dataDir)
      ("\"\\u0064ata_dir\"".toList ++ ':' :: "\"\\ud83d\\uDE00\\/\" ".toList) :=
    .known (Spaced.of hname) ⟨[], _, [' '], hnothing, hdir, hblank, rfl⟩
  have hwrite : ∀ content, ∃ files, FileTree.write {} 0 "/c".toList content = .ok files :=
    fun _ => ⟨_, rfl⟩
  obtain ⟨written, hwritten⟩ := hwrite awkward.toJson.toBytes
  obtain ⟨edited, hedited⟩ := hwrite _
  obtain ⟨hfull, hpart⟩ := ofFile_of_written awkward (standard []) "/c".toList
  refine ⟨written, edited, hwritten, hfull _ _ _ hwritten, hedited,
    hpart _ [.maxLineLen, .dataDir] _ (FileTree.read_of_write hedited) ?_ (by decide)⟩
  refine ⟨[(some .maxLineLen, "\"max_line_len\": 18446744073709551615".toList),
    (none, " \"x\" :[1.5e+3, \x7b\"\\ud800\":null\x7d]".toList),
    (some .dataDir, "\"\\u0064ata_dir\":\"\\ud83d\\uDE00\\/\" ".toList)], [], ?_, rfl, hnothing,
    [], _, ['\n'], hnothing, rfl, hbreak, rfl⟩
  rintro m (_ | ⟨_, (_ | ⟨_, (_ | ⟨_, ⟨⟩⟩)⟩)⟩)
  · exact hmaxLine
  · exact hunknown
  · exact hdataDir

end Config

end RequestFilter
