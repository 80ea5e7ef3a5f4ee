import Mathlib.Data.List.Basic
import RequestFilter.Cli.Lists

/-!
# Lists that are split over files

A filter list may be kept in one file or in several, as long as it is split at the end of a line:
what is compiled is the same. No byte counts for this, well-formed or not.

* `Utf8.Progress.Sound`: a sequence under way is due bytes past ASCII only;
  `Utf8.exists_decode_newline`: **a newline byte ends whatever is under way**, and is a newline;
* `Text.lines_append_newline`: so it is for lines;
* `Text.linesOf`: the lines of a file, `linesOf_append`, `linesOf_flatten`: **split at the end of
  lines, the lines of the files are those of the whole**;
* `Cli.CompiledLists.addLine`: one line with its counters; `result_addFiles`: files are no more than
  their lines;
* `split_compiles_alike`: **several files compile to what their contents in one file compile to**.

NOT here: what is printed and reported on the way, which is about files and numbers of lines.
-/

namespace RequestFilter

namespace Utf8

/-! ## 1. Bytes -/

/-- The bytes that a first byte announces are past ASCII. -/
def Lead.Sound : Lead → Prop
  | .sequence _ due => ∀ bounds ∈ due, 0x80 ≤ bounds.1
  | _ => True

theorem sound_ofByte (b : Nat) : (Lead.ofByte b).Sound := by
  unfold Lead.ofByte
  repeat' split
  all_goals simp [Lead.Sound, tail]

/-- The bytes that are due are past ASCII. -/
def Progress.Sound (p : Progress) : Prop := ∀ bounds ∈ p.due, 0x80 ≤ bounds.1

theorem sound_start : Progress.Sound {} := by simp [Progress.Sound]

theorem sound_begin (b : Nat) : (begin b).2.Sound := by
  have hlead := sound_ofByte b
  unfold begin
  cases h : Lead.ofByte b with
  | sequence bits due =>
    rw [h] at hlead
    exact hlead
  | _ => exact sound_start

theorem Progress.Sound.step {p : Progress} (h : p.Sound) (b : Nat) : (step p b).2.Sound := by
  unfold Utf8.step
  split
  · exact sound_begin b
  · rename_i low high due hdue
    split
    · simp only
      split
      · exact sound_start
      · intro bounds hbounds
        exact h bounds (hdue ▸ List.mem_cons_of_mem _ hbounds)
    · exact sound_begin b

/-- **A newline ends whatever is under way.** The bytes in front of it give some characters and
    gaps, and those behind it are read from the beginning. -/
theorem exists_decode_newline (bytes : Bytes) {p : Progress} (h : p.Sound) :
    ∃ out, ∀ rest, decodeFrom p (bytes ++ 0x0A :: rest) = out ++ some '\n' :: decode rest := by
  induction bytes generalizing p with
  | nil =>
    cases hdue : p.due with
    | nil => exact ⟨[], fun rest => by simp [decodeFrom, step, hdue, begin, Lead.ofByte, decode]⟩
    | cons bounds due =>
      have hlow : 0x80 ≤ bounds.1 := h bounds (hdue ▸ List.mem_cons_self)
      have hcut : ¬ (bounds.1 ≤ 10 ∧ 10 ≤ bounds.2) := by omega
      refine ⟨[none], fun rest => ?_⟩
      simp [decodeFrom, step, hdue, begin, Lead.ofByte, decode, hcut]
  | cons b bytes ih =>
    obtain ⟨out, hout⟩ := ih (h.step b.toNat)
    exact ⟨(step p b.toNat).1 ++ out, fun rest => by
      rw [List.cons_append, decodeFrom_cons, hout, List.append_assoc]⟩

end Utf8

namespace Text

/-! ## 2. Lines -/

/-- A carriage return right before a newline does not count. -/
theorem lines_crlf (t : Text) : lines ('\r' :: '\n' :: t) = lines ('\n' :: t) := rfl

/-- A character that ends no line is put in front of the first one. -/
theorem lines_cons {c : Char} {t : Text} (hc : c ≠ '\n')
    (ht : ¬ (c = '\r' ∧ t.head? = some '\n')) :
    lines (c :: t) = match lines t with
      | [] => [[c]]
      | line :: more => (c :: line) :: more := by
  refine lines.eq_4 c t hc ?_
  rintro rest rfl rfl
  exact ht ⟨rfl, rfl⟩

theorem lines_ne_nil {t : Text} (h : t ≠ []) : lines t ≠ [] := by
  unfold lines
  split
  · exact absurd rfl h
  · exact List.cons_ne_nil _ _
  · exact List.cons_ne_nil _ _
  · split <;> exact List.cons_ne_nil _ _

/-- **A newline ends the line**, and lines are read from the beginning behind it. -/
theorem lines_append_newline (t rest : Text) :
    lines (t ++ '\n' :: rest) = lines (t ++ ['\n']) ++ lines rest := by
  induction t with
  | nil => rfl
  | cons c t ih =>
    by_cases hc : c = '\n'
    · subst hc
      exact congrArg (List.cons []) ih
    have hhead : (t ++ '\n' :: rest).head? = (t ++ ['\n']).head? := by cases t <;> rfl
    by_cases ht : c = '\r' ∧ (t ++ ['\n']).head? = some '\n'
    · -- the newline may be the first character of `t` or the one behind it
      obtain ⟨rfl, hnewline⟩ := ht
      obtain ⟨more, hmore⟩ := List.head?_eq_some_iff.mp hnewline
      obtain ⟨others, hothers⟩ := List.head?_eq_some_iff.mp (hhead.trans hnewline)
      rw [List.cons_append, List.cons_append, hmore, hothers, lines_crlf, lines_crlf, ← hmore,
        ← hothers]
      exact ih
    · rw [List.cons_append, List.cons_append, lines_cons hc ht, lines_cons hc (hhead ▸ ht), ih]
      cases hfirst : lines (t ++ ['\n']) with
      | nil => exact absurd hfirst (lines_ne_nil (by simp))
      | cons line more => rfl

/-- The lines of a file. -/
def linesOf (content : Bytes) : List Text := lines (ofBytesLossy content)

/-- The content of a file ends with a line, or is empty. -/
def EndsLine (content : Bytes) : Prop := content = [] ∨ content.getLast? = some 0x0A

/-- **Behind the end of a line the lines of a file are those of a file of their own.** -/
theorem linesOf_append {content : Bytes} (h : EndsLine content) (rest : Bytes) :
    linesOf (content ++ rest) = linesOf content ++ linesOf rest := by
  rcases h with rfl | h
  · rfl
  · obtain ⟨front, rfl⟩ := List.getLast?_eq_some_iff.mp h
    obtain ⟨out, hout⟩ := Utf8.exists_decode_newline front Utf8.sound_start
    have hlossy : ∀ rest, ofBytesLossy (front ++ 0x0A :: rest) =
        out.map (·.getD '\uFFFD') ++ '\n' :: ofBytesLossy rest := by
      intro rest
      rw [ofBytesLossy, Utf8.decode, hout, List.map_append]
      rfl
    rw [linesOf, linesOf, linesOf, List.append_assoc, List.singleton_append, hlossy, hlossy]
    exact lines_append_newline _ _

theorem linesOf_flatten {contents : List Bytes}
    (h : ∀ content ∈ contents.dropLast, EndsLine content) :
    linesOf contents.flatten = contents.flatMap linesOf := by
  induction contents with
  | nil => rfl
  | cons content contents ih =>
    cases contents with
    | nil => simp
    | cons next contents =>
      rw [List.dropLast_cons_of_ne_nil (List.cons_ne_nil _ _)] at h
      rw [List.flatten_cons, linesOf_append (h _ List.mem_cons_self),
        ih fun content hcontent => h content (List.mem_cons_of_mem _ hcontent)]
      rfl

end Text

/-! ## 3. Loads -/

namespace LoadStats

theorem merge_assoc (l m n : LoadStats) : (l.merge m).merge n = l.merge (m.merge n) := by
  simp only [merge, Nat.add_assoc]

end LoadStats

/-- The number of a line matters to what is reported, and to nothing else. -/
theorem RuleSet.addLine_number (s : RuleSet) (maxLine : Nat) (line : Text) (m n : Nat) :
    (s.addLine maxLine m line).rules = (s.addLine maxLine n line).rules ∧
      (s.addLine maxLine m line).result = (s.addLine maxLine n line).result := by
  unfold addLine
  split
  · exact ⟨rfl, rfl⟩
  · cases LineKind.classify line with
    | rule r =>
      simp only [addRule]
      cases r.compile with
      | error e => cases e <;> exact ⟨rfl, rfl⟩
      | ok c => exact ⟨rfl, rfl⟩
    | _ => exact ⟨rfl, rfl⟩

namespace Cli

namespace CompiledLists

/-- Takes in one line and counts it. -/
def addLine (maxLine : Nat) (c : CompiledLists) (line : Text) : CompiledLists :=
  let added := c.rules.addLine maxLine 1 (Text.trimEnd line)
  ⟨added.rules, c.stats.merge added.result.stats⟩

theorem foldl_addLine (maxLine number : Nat) (c : CompiledLists) (lines : List Text) :
    lines.foldl (addLine maxLine) c =
      ⟨(RuleSet.loadLines maxLine number c.rules lines).rules,
        c.stats.merge (RuleSet.loadLines maxLine number c.rules lines).result⟩ := by
  induction lines generalizing number c with
  | nil => rfl
  | cons line lines ih =>
    obtain ⟨hrules, hresult⟩ := c.rules.addLine_number maxLine (Text.trimEnd line) number 1
    rw [List.foldl_cons, ih (number + 1)]
    simp only [RuleSet.loadLines, addLine, hrules, hresult, LoadStats.merge_assoc]

/-- A file is no more than its lines. -/
theorem addFile_eq (c : CompiledLists) (maxLine : Nat) (path : Path) (content : Bytes) :
    (c.addFile maxLine path content).1 = (Text.linesOf content).foldl (addLine maxLine) c :=
  (foldl_addLine maxLine 1 c (Text.linesOf content)).symm

/-- **Files that can be read are no more than their lines.** -/
theorem result_addFiles {files : FileTree} {parts : List (Path × Bytes)}
    (h : ∀ part ∈ parts, files.read part.1 = .ok part.2) (maxLine number : Nat)
    (c : CompiledLists) :
    (addFiles files maxLine number c (parts.map (·.1))).result =
      .ok (((parts.map (·.2)).flatMap Text.linesOf).foldl (addLine maxLine) c) := by
  induction parts generalizing number c with
  | nil => rfl
  | cons part parts ih =>
    have hrest := ih fun part hpart => h part (List.mem_cons_of_mem _ hpart)
    rw [List.map_cons, List.map_cons, List.flatMap_cons, List.foldl_append,
      ← addFile_eq c maxLine part.1]
    simp only [addFiles, h part List.mem_cons_self]
    exact hrest _ _

/-! ## 4. Splitting -/

/-- **Several files compile to what their contents in one file compile to**, if each but the last is
    empty or ends with a line: to the same rules in the same places, the same selectors and the same
    counters. -/
theorem split_compiles_alike {files files' : FileTree} {parts : List (Path × Bytes)} {path : Path}
    (maxLine : Nat) (hparts : parts ≠ [])
    (hreads : ∀ part ∈ parts, files.read part.1 = .ok part.2)
    (hends : ∀ part ∈ parts.dropLast, part.2 = [] ∨ part.2.getLast? = some 0x0A)
    (hwhole : files'.read path = .ok (parts.map (·.2)).flatten) :
    ∃ c, (ofFiles files maxLine (parts.map (·.1))).result = .ok c ∧
      (ofFiles files' maxLine [path]).result = .ok c := by
  have hlines : Text.linesOf (parts.map (·.2)).flatten =
      (parts.map (·.2)).flatMap Text.linesOf := by
    refine Text.linesOf_flatten fun content hcontent => ?_
    rw [← List.map_dropLast] at hcontent
    obtain ⟨part, hpart, rfl⟩ := List.mem_map.mp hcontent
    exact hends part hpart
  have hread : ∀ part ∈ [(path, (parts.map (·.2)).flatten)], files'.read part.1 = .ok part.2 := by
    simpa using hwhole
  have hseveral := result_addFiles hreads maxLine 0 {}
  have hone := result_addFiles hread maxLine 0 {}
  rw [← hlines] at hseveral
  refine ⟨(Text.linesOf (parts.map (·.2)).flatten).foldl (addLine maxLine) {}, ?_, ?_⟩
  · rw [ofFiles, if_neg (by simpa using hparts)]
    exact hseveral
  · simpa [ofFiles] using hone

/-- A file with both kinds of line ends, the last line of which breaks off in the middle of a
    character; an empty file; and one that starts with a byte that no character has. -/
def brokenParts : List (Path × Bytes) :=
  [("/a".toList, Text.toBytes "||ads^\r\nimg".toList ++ [0xE2, 0x82, 0x0A]), ("/b".toList, []),
   ("/c".toList, 0xFF :: Text.toBytes "##.ad".toList)]

/-- The three of them, and their contents in one file. -/
def brokenFiles : FileTree where
  entries := Std.TreeMap.ofList
    ((brokenParts.map fun part => ([part.1.drop 1], Entry.file part.2 0)) ++
      [(["w".toList], Entry.file (brokenParts.map (·.2)).flatten 0)])

/-- The three files compile to three lines, as the one does. -/
theorem split_compiles_alike_broken :
    ∃ c, (ofFiles brokenFiles 2000 ["/a".toList, "/b".toList, "/c".toList]).result = .ok c ∧
      (ofFiles brokenFiles 2000 ["/w".toList]).result = .ok c ∧
      c.stats = { lines := 3, rules := 2, hiderAccepted := 1 } := by
  have hreads : ∀ part ∈ brokenParts, brokenFiles.read part.1 = .ok part.2 := by decide +kernel
  have hread : brokenFiles.read "/w".toList = .ok (brokenParts.map (·.2)).flatten := by
    decide +kernel
  obtain ⟨c, hparts, hwhole⟩ :=
    split_compiles_alike 2000 (by decide) hreads (by decide +kernel) hread
  have hstats : (ofFiles brokenFiles 2000 ["/w".toList]).result.toOption.map (·.stats) =
      some { lines := 3, rules := 2, hiderAccepted := 1 } := by decide +kernel
  rw [hwhole] at hstats
  exact ⟨c, hparts, hwhole, Option.some.inj hstats⟩

end CompiledLists

end Cli

end RequestFilter
