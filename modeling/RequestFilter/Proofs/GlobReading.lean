import RequestFilter.Rule
import RequestFilter.Proofs.Transliteration

/-!
# Reading a transliterated glob

Some signs of a regular expression vanish from a glob, and one is written so that it stands for
itself. A glob without the others becomes a regular expression that the reader takes in item by
item, one item per character that is left.

* `Quiet`: no character of the glob is a sign that would be read as one; `SignFree`: no character is
  a sign at all, where `*` is not counted as one;
* `visible`: the characters of a glob that leave something behind; `visible_of_signFree`: in a glob
  without signs, all of them;
* `meaning`: the expression a character of such a glob stands for -- a star skips characters of one
  line, a dot is any character of a line, and everything else is itself;
* `parse?_quiet`, `parse?_quiet_anchored`: **the transliterated glob is read as the sequence of these
  meanings**, behind the start of the text where it is anchored; `parse?_glob`, `parse?_anchored`:
  so it is character by character where there are no signs.
-/

namespace RequestFilter

namespace Glob

/-! ## 1. Globs without signs -/

/-- No character of the glob is a sign of a regular expression. -/
def SignFree (glob : Text) : Prop := ∀ c ∈ glob, Rule.isRegexSign c = false

theorem signFree_of_any {glob : Text} (h : glob.any Rule.isRegexSign = false) : SignFree glob :=
  fun c hc => by simpa using List.any_eq_false.mp h c hc

theorem SignFree.tail {c : Char} {glob : Text} (h : SignFree (c :: glob)) : SignFree glob :=
  fun d hd => h d (List.mem_cons_of_mem _ hd)

theorem SignFree.of_infix {s t : Text} (ht : SignFree t) (h : s <:+: t) : SignFree s :=
  fun c hc => ht c (h.subset hc)

/-- A sign is not in a glob without signs. -/
theorem SignFree.notMem {c : Char} {glob : Text} (h : SignFree glob)
    (hc : Rule.isRegexSign c = true) : c ∉ glob := fun hm => by
  rw [h c hm] at hc
  cases hc

theorem image_of_not_sign {c : Char} (h : Rule.isRegexSign c = false) (hc : c ≠ '*') :
    image c = [c] := by
  unfold image
  split
  · exact absurd rfl hc
  · exact absurd h (by decide)
  · exact absurd h (by decide)
  · exact absurd h (by decide)
  · exact absurd h (by decide)
  · rfl

/-- Without signs and stars everything is copied. -/
theorem SignFree.copied {t : Text} (h : SignFree t) (hstar : '*' ∉ t) : Copied t :=
  fun c hc => image_of_not_sign (h c hc) fun e => hstar (e ▸ hc)

/-- The image of a glob without signs has only the characters of the glob and dots. -/
theorem mem_flatMap_image {glob : Text} (h : SignFree glob) {c : Char}
    (hc : c ∈ glob.flatMap image) : c ∈ glob ∨ c = '.' := by
  obtain ⟨d, hd, hcd⟩ := List.mem_flatMap.mp hc
  by_cases hstar : d = '*'
  · subst hstar
    have : c = '.' ∨ c = '*' := by simpa [image] using hcd
    rcases this with rfl | rfl
    · exact Or.inr rfl
    · exact Or.inl hd
  · rw [image_of_not_sign (h d hd) hstar] at hcd
    exact Or.inl (List.mem_singleton.mp hcd ▸ hd)

/-- A sign of a regular expression that is copied from a glob. -/
def isLiveSign (c : Char) : Bool := "\\()[]\x7b\x7d$".toList.contains c

/-- No character of the glob is read as a sign of a regular expression. -/
def Quiet (glob : Text) : Prop := ∀ c ∈ glob, isLiveSign c = false

theorem Quiet.tail {c : Char} {glob : Text} (h : Quiet (c :: glob)) : Quiet glob :=
  fun d hd => h d (List.mem_cons_of_mem _ hd)

theorem SignFree.quiet {glob : Text} (h : SignFree glob) : Quiet glob := by
  intro c hc
  have hsign := h c hc
  simp only [Rule.isRegexSign, isLiveSign] at *
  simp_all

/-- A copied character of a quiet glob is no sign. -/
theorem not_sign_of_copied {c : Char} (h : isLiveSign c = false) (hcopied : image c = [c]) :
    Rule.isRegexSign c = false := by
  unfold image at hcopied
  split at hcopied
  · cases hcopied
  · cases hcopied
  · cases hcopied
  · cases hcopied
  · cases hcopied
  · simp only [Rule.isRegexSign, isLiveSign] at *
    simp_all

/-- The characters of a glob that leave something behind. -/
def visible (glob : Text) : Text := glob.filter fun c => !(image c).isEmpty

theorem visible_of_signFree {glob : Text} (h : SignFree glob) : visible glob = glob := by
  refine List.filter_eq_self.mpr fun c hc => ?_
  by_cases hstar : c = '*'
  · subst hstar
    rfl
  · rw [image_of_not_sign (h c hc) hstar]
    rfl

/-! ## 2. Meanings -/

/-- Any character of a line. -/
def anyChar : Regex := .chars (.complement (.single '\n'))

/-- The regular expression that a character of a glob without signs stands for. -/
def meaning : Char → Regex
  | '*' => .rep anyChar 0 none
  | '.' => anyChar
  | c => .chars (.single c)

theorem meaning_of_ne {c : Char} (hs : c ≠ '*') (hd : c ≠ '.') :
    meaning c = .chars (.single c) := by
  unfold meaning
  split
  · exact absurd rfl hs
  · exact absurd rfl hd
  · rfl

/-- The meaning of a character as the reader keeps it. -/
def piece (c : Char) : Parser.Piece := ⟨meaning c, if c = '*' then 1 else 0⟩

theorem piece_depth_le (c : Char) : (piece c).depth ≤ 1 := by
  unfold piece
  split <;> simp

end Glob

namespace Parser

open Glob

/-! ## 3. The walk -/

/-- The reader behind further items, the first of which was read first. -/
def State.pushAll (s : State) (pieces : List Piece) : State :=
  { s with branches := { s.branches with items := (pieces.map some).reverse ++ s.branches.items } }

theorem State.pushAll_cons (s : State) (p : Piece) (ps : List Piece) :
    (s.push (some p)).pushAll ps = s.pushAll (p :: ps) := by
  simp [pushAll, push]

/-- A step of the walk where blanks count. -/
theorem walk_cons {s next : State} {c : Char} {rest after : Text} (hs : s.mode = {})
    (h : step s c rest = some (next, after)) :
    walk 0 s (c :: rest) = walk (rest.length - after.length) next rest := by
  have hblanks : s.mode.skipBlanks (c :: rest) = c :: rest := by
    rw [hs]
    rfl
  have hlong : ¬ (c :: rest).length ≤ rest.length := by simp
  simp only [walk, hblanks, h, if_neg hlong]

theorem walk_cons_rest {s next : State} {c : Char} {rest : Text} (hs : s.mode = {})
    (h : step s c rest = some (next, rest)) : walk 0 s (c :: rest) = walk 0 next rest := by
  rw [walk_cons hs h, Nat.sub_self]

/-- A character that is no sign stands for itself. -/
theorem step_of_not_sign {s : State} {c : Char} (hs : s.mode = {})
    (h : Rule.isRegexSign c = false) (hstar : c ≠ '*') (hdot : c ≠ '.') (rest : Text) :
    step s c rest = some (s.push (some (piece c)), rest) := by
  have hpiece : piece c = ⟨.chars (.single c), 0⟩ := by
    rw [piece, meaning_of_ne hstar hdot, if_neg hstar]
  unfold step
  split
  · exact absurd h (by decide)
  · exact absurd h (by decide)
  · exact absurd h (by decide)
  · exact absurd h (by decide)
  · exact absurd h (by decide)
  · exact absurd rfl hstar
  · exact absurd h (by decide)
  · exact absurd h (by decide)
  · exact absurd h (by decide)
  · exact absurd rfl hdot
  · exact absurd h (by decide)
  · exact absurd h (by decide)
  · rw [hs, hpiece]
    rfl

theorem step_dot {s : State} (hs : s.mode = {}) (rest : Text) :
    step s '.' rest = some (s.push (some (piece '.')), rest) := by
  show (s.mode.anyChar?.map fun r => (s.pushRegex r, rest)) = _
  rw [hs]
  rfl

theorem dropLazy_of_head {t : Text} (h : t.head? ≠ some '?') : dropLazy t = t := by
  unfold dropLazy
  split
  · exact absurd rfl h
  · rfl

/-- A star behind a dot repeats it; what follows does not make the repetition lazy. -/
theorem step_star {s : State} {rest : Text} (hrest : rest.head? ≠ some '?') :
    step (s.push (some (piece '.'))) '*' rest = some (s.push (some (piece '*')), rest) := by
  show repeated? (s.push (some (piece '.'))) 0 none rest = _
  rw [repeated?, dropLazy_of_head hrest]
  rfl

/-- A question mark behind a backslash stands for itself. -/
theorem step_question {s : State} (hs : s.mode = {}) (rest : Text) :
    step s '\\' ('?' :: rest) = some (s.push (some (piece '?')), rest) := by
  show some (s.pushRegex (s.mode.literal '?'), rest) = _
  rw [hs]
  rfl

/-- **The walk over a transliterated glob takes in the meanings of its visible characters.** -/
theorem walk_glob {s : State} (hs : s.mode = {}) {glob : Text} (hg : Quiet glob) :
    walk 0 s (glob.flatMap image) = some (s.pushAll ((visible glob).map piece)) := by
  induction glob generalizing s with
  | nil => rfl
  | cons c rest ih =>
    rw [List.flatMap_cons]
    -- what vanishes is not there to be read; all else is one item
    by_cases hnil : image c = []
    · have hvisible : visible (c :: rest) = visible rest := by
        rw [visible, List.filter_cons_of_neg (by simp [hnil])]
        rfl
      rw [hnil, List.nil_append, hvisible]
      exact ih hs hg.tail
    have hvisible : visible (c :: rest) = c :: visible rest := by
      rw [visible, List.filter_cons_of_pos (by simpa using hnil)]
      rfl
    have hmode : (s.push (some (piece c))).mode = {} := hs
    have hrest := ih hmode hg.tail
    rw [State.pushAll_cons] at hrest
    rw [hvisible, List.map_cons]
    rcases image_forms c with rfl | rfl | hgone | ⟨hself, -⟩
    · show walk 0 s ('.' :: '*' :: rest.flatMap image) = _
      have hdot : (s.push (some (piece '.'))).mode = {} := hs
      have hlazy := head?_flatMap_image rest
      rw [walk_cons_rest hs (step_dot hs _), walk_cons_rest hdot (step_star hlazy)]
      exact hrest
    · show walk 0 s ('\\' :: '?' :: rest.flatMap image) = _
      rw [walk_cons hs (step_question hs _), List.length_cons, Nat.add_sub_cancel_left]
      exact hrest
    · exact absurd hgone hnil
    · have hsign := not_sign_of_copied (hg c List.mem_cons_self) hself
      have hstar : c ≠ '*' := fun hc => absurd (hc ▸ hself) (by decide)
      rw [hself, List.singleton_append]
      by_cases hdot : c = '.'
      · subst hdot
        rw [walk_cons_rest hs (step_dot hs _)]
        exact hrest
      · rw [walk_cons_rest hs (step_of_not_sign hs hsign hstar hdot _)]
        exact hrest

/-! ## 4. The whole expression -/

theorem maxDepth_le {n : Nat} {pieces : List Piece} (h : ∀ p ∈ pieces, p.depth ≤ n) :
    maxDepth pieces ≤ n := by
  have hfold : ∀ (ps : List Piece) (d : Nat), d ≤ n → (∀ p ∈ ps, p.depth ≤ n) →
      ps.foldl (fun d p => max d p.depth) d ≤ n := by
    intro ps
    induction ps with
    | nil => exact fun d hd _ => hd
    | cons p ps ih =>
      intro d hd hps
      refine ih _ ?_ fun q hq => hps q (List.mem_cons_of_mem _ hq)
      exact Nat.max_le.mpr ⟨hd, hps p List.mem_cons_self⟩
  exact hfold pieces 0 (Nat.zero_le n) h

/-- Items that are all there make a sequence. -/
theorem sequence_map_some (pieces : List Piece) : sequence (pieces.map some) =
    ⟨.concat (pieces.map (·.regex)), maxDepth pieces + if pieces.length ≤ 1 then 0 else 1⟩ := by
  have hid : (pieces.map some).filterMap id = pieces := by
    rw [List.filterMap_map]
    exact List.filterMap_some
  rw [sequence, hid, List.length_map]

/-- Items of a single alternative, outside all groups, are read as their sequence. -/
theorem close_pushAll (pieces : List Piece) :
    (({} : State).pushAll pieces).branches.close = sequence (pieces.map some) := by
  have hitems : (({} : State).pushAll pieces).branches.items.reverse = pieces.map some := by
    simp [State.pushAll]
  have hcomplete : (({} : State).pushAll pieces).branches.complete = [] := rfl
  rw [Branches.close, hitems, hcomplete]
  simp [Regex.alternation, maxDepth]

theorem depth_sequence_le {n : Nat} {pieces : List Piece} (h : ∀ p ∈ pieces, p.depth ≤ n) :
    (sequence (pieces.map some)).depth ≤ n + 1 := by
  have hmax := maxDepth_le h
  rw [sequence_map_some]
  simp only
  split <;> omega

end Parser

namespace Regex

open Glob

theorem parse?_of_walk {t : Text} {pieces : List Parser.Piece}
    (hwalk : Parser.walk 0 {} t = some (({} : Parser.State).pushAll pieces))
    (hdepth : ∀ p ∈ pieces, p.depth ≤ 1) : parse? t = some (.concat (pieces.map (·.regex))) := by
  have hdeep := Parser.depth_sequence_le hdepth
  have hlimit : (Parser.sequence (pieces.map some)).depth ≤ depthLimit := by
    unfold depthLimit
    omega
  have hgroups : (({} : Parser.State).pushAll pieces).groups = [] := rfl
  have hregex : (Parser.sequence (pieces.map some)).regex = .concat (pieces.map (·.regex)) := by
    rw [Parser.sequence_map_some]
  simp [parse?, hwalk, hgroups, hlimit, hregex, Parser.close_pushAll]

theorem depth_le_of_mem_map {glob : Text} : ∀ p ∈ glob.map piece, p.depth ≤ 1 := by
  intro p hp
  obtain ⟨c, -, rfl⟩ := List.mem_map.mp hp
  exact piece_depth_le c

theorem regex_map_piece (glob : Text) :
    (glob.map piece).map (·.regex) = glob.map meaning := by
  rw [List.map_map]
  rfl

/-- **A transliterated glob is read as the sequence of the meanings of its visible characters.** -/
theorem parse?_quiet {glob : Text} (h : Quiet glob) :
    parse? (glob.flatMap image) = some (.concat ((visible glob).map meaning)) := by
  rw [parse?_of_walk (Parser.walk_glob rfl h) depth_le_of_mem_map, regex_map_piece]

/-- **Behind an anchor it is read as that sequence at the start of the text.** -/
theorem parse?_quiet_anchored {glob : Text} (h : Quiet glob) :
    parse? ('^' :: glob.flatMap image) =
      some (.concat (.look .textStart :: (visible glob).map meaning)) := by
  have hwalk : Parser.walk 0 {} ('^' :: glob.flatMap image) =
      some (({} : Parser.State).pushAll (⟨.look .textStart, 0⟩ :: (visible glob).map piece)) := by
    rw [Parser.walk_cons_rest rfl rfl, Parser.walk_glob rfl h]
    exact congrArg some (Parser.State.pushAll_cons _ _ _)
  rw [parse?_of_walk hwalk, List.map_cons, regex_map_piece]
  intro p hp
  rcases List.mem_cons.mp hp with rfl | hp
  · exact Nat.zero_le 1
  · exact depth_le_of_mem_map p hp

/-- A glob without signs is read character by character. -/
theorem parse?_glob {glob : Text} (h : SignFree glob) :
    parse? (glob.flatMap image) = some (.concat (glob.map meaning)) := by
  rw [parse?_quiet h.quiet, visible_of_signFree h]

/-- So it is behind an anchor, at the start of the text. -/
theorem parse?_anchored {glob : Text} (h : SignFree glob) :
    parse? ('^' :: glob.flatMap image) = some (.concat (.look .textStart :: glob.map meaning)) := by
  rw [parse?_quiet_anchored h.quiet, visible_of_signFree h]

end Regex

end RequestFilter
