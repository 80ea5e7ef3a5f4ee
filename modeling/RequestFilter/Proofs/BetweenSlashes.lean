import RequestFilter.Proofs.Monotone
import RequestFilter.Proofs.SlashBehind

/-!
# An expression between slashes

A text that is read as a regular expression is read in the same way between two slashes, which are
one more item in front and one behind. So what matches with the slashes matches without them.

* `Plain`: a text without alternatives and without groups that change the mode;
* `State.behind`: the reader with one more piece in front of all that it read; `Calm`: it is in the
  initial mode and has no alternatives; `Steady`: a step that keeps both in view and passes over the
  slash behind the text; `steady_step`: **every step on a plain text is one**;
* `walk_behind`: so is the walk; `parse?_between`: **the expression between slashes is the sequence
  with a slash in front and behind**;
* `matchesIn_of_slashes`: **a plain text matches wherever it matches between slashes**.
-/

namespace RequestFilter

namespace Parser

/-! ## 1. States -/

/-- One more piece in front of an alternative. -/
def Branches.behind (b : Branches) (p : Piece) : Branches := { b with items := b.items ++ [some p] }

/-- One more piece in front of what stands around the outermost group. -/
def behindGroups (p : Piece) : List Group → List Group
  | [] => []
  | [g] => [{ g with outer := g.outer.behind p }]
  | g :: h :: groups => g :: behindGroups p (h :: groups)

/-- The reader with one more piece in front of all that it read. -/
def State.behind (s : State) (p : Piece) : State :=
  match s.groups with
  | [] => { s with branches := s.branches.behind p }
  | groups => { s with groups := behindGroups p groups }

/-- Neither the mode has changed nor has an alternative been completed, here or around the groups
    that are open. -/
structure Calm (s : State) : Prop where
  mode : s.mode = {}
  complete : s.branches.complete = []
  groups : ∀ g ∈ s.groups, g.mode = {} ∧ g.outer.complete = []

theorem calm_start : Calm {} where
  mode := rfl
  complete := rfl
  groups _ h := nomatch h

section State

variable {s s' : State} {p : Piece}

theorem mode_behind (s : State) (p : Piece) : (s.behind p).mode = s.mode := by
  obtain ⟨mode, branches, groups, names⟩ := s
  cases groups <;> rfl

theorem branches_behind (h : s.groups = []) (p : Piece) :
    (s.behind p).branches = s.branches.behind p := by
  obtain ⟨mode, branches, groups, names⟩ := s
  obtain rfl : groups = [] := h
  rfl

theorem behind_push (s : State) (p : Piece) (item : Option Piece) :
    (s.push item).behind p = (s.behind p).push item := by
  obtain ⟨mode, branches, groups, names⟩ := s
  cases groups <;> rfl

theorem behind_openGroup (s : State) (p : Piece) (mode : Mode) :
    (s.openGroup mode).behind p = (s.behind p).openGroup mode := by
  obtain ⟨mode, branches, groups, names⟩ := s
  cases groups <;> rfl

theorem behind_closeGroup (h : s.closeGroup? = some s') (p : Piece) :
    (s.behind p).closeGroup? = some (s'.behind p) := by
  obtain ⟨mode, branches, groups, names⟩ := s
  match groups with
  | [] => cases h
  | [g] =>
    obtain rfl := Option.some.inj h
    rfl
  | g :: g' :: groups =>
    obtain rfl := Option.some.inj h
    rfl

theorem behind_repeatLast {least : Nat} {most : Option Nat}
    (h : s.repeatLast? least most = some s') (p : Piece) :
    (s.behind p).repeatLast? least most = some (s'.behind p) := by
  obtain ⟨mode, ⟨complete, items⟩, groups, names⟩ := s
  match items with
  | [] => cases h
  | none :: items => cases h
  | some q :: items =>
    obtain rfl := Option.some.inj h
    cases groups <;> rfl

theorem Calm.push (h : Calm s) (item : Option Piece) : Calm (s.push item) :=
  ⟨h.mode, h.complete, h.groups⟩

theorem Calm.openGroup (h : Calm s) : Calm (s.openGroup s.mode) where
  mode := h.mode
  complete := rfl
  groups g hg := by
    rcases List.mem_cons.mp hg with rfl | hg
    · exact ⟨h.mode, h.complete⟩
    · exact h.groups g hg

theorem Calm.closeGroup (h : Calm s) (hclose : s.closeGroup? = some s') : Calm s' := by
  obtain ⟨mode, branches, groups, names⟩ := s
  cases groups with
  | nil => cases hclose
  | cons g groups =>
    obtain rfl := Option.some.inj hclose
    obtain ⟨hmode, hcomplete⟩ := h.groups g List.mem_cons_self
    exact ⟨hmode, hcomplete, fun g' hg' => h.groups g' (List.mem_cons_of_mem g hg')⟩

theorem Calm.repeatLast (h : Calm s) {least : Nat} {most : Option Nat}
    (hrepeat : s.repeatLast? least most = some s') : Calm s' := by
  obtain ⟨mode, ⟨complete, items⟩, groups, names⟩ := s
  match items with
  | [] => cases hrepeat
  | none :: items => cases hrepeat
  | some q :: items =>
    obtain rfl := Option.some.inj hrepeat
    exact ⟨h.mode, h.complete, h.groups⟩

end State

/-! ## 2. Steps -/

/-- A step on a text that keeps calm, and that is the same step behind one more piece and with a
    slash behind the text. -/
def Steady (f : State → Text → Option (State × Text)) (t : Text) : Prop :=
  ∀ s s' after, Calm s → f s t = some (s', after) → after <:+ t ∧ Calm s' ∧
    ∀ p, f (s.behind p) (t ++ ['/']) = some (s'.behind p, after ++ ['/'])

/-- A step that adds what a reader found. -/
theorem steady_push {α : Type} (read : Mode → Text → Option (α × Text)) (h : Undisturbed (read {}))
    (item : Mode → α → Option Piece) (t : Text) : Steady (fun s t =>
      (read s.mode t).map fun found => (s.push (item s.mode found.1), found.2)) t := by
  intro s s' after hs hread
  obtain ⟨⟨a, rest⟩, ha, heq⟩ := Option.map_eq_some_iff.mp hread
  obtain ⟨rfl, rfl⟩ := Prod.mk.inj heq
  rw [hs.mode] at ha
  obtain ⟨hafter, hslash⟩ := h t a rest ha
  refine ⟨hafter, hs.push _, fun p => ?_⟩
  simp only [mode_behind, hs.mode, hslash, Option.map_some, behind_push]

/-- A step that adds an item of the mode. -/
theorem steady_item (item : Mode → Option Piece) (t : Text) :
    Steady (fun s t => some (s.push (item s.mode), t)) t := by
  have hnone : Undisturbed fun t => (some ()).map (·, t) := .pure (some ())
  exact steady_push (fun _ t => (some ()).map (·, t)) hnone (fun mode _ => item mode) t

theorem steady_closeGroup (t : Text) : Steady (fun s t => s.closeGroup?.map (·, t)) t := by
  intro s s' after hs h
  obtain ⟨next, hclose, heq⟩ := Option.map_eq_some_iff.mp h
  obtain ⟨rfl, rfl⟩ := Prod.mk.inj heq
  refine ⟨List.suffix_refl t, hs.closeGroup hclose, fun p => ?_⟩
  simp only [behind_closeGroup hclose, Option.map_some]

/-- A slash behind the text starts no sign. -/
theorem head?_append_slash {t : Text} (h : t.head? ≠ some '?') :
    (t ++ ['/']).head? ≠ some '?' := by
  cases t with
  | nil => decide
  | cons c rest => exact h

theorem dropLazy_append_slash (t : Text) : dropLazy (t ++ ['/']) = dropLazy t ++ ['/'] := by
  by_cases h : t.head? = some '?'
  · obtain ⟨rest, rfl⟩ := List.head?_eq_some_iff.mp h
    rfl
  · rw [dropLazy_of_head h, dropLazy_of_head (head?_append_slash h)]

theorem suffix_dropLazy (t : Text) : dropLazy t <:+ t := by
  unfold dropLazy
  split
  · exact List.suffix_cons _ _
  · exact List.suffix_refl _

theorem steady_repeated (least : Nat) (most : Option Nat) (t : Text) :
    Steady (fun s t => repeated? s least most t) t := by
  intro s s' after hs h
  obtain ⟨next, hrepeat, heq⟩ := Option.map_eq_some_iff.mp h
  obtain ⟨rfl, rfl⟩ := Prod.mk.inj heq
  refine ⟨suffix_dropLazy t, hs.repeatLast hrepeat, fun p => ?_⟩
  simp only [repeated?, behind_repeatLast hrepeat, Option.map_some, dropLazy_append_slash]

theorem counted_eq (s : State) (rest : Text) : counted? s rest =
    (s.mode.untilBrace false rest).bind fun found => (bounds? found.1).bind fun bounds =>
      (s.repeatLast? bounds.1 bounds.2).map fun next =>
        (next, dropLazy (s.mode.skipBlanks found.2)) := by
  simp only [Option.map_eq_bind]
  rfl

theorem steady_counted (t : Text) : Steady counted? t := by
  intro s s' after hs h
  rw [counted_eq, hs.mode] at h
  obtain ⟨⟨content, rest⟩, hbrace, h⟩ := Option.bind_eq_some_iff.mp h
  obtain ⟨bounds, hbounds, h⟩ := Option.bind_eq_some_iff.mp h
  obtain ⟨next, hrepeat, heq⟩ := Option.map_eq_some_iff.mp h
  obtain ⟨rfl, rfl⟩ := Prod.mk.inj heq
  obtain ⟨hrest, hslash⟩ := Mode.undisturbed_untilBrace t content rest hbrace
  refine ⟨(suffix_dropLazy rest).trans hrest, hs.repeatLast hrepeat, fun p => ?_⟩
  rw [counted_eq, mode_behind, hs.mode, hslash, Option.bind_some, hbounds, Option.bind_some,
    behind_repeatLast hrepeat, Option.map_some]
  exact congrArg (fun t => some (next.behind p, t)) (dropLazy_append_slash rest)

/-- A group that does not start with a question mark leaves the mode alone. -/
theorem group_of_head {s : State} (hs : s.mode = {}) {t : Text} (h : t.head? ≠ some '?') :
    group? s t = some (s.openGroup s.mode, t) := by
  have hblanks : s.mode.skipBlanks t = t := by
    rw [hs]
    rfl
  cases t with
  | nil => simp [group?, hblanks, lookAround]
  | cons c rest =>
    have hc : c ≠ '?' := fun he => h (congrArg some he)
    unfold group?
    simp [hblanks, lookAround, hc, Ne.symm hc]

theorem steady_group {t : Text} (h : t.head? ≠ some '?') : Steady group? t := by
  intro s s' after hs hgroup
  rw [group_of_head hs.mode h] at hgroup
  obtain ⟨rfl, rfl⟩ := Prod.mk.inj (Option.some.inj hgroup)
  refine ⟨List.suffix_refl t, hs.openGroup, fun p => ?_⟩
  rw [group_of_head ((mode_behind s p).trans hs.mode) (head?_append_slash h), mode_behind,
    behind_openGroup]

/-- The item that an escape adds. -/
def escapeItem (mode : Mode) : Escape → Option Piece
  | .char c => some ⟨mode.literal c, 0⟩
  | .set set => some ⟨.chars set, 0⟩
  | .look condition => some ⟨.look condition, 0⟩

theorem steady_escape (t : Text) : Steady escape? t := by
  have heq : escape? = fun s t => (Escape.read? s.mode t).map fun found =>
      (s.push (escapeItem s.mode found.1), found.2) := by
    funext s t
    unfold escape?
    cases Escape.read? s.mode t with
    | none => rfl
    | some found =>
      obtain ⟨e, after⟩ := found
      cases e <;> rfl
  rw [heq]
  exact steady_push Escape.read? Escape.undisturbed_read escapeItem t

theorem steady_bracket (t : Text) : Steady bracket? t :=
  steady_push Bracket.read? Bracket.undisturbed_read (fun _ c => some ⟨.chars c.set, c.depth⟩) t

theorem steady_dot (t : Text) :
    Steady (fun s t => s.mode.anyChar?.map fun r => (s.pushRegex r, t)) t := by
  have hread : Undisturbed fun t => (({} : Mode).anyChar?).map (·, t) := .pure ({} : Mode).anyChar?
  have heq : (fun (s : State) (t : Text) => s.mode.anyChar?.map fun r => (s.pushRegex r, t)) =
      fun s t => (s.mode.anyChar?.map (·, t)).map fun found =>
        (s.push (some ⟨found.1, 0⟩), found.2) := by
    funext s t
    rw [Option.map_map]
    rfl
  rw [heq]
  exact steady_push (fun mode t => mode.anyChar?.map (·, t)) hread (fun _ r => some ⟨r, 0⟩) t

/-- **Every step on a plain text keeps calm and passes over the slash behind it.** -/
theorem steady_step {c : Char} {t : Text} (hbar : c ≠ '|')
    (hgroup : c = '(' → t.head? ≠ some '?') : Steady (fun s t => step s c t) t := by
  unfold step
  split
  · exact steady_group (hgroup rfl)
  · exact steady_closeGroup t
  · exact absurd rfl hbar
  · exact steady_bracket t
  · exact steady_repeated 0 (some 1) t
  · exact steady_repeated 0 none t
  · exact steady_repeated 1 none t
  · exact steady_counted t
  · exact steady_escape t
  · exact steady_dot t
  · exact steady_item (fun mode => some ⟨.look mode.lineStart, 0⟩) t
  · exact steady_item (fun mode => some ⟨.look mode.lineEnd, 0⟩) t
  · exact steady_item (fun mode => some ⟨mode.literal c, 0⟩) t

/-! ## 3. The walk -/

/-- No alternatives, and no group that starts with a question mark. -/
structure Plain (t : Text) : Prop where
  bar : '|' ∉ t
  question : ¬ ['(', '?'] <:+: t

theorem Plain.of_infix {s t : Text} (h : Plain t) (hs : s <:+: t) : Plain s where
  bar hm := h.bar (hs.subset hm)
  question hin := h.question (hin.trans hs)

theorem Plain.steady {c : Char} {t : Text} (h : Plain (c :: t)) :
    Steady (fun s t => step s c t) t := by
  refine steady_step (fun hc => h.bar (hc ▸ List.mem_cons_self)) fun hc hhead => ?_
  obtain ⟨rest, rfl⟩ := List.head?_eq_some_iff.mp hhead
  exact h.question (hc ▸ List.infix_append [] ['(', '?'] rest)

/-- A walk passes over what is used up. -/
theorem walk_append (s : State) (used after : Text) :
    walk used.length s (used ++ after) = walk 0 s after := by
  induction used with
  | nil => rfl
  | cons c used ih => exact ih

/-- Where blanks count a walk is a step and the walk over what the step leaves. -/
theorem walk_step {s : State} (hs : s.mode = {}) (c : Char) (rest : Text) :
    walk 0 s (c :: rest) = (step s c rest).bind fun found =>
      walk (rest.length - found.2.length) found.1 rest := by
  have hblanks : s.mode.skipBlanks (c :: rest) = c :: rest := by
    rw [hs]
    rfl
  have hlong : ¬ (c :: rest).length ≤ rest.length := by simp
  simp only [walk, hblanks, if_neg hlong]
  cases step s c rest <;> rfl

/-- **The walk over a plain text goes on with the slash behind it.** -/
theorem walk_behind {t : Text} (ht : Plain t) {s s' : State} (hs : Calm s)
    (h : walk 0 s t = some s') :
    Calm s' ∧ ∀ p, walk 0 (s.behind p) (t ++ ['/']) = walk 0 (s'.behind p) ['/'] := by
  induction hn : t.length using Nat.strongRecOn generalizing s t with
  | ind n ih =>
    cases t with
    | nil =>
      obtain rfl := Option.some.inj h
      exact ⟨hs, fun _ => rfl⟩
    | cons c rest =>
      rw [walk_step hs.mode] at h
      obtain ⟨⟨next, mid⟩, hstep, hwalk⟩ := Option.bind_eq_some_iff.mp h
      obtain ⟨hmid, hnext, hbehind⟩ := ht.steady s next mid hs hstep
      have hplain : Plain mid := ht.of_infix (hmid.trans (List.suffix_cons c rest)).isInfix
      obtain ⟨used, rfl⟩ := hmid
      have hlen : ∀ tail, (used ++ tail).length - tail.length = used.length := by simp
      simp only [hlen, walk_append] at hwalk
      have hless : mid.length < n := by
        simp at hn
        omega
      obtain ⟨hcalm, hlater⟩ := ih _ hless hplain hnext hwalk rfl
      refine ⟨hcalm, fun p => ?_⟩
      have hslash : step (s.behind p) c (used ++ mid ++ ['/']) =
          some (next.behind p, mid ++ ['/']) := hbehind p
      rw [List.cons_append, walk_step ((mode_behind s p).trans hs.mode), hslash, Option.bind_some]
      simp only [List.append_assoc, hlen, walk_append]
      exact hlater p

end Parser

/-! ## 4. The whole expression -/

namespace Regex

theorem exists_walk_of_parse? {t : Text} {r : Regex} (h : parse? t = some r) :
    ∃ s, Parser.walk 0 {} t = some s ∧ s.groups = [] ∧ s.branches.close.regex = r := by
  obtain ⟨s, hwalk, h⟩ := Option.bind_eq_some_iff.mp h
  refine ⟨s, hwalk, ?_⟩
  simp only at h
  split at h
  · rename_i hend
    exact ⟨List.isEmpty_iff.mp hend.1, Option.some.inj h⟩
  · cases h

/-- A single alternative is the sequence of its items. -/
theorem regex_close {b : Parser.Branches} (h : b.complete = []) :
    b.close.regex = .concat ((b.items.reverse.filterMap id).map (·.regex)) := by
  rw [Parser.Branches.close, h]
  rfl

/-- **Between slashes an expression is the same sequence with a slash in front and behind.** -/
theorem parse?_between {body : Text} (hplain : Parser.Plain body) {inner outer : Regex}
    (hinner : parse? body = some inner) (houter : parse? ('/' :: body ++ ['/']) = some outer) :
    ∃ rs, inner = concat rs ∧
      outer = concat (Glob.meaning '/' :: rs ++ [Glob.meaning '/']) := by
  obtain ⟨s, hwalk, hgroups, rfl⟩ := exists_walk_of_parse? hinner
  obtain ⟨hcalm, hbehind⟩ := Parser.walk_behind hplain Parser.calm_start hwalk
  obtain ⟨s', hwalk', -, rfl⟩ := exists_walk_of_parse? houter
  have hslash : ∀ {s : Parser.State} (rest : Text), s.mode = {} →
      Parser.walk 0 s ('/' :: rest) = Parser.walk 0 (s.push (some (Glob.piece '/'))) rest :=
    fun rest hs => Parser.walk_cons_rest hs
      (Parser.step_of_not_sign hs (by decide) (by decide) (by decide) rest)
  have hend : Parser.walk 0 {} ('/' :: body ++ ['/']) =
      some ((s.behind (Glob.piece '/')).push (some (Glob.piece '/'))) := by
    rw [List.cons_append, hslash _ rfl]
    refine (hbehind (Glob.piece '/')).trans ?_
    rw [hslash _ ((Parser.mode_behind s _).trans hcalm.mode)]
    rfl
  obtain rfl := Option.some.inj (hend.symm.trans hwalk')
  have hfinal : ((s.behind (Glob.piece '/')).push (some (Glob.piece '/'))).branches =
      ⟨[], some (Glob.piece '/') :: (s.branches.items ++ [some (Glob.piece '/')])⟩ := by
    rw [Parser.State.push, Parser.branches_behind hgroups, ← hcalm.complete]
    rfl
  refine ⟨_, regex_close hcalm.complete, ?_⟩
  rw [hfinal, regex_close rfl]
  simp [Glob.piece]

/-- **A plain text matches wherever it matches between slashes.** -/
theorem matchesIn_of_slashes {body : Text} (hplain : Parser.Plain body) {inner outer : Regex}
    (hinner : parse? body = some inner) (houter : parse? ('/' :: body ++ ['/']) = some outer)
    {text : Text} (h : outer.matchesIn text = true) : inner.matchesIn text = true := by
  obtain ⟨rs, rfl, rfl⟩ := parse?_between hplain hinner houter
  exact matchesIn_of_between h

end Regex

end RequestFilter
