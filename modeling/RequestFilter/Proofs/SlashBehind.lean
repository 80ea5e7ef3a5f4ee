import Mathlib.Data.List.TakeWhile
import RequestFilter.Proofs.GlobRules

/-!
# A slash behind the text

The readers of a regular expression take in no more than they need. Where one of them succeeds, a
slash behind the text is left over and changes nothing, for no escape and no class goes on with it.

* `Undisturbed`: a reader leaves the end of its text, and a slash behind it; `Undisturbed.bind`,
  `Undisturbed.map`, `Undisturbed.ofHead`: readers made of such readers are such;
* `Escape.undisturbed_read`: **escapes are read in this way**;
* `Bracket.undisturbed_step`, `Bracket.undisturbed_read`: **so are the items of a class, and so is
  the class**.

All of this is about the initial mode, in which blanks count.

NOT here: where a reader fails. A construct that is cut off may well go on with a slash.
-/

namespace RequestFilter

/-! ## 1. Readers -/

/-- A reader that takes in no more than it needs: what it leaves is the end of the text, and with a
    slash behind the text it reads the same and leaves the slash, too. -/
def Undisturbed {α : Type} (read : Text → Option (α × Text)) : Prop :=
  ∀ t a after, read t = some (a, after) →
    after <:+ t ∧ read (t ++ ['/']) = some (a, after ++ ['/'])

namespace Undisturbed

variable {α β : Type}

theorem pure (a : Option α) : Undisturbed fun t => a.map (·, t) := by
  intro t b after h
  obtain ⟨b, rfl, heq⟩ := Option.map_eq_some_iff.mp h
  obtain ⟨rfl, rfl⟩ := Prod.mk.inj heq
  exact ⟨List.suffix_refl _, rfl⟩

theorem fail : Undisturbed fun _ => (none : Option (α × Text)) := pure none

theorem bind {read : Text → Option (α × Text)} {next : α → Text → Option (β × Text)}
    (h : Undisturbed read) (hnext : ∀ a, Undisturbed (next a)) :
    Undisturbed fun t => (read t).bind fun found => next found.1 found.2 := by
  intro t b after hb
  obtain ⟨⟨a, mid⟩, ha, hb⟩ := Option.bind_eq_some_iff.mp hb
  obtain ⟨hmid, hread⟩ := h t a mid ha
  obtain ⟨hafter, hnext⟩ := hnext a mid b after hb
  refine ⟨hafter.trans hmid, ?_⟩
  simp only [hread, Option.bind_some, hnext]

theorem map {read : Text → Option (α × Text)} (h : Undisturbed read) (f : α → β) :
    Undisturbed fun t => (read t).map fun found => (f found.1, found.2) := by
  intro t b after hb
  obtain ⟨⟨a, mid⟩, ha, heq⟩ := Option.map_eq_some_iff.mp hb
  obtain ⟨rfl, rfl⟩ := Prod.mk.inj heq
  obtain ⟨hmid, hread⟩ := h t a mid ha
  refine ⟨hmid, ?_⟩
  simp only [hread, Option.map_some]

/-- A reader that is started behind a character. -/
theorem behind {read : Text → Option (α × Text)} (h : Undisturbed read) (c : Char) {t after : Text}
    {a : α} (hread : read t = some (a, after)) :
    after <:+ c :: t ∧ read (t ++ ['/']) = some (a, after ++ ['/']) := by
  obtain ⟨hafter, hslash⟩ := h t a after hread
  exact ⟨hafter.trans (List.suffix_cons c t), hslash⟩

/-- A reader that needs a character to begin with. -/
theorem ofHead {read : Text → Option (α × Text)} (hnil : read [] = none)
    (hcons : ∀ c, Undisturbed fun rest => read (c :: rest)) : Undisturbed read := by
  intro t a after h
  cases t with
  | nil =>
    rw [hnil] at h
    cases h
  | cons c rest => exact (hcons c).behind c h

end Undisturbed

/-! ## 2. Escapes -/

theorem Mode.undisturbed_untilBrace : Undisturbed (({} : Mode).untilBrace false) := by
  have hcons : ∀ c rest, ({} : Mode).untilBrace false (c :: rest) =
      if c = '\x7d' then some ([], rest)
      else (({} : Mode).untilBrace false rest).map fun found => (c :: found.1, found.2) :=
    fun _ _ => rfl
  intro t
  induction t with
  | nil => exact fun _ _ h => nomatch h
  | cons c rest ih =>
    intro content after h
    rw [List.cons_append, hcons]
    rw [hcons] at h
    split at h
    · rename_i hc
      obtain ⟨rfl, rfl⟩ := Prod.mk.inj (Option.some.inj h)
      exact ⟨List.suffix_cons c rest, if_pos hc⟩
    · rename_i hc
      obtain ⟨⟨inner, after⟩, hinner, heq⟩ := Option.map_eq_some_iff.mp h
      obtain ⟨rfl, rfl⟩ := Prod.mk.inj heq
      obtain ⟨hafter, hread⟩ := ih inner after hinner
      exact ⟨hafter.trans (List.suffix_cons c rest), by rw [if_neg hc, hread, Option.map_some]⟩

namespace Escape

theorem undisturbed_fixedHex (n value : Nat) : Undisturbed (fixedHex? {} n value) := by
  induction n generalizing value with
  | zero => exact .pure (some value)
  | succ n ih =>
    refine .ofHead rfl fun c => ?_
    show Undisturbed fun rest =>
      (Text.hexDigit? c).bind fun d => fixedHex? {} n (16 * value + d) rest
    cases Text.hexDigit? c with
    | none => exact .fail
    | some d => exact ih (16 * value + d)

/-- A reader that goes up to the next brace, whatever it makes of what stands before it. -/
theorem undisturbed_braced {α : Type} {read : Text → Option (α × Text)} (meaning : Text → Option α)
    (h : ∀ t, read t = (({} : Mode).untilBrace false t).bind fun found =>
      (meaning found.1).map (·, found.2)) : Undisturbed read := by
  rw [funext h]
  exact Mode.undisturbed_untilBrace.bind fun content => .pure (meaning content)

/-- The character whose number some digits between braces write. -/
def ofDigits? (digits : Text) : Option Escape :=
  if digits = [] then none
  else (digits.foldlM (fun n c => (Text.hexDigit? c).map (16 * n + ·)) 0).bind fun value =>
    (charOfNat? value).map .char

theorem numbered_of_brace (width : Nat) (rest : Text) :
    numbered? {} width ('\x7b' :: rest) =
      (({} : Mode).untilBrace false rest).bind fun found =>
        (ofDigits? found.1).map (·, found.2) := by
  cases h : ({} : Mode).untilBrace false rest with
  | none => simp [numbered?, Mode.skipBlanks, h]
  | some found =>
    by_cases hempty : found.1 = []
    · simp [numbered?, ofDigits?, Mode.skipBlanks, h, hempty]
    · cases hvalue : found.1.foldlM (fun n c => (Text.hexDigit? c).map (16 * n + ·)) 0 with
      | none => simp [numbered?, ofDigits?, Mode.skipBlanks, h, hempty, hvalue]
      | some value =>
        cases hchar : charOfNat? value <;>
          simp [numbered?, ofDigits?, Mode.skipBlanks, h, hempty, hvalue, hchar]

theorem numbered_of_ne_brace (width : Nat) {c : Char} (hc : c ≠ '\x7b') (rest : Text) :
    numbered? {} width (c :: rest) = (fixedHex? {} width 0 (c :: rest)).bind fun found =>
      ((charOfNat? found.1).map .char).map (·, found.2) := by
  unfold numbered?
  split
  · rename_i heq
    exact absurd (List.cons.inj heq).1 hc
  · cases hhex : fixedHex? {} width 0 (c :: rest) with
    | none => simp [Mode.skipBlanks, hhex]
    | some found => cases hchar : charOfNat? found.1 <;> simp [Mode.skipBlanks, hhex, hchar]

theorem undisturbed_numbered {width : Nat} (hwidth : 0 < width) :
    Undisturbed (numbered? {} width) := by
  have hbraced : Undisturbed fun rest => numbered? {} width ('\x7b' :: rest) :=
    undisturbed_braced ofDigits? (numbered_of_brace width)
  have hdigits : Undisturbed fun t => (fixedHex? {} width 0 t).bind fun found =>
      ((charOfNat? found.1).map Escape.char).map (·, found.2) :=
    (undisturbed_fixedHex width 0).bind fun value => .pure ((charOfNat? value).map Escape.char)
  intro t e after h
  cases t with
  | nil =>
    obtain ⟨n, rfl⟩ := Nat.exists_eq_add_of_lt hwidth
    simp [numbered?, fixedHex?, Mode.skipBlanks] at h
  | cons c rest =>
    by_cases hbrace : c = '\x7b'
    · subst hbrace
      exact hbraced.behind _ h
    · rw [List.cons_append, numbered_of_ne_brace width hbrace]
      rw [numbered_of_ne_brace width hbrace] at h
      exact hdigits (c :: rest) e after h

/-- The condition with a name. -/
def ofEdgeName? (name : Text) : Option Escape :=
  (edgeNames.lookup name).map fun edge => .look (.word true edge)

theorem wordBoundary_of_brace (c : Char) (rest : Text) :
    wordBoundary? {} ('\x7b' :: c :: rest) =
      if c.isAlpha || c == '-' then (({} : Mode).untilBrace false (c :: rest)).bind fun found =>
        (ofEdgeName? found.1).map (·, found.2)
      else some (.look (.word true .boundary), '\x7b' :: c :: rest) := by
  unfold wordBoundary? ofEdgeName?
  simp only [Mode.skipBlanks]
  cases h : ({} : Mode).untilBrace false (c :: rest) with
  | none => simp
  | some found => cases hedge : edgeNames.lookup found.1 <;> simp [hedge]

theorem wordBoundary_of_ne_brace {c : Char} (hc : c ≠ '\x7b') (rest : Text) :
    wordBoundary? {} (c :: rest) = some (.look (.word true .boundary), c :: rest) := by
  unfold wordBoundary?
  split
  · rename_i heq
    exact absurd (List.cons.inj heq).1 hc
  · rfl

theorem undisturbed_wordBoundary : Undisturbed (wordBoundary? {}) := by
  have hplain : Undisturbed fun t => some (Escape.look (.word true .boundary), t) :=
    .pure (some (Escape.look (.word true .boundary)))
  have hnamed : Undisturbed fun t => (({} : Mode).untilBrace false t).bind fun found =>
      (ofEdgeName? found.1).map (·, found.2) := undisturbed_braced ofEdgeName? fun _ => rfl
  intro t e after h
  cases t with
  | nil => exact hplain [] e after h
  | cons c rest =>
    by_cases hbrace : c = '\x7b'
    · subst hbrace
      cases rest with
      | nil => cases h
      | cons d rest =>
        rw [List.cons_append, List.cons_append, wordBoundary_of_brace]
        rw [wordBoundary_of_brace] at h
        split at h
        · rename_i hname
          rw [if_pos hname]
          exact hnamed.behind _ h
        · rename_i hname
          rw [if_neg hname]
          exact hplain _ e after h
    · rw [List.cons_append, wordBoundary_of_ne_brace hbrace]
      rw [wordBoundary_of_ne_brace hbrace] at h
      exact hplain (c :: rest) e after h

theorem undisturbed_charClass (negated : Bool) (set : CharSet) :
    Undisturbed (charClass? {} negated set) := by
  unfold charClass?
  cases Mode.negate? {} negated set with
  | none => exact .fail
  | some s => exact .pure (some (Escape.set s))

theorem undisturbed_named : Undisturbed (named? {}) := by
  refine .ofHead rfl fun c => ?_
  by_cases hbackslash : c = '\\'
  · subst hbackslash
    exact .fail
  by_cases hbrace : c = '\x7b'
  · subst hbrace
    refine undisturbed_braced CharSet.ofQuery? fun t => ?_
    cases h : ({} : Mode).untilBrace false t with
    | none => simp [named?, Mode.skipBlanks, h]
    | some found =>
      cases hquery : CharSet.ofQuery? found.1 <;> simp [named?, Mode.skipBlanks, h, hquery]
  · have hletter : ∀ rest, named? {} (c :: rest) = (CharSet.ofName? [c]).map (·, rest) := by
      intro rest
      unfold named?
      split
      · cases ‹_›
      · rename_i heq
        exact absurd (List.cons.inj heq).1 hbackslash
      · rename_i heq
        exact absurd (List.cons.inj heq).1 hbrace
      · rename_i heq
        obtain ⟨rfl, rfl⟩ := List.cons.inj heq
        rfl
    rw [funext hletter]
    exact .pure (CharSet.ofName? [c])

theorem undisturbed_property (negated : Bool) : Undisturbed (property? {} negated) :=
  undisturbed_named.bind fun members =>
    undisturbed_charClass negated (({} : Mode).withCaseVariants members)

/-- **An escape is read in the same way with a slash behind it.** -/
theorem undisturbed_read : Undisturbed (read? {}) := by
  refine .ofHead rfl fun c => ?_
  unfold read?
  simp only
  split
  case h_1 | h_2 | h_3 => exact undisturbed_numbered (by decide)
  case h_4 | h_6 | h_8 => exact undisturbed_charClass false _
  case h_5 | h_7 | h_9 => exact undisturbed_charClass true _
  case h_10 => exact undisturbed_property false
  case h_11 => exact undisturbed_property true
  case h_20 => exact undisturbed_wordBoundary
  case h_24 =>
    split
    · exact .pure (some _)
    · exact .fail
  all_goals exact .pure (some _)

end Escape

/-! ## 3. Items of a class -/

theorem Text.dropStart?_append_slash {start : Text} (hstart : '/' ∉ start) (t : Text) :
    dropStart? start (t ++ ['/']) = (dropStart? start t).map (· ++ ['/']) := by
  induction start generalizing t with
  | nil => rfl
  | cons s start ih =>
    obtain ⟨hs, hrest⟩ := not_or.mp (mt List.mem_cons.mpr hstart)
    cases t with
    | nil => exact if_neg (Ne.symm hs)
    | cons c rest =>
      rw [List.cons_append, dropStart?, dropStart?, ih hrest]
      split <;> rfl

namespace Bracket

/-- The set that a class name stands for, up to its closing sign. -/
def closeName? (t : Text) : Option (CharSet × Text) :=
  (CharSet.ofPosixName? (t.takeWhile (· != ':'))).bind fun set =>
    (Text.dropStart? [':', ']'] (t.dropWhile (· != ':'))).map (set, ·)

theorem closeName_of_colon {name : Text} (hname : ':' ∉ name) (rest : Text) :
    closeName? (name ++ ':' :: rest) = (CharSet.ofPosixName? name).bind fun set =>
      (Text.dropStart? [':', ']'] (':' :: rest)).map (set, ·) := by
  have hpos : ∀ c ∈ name, (c != ':') = true := by
    intro c hc
    simpa using fun he : c = ':' => hname (he ▸ hc)
  rw [closeName?, List.takeWhile_append_of_pos hpos, List.dropWhile_append_of_pos hpos,
    List.takeWhile_cons_of_neg (by simp), List.dropWhile_cons_of_neg (by simp), List.append_nil]

theorem closeName_of_no_colon {t : Text} (h : ':' ∉ t) : closeName? t = none := by
  have hend : t.dropWhile (· != ':') = [] := by
    refine List.dropWhile_eq_nil_iff.mpr fun c hc => ?_
    simpa using fun he : c = ':' => h (he ▸ hc)
  rw [closeName?, hend]
  cases CharSet.ofPosixName? (t.takeWhile (· != ':')) <;> rfl

theorem closeName_append_slash (t : Text) :
    closeName? (t ++ ['/']) = (closeName? t).map fun found => (found.1, found.2 ++ ['/']) := by
  by_cases hcolon : ':' ∈ t
  · obtain ⟨name, rest, rfl, hname⟩ := List.eq_append_cons_of_mem hcolon
    rw [List.append_assoc, List.cons_append, closeName_of_colon hname, closeName_of_colon hname,
      ← List.cons_append, Text.dropStart?_append_slash (by decide)]
    cases CharSet.ofPosixName? name with
    | none => rfl
    | some set => cases Text.dropStart? [':', ']'] (':' :: rest) <;> rfl
  · have hslash : ':' ∉ t ++ ['/'] := by simpa using hcolon
    rw [closeName_of_no_colon hcolon, closeName_of_no_colon hslash]
    rfl

theorem suffix_of_closeName {t after : Text} {set : CharSet}
    (h : closeName? t = some (set, after)) : after <:+ t := by
  obtain ⟨_, -, h⟩ := Option.bind_eq_some_iff.mp h
  obtain ⟨rest, hclose, heq⟩ := Option.map_eq_some_iff.mp h
  obtain ⟨rfl, rfl⟩ := Prod.mk.inj heq
  have hend : rest <:+ t.dropWhile (· != ':') :=
    ⟨[':', ']'], (Text.eq_append_of_dropStart? hclose).symm⟩
  exact hend.trans (List.dropWhile_suffix _)

/-- Whether a class name is negated, and the name. -/
def caret (t : Text) : Bool × Text :=
  match Text.dropStart? ['^'] t with
  | some after => (true, after)
  | none => (false, t)

theorem caret_append_slash (t : Text) :
    caret (t ++ ['/']) = ((caret t).1, (caret t).2 ++ ['/']) := by
  unfold caret
  rw [Text.dropStart?_append_slash (by decide)]
  cases Text.dropStart? ['^'] t <;> rfl

theorem suffix_caret (t : Text) : (caret t).2 <:+ t := by
  unfold caret
  split
  · rename_i after h
    exact ⟨['^'], (Text.eq_append_of_dropStart? h).symm⟩
  · exact List.suffix_refl t

theorem named_eq (t : Text) : named? {} t = (Text.dropStart? [':'] t).bind fun start =>
    (closeName? (caret start).2).map fun found =>
      (({} : Mode).negate? (caret start).1 (({} : Mode).withCaseVariants found.1), found.2) := by
  unfold named? closeName? caret
  simp only [Option.map_eq_bind, Option.bind_assoc]
  rfl

/-- A class name is read in the same way with a slash behind it, and where there is none the slash
    makes none. -/
theorem named_append_slash (t : Text) :
    named? {} (t ++ ['/']) = (named? {} t).map fun found => (found.1, found.2 ++ ['/']) := by
  rw [named_eq, named_eq, Text.dropStart?_append_slash (by decide)]
  cases Text.dropStart? [':'] t with
  | none => rfl
  | some start =>
    simp only [Option.map_some, Option.bind_some, caret_append_slash, closeName_append_slash]
    cases closeName? (caret start).2 <;> rfl

theorem undisturbed_named : Undisturbed (named? {}) := by
  intro t set after h
  refine ⟨?_, by rw [named_append_slash, h, Option.map_some]⟩
  rw [named_eq] at h
  obtain ⟨start, hstart, h⟩ := Option.bind_eq_some_iff.mp h
  obtain ⟨⟨members, rest⟩, hclose, heq⟩ := Option.map_eq_some_iff.mp h
  obtain ⟨rfl, rfl⟩ := Prod.mk.inj heq
  have hcolon : start <:+ t := ⟨[':'], (Text.eq_append_of_dropStart? hstart).symm⟩
  exact ((suffix_of_closeName hclose).trans (suffix_caret start)).trans hcolon

/-- A character or an escape, behind its first character. -/
theorem undisturbed_atom_cons (c : Char) : Undisturbed fun rest => atom? {} (c :: rest) := by
  by_cases hbackslash : c = '\\'
  · subst hbackslash
    exact Escape.undisturbed_read
  · have hchar : ∀ rest, atom? {} (c :: rest) = some (.char c, rest) := by
      intro rest
      unfold atom?
      split
      · cases ‹_›
      · rename_i heq
        exact absurd (List.cons.inj heq).1 hbackslash
      · rename_i heq
        obtain ⟨rfl, rfl⟩ := List.cons.inj heq
        rfl
    rw [funext hchar]
    exact .pure (some (Escape.char c))

theorem undisturbed_atom : Undisturbed (atom? {}) := .ofHead rfl undisturbed_atom_cons

/-- What a character or escape comes to with what stands behind it. -/
def fromAtom (low : Escape) (t : Text) : Option (Nested × Text) :=
  match t with
  | '-' :: behind =>
    if behind.head? = some ']' ∨ behind.head? = some '-' then
      (single? {} low).map (·, '-' :: behind)
    else (atom? {} behind).bind fun found => (range? {} low found.1).map (·, found.2)
  | next => (single? {} low).map (·, next)

theorem item_eq (t : Text) : item? {} t =
    (atom? {} t).bind fun found => fromAtom found.1 found.2 := by
  unfold item? fromAtom
  simp only [Option.map_eq_bind]
  rfl

theorem fromAtom_of_ne_minus (low : Escape) {c : Char} (hc : c ≠ '-') (t : Text) :
    fromAtom low (c :: t) = (single? {} low).map (·, c :: t) := by
  unfold fromAtom
  split
  · rename_i heq
    exact absurd (List.cons.inj heq).1 hc
  · rfl

theorem fromAtom_of_minus (low : Escape) (d : Char) (t : Text) :
    fromAtom low ('-' :: d :: t) = if d = ']' ∨ d = '-' then (single? {} low).map (·, '-' :: d :: t)
      else (atom? {} (d :: t)).bind fun found => (range? {} low found.1).map (·, found.2) := by
  simp only [fromAtom, List.head?_cons, Option.some.injEq]

theorem undisturbed_fromAtom (low : Escape) : Undisturbed (fromAtom low) := by
  have hsingle : Undisturbed fun t => (single? {} low).map (·, t) := .pure (single? {} low)
  have hrange : Undisturbed fun t => (atom? {} t).bind fun found =>
      (range? {} low found.1).map (·, found.2) :=
    undisturbed_atom.bind fun high => .pure (range? {} low high)
  intro t i after h
  cases t with
  | nil => exact hsingle [] i after h
  | cons c behind =>
    by_cases hminus : c = '-'
    · subst hminus
      cases behind with
      | nil => cases h
      | cons d behind =>
        rw [List.cons_append, List.cons_append, fromAtom_of_minus]
        rw [fromAtom_of_minus] at h
        split at h
        · rename_i hend
          rw [if_pos hend]
          exact hsingle _ i after h
        · rename_i hend
          rw [if_neg hend]
          exact hrange.behind _ h
    · rw [List.cons_append, fromAtom_of_ne_minus low hminus]
      rw [fromAtom_of_ne_minus low hminus] at h
      exact hsingle _ i after h

/-- A character, an escape or a range, behind its first character. -/
theorem undisturbed_item_cons (c : Char) : Undisturbed fun rest => item? {} (c :: rest) := by
  simp only [item_eq]
  exact (undisturbed_atom_cons c).bind undisturbed_fromAtom

/-! ## 4. Steps -/

/-- What a step comes to, as a reader has it. -/
def Step.outcome? : Step → Option ((State ⊕ Nested) × Text)
  | .go next rest => some (.inl next, rest)
  | .done result rest => some (.inr result, rest)
  | .refused => none

theorem Step.outcome?_eq_inl {o : Step} {next : State} {rest : Text} :
    o.outcome? = some (.inl next, rest) ↔ o = .go next rest := by
  cases o <;> simp [outcome?]

theorem Step.outcome?_eq_inr {o : Step} {result : Nested} {rest : Text} :
    o.outcome? = some (.inr result, rest) ↔ o = .done result rest := by
  cases o <;> simp [outcome?]

theorem undisturbed_operator (op : Operator) (s : State) :
    Undisturbed fun rest => (operator {} op s rest).outcome? := .pure (some _)

theorem undisturbed_closing (s : State) : Undisturbed fun rest => (closing {} s rest).outcome? := by
  unfold closing
  simp only
  split
  · split
    · exact .fail
    · split
      · exact .pure (some (Sum.inr _))
      · exact .pure (some (Sum.inl _))
  · exact .fail

theorem undisturbed_taken (s : State) (c : Char) :
    Undisturbed fun rest => (item {} s (c :: rest)).outcome? := by
  have heq : (fun rest => (item {} s (c :: rest)).outcome?) =
      fun rest => (item? {} (c :: rest)).map fun found =>
        (Sum.inl { s with phase := .body, items := found.1 :: s.items }, found.2) := by
    funext rest
    unfold item
    cases item? {} (c :: rest) <;> rfl
  rw [heq]
  exact (undisturbed_item_cons c).map fun i =>
    Sum.inl { s with phase := .body, items := i :: s.items }

/-- What an opening bracket comes to: a class name, or one more class. -/
theorem undisturbed_opening (s : State) :
    Undisturbed fun rest => (bodyStep {} s '[' rest).outcome? := by
  intro rest o after h
  unfold bodyStep at h ⊢
  simp only [named_append_slash] at h ⊢
  cases hname : named? {} rest with
  | none =>
    simp only [hname] at h ⊢
    obtain ⟨rfl, rfl⟩ := Prod.mk.inj (Option.some.inj h)
    exact ⟨List.suffix_refl _, rfl⟩
  | some found =>
    obtain ⟨set, mid⟩ := found
    simp only [hname] at h ⊢
    cases set with
    | none => cases h
    | some set =>
      obtain ⟨rfl, rfl⟩ := Prod.mk.inj (Option.some.inj h)
      exact ⟨(undisturbed_named rest _ _ hname).1, rfl⟩

/-- A slash behind a text is no operator sign. -/
theorem exists_cons_of_append_slash {c : Char} (hc : c ≠ '/') {rest more : Text}
    (h : rest ++ ['/'] = c :: more) : ∃ rest', rest = c :: rest' := by
  cases rest with
  | nil => exact absurd (List.cons.inj h).1.symm hc
  | cons d rest =>
    obtain ⟨rfl, -⟩ := List.cons.inj h
    exact ⟨rest, rfl⟩

theorem undisturbed_bodyStep (s : State) (c : Char) :
    Undisturbed fun rest => (bodyStep {} s c rest).outcome? := by
  intro rest o after h
  simp only at h ⊢
  unfold bodyStep at h
  split at h
  · exact undisturbed_opening s rest o after h
  · exact undisturbed_closing s rest o after h
  · exact (undisturbed_operator .intersection s).behind _ h
  · exact (undisturbed_operator .difference s).behind _ h
  · exact (undisturbed_operator .symmetricDifference s).behind _ h
  · rename_i hopen hclose hand hminus htilde
    -- a sign that stood alone still stands alone in front of the slash
    have hitem : bodyStep {} s c (rest ++ ['/']) = item {} s (c :: (rest ++ ['/'])) := by
      unfold bodyStep
      split
      · exact absurd rfl hopen
      · exact absurd rfl hclose
      · rename_i heq
        obtain ⟨rest', rfl⟩ := exists_cons_of_append_slash (by decide) heq
        exact absurd rfl (hand rest' rfl)
      · rename_i heq
        obtain ⟨rest', rfl⟩ := exists_cons_of_append_slash (by decide) heq
        exact absurd rfl (hminus rest' rfl)
      · rename_i heq
        obtain ⟨rest', rfl⟩ := exists_cons_of_append_slash (by decide) heq
        exact absurd rfl (htilde rest' rfl)
      · rfl
    rw [hitem]
    exact undisturbed_taken s c rest o after h

theorem undisturbed_firstStep (s : State) (c : Char) :
    Undisturbed fun rest => (firstStep {} s c rest).outcome? := by
  unfold firstStep
  split
  · exact .pure (some (Sum.inl _))
  split
  · exact .pure (some (Sum.inl _))
  · exact undisturbed_bodyStep s c

theorem undisturbed_step (s : State) (c : Char) :
    Undisturbed fun rest => (step {} s c rest).outcome? := by
  unfold step
  split
  · split
    · exact .pure (some (Sum.inl _))
    · exact undisturbed_firstStep s c
  · exact undisturbed_firstStep s c
  · exact undisturbed_bodyStep s c

/-! ## 5. The walk -/

/-- A walk passes over what is used up. -/
theorem walk_append (mode : Mode) (s : State) (used after : Text) :
    walk mode used.length s (used ++ after) = walk mode 0 s after := by
  induction used with
  | nil => rfl
  | cons c used ih => exact ih

theorem walk_cons (s : State) (c : Char) (rest : Text) : walk {} 0 s (c :: rest) =
    match step {} s c rest with
    | .go next after => walk {} (rest.length - after.length) next rest
    | .done result after => some (result, after)
    | .refused => none := by
  have hlong : ¬ (({} : Mode).skipBlanks (c :: rest)).length ≤ rest.length := by
    simp [Mode.skipBlanks]
  exact if_neg hlong

/-- **A walk over a class reads the same with a slash behind it.** -/
theorem undisturbed_walk (s : State) : Undisturbed (walk {} 0 s) := by
  -- by induction on the length of the text, for a step may use up several characters
  intro t
  induction hn : t.length using Nat.strongRecOn generalizing s t with
  | ind n ih =>
    intro result after h
    cases t with
    | nil => cases h
    | cons c rest =>
      rw [List.cons_append, walk_cons]
      rw [walk_cons] at h
      have hsame := undisturbed_step s c rest
      cases ho : step {} s c rest with
      | refused =>
        rw [ho] at h
        cases h
      | done r mid =>
        rw [ho] at h
        obtain ⟨rfl, rfl⟩ := Prod.mk.inj (Option.some.inj h)
        obtain ⟨hmid, hread⟩ := hsame _ _ (Step.outcome?_eq_inr.mpr ho)
        refine ⟨hmid.trans (List.suffix_cons _ _), ?_⟩
        rw [Step.outcome?_eq_inr.mp hread]
      | go next mid =>
        rw [ho] at h
        obtain ⟨hmid, hread⟩ := hsame _ _ (Step.outcome?_eq_inl.mpr ho)
        rw [Step.outcome?_eq_inl.mp hread]
        obtain ⟨used, rfl⟩ := hmid
        have hlen : ∀ tail, (used ++ tail).length - tail.length = used.length := by simp
        simp only [List.append_assoc, hlen, walk_append] at h ⊢
        have hless : mid.length < n := by
          simp at hn
          omega
        obtain ⟨hafter, hwalk⟩ := ih _ hless next mid rfl result after h
        exact ⟨hafter.trans ((List.suffix_append used mid).trans (List.suffix_cons _ _)), hwalk⟩

/-- **A class is read in the same way with a slash behind it.** -/
theorem undisturbed_read : Undisturbed (read? {}) := undisturbed_walk .start

end Bracket

end RequestFilter
