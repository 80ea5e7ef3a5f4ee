import RequestFilter.Glob
import RequestFilter.Proofs.Stretches
import Mathlib.Data.List.Induction

/-!
# What transliteration keeps

A glob and a request URL go through the same transliteration. This file says what of a text is still
there behind it.

* `image_forms`: a character is copied, dropped, or written in one of two other ways;
* `transliterate_of_starless`: without a wildcard nothing is dropped at the ends;
* `normalizeUrl_infix_of_append`: **whatever stands around a text without wildcards in a URL, its
  normal form is a stretch of the normal form of the URL** -- a `*` in front, a `.*` behind, and the
  marks that vanish in between do not touch it;
* `infix_normalizeUrl`: a text that is copied is found in the normal form as it is;
* `windows_line_up`: **the signatures of a text without wildcards are those of every URL around it.**
-/

namespace RequestFilter

namespace Glob

/-! ## 1. Single characters -/

/-- Transliteration copies every character of the text. -/
def Copied (t : Text) : Prop := ∀ c ∈ t, image c = [c]

theorem Copied.starless {t : Text} (h : Copied t) : '*' ∉ t := fun hm => by
  have hstar := h _ hm
  simp [image] at hstar

theorem star_mem_image {c : Char} : '*' ∈ image c ↔ c = '*' := by
  constructor
  · intro h
    unfold image at h
    split at h
    · rfl
    · simp at h
    · cases h
    · cases h
    · cases h
    · exact (List.mem_singleton.mp h).symm
  · intro hx
    subst hx
    decide

theorem star_mem_flatMap_image {t : Text} : '*' ∈ t.flatMap image ↔ '*' ∈ t := by
  simp only [List.mem_flatMap, star_mem_image, exists_eq_right]

theorem flatMap_image_of_copied {t : Text} (h : Copied t) : t.flatMap image = t := by
  induction t with
  | nil => rfl
  | cons c rest ih =>
    rw [List.flatMap_cons, h c List.mem_cons_self, ih fun d hd => h d (List.mem_cons_of_mem _ hd)]
    rfl

/-- An image is a wildcard, is empty, or ends in a character that is no star. -/
theorem image_cases (c : Char) :
    (c = '*' ∧ image c = ['.', '*']) ∨ image c = [] ∨
      ∃ s d, image c = s ++ [d] ∧ d ≠ '*' := by
  by_cases hc : c = '*'
  · subst hc
    exact Or.inl ⟨rfl, rfl⟩
  · refine Or.inr ?_
    rcases List.eq_nil_or_concat (image c) with h | ⟨s, d, h⟩
    · exact Or.inl h
    · refine Or.inr ⟨s, d, by simpa using h, ?_⟩
      intro hx
      subst hx
      exact hc (star_mem_image.mp (by simp [h]))

/-- What a character becomes: the two signs that are written with two characters, nothing, or
    itself. -/
theorem image_forms (c : Char) : c = '*' ∨ c = '?' ∨ image c = [] ∨
    (image c = [c] ∧ c ≠ '?' ∧ c ≠ '|') := by
  unfold image
  split
  · exact Or.inl rfl
  · exact Or.inr (Or.inl rfl)
  · exact Or.inr (Or.inr (Or.inl rfl))
  · exact Or.inr (Or.inr (Or.inl rfl))
  · exact Or.inr (Or.inr (Or.inl rfl))
  · rename_i hquestion hbar _ _
    exact Or.inr (Or.inr (Or.inr ⟨rfl, hquestion, hbar⟩))

/-- No image starts with a question mark, not even its own. -/
theorem head?_flatMap_image (glob : Text) : (glob.flatMap image).head? ≠ some '?' := by
  induction glob with
  | nil => simp
  | cons c rest ih =>
    rw [List.flatMap_cons]
    rcases image_forms c with rfl | rfl | hnil | ⟨hself, hquestion, -⟩
    · simp [image]
    · simp [image]
    · rwa [hnil]
    · simpa [hself] using hquestion

/-! ## 2. The ends -/

theorem dropTrailingWildcard_append (t : Text) : dropTrailingWildcard (t ++ ['.', '*']) = t := by
  simp [dropTrailingWildcard]

theorem dropTrailingWildcard_concat (t : Text) {c : Char} (h : c ≠ '*') :
    dropTrailingWildcard (t ++ [c]) = t ++ [c] := by
  unfold dropTrailingWildcard
  split
  · rename_i rest hrest
    simp only [List.reverse_append, List.reverse_cons, List.reverse_nil, List.nil_append,
      List.singleton_append, List.cons.injEq] at hrest
    exact absurd hrest.1 h
  · rfl

theorem dropTrailingWildcard_of_starless {t : Text} (h : '*' ∉ t) : dropTrailingWildcard t = t := by
  rcases List.eq_nil_or_concat t with rfl | ⟨s, c, rfl⟩
  · rfl
  · simp only [List.concat_eq_append] at h ⊢
    refine dropTrailingWildcard_concat s ?_
    intro hx
    subst hx
    exact h (by simp)

theorem dropLeadingStar_cons {c : Char} (h : c ≠ '*') (t : Text) :
    dropLeadingStar (c :: t) = c :: t := by
  unfold dropLeadingStar
  split
  · rename_i heq
    rw [List.cons.injEq] at heq
    exact absurd heq.1 h
  · rfl

theorem dropLeadingStar_of_starless {t : Text} (h : '*' ∉ t) : dropLeadingStar t = t := by
  cases t with
  | nil => rfl
  | cons c rest => exact dropLeadingStar_cons (fun hc => h (hc ▸ List.mem_cons_self)) rest

theorem suffix_dropLeadingStar (t : Text) : dropLeadingStar t <:+ t := by
  unfold dropLeadingStar
  split
  · exact List.suffix_cons _ _
  · exact List.suffix_refl _

/-- Without a wildcard nothing is dropped at the ends. -/
theorem transliterate_of_starless {anchor glob : Text} (ha : '*' ∉ anchor) (hg : '*' ∉ glob) :
    transliterate anchor glob = anchor ++ glob.flatMap image := by
  rw [transliterate, dropLeadingStar_of_starless hg]
  refine dropTrailingWildcard_of_starless fun h => ?_
  rcases List.mem_append.mp h with h | h
  · exact ha h
  · exact hg (star_mem_flatMap_image.mp h)

theorem dropTrailingWildcard_start (t : Text) : dropTrailingWildcard t <+: t := by
  unfold dropTrailingWildcard
  split
  · rename_i rest hrest
    exact ⟨['.', '*'], by rw [← List.reverse_reverse t, hrest]; simp⟩
  · exact List.prefix_refl t

/-- A separator mark does not survive. -/
theorem caret_notMem_normalizeUrl (url : Text) : '^' ∉ normalizeUrl url := by
  intro h
  have hmem := (dropTrailingWildcard_start _).subset h
  obtain ⟨c, -, hc⟩ := List.mem_flatMap.mp hmem
  unfold image at hc
  split at hc
  · simp at hc
  · simp at hc
  · cases hc
  · cases hc
  · cases hc
  · rename_i hcaret _
    exact hcaret (List.mem_singleton.mp hc).symm

/-! ## 3. Stretches of a URL -/

/-- What stands in front of transliterated text and does not end in a star stays where it is. -/
theorem prefix_dropTrailingWildcard {s : Text} (hs : ∀ t, s ≠ t ++ ['*']) (y : Text) :
    s <+: dropTrailingWildcard (s ++ y.flatMap image) := by
  induction y using List.reverseRecOn with
  | nil =>
    rw [List.flatMap_nil, List.append_nil]
    rcases List.eq_nil_or_concat s with rfl | ⟨t, c, rfl⟩
    · exact List.nil_prefix
    · simp only [List.concat_eq_append] at hs ⊢
      have hc : c ≠ '*' := fun h => hs t (by rw [h])
      simp [dropTrailingWildcard_concat t hc]
  | append_singleton y c ih =>
    rw [List.flatMap_append, List.flatMap_singleton, ← List.append_assoc]
    rcases image_cases c with ⟨-, h⟩ | h | ⟨t, d, h, hd⟩
    · rw [h, dropTrailingWildcard_append]
      exact List.prefix_append s _
    · rw [h, List.append_nil]
      exact ih
    · rw [h, ← List.append_assoc, dropTrailingWildcard_concat _ hd, List.append_assoc,
        List.append_assoc]
      exact List.prefix_append s _

/-- The leading star of a URL, if it has one, stands in front of any text without stars. -/
theorem exists_dropLeadingStar {t : Text} (hne : t ≠ []) (ht : '*' ∉ t) (x y : Text) :
    ∃ x', dropLeadingStar (x ++ t ++ y) = x' ++ t ++ y := by
  cases x with
  | nil =>
    obtain ⟨c, rest, rfl⟩ := List.exists_cons_of_ne_nil hne
    have hc : c ≠ '*' := fun hc => ht (hc ▸ List.mem_cons_self)
    exact ⟨[], dropLeadingStar_cons hc (rest ++ y)⟩
  | cons c x =>
    by_cases hc : c = '*'
    · subst hc
      exact ⟨x, rfl⟩
    · exact ⟨c :: x, dropLeadingStar_cons hc (x ++ t ++ y)⟩

/-- **The normal form of a text without wildcards is a stretch of the normal form of every URL
    around it.** -/
theorem normalizeUrl_infix_of_append {t : Text} (ht : '*' ∉ t) (x y : Text) :
    normalizeUrl t <:+: normalizeUrl (x ++ t ++ y) := by
  by_cases hne : t = []
  · subst hne
    exact List.nil_infix
  obtain ⟨x', hx⟩ := exists_dropLeadingStar hne ht x y
  rw [normalizeUrl, normalizeUrl, transliterate_of_starless (by simp) ht, transliterate, hx]
  simp only [List.nil_append, List.flatMap_append]
  by_cases himage : t.flatMap image = []
  · rw [himage]
    exact List.nil_infix
  -- the image of `t` ends in something that is no star, so a wildcard dropped at the end is `y`'s
  have hend : ∀ s, x'.flatMap image ++ t.flatMap image ≠ s ++ ['*'] := by
    intro s hs
    have hlast : (t.flatMap image).getLast? = some '*' := by
      have hwhole := congrArg List.getLast? hs
      rw [List.getLast?_concat, List.getLast?_append] at hwhole
      cases hl : (t.flatMap image).getLast? with
      | none => exact absurd (List.getLast?_eq_none_iff.mp hl) himage
      | some c => rwa [hl, Option.some_or] at hwhole
    exact ht (star_mem_flatMap_image.mp (List.mem_of_getLast? hlast))
  obtain ⟨rest, hrest⟩ := prefix_dropTrailingWildcard hend y
  exact ⟨x'.flatMap image, rest, hrest⟩

/-- A text that is copied is its own normal form. -/
theorem normalizeUrl_of_copied {t : Text} (ht : Copied t) : normalizeUrl t = t := by
  rw [normalizeUrl, transliterate_of_starless (by simp) ht.starless, flatMap_image_of_copied ht,
    List.nil_append]

/-- A text that is copied is found as it is in the normal form of every URL around it. -/
theorem infix_normalizeUrl {t url : Text} (ht : Copied t) (h : t <:+: url) :
    t <:+: normalizeUrl url := by
  obtain ⟨x, y, rfl⟩ := h
  have hin := normalizeUrl_infix_of_append ht.starless x y
  rwa [normalizeUrl_of_copied ht] at hin

/-! ## 4. Windows of a URL -/

/-- Only five characters are not copied. -/
theorem image_of_notMem {c : Char} (h : c ∉ "*?|^+".toList) : image c = [c] := by
  unfold image
  split
  · exact absurd (by decide) h
  · exact absurd (by decide) h
  · exact absurd (by decide) h
  · exact absurd (by decide) h
  · exact absurd (by decide) h
  · rfl

/-- **The windows of a URL line up with those of a pattern.** The form of a text without wildcards
    is a stretch of the form of every URL around it, whatever begins or ends the parts in front and
    behind, so each of its windows is a window of the URL; and a text of ordinary characters is its
    own form. -/
theorem windows_line_up :
    (∀ t x y : Text, '*' ∉ t →
      transliterate [] t <:+: normalizeUrl (x ++ t ++ y) ∧
      ∀ w ∈ Signature.windows (transliterate [] t),
        w ∈ Signature.windows (normalizeUrl (x ++ t ++ y))) ∧
    (∀ s : Text, (∀ c ∈ s, c ∉ "*?|^+".toList) → transliterate [] s = s) := by
  constructor
  · intro t x y ht
    have hin : transliterate [] t <:+: normalizeUrl (x ++ t ++ y) :=
      normalizeUrl_infix_of_append ht x y
    exact ⟨hin, fun w hw => Signature.windows_mono hw hin⟩
  · intro s hs
    exact normalizeUrl_of_copied fun c hc => image_of_notMem (hs c hc)

/-- The wildcard behind a dot is dropped at the end of the URL, and the dot stays. -/
theorem windows_line_up_dot :
    '*' ∉ "adserver.".toList ∧
    "dserver.".toList ∈ Signature.windows (normalizeUrl ("*+?".toList ++ "adserver.".toList ++
      "*^".toList)) ∧
    (∀ c ∈ "adserver.".toList, c ∉ "*?|^+".toList) ∧
    transliterate [] "adserver.".toList = "adserver.".toList := by
  have hstar : '*' ∉ "adserver.".toList := by decide
  have hall : "adserver.".toList.all (fun c => decide (c ∉ "*?|^+".toList)) = true := by decide
  have hplain : ∀ c ∈ "adserver.".toList, c ∉ "*?|^+".toList := fun c hc =>
    of_decide_eq_true (List.all_eq_true.mp hall c hc)
  have hwindow : "dserver.".toList ∈ Signature.windows (transliterate [] "adserver.".toList) := by
    decide
  exact ⟨hstar, (windows_line_up.1 _ "*+?".toList "*^".toList hstar).2 _ hwindow, hplain,
    windows_line_up.2 _ hplain⟩

end Glob

end RequestFilter
