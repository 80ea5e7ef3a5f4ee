import RequestFilter.Proofs.GlobRules

/-!
# Globs that are always expressions

Whatever wildcards, question marks, dots and marks stand in a glob, side by side or at its ends: if
it has none of the other signs of a regular expression, what it becomes is one. A star always stands
behind its own dot, and what is dropped at the end is a dot with its star.

* `Glob.exists_transliterate`: the text that a glob becomes spells out a stretch of the glob behind
  the anchor;
* `Glob.exists_parse?`: **the text that a quiet glob becomes is an expression**;
* `Rule.compile_of_quiet`: a rule with a quiet text is compiled as a glob without options;
* `Rule.globs_compile`: **such a rule is empty, or compiles, or is too big**.

NOT here: a rule whose text stands between slashes, which may be read as an expression of its own.
-/

namespace RequestFilter

namespace Glob

/-! ## 1. The text of a glob -/

/-- An anchor: none, or the start of the URL. -/
def IsAnchor (anchor : Text) : Prop := anchor = [] ∨ anchor = ['^']

variable {anchor : Text}

/-- What is dropped at the end is the image of a star, and marks behind it that leave nothing. -/
theorem exists_dropTrailingWildcard (h : IsAnchor anchor) (t : Text) :
    ∃ s, s <+: t ∧ dropTrailingWildcard (anchor ++ t.flatMap image) = anchor ++ s.flatMap image := by
  induction t using List.reverseRecOn with
  | nil => exact ⟨[], List.nil_prefix, by rcases h with rfl | rfl <;> rfl⟩
  | append_singleton t c ih =>
    rw [List.flatMap_append, List.flatMap_singleton]
    rcases image_cases c with ⟨-, himage⟩ | himage | ⟨s, d, himage, hd⟩
    · refine ⟨t, List.prefix_append t [c], ?_⟩
      rw [himage, ← List.append_assoc, dropTrailingWildcard_append]
    · obtain ⟨s, hs, heq⟩ := ih
      refine ⟨s, hs.trans (List.prefix_append t [c]), ?_⟩
      rw [himage, List.append_nil, heq]
    · refine ⟨t ++ [c], List.prefix_refl _, ?_⟩
      rw [List.flatMap_append, List.flatMap_singleton, himage]
      simp only [← List.append_assoc]
      exact dropTrailingWildcard_concat _ hd

/-- **Behind the anchor a stretch of the glob is spelled out.** -/
theorem exists_transliterate (h : IsAnchor anchor) (glob : Text) :
    ∃ s, s <:+: glob ∧ transliterate anchor glob = anchor ++ s.flatMap image := by
  obtain ⟨s, hs, heq⟩ := exists_dropTrailingWildcard h (dropLeadingStar glob)
  exact ⟨s, hs.isInfix.trans (suffix_dropLeadingStar glob).isInfix, heq⟩

/-- **The text that a quiet glob becomes is an expression.** -/
theorem exists_parse? (h : IsAnchor anchor) {glob : Text} (hquiet : Quiet glob) :
    ∃ regex, Regex.parse? (transliterate anchor glob) = some regex := by
  obtain ⟨s, hs, heq⟩ := exists_transliterate h glob
  have hstretch : Quiet s := fun c hc => hquiet c (hs.subset hc)
  rw [heq]
  rcases h with rfl | rfl
  · exact ⟨_, Regex.parse?_quiet hstretch⟩
  · exact ⟨_, Regex.parse?_quiet_anchored hstretch⟩

/-- Such a text is as long as its anchor only if it is the anchor. -/
theorem byteSize_transliterate_eq (h : IsAnchor anchor) (glob : Text) :
    (transliterate anchor glob).byteSize = anchor.byteSize ↔ transliterate anchor glob = anchor := by
  obtain ⟨s, -, heq⟩ := exists_transliterate h glob
  rw [heq, Text.byteSize_append, Nat.add_eq_left, Text.byteSize_eq_zero, List.append_right_eq_self]

end Glob

namespace Rule

/-! ## 2. Rules with such a text -/

variable {r : Rule}

/-- A line without dollar signs is no regular expression, unless there are slashes at both ends. -/
theorem regexLiteral?_eq_none_of_ends {line : Text} (hdollar : '$' ∉ line)
    (hslashes : ¬ (line.head? = some '/' ∧ line.getLast? = some '/')) :
    regexLiteral? line = none := by
  rw [regexLiteral?_eq_none_iff]
  intro body options hline _
  cases options with
  | none =>
    refine hslashes ⟨hline.head?, ?_⟩
    obtain rfl : line = '/' :: body ++ ['/'] := hline
    exact List.getLast?_concat
  | some o =>
    obtain ⟨-, rfl, -⟩ := hline
    simp at hdollar

/-- No kind asks for subdocuments. -/
theorem asksForSubdocuments_tag (kind : RuleKind) : asksForSubdocuments kind.tag = false := by
  cases kind <;> decide

/-- **A rule with a quiet text is compiled as a glob without options.** -/
theorem compile_of_quiet (hquiet : Glob.Quiet r.body)
    (hslashes : r.kind = .uri → ¬ (r.body.head? = some '/' ∧ r.body.getLast? = some '/')) :
    r.compile = compileGlob r.anchor r.body r.kind.tag := by
  have hdollar : '$' ∉ r.body := fun hm => absurd (hquiet '$' hm) (by decide)
  have hnone : ∀ o ∈ (none : Option Text), '$' ∉ o := by simp
  have hsplit : splitOptions r.body r.kind = (r.body, r.kind.tag) :=
    splitOptions_writeOptions hdollar hnone r.kind
  rw [compile_eq_compileGlob fun hkind => regexLiteral?_eq_none_of_ends hdollar (hslashes hkind),
    hsplit]

/-- What becomes of a pattern is a matter of its size once its text can be read. -/
theorem compilePattern_of_parse? {raw : Text} {regex : Regex} (h : Regex.parse? raw = some regex)
    (options : Text) : compilePattern raw options =
      if regex.size ≤ Regex.sizeLimit then .ok ⟨regex, raw, some options⟩
      else .error (.invalidRegex raw .tooBig) := by
  unfold compilePattern Pattern.compile Regex.compile
  rw [h]
  by_cases hsize : regex.size ≤ Regex.sizeLimit <;> simp [hsize, Except.map, Except.mapError]

/-- **A glob always compiles, if it is not too big.** Let none of the characters of a rule be one of
    the signs that a glob passes on, and let it not stand between slashes if it is not anchored. Then
    the text that it becomes is a regular expression, whatever the order of its wildcards and marks.
    Into whatever index it is compiled, the rule is empty exactly if this text is no more than its
    anchor; otherwise it is filed or shadowed, and refused only if the expression is too big. -/
theorem globs_compile (hanchor : r.anchor = [] ∨ r.anchor = ['^'])
    (hsigns : ∀ c ∈ r.body, c ∉ "\\()[]\x7b\x7d$".toList)
    (hslashes : r.kind = .uri → ¬ (r.body.head? = some '/' ∧ r.body.getLast? = some '/')) :
    let raw := Glob.transliterate r.anchor r.body
    ∃ regex, Regex.parse? raw = some regex ∧ ∀ I : RuleIndex,
      (raw = r.anchor → I.compileRule r = .error .emptyPattern) ∧
      (raw ≠ r.anchor → regex.size ≤ Regex.sizeLimit → ∃ o J, I.compileRule r = .ok (o, J)) ∧
      (raw ≠ r.anchor → Regex.sizeLimit < regex.size →
        I.compileRule r = .error (.invalidRegex raw .tooBig)) := by
  intro raw
  have hquiet : Glob.Quiet r.body := fun c hc => by simpa [Glob.isLiveSign] using hsigns c hc
  obtain ⟨regex, hparse⟩ := Glob.exists_parse? hanchor hquiet
  have hsize := Glob.byteSize_transliterate_eq hanchor r.body
  have hcompile := compile_of_quiet hquiet hslashes
  -- an empty glob becomes its anchor
  have hbody : raw ≠ r.anchor → r.body.isEmpty = false := by
    intro hraw
    refine Bool.eq_false_iff.mpr fun hnil => hraw ?_
    rw [List.isEmpty_iff] at hnil
    show Glob.transliterate r.anchor r.body = r.anchor
    rw [hnil]
    rcases hanchor with h | h <;> rw [h] <;> rfl
  have hglob : raw ≠ r.anchor → r.compile = (compilePattern raw r.kind.tag).map fun p =>
      ⟨p, if isRegexText raw then .regexText else .signatures⟩ := by
    intro hraw
    rw [hcompile, compileGlob, hbody hraw, asksForSubdocuments_tag]
    simp only [Bool.false_eq_true, if_false, hsize]
    rw [if_neg hraw]
  refine ⟨regex, hparse, fun I => ⟨fun hraw => ?_, fun hraw hfits => ?_, fun hraw hbig => ?_⟩⟩
  · have hempty : r.compile = .error .emptyPattern := by
      rw [hcompile, compileGlob, asksForSubdocuments_tag]
      simp only [Bool.false_eq_true, if_false, hsize]
      rw [if_pos hraw, ite_self]
    rw [RuleIndex.compileRule, hempty]
    rfl
  · rw [RuleIndex.compileRule, hglob hraw, compilePattern_of_parse? hparse, if_pos hfits]
    exact ⟨_, _, rfl⟩
  · rw [RuleIndex.compileRule, hglob hraw, compilePattern_of_parse? hparse,
      if_neg (Nat.not_le.mpr hbig)]
    rfl

/-- A glob in which wildcards, marks and dots stand side by side and at both ends. -/
def crowded : Rule := ⟨"*+?*|.*^?**".toList, [], .uri⟩

/-- The crowded glob is filed or shadowed in every index. -/
theorem globs_compile_crowded :
    (∀ c ∈ crowded.body, c ∉ "\\()[]\x7b\x7d$".toList) ∧
      ¬ (crowded.body.head? = some '/' ∧ crowded.body.getLast? = some '/') ∧
      ∀ I : RuleIndex, ∃ o J, I.compileRule crowded = .ok (o, J) := by
  have hnone : (crowded.body.all fun c => !"\\()[]\x7b\x7d$".toList.contains c) = true := by decide
  have hsigns : ∀ c ∈ crowded.body, c ∉ "\\()[]\x7b\x7d$".toList := by simpa using hnone
  have hslashes : ¬ (crowded.body.head? = some '/' ∧ crowded.body.getLast? = some '/') := by decide
  obtain ⟨regex, hparse, hcompile⟩ := globs_compile (.inl rfl) hsigns fun _ => hslashes
  have hfits : ((Regex.parse? (Glob.transliterate crowded.anchor crowded.body)).all
      (·.size ≤ Regex.sizeLimit)) = true := by decide +kernel
  rw [hparse] at hfits
  exact ⟨hsigns, hslashes, fun I =>
    (hcompile I).2.1 (by decide) (of_decide_eq_true hfits)⟩

end Rule

end RequestFilter
