import ModuleReadme.Proofs.Text.Ranges
import ModuleReadme.Text.Age
import ModuleReadme.Text.Break

/-!
# The sets of Unicode properties

Every set that a pattern can ask for by a name is proper (`isProper_of_mem_properties`,
`isProper_category?` and so on), so that what the operations make of it is what they should. Tables
that are written out are checked one range after the other. Sets that are computed are put together
from these by operations that keep sets proper, and are never computed for that.
-/

namespace ModuleReadme.Text

-- Tables of several hundred ranges are evaluated here.
set_option maxRecDepth 100000

variable {set : Ranges} {sets : List NamedRanges} {name : String}

/-!
## Sets by name

A table is searched for a name, and what is found is one of its sets.
-/

/-- Whatever name is asked for, the set is proper. -/
def AreProper (sets : List NamedRanges) : Prop := ∀ s ∈ sets, s.ranges.IsProper

theorem AreProper.isProper_named? (h : AreProper sets) (hset : named? sets name = some set) :
    set.IsProper := by
  obtain ⟨s, hs, rfl⟩ := Option.map_eq_some_iff.mp hset
  exact h s (List.mem_of_find?_eq_some hs)

theorem AreProper.isProper_getD (h : AreProper sets) (name : String) :
    ((named? sets name).getD []).IsProper := by
  cases hset : named? sets name with
  | none => exact Ranges.isProper_nil
  | some set => exact h.isProper_named? hset

theorem AreProper.isProper_unions (h : AreProper sets) :
    (Ranges.unions (sets.map (·.ranges))).IsProper :=
  Ranges.isProper_unions (List.forall_mem_map.mpr h)

/-!
## General categories

The sets of single characters are written out. Groups of categories, and what no category has, are
computed from them.
-/

theorem areProper_generalCategories : AreProper generalCategories := by
  unfold AreProper
  decide

/-- The categories that other sets are computed from. -/
@[simp] theorem isProper_categoryRanges :
    uppercaseLetterRanges.IsProper ∧ lowercaseLetterRanges.IsProper ∧
    titlecaseLetterRanges.IsProper ∧ modifierLetterRanges.IsProper ∧ otherLetterRanges.IsProper ∧
    nonspacingMarkRanges.IsProper ∧ spacingMarkRanges.IsProper ∧ enclosingMarkRanges.IsProper ∧
    decimalNumberRanges.IsProper ∧ letterNumberRanges.IsProper ∧
    connectorPunctuationRanges.IsProper ∧ openPunctuationRanges.IsProper ∧
    closePunctuationRanges.IsProper ∧ initialPunctuationRanges.IsProper ∧
    finalPunctuationRanges.IsProper ∧ mathSymbolRanges.IsProper ∧
    modifierSymbolRanges.IsProper ∧ lineSeparatorRanges.IsProper ∧
    paragraphSeparatorRanges.IsProper ∧ controlRanges.IsProper ∧ formatRanges.IsProper ∧
    privateUseRanges.IsProper := by
  decide

@[simp] theorem isProper_unassignedRanges : unassignedRanges.IsProper :=
  Ranges.isProper_complement areProper_generalCategories.isProper_unions

theorem isProper_ofCategories (names : List String) : (ofCategories names).IsProper := by
  apply Ranges.isProper_unions
  intro set hset
  obtain ⟨name, -, hname⟩ := List.mem_filterMap.mp hset
  exact areProper_generalCategories.isProper_named? hname

theorem isProper_category? (h : category? name = some set) : set.IsProper := by
  unfold category? at h
  split at h
  -- One case for each name that is no category of a table.
  · cases h
    exact Ranges.isProper_all
  · cases h
    decide
  · cases h
    exact areProper_generalCategories.isProper_unions
  · cases h
    exact isProper_unassignedRanges
  · cases h
    exact isProper_unassignedRanges
  · cases h
    exact Ranges.isProper_union isProper_unassignedRanges (isProper_ofCategories _)
  · cases h
    exact Ranges.isProper_union isProper_unassignedRanges (isProper_ofCategories _)
  · split at h
    · cases h
      exact isProper_ofCategories _
    · exact areProper_generalCategories.isProper_named? h

@[simp] theorem isProper_categoryLetterRanges : categoryLetterRanges.IsProper := by
  simp [categoryLetterRanges]

/-! ## Scripts and versions -/

theorem areProper_scripts : AreProper scripts := by
  unfold AreProper
  decide

theorem isProper_sharedRanges :
    Ranges.IsProper (sharedRanges.map fun r => (r.first, r.last)) := by
  decide

theorem isProper_usedWith? (h : usedWith? name = some set) : set.IsProper := by
  obtain ⟨script, hscript, rfl⟩ := Option.map_eq_some_iff.mp h
  have hown := areProper_scripts script (List.mem_of_find?_eq_some hscript)
  apply Ranges.isProper_union
  · exact Ranges.isProper_diff hown isProper_sharedRanges
  · exact isProper_sharedRanges.sublist (List.filter_sublist.map _)

theorem areProper_versions : AreProper versions := by
  unfold AreProper
  decide

theorem isProper_charactersSince? (h : charactersSince? name = some set) : set.IsProper := by
  unfold charactersSince? at h
  split at h
  · cases h
    apply AreProper.isProper_unions
    intro v hv
    obtain hv | hv := List.mem_append.mp hv
    · exact areProper_versions v ((List.takeWhile_sublist _).subset hv)
    · exact areProper_versions v (List.mem_of_find?_eq_some (Option.mem_toList.mp hv))
  · cases h

/-! ## Case -/

/-- The mapped characters are collected from runs, each range of which holds characters only. -/
theorem isProper_mappedRanges {runs : List CaseRun} {expansions : List (Nat × List Nat)}
    (h : ∀ r ∈ runs.flatMap (·.codes) ++ expansions.map fun e => (e.1, e.1), Ranges.IsOfChars r) :
    (mappedRanges runs expansions).IsProper :=
  Ranges.isProper_diff (Ranges.isProper_ofList h) (by decide)

@[simp] theorem isProper_loweredRanges : loweredRanges.IsProper :=
  Ranges.isProper_union (by decide) (isProper_mappedRanges (by decide))

@[simp] theorem isProper_raisedRanges : raisedRanges.IsProper :=
  Ranges.isProper_union (by decide)
    (Ranges.isProper_diff (isProper_mappedRanges (by decide)) (by decide))

@[simp] theorem isProper_otherCaseRanges :
    otherUppercaseRanges.IsProper ∧ otherLowercaseRanges.IsProper ∧ midWordRanges.IsProper ∧
    raisedOnlyRanges.IsProper ∧ titledOnlyRanges.IsProper ∧ foldedOnlyRanges.IsProper ∧
    cherokeeUppercaseRanges.IsProper := by
  decide

@[simp] theorem isProper_uppercaseRanges : uppercaseRanges.IsProper := by
  simp [uppercaseRanges]

@[simp] theorem isProper_lowercaseRanges : lowercaseRanges.IsProper := by
  simp [lowercaseRanges]

theorem areProper_caseProperties : AreProper caseProperties := by
  simp [AreProper, caseProperties, casedRanges, caseIgnorableRanges, titledRanges, foldedRanges]

/-!
### Folding

Folding takes a set apart into its characters and puts their variants into it. Since the characters
of a set come from code points that it covers, the set has to be proper for that.
-/

theorem isProper_foldableRanges : foldableRanges.IsProper :=
  Ranges.isProper_ofList (by decide)

namespace Ranges

theorem has_of_mem_chars (h : set.IsProper) {c : Char} (hc : c ∈ set.chars) : set.has c = true := by
  obtain ⟨r, hr, hc⟩ := List.mem_flatMap.mp hc
  obtain ⟨i, hi, rfl⟩ := List.mem_map.mp hc
  have hcovers : set.Covers (r.1 + i) := ⟨r, hr, Nat.le_add_right _ i, by
    have := List.mem_range.mp hi
    omega⟩
  rw [has_iff, toNat_ofNat (h.isValidChar hcovers)]
  exact hcovers

theorem fold_eq_of_mem_variants {c d : Char} (h : c ∈ variants d) : fold c = fold d := by
  obtain rfl | h := List.mem_cons.mp h
  · rfl
  · exact eq_of_beq (List.mem_filter.mp h).2

theorem has_flatMap_single {cs : List Char} {c : Char} : has (cs.flatMap single) c = true ↔ c ∈ cs := by
  have hany : has (cs.flatMap single) c = cs.any fun d => (single d).has c := List.any_flatMap
  simp [hany, has_single]

/-- Folding adds to a set only characters that differ from one of its own in case. -/
theorem exists_fold_eq_of_has_foldCase (h : set.IsProper) {c : Char} (hc : set.foldCase.has c = true) :
    ∃ d, set.has d = true ∧ fold c = fold d := by
  rw [foldCase, has_union h.inOrder (inOrder_ofList _), Bool.or_eq_true, has_ofList,
    has_flatMap_single] at hc
  obtain hc | hc := hc
  · exact ⟨c, hc, rfl⟩
  · obtain ⟨d, hd, hc⟩ := List.mem_flatMap.mp hc
    have hd := has_of_mem_chars (isProper_inter h isProper_foldableRanges) hd
    rw [has_inter h isProper_foldableRanges, Bool.and_eq_true] at hd
    exact ⟨d, hd.1, fold_eq_of_mem_variants hc⟩

theorem has_foldCase_of_has (h : set.IsProper) {c : Char} (hc : set.has c = true) :
    set.foldCase.has c = true := by
  rw [foldCase, has_union h.inOrder (inOrder_ofList _), hc, Bool.true_or]

theorem isProper_foldCase (h : set.IsProper) : set.foldCase.IsProper := by
  apply isProper_union h
  apply isProper_ofList
  intro r hr
  obtain ⟨c, -, hc⟩ := List.mem_flatMap.mp hr
  rw [List.mem_singleton.mp hc]
  exact isOfChars_single c

/-- Ranges of ASCII characters can be moved within ASCII. -/
theorem isProper_map_of_mono {f : Nat → Nat} (h : set.IsProper) (hmono : ∀ m n, m ≤ n → f m ≤ f n)
    (hf : ∀ n, set.Covers n → f n < 0x80) : IsProper (set.map fun r => (f r.1, f r.2)) := by
  rw [isProper_iff, InOrder, List.pairwise_map, List.forall_mem_map]
  refine ⟨h.inOrder.imp fun hrs => hmono _ _ hrs, fun r hr => ?_⟩
  have hle := h.nonempty r hr
  have := hf r.2 ⟨r, hr, hle, Nat.le_refl _⟩
  refine ⟨hmono r.1 r.2 hle, ?_, ?_⟩
  · simp only [lastCode]
    omega
  · simp only
    omega

theorem isProper_foldAsciiCase (h : set.IsProper) : set.foldAsciiCase.IsProper := by
  have hupper : IsProper [(0x41, 0x5A)] := by decide
  have hlower : IsProper [(0x61, 0x7A)] := by decide
  -- The letters are shifted to the other case, which keeps them in order.
  have hraised : IsProper ((set.inter [(0x41, 0x5A)]).map fun r => (r.1 + 0x20, r.2 + 0x20)) := by
    -- Shifted by 32, the capitals stay below the surrogates.
    apply isProper_map_of_mono (f := (· + 0x20)) (isProper_inter h hupper)
      (fun m n hmn => Nat.add_le_add_right hmn 0x20)
    intro n hn
    have := covers_singleton.mp ((covers_inter h hupper).mp hn).2
    omega
  have hlowered : IsProper ((set.inter [(0x61, 0x7A)]).map fun r => (r.1 - 0x20, r.2 - 0x20)) := by
    apply isProper_map_of_mono (f := (· - 0x20)) (isProper_inter h hlower)
      (fun m n hmn => Nat.sub_le_sub_right hmn 0x20)
    intro n hn
    have := covers_singleton.mp ((covers_inter h hlower).mp hn).2
    omega
  simp [foldAsciiCase, h, hraised, hlowered]

end Ranges

/-! ## Further properties -/

@[simp] theorem isProper_alphabeticRanges : alphabeticRanges.IsProper := by
  decide

theorem isProper_wordRanges : wordRanges.IsProper :=
  Ranges.isProper_unions (by
    simp only [List.forall_mem_cons, isProper_alphabeticRanges, true_and]
    decide)

@[simp] theorem isProper_blankRanges : blankRanges.IsProper := by
  decide

/-- Marks, signs and forms that further sets are computed from. -/
@[simp] theorem isProper_signRanges :
    otherExtendRanges.IsProper ∧ variationSelectorRanges.IsProper ∧ mathRanges.IsProper ∧
    patternSyntaxRanges.IsProper ∧ patternBlankRanges.IsProper ∧
    sentenceTerminalRanges.IsProper ∧ ideographicRanges.IsProper ∧
    otherIdStartRanges.IsProper ∧ otherIdContinueRanges.IsProper ∧ formRanges.IsProper ∧
    laterFormRanges.IsProper ∧ mathStartRanges.IsProper ∧ prependedMarkRanges.IsProper ∧
    otherIgnorableRanges.IsProper ∧ emojiModifierRanges.IsProper ∧
    regionalIndicatorRanges.IsProper := by
  decide

@[simp] theorem isProper_graphemeExtendRanges : graphemeExtendRanges.IsProper := by
  simp [graphemeExtendRanges]

@[simp] theorem isProper_graphemeBaseRanges : graphemeBaseRanges.IsProper := by
  simp [graphemeBaseRanges]

theorem areProper_markProperties : AreProper markProperties := by
  simp only [AreProper, markProperties, List.forall_mem_cons, isProper_graphemeExtendRanges,
    isProper_graphemeBaseRanges, true_and]
  decide

@[simp] theorem isProper_ignorableRanges : ignorableRanges.IsProper := by
  have hvisible : visibleFormatRanges.IsProper := Ranges.isProper_union (by decide) (by simp)
  have hformat := Ranges.isProper_diff (a := formatRanges.diff blankRanges) (by simp) hvisible
  exact Ranges.isProper_unions (by simp [hformat])

theorem areProper_formatProperties : AreProper formatProperties := by
  simp only [AreProper, formatProperties, List.forall_mem_cons, isProper_ignorableRanges]
  decide

@[simp] theorem isProper_idStartRanges : idStartRanges.IsProper := by
  simp [idStartRanges]

@[simp] theorem isProper_idContinueRanges : idContinueRanges.IsProper := by
  simp [idContinueRanges]

theorem areProper_identifierProperties : AreProper identifierProperties := by
  have hmath : mathContinueRanges.IsProper := Ranges.isProper_union (by decide) (by decide)
  simp [AreProper, identifierProperties, xidStartRanges, xidContinueRanges, hmath]

theorem areProper_ideographProperties : AreProper ideographProperties := by
  unfold AreProper
  decide

theorem areProper_emojiProperties : AreProper emojiProperties := by
  unfold AreProper
  decide

theorem areProper_punctuationProperties : AreProper punctuationProperties := by
  have hother : otherMathRanges.IsProper := by simp [otherMathRanges]
  simp only [AreProper, punctuationProperties, List.forall_mem_cons, hother, true_and]
  decide

theorem areProper_basicProperties : AreProper basicProperties := by
  have hother : otherAlphabeticRanges.IsProper := by simp [otherAlphabeticRanges]
  simp only [AreProper, basicProperties, List.forall_mem_cons, hother, true_and]
  decide

theorem areProper_properties : AreProper properties := by
  simp only [AreProper, properties, List.forall_mem_append]
  exact ⟨⟨⟨⟨⟨⟨⟨areProper_basicProperties, areProper_caseProperties⟩, areProper_markProperties⟩,
    areProper_formatProperties⟩, areProper_identifierProperties⟩, areProper_ideographProperties⟩,
    areProper_emojiProperties⟩, areProper_punctuationProperties⟩

/-!
## Bounds of characters, words and sentences

Most of these sets are differences, so that no character is in two of them. They are computed from
properties that are proper by now.
-/

/-- What further sets are computed from. -/
@[simp] theorem isProper_boundRanges :
    prependRanges.IsProper ∧ nonspacingVowelRanges.IsProper ∧ joinerRanges.IsProper ∧
    lineEndRanges.IsProper ∧ openSyllableRanges.IsProper ∧ katakanaSignRanges.IsProper ∧
    wordLetterRanges.IsProper ∧ unspacedRanges.IsProper ∧ georgianRanges.IsProper ∧
    fullStopRanges.IsProper ∧ straightQuoteRanges.IsProper := by
  decide

@[simp] theorem isProper_continuingRanges : continuingRanges.IsProper := by
  simp [continuingRanges]

theorem areProper_graphemeBreaks : AreProper graphemeBreaks := by
  have hcontrol : graphemeControlRanges.IsProper :=
    Ranges.isProper_diff (Ranges.isProper_diff (Ranges.isProper_unions (by simp))
      (Ranges.isProper_unions (by simp))) (by simp)
  have hmark : graphemeMarkRanges.IsProper :=
    Ranges.isProper_diff (Ranges.isProper_diff (Ranges.isProper_unions (by decide)) (by simp))
      (by simp)
  have hclosed : closedSyllableRanges.IsProper := Ranges.isProper_diff (by decide) (by simp)
  have hextend := Ranges.isProper_union (a := graphemeExtendRanges) (b := emojiModifierRanges)
    (by simp) (by simp)
  -- The other sets of the table are written out.
  simp only [AreProper, graphemeBreaks, List.forall_mem_cons, hcontrol, hmark, hclosed, hextend,
    true_and]
  decide

@[simp] theorem isProper_wordFormatRanges : wordFormatRanges.IsProper :=
  Ranges.isProper_diff (Ranges.isProper_diff (by simp) (Ranges.isProper_unions (by simp))) (by simp)

theorem isProper_katakanaRanges : katakanaRanges.IsProper :=
  Ranges.isProper_union (areProper_scripts.isProper_getD _) (by simp)

theorem isProper_hebrewLetterRanges : hebrewLetterRanges.IsProper :=
  Ranges.isProper_inter (areProper_scripts.isProper_getD _) (by simp)

theorem isProper_alphabeticWordRanges : alphabeticWordRanges.IsProper :=
  Ranges.isProper_diff (by simp) (Ranges.isProper_unions (by
    simp [isProper_katakanaRanges, isProper_hebrewLetterRanges, areProper_scripts.isProper_getD]))

theorem isProper_numericRanges : numericRanges.IsProper := by
  have hmark := Ranges.isProper_diff (a := prependedMarkRanges) (b := [(0x70F, 0x70F)])
    (by simp) (by decide)
  have hpoint : Ranges.IsProper [(0x66B, 0x66B)] := by decide
  exact Ranges.isProper_unions (by simp [hmark, hpoint])

theorem areProper_wordBreaks : AreProper wordBreaks := by
  have hextend := Ranges.isProper_diff (a := continuingRanges.union emojiModifierRanges)
    (b := [(0x200D, 0x200D)]) (by simp) (by decide)
  have hformat := Ranges.isProper_diff (b := [(0x200B, 0x200B)]) isProper_wordFormatRanges (by decide)
  have hconnector := Ranges.isProper_union (a := connectorPunctuationRanges)
    (b := [(0x202F, 0x202F)]) (by simp) (by decide)
  simp only [AreProper, wordBreaks, List.forall_mem_cons, hextend, hformat, hconnector,
    isProper_katakanaRanges, isProper_hebrewLetterRanges, isProper_alphabeticWordRanges,
    isProper_numericRanges, true_and]
  decide

@[simp] theorem isProper_sentenceLowerRanges : sentenceLowerRanges.IsProper :=
  Ranges.isProper_diff (by simp) (by simp)

@[simp] theorem isProper_sentenceUpperRanges : sentenceUpperRanges.IsProper :=
  Ranges.isProper_diff (by simp) (by simp)

@[simp] theorem isProper_sentenceEndRanges : sentenceEndRanges.IsProper := by
  simp [sentenceEndRanges]

theorem isProper_sentenceLetterRanges : sentenceLetterRanges.IsProper :=
  Ranges.isProper_diff (Ranges.isProper_union (by simp) (by decide))
    (Ranges.isProper_unions (by simp))

theorem isProper_sentenceCloseRanges : sentenceCloseRanges.IsProper := by
  have hpoint : Ranges.IsProper [(0x5F3, 0x5F3)] := by decide
  exact Ranges.isProper_diff (Ranges.isProper_unions (by simp))
    (Ranges.isProper_unions (by simp [hpoint]))

theorem areProper_sentenceBreaks : AreProper sentenceBreaks := by
  have hextend := Ranges.isProper_union (b := [(0x200D, 0x200D)]) isProper_continuingRanges
    (by decide)
  have hnumeric := Ranges.isProper_union (b := [(0x66C, 0x66C)]) isProper_numericRanges (by decide)
  simp only [AreProper, sentenceBreaks, List.forall_mem_cons, hextend, hnumeric,
    isProper_wordFormatRanges, isProper_sentenceLowerRanges, isProper_sentenceUpperRanges,
    isProper_sentenceEndRanges, isProper_sentenceLetterRanges, isProper_sentenceCloseRanges, true_and]
  decide

end ModuleReadme.Text
