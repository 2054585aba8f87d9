import ModuleReadme.Controller.Declaration
import ModuleReadme.Proofs.Text.Passing
import ModuleReadme.Proofs.Text.Ranges
import ModuleReadme.Proofs.Text.Trimming

/-!
# The grammar of signatures

Modifiers, type and name of a signature are made of the same characters, so that a line can be taken
apart in several ways; a modifier may even have to serve as the type. Reading from the first
parenthesis backwards decides without trying them out: a line is accepted exactly if it can be taken
apart in any way at all, and the name is the same in all of them (`handler_of_signature`).
-/

namespace ModuleReadme.Controller

open Text

variable {text rest more name gap : List Char} {line : Line}

/-!
## The grammar

The grammar says what a signature consists of and not how it is found. So nothing in it keeps a
line from being taken apart in more than one way.
-/

/-- Blanks, of which there is one at least. -/
def IsGap (text : List Char) : Prop := text ≠ [] ∧ ∀ c ∈ text, isBlank c = true

/-- A segment of a type: word characters and `.`, `<`, `>`, `[`, `]` and `?`. -/
def IsSegment (text : List Char) : Prop :=
  text ≠ [] ∧ ∀ c ∈ text, isWord c = true ∨ c ∈ ['.', '<', '>', '[', ']', '?']

/-- A type: segments with commas between them. Around the commas there may be blanks. -/
inductive IsTypeText : List Char → Prop
  | segment {s : List Char} (hs : IsSegment s) : IsTypeText s
  | comma {s before after more : List Char} (hs : IsSegment s)
      (hbefore : ∀ c ∈ before, isBlank c = true) (hafter : ∀ c ∈ after, isBlank c = true)
      (hmore : IsTypeText more) : IsTypeText (s ++ (before ++ ',' :: (after ++ more)))

/-- Modifiers, each with a gap behind it, and a type. -/
inductive IsModified : List Char → Prop
  | type {t : List Char} (ht : IsTypeText t) : IsModified t
  | modifier {word gap more : List Char}
      (hword : word ∈ ["static", "final", "synchronized", "abstract"].map String.toList)
      (hgap : IsGap gap) (hmore : IsModified more) : IsModified (word ++ (gap ++ more))

/-- An access keyword, a modified type and a name with gaps between them, and an opening parenthesis
behind the name. Blanks may stand in front of the parenthesis, and anything behind it. -/
inductive IsSignature (name : List Char) : Line → Prop
  | intro {access gap declared gap' blanks rest : List Char}
      (haccess : access ∈ ["public", "private", "protected"].map String.toList)
      (hgap : IsGap gap) (hdeclared : IsModified declared) (hgap' : IsGap gap') (hne : name ≠ [])
      (hname : ∀ c ∈ name, isWord c = true) (hblanks : ∀ c ∈ blanks, isBlank c = true) :
      IsSignature name
        (access ++ (gap ++ (declared ++ (gap' ++ (name ++ (blanks ++ '(' :: rest))))))

/-- The run of word characters that ends, blanks apart, at the first parenthesis of a line. It
cannot be made longer to the left. -/
inductive IsRunAhead (name : List Char) : Line → Prop
  | intro {front blanks rest : List Char} (hfront : ∀ c ∈ front.getLast?, isWord c = false)
      (hne : name ≠ []) (hname : ∀ c ∈ name, isWord c = true)
      (hblanks : ∀ c ∈ blanks, isBlank c = true)
      (hfirst : '(' ∉ front ++ (name ++ blanks)) :
      IsRunAhead name (front ++ (name ++ (blanks ++ '(' :: rest)))

/-!
## Characters

All depends on which classes of characters have nothing in common: blanks, word characters, and
what else may be in a type.
-/

/-- What holds of the blanks, one by one, holds of every blank. -/
theorem forall_isBlank {P : Char → Prop}
    (h : ∀ n ∈ blankRanges.flatMap fun r => List.range' r.1 (r.2 + 1 - r.1), P (Char.ofNat n))
    {c : Char} (hc : isBlank c = true) : P c := by
  obtain ⟨r, hr, hle, hge⟩ := Ranges.has_iff.mp hc
  have hP := h c.toNat (List.mem_flatMap.mpr ⟨r, hr, List.mem_range'_1.mpr ⟨hle, by omega⟩⟩)
  rwa [Char.ofNat_toNat] at hP

theorem not_isTypeChar_of_isBlank {c : Char} (h : isBlank c = true) : isTypeChar c = false :=
  forall_isBlank (P := fun c => isTypeChar c = false) (by decide +kernel) h

theorem not_isBlank_of_isTypeChar {c : Char} (h : isTypeChar c = true) : isBlank c = false := by
  by_contra hblank
  rw [not_isTypeChar_of_isBlank (by simpa using hblank)] at h
  cases h

theorem isTypeChar_of_isWord {c : Char} (h : isWord c = true) : isTypeChar c = true := by
  rw [isTypeChar, h, Bool.true_or]

theorem not_isWord_of_isBlank {c : Char} (h : isBlank c = true) : isWord c = false := by
  by_contra hword
  have htype := isTypeChar_of_isWord (by simpa using hword)
  rw [not_isTypeChar_of_isBlank h] at htype
  cases htype

theorem isSegment_iff : IsSegment text ↔ text ≠ [] ∧ ∀ c ∈ text, isTypeChar c = true := by
  simp only [IsSegment, isTypeChar, Bool.or_eq_true, List.contains_iff_mem]

theorem IsSegment.ne (h : IsSegment text) {c : Char} (hc : isTypeChar c = false) : c ∉ text :=
  fun hmem => by
    rw [(isSegment_iff.mp h).2 c hmem] at hc
    cases hc

theorem not_mem_of_isBlank {c : Char} (h : ∀ d ∈ gap, isBlank d = true) (hc : isBlank c = false) :
    c ∉ gap := by
  intro hmem
  rw [h c hmem] at hc
  cases hc

/-- No blank is at an end of a text where a type character is. -/
theorem not_isBlank_of_end {fin : Option Char} (h : ∃ c ∈ fin, isTypeChar c = true) :
    ∀ c ∈ fin, isBlank c = false := by
  obtain ⟨c, hc, htype⟩ := h
  intro d hd
  obtain rfl := Option.mem_unique hc hd
  exact not_isBlank_of_isTypeChar htype

/-!
## Keywords

Behind a keyword all blanks are skipped, so what is left does not begin with one.
-/

theorem skipBlanks?_eq_some_iff :
    skipBlanks? text = some rest ↔
      ∃ gap, IsGap gap ∧ (∀ c ∈ rest.head?, isBlank c = false) ∧ text = gap ++ rest := by
  constructor
  · intro h
    cases text with
    | nil => cases h
    | cons c text =>
        rw [skipBlanks?] at h
        split at h
        · next hc =>
          obtain rfl := Option.some.inj h
          -- The first blank is tested for, and the other ones are trimmed away.
          obtain ⟨before, hbefore, htext⟩ := exists_trimStart text
          refine ⟨c :: before, ⟨List.cons_ne_nil c before, ?_⟩, ?_, ?_⟩
          · exact List.forall_mem_cons.mpr ⟨hc, hbefore⟩
          · exact fun d => not_isBlank_head_trimStart
          · rw [List.cons_append, ← htext]
        · cases h
  · rintro ⟨gap, ⟨hne, hgap⟩, hrest, rfl⟩
    obtain ⟨c, gap, rfl⟩ := List.exists_cons_of_ne_nil hne
    rw [List.forall_mem_cons] at hgap
    rw [List.cons_append, skipBlanks?, if_pos hgap.1, trimStart_append hgap.2]
    cases rest with
    | nil => rfl
    | cons d rest => rw [trimStart_cons (hrest d rfl)]

/-- Behind one of some words, of which none begins with another one, the blanks are skipped. -/
theorem afterKeyword?_eq_some_iff {words : List (List Char)}
    (hwords : ∀ v ∈ words, ∀ w ∈ words, v <+: w → v = w) :
    afterKeyword? words text = some rest ↔
      ∃ word ∈ words, ∃ gap, IsGap gap ∧ (∀ c ∈ rest.head?, isBlank c = false) ∧
        text = word ++ (gap ++ rest) := by
  rw [afterKeyword?, Option.bind_eq_some_iff]
  simp only [Prod.exists, afterOneOf?_eq_some_iff hwords, skipBlanks?_eq_some_iff]
  constructor
  · rintro ⟨word, _, ⟨hword, rfl⟩, gap, hgap, hrest, rfl⟩
    exact ⟨word, hword, gap, hgap, hrest, rfl⟩
  · rintro ⟨word, hword, gap, hgap, hrest, rfl⟩
    exact ⟨word, gap ++ rest, ⟨hword, rfl⟩, gap, hgap, hrest, rfl⟩

theorem afterKeyword?_access_eq_some_iff :
    afterKeyword? accessKeywords text = some rest ↔
      ∃ word ∈ ["public", "private", "protected"].map String.toList, ∃ gap, IsGap gap ∧
        (∀ c ∈ rest.head?, isBlank c = false) ∧ text = word ++ (gap ++ rest) :=
  afterKeyword?_eq_some_iff (by decide)

/-- A modifier is passed if no comma comes behind it. -/
theorem afterModifier?_eq_some_iff :
    afterModifier? text = some rest ↔
      (∃ word ∈ ["static", "final", "synchronized", "abstract"].map String.toList,
        ∃ gap, IsGap gap ∧ (∀ c ∈ rest.head?, isBlank c = false) ∧ text = word ++ (gap ++ rest)) ∧
      rest.head? ≠ some ',' := by
  rw [afterModifier?, Option.filter_eq_some_iff]
  refine and_congr (afterKeyword?_eq_some_iff (by decide)) ?_
  simp

/-!
## Types

A type is cut at its commas, and the pieces are trimmed. The grammar puts the blanks between
segment and comma instead.
-/

/-- A type begins with a type character, and with one it ends. -/
theorem IsTypeText.ends (h : IsTypeText text) :
    (∃ c ∈ text.head?, isTypeChar c = true) ∧ ∃ c ∈ text.getLast?, isTypeChar c = true := by
  induction h with
  | segment hs =>
      obtain ⟨hne, hs⟩ := isSegment_iff.mp hs
      exact ⟨⟨_, List.head?_eq_some_head hne, hs _ (List.head_mem hne)⟩,
        ⟨_, List.getLast?_eq_some_getLast hne, hs _ (List.getLast_mem hne)⟩⟩
  | @comma s before after more hs _ _ hmore ih =>
      obtain ⟨hne, hs⟩ := isSegment_iff.mp hs
      obtain ⟨-, c, hc, hlast⟩ := ih
      refine ⟨⟨_, ?_, hs _ (List.head_mem hne)⟩, ⟨c, ?_, hlast⟩⟩
      · rw [List.head?_append_of_ne_nil _ hne]
        exact List.head?_eq_some_head hne
      · have htext : s ++ (before ++ ',' :: (after ++ more)) =
            (s ++ (before ++ ',' :: after)) ++ more := by simp
        rw [htext]
        exact List.mem_getLast?_append_of_mem_getLast? hc

theorem isType_append_comma {s : List Char} (hs : ',' ∉ s) (more : List Char) :
    isType (s ++ ',' :: more) =
      ((!(trim s).isEmpty && (trim s).all isTypeChar) && isType more) := by
  rw [isType, List.splitOn_append_cons_self_of_not_mem hs, List.all_cons, ← isType]

theorem isType_of_not_mem (h : ',' ∉ text) :
    isType text = (!(trim text).isEmpty && (trim text).all isTypeChar) := by
  rw [isType, List.splitOn_eq_singleton h, List.all_cons, List.all_nil, Bool.and_true]

theorem isSegment_trim_iff :
    (!(trim text).isEmpty && (trim text).all isTypeChar) = true ↔ IsSegment (trim text) := by
  simp [isSegment_iff]

/-- A type is left when the blanks around it are trimmed away. -/
theorem IsTypeText.trim_eq (h : IsTypeText text) {before after : List Char}
    (hbefore : ∀ c ∈ before, isBlank c = true) (hafter : ∀ c ∈ after, isBlank c = true) :
    trim (before ++ (text ++ after)) = text := by
  obtain ⟨⟨c, hc, hhead⟩, hlast⟩ := h.ends
  exact trim_append hbefore ⟨c, hc, not_isBlank_of_isTypeChar hhead⟩ (not_isBlank_of_end hlast)
    hafter

/-- A type between blanks is taken as one. -/
theorem IsTypeText.isType_append (h : IsTypeText text) {before after : List Char}
    (hbefore : ∀ c ∈ before, isBlank c = true) (hafter : ∀ c ∈ after, isBlank c = true) :
    isType (before ++ (text ++ after)) = true := by
  have hcomma : isBlank ',' = false := by decide
  induction h generalizing before with
  | segment hs =>
      rw [isType_of_not_mem, isSegment_trim_iff, (IsTypeText.segment hs).trim_eq hbefore hafter]
      · exact hs
      · simp [not_mem_of_isBlank hbefore hcomma, not_mem_of_isBlank hafter hcomma,
          hs.ne (c := ',') (by decide)]
  | @comma s before' after' more hs hbefore' hafter' hmore ih =>
      have htext : before ++ (s ++ (before' ++ ',' :: (after' ++ more)) ++ after) =
          (before ++ (s ++ before')) ++ ',' :: (after' ++ (more ++ after)) := by simp
      rw [htext, isType_append_comma, ih hafter', Bool.and_true, isSegment_trim_iff,
        (IsTypeText.segment hs).trim_eq hbefore hbefore']
      · exact hs
      · simp [not_mem_of_isBlank hbefore hcomma, not_mem_of_isBlank hbefore' hcomma,
          hs.ne (c := ',') (by decide)]

/-- What is taken as a type is a type between blanks. -/
theorem exists_of_isType (h : isType text = true) :
    ∃ before t after, (∀ c ∈ before, isBlank c = true) ∧ (∀ c ∈ after, isBlank c = true) ∧
      IsTypeText t ∧ text = before ++ (t ++ after) := by
  induction hn : text.length using Nat.strongRecOn generalizing text with
  | _ n ih =>
    by_cases hcomma : ',' ∈ text
    · obtain ⟨s, more, rfl, hs⟩ := List.eq_append_cons_of_mem hcomma
      rw [isType_append_comma hs, Bool.and_eq_true, isSegment_trim_iff] at h
      have hlt : more.length < n := by
        simp only [List.length_append, List.length_cons] at hn
        omega
      obtain ⟨before', t, after', hbefore', hafter', ht, rfl⟩ := ih more.length hlt h.2 rfl
      obtain ⟨before, after, hbefore, hafter, hparts⟩ := exists_trim s
      refine ⟨before, _, after', hbefore, hafter', .comma h.1 hafter hbefore' ht, ?_⟩
      conv_lhs => rw [hparts]
      simp
    · rw [isType_of_not_mem hcomma, isSegment_trim_iff] at h
      obtain ⟨before, after, hbefore, hafter, hparts⟩ := exists_trim text
      exact ⟨before, trim text, after, hbefore, hafter, .segment h, hparts⟩

/-- A type is what is left when the blanks around it are trimmed away. -/
theorem isType_iff : isType text = true ↔ IsTypeText (trim text) := by
  constructor
  · intro h
    obtain ⟨before, t, after, hbefore, hafter, ht, rfl⟩ := exists_of_isType h
    rwa [ht.trim_eq hbefore hafter]
  · intro h
    obtain ⟨before, after, hbefore, hafter, hparts⟩ := exists_trim text
    rw [hparts]
    exact h.isType_append hbefore hafter

/-!
## Modifiers

A word such as `final` is a modifier if more of the type follows, and a type if nothing does.
Behind a modifier there are blanks and no comma, so taking off as many as there are takes nothing of
the type.
-/

/-- A run of characters that cannot be made longer is determined by the text. -/
theorem run_append_inj {p : Char → Bool} {run run' rest' : List Char}
    (h : run ++ rest = run' ++ rest') (hrun : ∀ c ∈ run, p c = true)
    (hrest : ∀ c ∈ rest.head?, p c = false) (hrun' : ∀ c ∈ run', p c = true)
    (hrest' : ∀ c ∈ rest'.head?, p c = false) : run = run' ∧ rest = rest' := by
  have htake : ∀ {run rest : List Char}, (∀ c ∈ run, p c = true) →
      (∀ c ∈ rest.head?, p c = false) → (run ++ rest).takeWhile p = run := by
    intro run rest hrun hrest
    rw [List.takeWhile_append_of_pos hrun]
    cases rest with
    | nil => simp
    | cons c rest => simp [hrest c rfl]
  have heq : run = run' := by rw [← htake hrun hrest, h, htake hrun' hrest']
  subst heq
  exact ⟨rfl, List.append_cancel_left h⟩

theorem isTypeChar_of_mem_modifier {word : List Char}
    (h : word ∈ ["static", "final", "synchronized", "abstract"].map String.toList) :
    word ≠ [] ∧ ∀ c ∈ word, isTypeChar c = true := by
  have hwords : ∀ word ∈ ["static", "final", "synchronized", "abstract"].map String.toList,
      word ≠ [] ∧ word.all isTypeChar = true := by decide
  obtain ⟨hne, hall⟩ := hwords word h
  exact ⟨hne, List.all_eq_true.mp hall⟩

theorem IsGap.head? (h : IsGap gap) (rest : List Char) :
    ∃ c ∈ (gap ++ rest).head?, isBlank c = true := by
  obtain ⟨c, gap, rfl⟩ := List.exists_cons_of_ne_nil h.1
  exact ⟨c, rfl, h.2 c List.mem_cons_self⟩

/-- A modifier in front of a type is passed by, and nothing is passed by of the type itself: a word
with a blank behind it is part of a type only if a comma comes next. -/
theorem IsTypeText.afterModifier?_eq_none (h : IsTypeText text) : afterModifier? text = none := by
  by_contra hsome
  obtain ⟨rest, hrest⟩ := Option.ne_none_iff_exists'.mp hsome
  obtain ⟨⟨word, hword, gap, hgap, hhead, htext⟩, hcomma⟩ := afterModifier?_eq_some_iff.mp hrest
  obtain ⟨b, hb, hblank⟩ := hgap.head? rest
  have hstop : ∀ c ∈ (gap ++ rest).head?, isTypeChar c = false := by
    intro c hc
    obtain rfl := Option.mem_unique hb hc
    exact not_isTypeChar_of_isBlank hblank
  cases h with
  | segment hs =>
      have hmem : b ∈ text := by
        rw [htext]
        exact List.mem_append_right _ (List.mem_of_mem_head? hb)
      exact hs.ne (not_isTypeChar_of_isBlank hblank) hmem
  | @comma s before after more hs hbefore hafter hmore =>
      -- The word would be the whole first segment, and so the comma would come next.
      have hstop' : ∀ c ∈ (before ++ ',' :: (after ++ more)).head?, isTypeChar c = false := by
        cases before with
        | nil => simp [show isTypeChar ',' = false by decide]
        | cons d before => simpa using not_isTypeChar_of_isBlank (hbefore d List.mem_cons_self)
      obtain ⟨-, hbehind⟩ := run_append_inj htext (isSegment_iff.mp hs).2 hstop'
        (isTypeChar_of_mem_modifier hword).2 hstop
      obtain ⟨-, hrest⟩ := run_append_inj hbehind hbefore
        (by simp [show isBlank ',' = false by decide]) hgap.2 hhead
      exact hcomma (by rw [← hrest]; rfl)

/-- Modifiers and a type begin with a type character, and with one they end. -/
theorem IsModified.ends (h : IsModified text) :
    (∃ c ∈ text.head?, isTypeChar c = true) ∧ ∃ c ∈ text.getLast?, isTypeChar c = true := by
  induction h with
  | type ht => exact ht.ends
  | @modifier word gap more hword hgap _ ih =>
      obtain ⟨hne, htype⟩ := isTypeChar_of_mem_modifier hword
      obtain ⟨-, c, hc, hlast⟩ := ih
      refine ⟨⟨_, ?_, htype _ (List.head_mem hne)⟩, ⟨c, ?_, hlast⟩⟩
      · rw [List.head?_append_of_ne_nil _ hne]
        exact List.head?_eq_some_head hne
      · rw [← List.append_assoc]
        exact List.mem_getLast?_append_of_mem_getLast? hc

/-- Modifiers are passed by from left to right: that is the only way to take them apart. -/
theorem isModified_iff :
    IsModified text ↔ IsTypeText text ∨ ∃ rest, afterModifier? text = some rest ∧ IsModified rest := by
  constructor
  · intro h
    cases h with
    | type ht => exact .inl ht
    | @modifier word gap more hword hgap hmore =>
        have hhead := not_isBlank_of_end hmore.ends.1
        have hcomma : more.head? ≠ some ',' := by
          obtain ⟨⟨c, hc, htype⟩, -⟩ := hmore.ends
          intro heq
          obtain rfl := Option.mem_unique hc heq
          exact absurd htype (by decide)
        exact .inr ⟨more,
          afterModifier?_eq_some_iff.mpr ⟨⟨word, hword, gap, hgap, hhead, rfl⟩, hcomma⟩, hmore⟩
  · rintro (ht | ⟨rest, hrest, hmodified⟩)
    · exact .type ht
    · obtain ⟨⟨word, hword, gap, hgap, -, rfl⟩, -⟩ := afterModifier?_eq_some_iff.mp hrest
      exact .modifier hword hgap hmodified

/-- Passing by all modifiers that come first leaves a type exactly if there are any modifiers with a
type behind them. -/
theorem isType_dropMany_iff (hhead : ∀ c ∈ text.head?, isBlank c = false)
    (hlast : ∀ c ∈ text.getLast?, isBlank c = false) :
    isType (dropMany afterModifier? text) = true ↔ IsModified text := by
  fun_induction dropMany afterModifier? text with
  | case1 text rest hrest hlt ih =>
      -- A modifier is passed by, so the text is not a type as it stands.
      obtain ⟨⟨word, hword, gap, hgap, hresthead, rfl⟩, -⟩ := afterModifier?_eq_some_iff.mp hrest
      have hrestlast : ∀ c ∈ rest.getLast?, isBlank c = false := by
        intro c hc
        rw [← List.append_assoc] at hlast
        exact hlast c (List.mem_getLast?_append_of_mem_getLast? hc)
      rw [ih hresthead hrestlast]
      constructor
      · exact fun h => isModified_iff.mpr (.inr ⟨rest, hrest, h⟩)
      · intro h
        rcases isModified_iff.mp h with ht | ⟨rest', hrest', h⟩
        · rw [ht.afterModifier?_eq_none] at hrest
          cases hrest
        · rw [hrest, Option.some_inj] at hrest'
          rwa [hrest']
  | case2 text rest hrest hlt =>
      obtain ⟨⟨word, -, gap, hgap, -, rfl⟩, -⟩ := afterModifier?_eq_some_iff.mp hrest
      have hpos : 0 < gap.length := List.length_pos_iff.mpr hgap.1
      simp only [List.length_append] at hlt
      -- A modifier that is passed by makes the text shorter.
      omega
  | case3 text hnone =>
      rw [isType_iff, trim_eq_self hhead hlast, isModified_iff]
      simp [hnone]

theorem isHandlerPrefix_iff (hlast : ∀ c ∈ text.getLast?, isBlank c = false) :
    isHandlerPrefix text = true ↔
      ∃ access ∈ ["public", "private", "protected"].map String.toList, ∃ gap declared,
        IsGap gap ∧ IsModified declared ∧ text = access ++ (gap ++ declared) := by
  rw [isHandlerPrefix]
  constructor
  · intro h
    split at h
    · next rest hrest =>
      obtain ⟨access, haccess, gap, hgap, hhead, rfl⟩ := afterKeyword?_access_eq_some_iff.mp hrest
      have hrestlast : ∀ c ∈ rest.getLast?, isBlank c = false := by
        intro c hc
        rw [← List.append_assoc] at hlast
        exact hlast c (List.mem_getLast?_append_of_mem_getLast? hc)
      exact ⟨access, haccess, gap, rest, hgap, (isType_dropMany_iff hhead hrestlast).mp h, rfl⟩
    · cases h
  · rintro ⟨access, haccess, gap, declared, hgap, hdeclared, rfl⟩
    have hhead := not_isBlank_of_end hdeclared.ends.1
    rw [afterKeyword?_access_eq_some_iff.mpr ⟨access, haccess, gap, hgap, hhead, rfl⟩]
    exact (isType_dropMany_iff hhead (not_isBlank_of_end hdeclared.ends.2)).mpr hdeclared

/-!
## Signatures

The first parenthesis of a signature is the one behind the name, as nothing in front of it can hold
one. From there the name is read backwards, as far as word characters go.
-/

/-- In front of the first parenthesis a signature is read from the end: blanks, the name, a gap, and
what stands in front of it. -/
theorem signatureName?_append_eq_some_iff {front : List Char} (hfront : '(' ∉ front)
    (rest : List Char) :
    signatureName? (front ++ '(' :: rest) = some name ↔
      ∃ before gap, IsGap gap ∧ (∀ c ∈ before.getLast?, isBlank c = false) ∧ name ≠ [] ∧
        (∀ c ∈ name, isWord c = true) ∧ isHandlerPrefix before = true ∧
        trimEnd front = before ++ (gap ++ name) := by
  have hcontains : (front ++ '(' :: rest).contains '(' = true := by simp
  have htake : (front ++ '(' :: rest).takeWhile (· != '(') = front := by
    rw [List.takeWhile_append_of_pos fun c hc => by simpa using ne_of_mem_of_not_mem hc hfront]
    simp
  rw [signatureName?, if_pos hcontains, htake]
  generalize trimEnd front = declared
  simp only
  constructor
  · intro h
    split at h
    · cases h
    · next hfound =>
      obtain rfl := Option.some.inj h
      simp only [Bool.or_eq_true, not_or, decide_eq_true_eq] at hfound
      obtain ⟨⟨hne, hgap⟩, hprefix⟩ := hfound
      -- The name is taken off the end, and then the blanks in front of it.
      obtain ⟨gap, hblank, hparts⟩ := exists_trimEnd (dropEndWhile isWord declared)
      have hgapne : gap ≠ [] := by
        rintro rfl
        rw [List.append_nil] at hparts
        exact hgap hparts.symm
      refine ⟨trimEnd (dropEndWhile isWord declared), gap, ⟨hgapne, hblank⟩,
        fun c => not_isBlank_getLast_trimEnd, by simpa using hne, fun c => mem_takeEndWhile_imp,
        by simpa using hprefix, ?_⟩
      rw [← List.append_assoc, ← hparts, dropEndWhile_append_takeEndWhile]
  · rintro ⟨before, gap, hgap, hlast, hne, hname, hprefix, rfl⟩
    -- Blanks are no word characters, so the run that is taken off is the name.
    have hstop : ∀ c ∈ (before ++ gap).getLast?, isWord c = false := by
      intro c hc
      rw [List.getLast?_append_of_ne_nil _ hgap.1] at hc
      exact not_isWord_of_isBlank (hgap.2 c (List.mem_of_mem_getLast? hc))
    have htrim : trimEnd (before ++ gap) = before := dropEndWhile_append hlast hgap.2
    rw [← List.append_assoc, takeEndWhile_append hstop hname, dropEndWhile_append hstop hname,
      htrim, if_neg]
    simp [hne, hprefix, hgap.1]

theorem IsModified.not_mem (h : IsModified text) : '(' ∉ text := by
  induction h with
  | type ht =>
      induction ht with
      | segment hs => exact hs.ne (by decide)
      | comma hs hbefore hafter _ ih =>
          simp [hs.ne (c := '(') (by decide), not_mem_of_isBlank hbefore (c := '(') (by decide),
            not_mem_of_isBlank hafter (c := '(') (by decide), ih]
  | @modifier word gap more hword hgap _ ih =>
      have hword : '(' ∉ word := by
        revert word
        decide
      simp [hword, not_mem_of_isBlank hgap.2 (c := '(') (by decide), ih]

/-- No parenthesis comes before the one behind the name, and in front of the name there is a gap. -/
theorem IsSignature.exists_front (h : IsSignature name line) :
    ∃ before gap blanks rest, IsGap gap ∧ (∀ c ∈ before.getLast?, isBlank c = false) ∧ name ≠ [] ∧
      (∀ c ∈ name, isWord c = true) ∧ isHandlerPrefix before = true ∧
      (∀ c ∈ blanks, isBlank c = true) ∧ '(' ∉ before ++ (gap ++ (name ++ blanks)) ∧
      line = before ++ (gap ++ (name ++ (blanks ++ '(' :: rest))) := by
  obtain @⟨access, gap, declared, gap', blanks, rest, haccess, hgap, hdeclared, hgap', hne, hname,
    hblanks⟩ := h
  obtain ⟨-, c, hc, htype⟩ := hdeclared.ends
  have hlast : ∀ d ∈ (access ++ (gap ++ declared)).getLast?, isBlank d = false := by
    rw [← List.append_assoc]
    exact not_isBlank_of_end ⟨c, List.mem_getLast?_append_of_mem_getLast? hc, htype⟩
  have hwords : ∀ word ∈ ["public", "private", "protected"].map String.toList, '(' ∉ word := by
    decide
  have hopen := hwords access haccess
  have hopenname : '(' ∉ name := fun hmem => absurd (hname _ hmem) (by decide)
  have hopenblank : isBlank '(' = false := by decide
  refine ⟨access ++ (gap ++ declared), gap', blanks, rest, hgap', hlast, hne, hname,
    (isHandlerPrefix_iff hlast).mpr ⟨access, haccess, gap, declared, hgap, hdeclared, rfl⟩, hblanks,
    ?_, by simp⟩
  simp [hopen, hopenname, hdeclared.not_mem, not_mem_of_isBlank hgap.2 hopenblank,
    not_mem_of_isBlank hgap'.2 hopenblank, not_mem_of_isBlank hblanks hopenblank]

/-- A line is a signature with this name exactly if it has the form of one. -/
theorem signatureName?_eq_some_iff : signatureName? line = some name ↔ IsSignature name line := by
  constructor
  · intro h
    have hopen : '(' ∈ line := by
      by_contra hnone
      simp [signatureName?, hnone] at h
    -- The line is cut at its first parenthesis.
    obtain ⟨front, rest, rfl, hfront⟩ := List.eq_append_cons_of_mem hopen
    obtain ⟨before, gap', hgap', hlast, hne, hname, hprefix, htrim⟩ :=
      (signatureName?_append_eq_some_iff hfront rest).mp h
    obtain ⟨access, haccess, gap, declared, hgap, hdeclared, rfl⟩ :=
      (isHandlerPrefix_iff hlast).mp hprefix
    obtain ⟨blanks, hblanks, hparts⟩ := exists_trimEnd front
    rw [hparts, htrim]
    simp only [List.append_assoc]
    exact .intro haccess hgap hdeclared hgap' hne hname hblanks
  · intro h
    obtain ⟨before, gap, blanks, rest, hgap, hlast, hne, hname, hprefix, hblanks, hopen, rfl⟩ :=
      h.exists_front
    have hline : before ++ (gap ++ (name ++ (blanks ++ '(' :: rest))) =
        before ++ (gap ++ (name ++ blanks)) ++ '(' :: rest := by simp
    rw [hline, signatureName?_append_eq_some_iff hopen]
    refine ⟨before, gap, hgap, hlast, hne, hname, hprefix, ?_⟩
    -- Behind the name there are blanks only, which are trimmed away.
    have hnamelast : ∀ c ∈ (before ++ (gap ++ name)).getLast?, isBlank c = false := by
      intro c hc
      rw [← List.append_assoc, List.getLast?_append_of_ne_nil _ hne] at hc
      exact not_isBlank_of_isTypeChar
        (isTypeChar_of_isWord (hname c (List.mem_of_mem_getLast? hc)))
    rw [← List.append_assoc, ← List.append_assoc, List.append_assoc before]
    exact dropEndWhile_append hnamelast hblanks

/-- However a signature is taken apart, its name is the run of word characters in front of the first
parenthesis. -/
theorem IsSignature.isRunAhead (h : IsSignature name line) : IsRunAhead name line := by
  obtain ⟨before, gap, blanks, rest, hgap, -, hne, hname, -, hblanks, hopen, rfl⟩ := h.exists_front
  rw [← List.append_assoc] at hopen ⊢
  refine .intro ?_ hne hname hblanks hopen
  intro c hc
  rw [List.getLast?_append_of_ne_nil _ hgap.1] at hc
  exact not_isWord_of_isBlank (hgap.2 c (List.mem_of_mem_getLast? hc))

/-- A trimmed line is taken as a signature exactly if it can be taken apart as one. Then it gives the
handler of a mapping directly above it, and there is one name only, which is the run of word
characters in front of the first parenthesis. -/
theorem handler_of_signature (line : Line) :
    (∀ name, signatureName? (trim line) = some name ↔ IsSignature name (trim line)) ∧
    ∀ name, IsSignature name (trim line) →
      (∀ below, handlerBelow? (line :: below) = some name) ∧ IsRunAhead name (trim line) ∧
        ∀ other, IsSignature other (trim line) → other = name := by
  refine ⟨fun name => signatureName?_eq_some_iff, fun name h => ⟨fun below => ?_, h.isRunAhead, ?_⟩⟩
  · rw [handlerBelow?, handlerReach, List.take_succ_cons, List.findSome?_cons,
      signatureName?_eq_some_iff.mpr h]
  · intro other hother
    rw [← signatureName?_eq_some_iff] at h hother
    exact Option.some.inj (hother.symm.trans h)

/-- In this line `final` has to serve as the type. -/
theorem handler_of_signature_final :
    let line := "  public static final run (int a) ".toList
    IsSignature "run".toList (trim line) ∧ handlerBelow? [line] = some "run".toList ∧
      IsRunAhead "run".toList (trim line) := by
  intro line
  have hgap : IsGap " ".toList := ⟨by decide, List.all_eq_true.mp (by decide)⟩
  have hfinal : IsSegment "final".toList :=
    isSegment_iff.mpr ⟨by decide, List.all_eq_true.mp (by decide)⟩
  have hdeclared : IsModified ("static".toList ++ (" ".toList ++ "final".toList)) :=
    .modifier (by decide) hgap (.type (.segment hfinal))
  have hline : trim line = "public".toList ++ (" ".toList ++
      (("static".toList ++ (" ".toList ++ "final".toList)) ++ (" ".toList ++ ("run".toList ++
        (" ".toList ++ '(' :: "int a)".toList))))) := by decide
  have hsignature : IsSignature "run".toList (trim line) := by
    rw [hline]
    exact .intro (by decide) hgap hdeclared hgap (by decide) (List.all_eq_true.mp (by decide))
      hgap.2
  obtain ⟨hhandler, hrun, -⟩ := (handler_of_signature line).2 _ hsignature
  exact ⟨hsignature, hhandler [], hrun⟩

end ModuleReadme.Controller
