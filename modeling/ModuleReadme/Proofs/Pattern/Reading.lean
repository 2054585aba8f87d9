import ModuleReadme.Pattern.Notation
import ModuleReadme.Proofs.Pattern.Simplification
import ModuleReadme.Proofs.Text.Tables

/-!
# What written patterns stand for

Every pattern that a text spells out is tidy (`isTidy_of_ofText?`): whatever classes, properties
and operators were used to write its sets down, these are proper sets of characters. So what holds
of operations on proper sets and of simplification holds of everything that is read. The invariant
goes through the reader from the inside out: escapes, brackets, groups, and then one step of
reading after the other.
-/

namespace ModuleReadme.Pattern

open Text

variable {s : Setting} {set : Ranges} {text rest : List Char}

/-!
## Sets

The tables are proper as they stand, and every operation that a setting asks for keeps a set proper.
-/

theorem areProper_asciiClasses : AreProper asciiClasses := by
  unfold AreProper
  decide

theorem isProper_asciiClass? {name : String} (h : asciiClass? name = some set) : set.IsProper :=
  areProper_asciiClasses.isProper_named? h

theorem isProper_fold (s : Setting) (h : set.IsProper) : (s.fold set).IsProper := by
  unfold Setting.fold
  split
  · split
    · exact Ranges.isProper_foldCase h
    · exact Ranges.isProper_foldAsciiCase h
  · exact h

theorem isProper_valued {entry : List String × (String → Option Ranges)} {value : String}
    (hentry : entry ∈ valuedProperties) (h : entry.2 value = some set) : set.IsProper := by
  simp only [valuedProperties, List.mem_cons, List.not_mem_nil, or_false] at hentry
  obtain rfl | rfl | rfl | rfl | rfl | rfl | rfl := hentry
  · exact isProper_category? h
  · exact areProper_scripts.isProper_named? h
  · exact isProper_usedWith? h
  · exact isProper_charactersSince? h
  · exact areProper_graphemeBreaks.isProper_named? h
  · exact areProper_wordBreaks.isProper_named? h
  · exact areProper_sentenceBreaks.isProper_named? h

theorem isProper_query {query : PropertyQuery} (h : query.set? = some set) : set.IsProper := by
  cases query with
  | named name =>
      rw [PropertyQuery.set?, Option.or_eq_some_iff, Option.or_eq_some_iff] at h
      obtain h | ⟨-, h | ⟨-, h⟩⟩ := h
      · exact areProper_properties.isProper_named? h
      · exact isProper_category? h
      · exact areProper_scripts.isProper_named? h
  | valued name value negated =>
      obtain ⟨entry, hentry, h⟩ := Option.bind_eq_some_iff.mp h
      exact isProper_valued (List.mem_of_find?_eq_some hentry) h

/-!
## Escapes

An escape is a character, a condition or a set. Only a set has to be proper, so the cases that
matter are the classes and the properties.
-/

namespace Escape

def IsTidy : Escape → Prop
  | .set chars => chars.IsProper
  | _ => True

variable {e : Escape}

theorem isTidy_of_character? {byte : Bool} {n : Nat} (h : character? byte n = some e) :
    e.IsTidy := by
  unfold character? at h
  split at h
  · cases h
    trivial
  · cases h

theorem isTidy_of_codePoint? {count : Nat} (h : codePoint? s count text = some (e, rest)) :
    e.IsTidy := by
  unfold codePoint? at h
  split at h
  · simp only [Option.bind_eq_bind, Option.bind_eq_some_iff, Option.pure_def, Option.some.injEq,
      Prod.mk.injEq] at h
    obtain ⟨digits, -, n, -, e, he, rfl, -⟩ := h
    exact isTidy_of_character? he
  · simp only [Option.bind_eq_bind, Option.bind_eq_some_iff, Option.pure_def, Option.some.injEq,
      Prod.mk.injEq] at h
    obtain ⟨r, -, e, he, rfl, -⟩ := h
    exact isTidy_of_character? he

theorem isTidy_of_letterClass? {negated : Bool} {unicode : Ranges} {ascii : String}
    (hunicode : unicode.IsProper)
    (h : (letterClass? s negated unicode ascii).map (·, text) = some (e, rest)) : e.IsTidy := by
  obtain ⟨e, he, heq⟩ := Option.map_eq_some_iff.mp h
  cases heq
  unfold letterClass? at he
  split at he
  · cases he
    exact Ranges.isProper_signed negated hunicode
  · split at he
    · cases he
    · obtain ⟨set, hset, rfl⟩ := Option.map_eq_some_iff.mp he
      exact isProper_asciiClass? hset

/-- A property and its negation are read alike, and every character has one of them and not both. -/
theorem property?_not {negated : Bool} (h : property? s negated text = some (e, rest)) :
    ∃ chars others, e = .set chars ∧ chars.IsProper ∧
      property? s (!negated) text = some (.set others, rest) ∧ ∀ c, others.has c = !chars.has c := by
  -- Wherever the name was found, the set is that of the query, with the case folded and the sign put in.
  have hquery {name rest' : List Char}
      (h : ((PropertyQuery.ofName name).set?.bind fun set =>
        some (Escape.set (.signed (negated ^^ (PropertyQuery.ofName name).isNegated) (s.fold set)),
          rest')) = some (e, rest)) :
      ∃ chars others, e = .set chars ∧ chars.IsProper ∧
        ((PropertyQuery.ofName name).set?.bind fun set =>
          some (Escape.set (.signed (!negated ^^ (PropertyQuery.ofName name).isNegated) (s.fold set)),
            rest')) = some (.set others, rest) ∧ ∀ c, others.has c = !chars.has c := by
    obtain ⟨set, hset, heq⟩ := Option.bind_eq_some_iff.mp h
    cases heq
    have hproper := isProper_fold s (isProper_query hset)
    refine ⟨_, _, rfl, Ranges.isProper_signed _ hproper, by rw [hset]; rfl, fun c => ?_⟩
    rw [Ranges.has_signed _ hproper, Ranges.has_signed _ hproper, Bool.not_xor, Bool.not_xor]
  unfold property? at h ⊢
  split at h
  · cases h
  · next hunicode =>
    rw [if_neg hunicode]
    split at h
    · cases h
    · obtain ⟨r, hr, h⟩ := Option.bind_eq_some_iff.mp h
      simp only [hr]
      exact hquery h
    · cases h
    · exact hquery h

theorem isTidy_of_property? {negated : Bool} (h : property? s negated text = some (e, rest)) :
    e.IsTidy := by
  obtain ⟨chars, others, rfl, hproper, -⟩ := property?_not h
  exact hproper

theorem isTidy_of_read? (h : read? s text = some (e, rest)) : e.IsTidy := by
  unfold read? at h
  split at h
  · cases h
  · split at h
    · cases h
      trivial
    · split at h
      case h_1 | h_2 | h_3 => exact isTidy_of_codePoint? h
      case h_4 | h_5 => exact isTidy_of_property? h
      case h_6 | h_7 => exact isTidy_of_letterClass? isProper_categoryRanges.2.2.2.2.2.2.2.2.1 h
      case h_8 | h_9 => exact isTidy_of_letterClass? isProper_blankRanges h
      case h_10 | h_11 => exact isTidy_of_letterClass? isProper_wordRanges h
      case h_20 =>
        obtain ⟨r, -, heq⟩ := Option.map_eq_some_iff.mp h
        cases heq
        trivial
      all_goals
        cases h <;> trivial

theorem isProper_set? (he : e.IsTidy) (h : e.set? s = some set) : set.IsProper := by
  cases e with
  | set chars =>
      cases h
      exact he
  | character c byte =>
      obtain ⟨c, -, rfl⟩ := Option.map_eq_some_iff.mp h
      exact Ranges.isProper_single c
  | condition c => cases h

end Escape

/-!
## Brackets

A bracket that is read has an operand in front of the last operator, which is waiting for the rest.
So brackets are tidy if all sets that wait in them are proper, and those around them, too.
-/

namespace Bracket

variable {b : Bracket} {outer : List Bracket}

structure IsTidy (b : Bracket) : Prop where
  front : ∀ f ∈ b.front, f.1.set.IsProper
  items : ∀ i ∈ b.items, i.set.IsProper

theorem IsTidy.add (hb : b.IsTidy) (h : set.IsProper) : (b.add set).IsTidy :=
  ⟨hb.front, List.forall_mem_cons.mpr ⟨h, hb.items⟩⟩

theorem IsTidy.addBracket (hb : b.IsTidy) {inner : NestedSet} (h : inner.set.IsProper) :
    (b.addBracket inner).IsTidy :=
  ⟨hb.front, List.forall_mem_cons.mpr ⟨h, hb.items⟩⟩

theorem IsTidy.isProper_back (hb : b.IsTidy) : b.back.set.IsProper := by
  apply Ranges.isProper_ofList
  intro r hr
  obtain ⟨i, hi, hr⟩ := List.mem_flatMap.mp hr
  exact (Ranges.isProper_iff.mp (hb.items i hi)).2 r hr

theorem isProper_apply {x y : Ranges} (o : Operator) (hx : x.IsProper) (hy : y.IsProper) :
    (o.apply x y).IsProper := by
  cases o with
  | intersection => exact Ranges.isProper_inter hx hy
  | difference => exact Ranges.isProper_diff hx hy
  | symmetricDifference => exact Ranges.isProper_symmDiff hx hy

theorem IsTidy.isProper_content (hb : b.IsTidy) (s : Setting) : (b.content s).set.IsProper := by
  unfold content
  split
  · exact hb.isProper_back
  · next front o hfront =>
    exact isProper_apply o (isProper_fold s (hb.front _ hfront)) (isProper_fold s hb.isProper_back)

theorem IsTidy.operate (hb : b.IsTidy) (s : Setting) (o : Operator) : (b.operate s o).IsTidy where
  front := by
    intro f hf
    cases hf
    exact hb.isProper_content s
  items := by simp [Bracket.operate]

theorem isProper_enclosed? {negated : Bool} {closed : Ranges} (h : set.IsProper)
    (hclosed : s.enclosed? negated set = some closed) : closed.IsProper := by
  unfold Setting.enclosed? at hclosed
  split at hclosed
  · cases hclosed
  · cases hclosed
    exact Ranges.isProper_signed negated (isProper_fold s h)

theorem IsTidy.isProper_closed? (hb : b.IsTidy) {closed : NestedSet}
    (h : b.closed? s = some closed) : closed.set.IsProper := by
  obtain ⟨set, hset, rfl⟩ := Option.map_eq_some_iff.mp h
  exact isProper_enclosed? (hb.isProper_content s) hset

theorem IsTidy.minusSigns (hb : b.IsTidy) : (minusSigns s b text).1.IsTidy := by
  fun_induction Bracket.minusSigns s b text with
  | case1 b rest hlt ih => exact ih (hb.add (Ranges.isProper_single '-'))
  | case2 => exact hb

theorem isTidy_beginItems (negated : Bool) : (beginItems s negated text).1.IsTidy := by
  have hnone : IsTidy { negated, front := none, items := [] } := ⟨by simp, by simp⟩
  unfold beginItems
  split
  · exact hnone.add (Ranges.isProper_single ']')
  · exact hnone.minusSigns

theorem isTidy_begin : (begin s text).1.IsTidy := by
  unfold begin
  split
  · exact isTidy_beginItems true
  · exact isTidy_beginItems false

theorem isProper_ascii? {negated : Bool} (h : ascii? text = some (negated, set, rest)) :
    set.IsProper := by
  simp only [ascii?, Option.bind_eq_bind, Option.bind_eq_some_iff, Option.pure_def,
    Option.some.injEq, Prod.mk.injEq] at h
  obtain ⟨tail, -, set, hset, text, -, -, rfl, -⟩ := h
  exact isProper_asciiClass? hset

theorem isTidy_of_item? {e : Escape} (h : item? s text = some (e, rest)) : e.IsTidy := by
  unfold item? at h
  split at h
  · cases h
  · exact Escape.isTidy_of_read? h
  · cases h
    trivial

theorem isProper_range? (h : range? s text = some (set, rest)) : set.IsProper := by
  obtain ⟨⟨first, tail⟩, hitem, h⟩ := Option.bind_eq_some_iff.mp h
  have hfirst := isTidy_of_item? hitem
  have hsingle {set' : Ranges}
      (h : ((first.set? s).bind fun set => some (set, tail)) = some (set', rest)) :
      set'.IsProper := by
    obtain ⟨set, hset, heq⟩ := Option.bind_eq_some_iff.mp h
    cases heq
    exact Escape.isProper_set? hfirst hset
  dsimp only at h
  split at h
  · split at h
    · exact hsingle h
    · simp only [Option.bind_eq_bind, Option.bind_eq_some_iff] at h
      obtain ⟨last, -, a, -, b, -, h⟩ := h
      split at h
      · next hle =>
        cases h
        exact Ranges.isProper_between hle
      · cases h
  · exact hsingle h

/-- All sets are proper in what a step of reading comes to. -/
def Progress.IsTidy : Progress → Prop
  | .inside b outer => b.IsTidy ∧ ∀ o ∈ outer, o.IsTidy
  | .complete set => set.set.IsProper

theorem isTidy_of_step? {progress : Progress} (hb : b.IsTidy) (houter : ∀ o ∈ outer, o.IsTidy)
    (h : step? s b outer text = some (progress, rest)) : progress.IsTidy := by
  unfold step? at h
  -- The end of the text, an opening bracket, a closing one, three operators, and a range.
  split at h
  · cases h
  · split at h
    · next hascii =>
      obtain ⟨set, hset, heq⟩ := Option.map_eq_some_iff.mp h
      cases heq
      exact ⟨hb.add (isProper_enclosed? (isProper_ascii? hascii) hset), houter⟩
    · cases h
      exact ⟨isTidy_begin, List.forall_mem_cons.mpr ⟨hb, houter⟩⟩
  · obtain ⟨set, hset, h⟩ := Option.bind_eq_some_iff.mp h
    have hset := hb.isProper_closed? hset
    split at h
    · cases h
      exact hset
    · cases h
      obtain ⟨hparent, houter⟩ := List.forall_mem_cons.mp houter
      exact ⟨hparent.addBracket hset, houter⟩
  · cases h
    exact ⟨hb.operate s _, houter⟩
  · cases h
    exact ⟨hb.operate s _, houter⟩
  · cases h
    exact ⟨hb.operate s _, houter⟩
  · obtain ⟨r, hr, heq⟩ := Option.map_eq_some_iff.mp h
    cases heq
    exact ⟨hb.add (isProper_range? hr), houter⟩

theorem isProper_of_readRest? {count : Nat} {closed : NestedSet} (hb : b.IsTidy)
    (houter : ∀ o ∈ outer, o.IsTidy) (h : readRest? s b outer count text = some (closed, rest)) :
    closed.set.IsProper := by
  induction count generalizing b outer text with
  | zero => cases h
  | succ count ih =>
      unfold readRest? at h
      split at h
      · cases h
      · next hstep =>
        cases h
        exact isTidy_of_step? hb houter hstep
      · next hstep =>
        obtain ⟨hb, houter⟩ := isTidy_of_step? hb houter hstep
        exact ih hb houter h

theorem isProper_of_read? {closed : NestedSet} (h : read? s text = some (closed, rest)) :
    closed.set.IsProper :=
  isProper_of_readRest? isTidy_begin (by simp) h

end Bracket

/-!
## Groups and repetition

A draft has the groups that are open, the innermost one first. Each step of reading adds an item to
it, opens a group or closes one, and changes nothing of what is further out.
-/

theorem isTidy_literal (s : Setting) (c : Char) : (s.literal c).IsTidy :=
  isTidy_ofSet (isProper_fold s (Ranges.isProper_single c))

theorem isTidy_dot? {p : Pattern} (h : s.dot? = some p) : p.IsTidy := by
  unfold Setting.dot? at h
  split at h
  · cases h
  · split at h
    · cases h
      exact Ranges.isProper_all
    · split at h
      · cases h
        exact Ranges.isProper_complement (by decide)
      · cases h
        exact Ranges.isProper_complement (by decide)

namespace Group

structure IsTidy (g : Group) : Prop where
  branches : ∀ i ∈ g.branches, i.pattern.IsTidy
  items : ∀ i ∈ g.items, i.pattern.IsTidy

variable {g : Group}

theorem IsTidy.branch (hg : g.IsTidy) : g.branch.pattern.IsTidy := by
  apply isTidy_sequence
  intro p hp
  obtain ⟨i, hi, rfl⟩ := List.mem_map.mp hp
  exact hg.items i (List.mem_reverse.mp hi)

theorem IsTidy.content (hg : g.IsTidy) : g.content.pattern.IsTidy := by
  apply isTidy_alternatives
  intro p hp
  obtain ⟨i, hi, rfl⟩ := List.mem_map.mp hp
  obtain rfl | hi := List.mem_cons.mp (List.mem_reverse.mp hi)
  · exact hg.branch
  · exact hg.branches i hi

theorem IsTidy.item (hg : g.IsTidy) : g.item.pattern.IsTidy := by
  unfold Group.item
  cases g.number with
  | none => exact hg.content
  | some number => exact hg.content

end Group

namespace Draft

variable {d d' : Draft}

structure IsTidy (d : Draft) : Prop where
  group : d.group.IsTidy
  outer : ∀ g ∈ d.outer, g.IsTidy

theorem isTidy_start : start.IsTidy :=
  ⟨⟨by simp [start], by simp [start]⟩, by simp [start]⟩

theorem IsTidy.push (hd : d.IsTidy) {item : Item} (h : item.pattern.IsTidy) : (d.push item).IsTidy :=
  ⟨⟨hd.group.branches, List.forall_mem_cons.mpr ⟨h, hd.group.items⟩⟩, hd.outer⟩

theorem IsTidy.bar (hd : d.IsTidy) : d.bar.IsTidy :=
  ⟨⟨List.forall_mem_cons.mpr ⟨hd.group.branch, hd.group.branches⟩, by simp [Draft.bar]⟩, hd.outer⟩

theorem IsTidy.enter (hd : d.IsTidy) (s : Setting) : (d.enter s).IsTidy :=
  ⟨⟨by simp [Draft.enter], by simp [Draft.enter]⟩, List.forall_mem_cons.mpr ⟨hd.group, hd.outer⟩⟩

theorem IsTidy.enterNumbered (hd : d.IsTidy) : d.enterNumbered.IsTidy :=
  ⟨⟨(hd.enter d.setting).group.branches, (hd.enter d.setting).group.items⟩,
    (hd.enter d.setting).outer⟩

theorem IsTidy.leave? (hd : d.IsTidy) (h : d.leave? = some d') : d'.IsTidy := by
  unfold Draft.leave? at h
  split at h
  · cases h
  · next parent outer houter =>
    cases h
    have := hd.outer
    rw [houter, List.forall_mem_cons] at this
    exact ⟨⟨this.1.branches, List.forall_mem_cons.mpr ⟨hd.group.item, this.1.items⟩⟩, this.2⟩

theorem IsTidy.repeat? {least : Nat} {most : Option Nat} {rarely : Bool} (hd : d.IsTidy)
    (h : d.repeat? least most rarely = some d') : d'.IsTidy := by
  unfold Draft.repeat? at h
  split at h
  · cases h
  · next item items hitems =>
    have := hd.group.items
    rw [hitems, List.forall_mem_cons] at this
    split at h
    · cases h
      exact ⟨⟨hd.group.branches, List.forall_mem_cons.mpr ⟨isTidy_times this.1 .., this.2⟩⟩, hd.outer⟩
    · cases h

theorem IsTidy.finishRepeat? {least : Nat} {most : Option Nat} (hd : d.IsTidy)
    (h : d.finishRepeat? least most text = some (d', rest)) : d'.IsTidy := by
  unfold Draft.finishRepeat? at h
  split at h
  all_goals
    obtain ⟨d, hrepeat, heq⟩ := Option.map_eq_some_iff.mp h
    cases heq
    exact hd.repeat? hrepeat

theorem IsTidy.enterNamed? (hd : d.IsTidy) (h : d.enterNamed? text = some (d', rest)) :
    d'.IsTidy := by
  unfold Draft.enterNamed? at h
  dsimp only at h
  split at h
  · cases h
  · split at h
    · cases h
      exact ⟨hd.enterNumbered.group, hd.enterNumbered.outer⟩
    · cases h

theorem IsTidy.open? (hd : d.IsTidy) (h : d.open? text = some (d', rest)) : d'.IsTidy := by
  unfold Draft.open? at h
  split at h
  case h_6 | h_7 => exact hd.enterNamed? h
  case h_8 =>
    split at h
    · cases h
      exact hd.enter _
    · cases h
      have hchanged {s : Setting} : IsTidy { d with setting := s } := ⟨hd.group, hd.outer⟩
      exact hchanged.push trivial
    · cases h
  case h_9 =>
    cases h
    exact hd.enterNumbered
  all_goals cases h

theorem isTidy_of_escaped? {e : Escape} {p : Pattern} (he : e.IsTidy)
    (h : escaped? s e = some p) : p.IsTidy := by
  cases e with
  | character c byte =>
      rw [escaped?] at h
      split at h
      · cases h
      · cases h
        exact isTidy_literal s c
  | set chars =>
      cases h
      exact isTidy_ofSet he
  | condition c =>
      cases h
      trivial

theorem IsTidy.step? (hd : d.IsTidy) (h : d.step? text = some (d', rest)) : d'.IsTidy := by
  unfold Draft.step? at h
  split at h
  · cases h
  · split at h
    -- Parentheses, the bar, brackets, repetition, the dot, anchors, escapes, and all other
    -- characters.
    case h_1 => exact hd.open? h
    case h_2 =>
      obtain ⟨d, hleave, heq⟩ := Option.map_eq_some_iff.mp h
      cases heq
      exact hd.leave? hleave
    case h_3 =>
      cases h
      exact hd.bar
    case h_4 =>
      obtain ⟨⟨closed, rest⟩, hread, heq⟩ := Option.map_eq_some_iff.mp h
      cases heq
      exact hd.push (isTidy_ofSet (Bracket.isProper_of_read? hread))
    case h_5 | h_6 | h_7 => exact hd.finishRepeat? h
    case h_8 =>
      obtain ⟨⟨least, most, rest⟩, -, h⟩ := Option.bind_eq_some_iff.mp h
      exact hd.finishRepeat? h
    case h_9 =>
      obtain ⟨p, hdot, heq⟩ := Option.map_eq_some_iff.mp h
      cases heq
      exact hd.push (isTidy_dot? hdot)
    case h_10 | h_11 =>
      cases h
      exact hd.push trivial
    case h_12 =>
      obtain ⟨⟨e, rest⟩, hread, h⟩ := Option.bind_eq_some_iff.mp h
      obtain ⟨p, hp, heq⟩ := Option.bind_eq_some_iff.mp h
      cases heq
      exact hd.push (isTidy_of_escaped? (Escape.isTidy_of_read? hread) hp)
    case h_13 =>
      cases h
      exact hd.push (isTidy_literal d.setting _)

theorem IsTidy.readRest? {count : Nat} {p : Pattern} (hd : d.IsTidy)
    (h : d.readRest? count text = some p) : p.IsTidy := by
  fun_induction Draft.readRest? d count text with
  | case1 d count text htext =>
    unfold Draft.pattern? at h
    split at h
    · cases h
      exact hd.group.content
    · cases h
  | case2 => cases h
  | case3 => cases h
  | case4 d text count hne d' rest hstep ih =>
    exact ih (hd.step? hstep) h

end Draft

theorem isTidy_of_ofText? {text : String} {p : Pattern} (h : ofText? text = some p) : p.IsTidy :=
  Draft.isTidy_start.readRest? (Option.filter_eq_some_iff.mp h).1

/-!
## Words

A word in a pattern is an item for each of its characters, which the sequence joins to one literal.
So what is searched for is the word.
-/

/-- The character stands for itself wherever it comes in a pattern. -/
def IsPlain (c : Char) : Prop := c ∉ "()|[*+?\x7B.^$\\".toList

instance : DecidablePred IsPlain := fun c =>
  inferInstanceAs (Decidable (c ∉ "()|[*+?\x7B.^$\\".toList))

theorem literal_default (c : Char) : Setting.literal {} c = literal [c] := by
  simp [Setting.literal, Setting.fold, ofSet, Ranges.single, Char.ofNat_toNat]

theorem foldr_prepend_literals (c : Char) (word : List Char) :
    ((c :: word).map fun c => literal [c]).foldr prepend [] = [literal (c :: word)] := by
  induction word generalizing c with
  | nil => rfl
  | cons d word ih =>
      rw [List.map_cons, List.foldr_cons, ih d]
      rfl

/-- Characters one after the other make one literal. -/
theorem sequence_literals {word : List Char} (h : word ≠ []) :
    sequence (word.map fun c => literal [c]) = literal word := by
  have hitems : (word.map fun c => literal [c]).flatMap items = word.map fun c => literal [c] := by
    rw [List.flatMap_map]
    exact List.map_eq_flatMap.symm
  obtain ⟨c, word, rfl⟩ := List.exists_cons_of_ne_nil h
  rw [sequence, hitems, foldr_prepend_literals, chain]

theorem depthOf_le_one {depths : List Nat} (h : ∀ depth ∈ depths, depth = 0) : depthOf depths ≤ 1 := by
  have hfold : depths.foldl max 0 = 0 := by
    induction depths with
    | nil => rfl
    | cons depth depths ih =>
        obtain ⟨rfl, hrest⟩ := List.forall_mem_cons.mp h
        exact ih hrest
  unfold depthOf
  split
  · exact Nat.zero_le 1
  · rw [h _ (List.mem_singleton_self _)]
    exact Nat.zero_le 1
  · rw [hfold]

namespace Draft

variable {c : Char} {d : Draft} {word : List Char}

theorem step?_of_isPlain (hc : IsPlain c) (d : Draft) (rest : List Char) :
    d.step? (c :: rest) = some (d.pushPattern (d.setting.literal c), rest) := by
  unfold Draft.step?
  dsimp only
  split
  case h_13 => rfl
  all_goals exact absurd hc (by decide)

/-- Each character of a word becomes an item. -/
theorem readRest?_of_isPlain {count : Nat} (h : ∀ c ∈ word, IsPlain c)
    (hcount : word.length ≤ count) (hd : d.setting = {}) :
    d.readRest? count word = (word.foldl (fun d c => d.pushPattern (literal [c])) d).pattern? := by
  have hskip (text : List Char) : d.setting.skip text = text := by simp [hd, Setting.skip]
  induction word generalizing d count with
  | nil =>
      unfold Draft.readRest?
      rw [hskip]
      rfl
  | cons c word ih =>
      obtain ⟨hc, hword⟩ := List.forall_mem_cons.mp h
      cases count with
      | zero => cases hcount
      | succ count =>
          unfold Draft.readRest?
          simp only [hskip, step?_of_isPlain hc]
          rw [hd, literal_default, List.foldl_cons]
          exact ih hword (Nat.le_of_succ_le_succ hcount) hd hskip

theorem items_foldl_pushPattern (word : List Char) (d : Draft) :
    (word.foldl (fun d c => d.pushPattern (literal [c])) d) =
      { d with group := { d.group with
        items := (word.map fun c => { pattern := literal [c] }).reverse ++ d.group.items } } := by
  induction word generalizing d with
  | nil => rfl
  | cons c word ih =>
      rw [List.foldl_cons, ih]
      simp [pushPattern, push]

/-- What stands in a group with a word and nothing else. -/
theorem content_word {g : Group} (hne : word ≠ []) (hbranches : g.branches = [])
    (hitems : g.items = (word.map fun c => { pattern := literal [c] }).reverse) :
    g.content.pattern = literal word ∧ g.content.depth ≤ maxDepth := by
  have hpattern : g.branch.pattern = literal word := by
    rw [Group.branch, Item.sequence, hitems, List.reverse_reverse, List.map_map]
    exact sequence_literals hne
  have hdepth : g.branch.depth ≤ 1 := by
    rw [Group.branch, Item.sequence, hitems, List.reverse_reverse, List.map_map]
    apply depthOf_le_one
    simp
  have hone : g.content = .alternatives [g.branch] := by rw [Group.content, hbranches]; rfl
  rw [hone]
  constructor
  · simp [Item.alternatives, hpattern, alternatives, choice, weight, alternativesWithin, branches]
  · exact Nat.le_trans hdepth (by decide)

theorem pattern?_word (hne : word ≠ []) (houter : d.outer = []) (hbranches : d.group.branches = [])
    (hitems : d.group.items = (word.map fun c => { pattern := literal [c] }).reverse) :
    d.pattern? = some (literal word) := by
  obtain ⟨hpattern, hdepth⟩ := content_word hne hbranches hitems
  simp [pattern?, houter, hpattern, hdepth]

theorem readRest?_word {count : Nat} (h : ∀ c ∈ word, IsPlain c) (hne : word ≠ [])
    (hcount : word.length ≤ count) : start.readRest? count word = some (literal word) := by
  rw [readRest?_of_isPlain h hcount rfl, items_foldl_pushPattern]
  exact pattern?_word hne rfl rfl (List.append_nil _)

end Draft

/-- A literal takes a state for each of its bytes. -/
theorem fits_literal {word : List Char} :
    fits (literal word) = true ↔ (encode (String.ofList word)).length ≤ 327673 := by
  simp only [fits, program?, Program.inOrder, growApproach, startsText, endsText, growth, growAt,
    Program.grow, Program.bytes, Program.limit, Program.branchBytes, Program.stepBytes]
  generalize (encode (String.ofList word)).length = n
  by_cases hn : n ≤ 327673
  · have hforward : (4 + n) * 32 + 16 ≤ 10485760 ∧ (4 + n + 2) * 32 + 16 ≤ 10485760 := by omega
    have hbackward : (3 + n) * 32 + 16 ≤ 10485760 ∧ (3 + n + 1) * 32 + 16 ≤ 10485760 := by omega
    simp [hforward, hbackward, hn]
  · have hforward : ¬ (4 + n + 2) * 32 + 16 ≤ 10485760 := by omega
    by_cases hstates : (4 + n) * 32 + 16 ≤ 10485760
    · simp [hstates, hforward, hn]
    · simp [hstates, hn]

/-- A word is read as itself, unless it is too long. -/
theorem ofText?_word {word : String} (h : ∀ c ∈ word.toList, IsPlain c) (hne : word ≠ "")
    (hlength : (encode word).length ≤ 327673) : ofText? word = some (literal word.toList) := by
  have hne : word.toList ≠ [] := fun heq => hne (String.toList_eq_nil_iff.mp heq)
  rw [ofText?, Draft.readRest?_word h hne (Nat.le_of_eq String.length_toList)]
  apply Option.filter_eq_some_iff.mpr
  refine ⟨rfl, fits_literal.mpr ?_⟩
  rwa [String.ofList_toList]

end ModuleReadme.Pattern
