import ModuleReadme.Pattern.Basic
import Mathlib.Data.List.Infix
import Mathlib.Data.List.Perm.Subperm

/-!
# What a pattern describes

A pattern relates a position to the positions that are reached from it by passing what the pattern
describes (`Passes`). The search works on sets of positions instead, puts them together in the
order of the text, and stops to repeat a pattern when the set does not grow any more or has been
made smaller as often as it can be. It reaches just the positions that are related to one that it
began with (`advance_spec`); so a text matches a pattern if a part of it is described by the
pattern, and only then (`occursIn_iff`).
-/

namespace ModuleReadme.Pattern

open Text

variable {text chars more : List Char} {a b c : Position} {ps qs : List Position}

/-!
## Reading on from a position

A position knows the text behind it, the character in front of it and how far it has come. To read
some characters fixes all three, so positions can be compared by what was read.
-/

/-- The characters come next at the position `a`, and the position `b` is behind them. -/
structure Position.Reads (a : Position) (chars : List Char) (b : Position) : Prop where
  after : a.after = chars ++ b.after
  offset : b.offset = a.offset + chars.length
  before : b.before = chars.getLast?.or a.before

theorem Position.ext_iff_fields :
    a = b ↔ a.offset = b.offset ∧ a.before = b.before ∧ a.after = b.after := by
  cases a
  cases b
  simp

theorem reads_nil_iff : a.Reads [] b ↔ a = b := by
  rw [Position.ext_iff_fields]
  constructor
  · rintro ⟨hafter, hoffset, hbefore⟩
    exact ⟨hoffset.symm, hbefore.symm, hafter⟩
  · rintro ⟨hoffset, hbefore, hafter⟩
    exact ⟨hafter, hoffset.symm, hbefore.symm⟩

theorem reads_append_iff : a.Reads (chars ++ more) c ↔ ∃ b, a.Reads chars b ∧ b.Reads more c := by
  constructor
  · rintro ⟨hafter, hoffset, hbefore⟩
    refine ⟨⟨a.offset + chars.length, chars.getLast?.or a.before, more ++ c.after⟩,
      ⟨by simpa using hafter, rfl, rfl⟩, ⟨rfl, ?_, ?_⟩⟩
    · rw [hoffset, List.length_append, Nat.add_assoc]
    · rw [hbefore, List.getLast?_append, Option.or_assoc]
  · rintro ⟨b, ⟨hafter, hoffset, hbefore⟩, ⟨hafter', hoffset', hbefore'⟩⟩
    refine ⟨by rw [hafter, hafter', List.append_assoc], ?_, ?_⟩
    · rw [hoffset', hoffset, List.length_append, Nat.add_assoc]
    · rw [hbefore', hbefore, List.getLast?_append, Option.or_assoc]

theorem passAll?_eq_some_iff : a.passAll? chars = some b ↔ a.Reads chars b := by
  rw [Position.passAll?, Option.map_eq_some_iff]
  constructor
  · rintro ⟨rest, hrest, rfl⟩
    exact ⟨after?_eq_some_iff.mp hrest, rfl, rfl⟩
  · rintro ⟨hafter, hoffset, hbefore⟩
    refine ⟨b.after, after?_eq_some_iff.mpr hafter, ?_⟩
    rw [Position.ext_iff_fields]
    exact ⟨hoffset.symm, hbefore.symm, rfl⟩

theorem pass?_eq_some_iff {set : Ranges} :
    a.pass? set = some b ↔ ∃ c, set.has c = true ∧ a.Reads [c] b := by
  rw [Position.pass?_eq_some_iff]
  constructor
  · rintro ⟨c, rest, hafter, hc, rfl⟩
    exact ⟨c, hc, hafter, rfl, rfl⟩
  · rintro ⟨c, hc, hafter, hoffset, hbefore⟩
    refine ⟨c, b.after, hafter, hc, ?_⟩
    rw [Position.ext_iff_fields]
    exact ⟨hoffset, hbefore, rfl⟩

/-! ### The positions of a text -/

/-- The position in front of a text. -/
def Position.start (text : List Char) : Position := { offset := 0, before := none, after := text }

/-- A position between the characters of a text. -/
def Position.IsIn (text : List Char) (p : Position) : Prop :=
  ∃ front, (Position.start text).Reads front p

theorem Position.IsIn.of_reads (ha : a.IsIn text) (h : a.Reads chars b) : b.IsIn text := by
  obtain ⟨front, hfront⟩ := ha
  exact ⟨front ++ chars, reads_append_iff.mpr ⟨a, hfront, h⟩⟩

/-- A position is told by its offset. -/
theorem Position.IsIn.eq_of_offset (ha : a.IsIn text) (hb : b.IsIn text)
    (h : a.offset = b.offset) : a = b := by
  obtain ⟨front, hfront, hoffset, hbefore⟩ := ha
  obtain ⟨front', hfront', hoffset', hbefore'⟩ := hb
  have hlength : front.length = front'.length := by
    simp only [start, Nat.zero_add] at hoffset hoffset'
    rw [← hoffset, h, hoffset']
  obtain ⟨rfl, hafter⟩ := List.append_inj (hfront.symm.trans hfront') hlength
  rw [Position.ext_iff_fields]
  exact ⟨h, hbefore.trans hbefore'.symm, hafter⟩

theorem mem_positionsFrom_iff {offset : Nat} {before : Option Char} :
    a ∈ positionsFrom offset before text ↔
      ∃ front, (Position.mk offset before text).Reads front a := by
  induction text generalizing offset before with
  | nil =>
      rw [positionsFrom, List.mem_singleton]
      constructor
      · rintro rfl
        exact ⟨[], reads_nil_iff.mpr rfl⟩
      · rintro ⟨front, hreads⟩
        have hnil : front = [] := (List.append_eq_nil_iff.mp hreads.after.symm).1
        rw [hnil, reads_nil_iff] at hreads
        exact hreads.symm
  | cons c text ih =>
      have hfirst : (Position.mk offset before (c :: text)).Reads [c]
          (Position.mk (offset + 1) (some c) text) := ⟨rfl, rfl, rfl⟩
      rw [positionsFrom, List.mem_cons, ih]
      constructor
      · rintro (rfl | ⟨front, hreads⟩)
        · exact ⟨[], reads_nil_iff.mpr rfl⟩
        · exact ⟨[c] ++ front, reads_append_iff.mpr ⟨_, hfirst, hreads⟩⟩
      · rintro ⟨front, hreads⟩
        -- Nothing was read, or the first character was.
        cases front with
        | nil => exact .inl (reads_nil_iff.mp hreads).symm
        | cons d front =>
            right
            refine ⟨front, ?_⟩
            obtain ⟨rfl, htext⟩ := List.cons.inj hreads.after
            refine ⟨htext, ?_, ?_⟩
            · rw [hreads.offset]
              exact Nat.add_right_comm offset front.length 1
            · rw [hreads.before, List.getLast?_cons]
              cases front.getLast? <;> rfl

theorem mem_positions_iff : a ∈ positions text ↔ a.IsIn text :=
  mem_positionsFrom_iff

/-!
## What a pattern passes

The relation follows the pattern. It counts repetitions and knows no bound on them, so it can hold
for a number of steps that no search would take.
-/

/-- A relation taken so many times. -/
def Repeats (R : Position → Position → Prop) : Nat → Position → Position → Prop
  | 0, a, b => a = b
  | n + 1, a, c => ∃ b, R a b ∧ Repeats R n b c

/-- The position `b` is reached from the position `a` by passing what a pattern describes. A pattern
that is to be repeated less often than it has to be is repeated as often as it has to be. -/
def Passes : Pattern → Position → Position → Prop
  | empty, a, b => a = b
  | literal chars, a, b => a.Reads chars b
  | oneOf set, a, b => ∃ c, set.has c = true ∧ a.Reads [c] b
  | condition c, a, b => a = b ∧ c.holds a.before a.after.head? = true
  | followedBy p q, a, c => ∃ b, p.Passes a b ∧ q.Passes b c
  | either p q, a, b => p.Passes a b ∨ q.Passes a b
  | repeated p least most _, a, b =>
    ∃ n, least ≤ n ∧ (∀ m ∈ most, n ≤ max least m) ∧ Repeats p.Passes n a b
  | group _ p, a, b => p.Passes a b

section Repetition

variable {R : Position → Position → Prop} {m n : Nat}

theorem repeats_add : Repeats R (m + n) a c ↔ ∃ b, Repeats R m a b ∧ Repeats R n b c := by
  induction m generalizing a with
  | zero => simp [Repeats]
  | succ m ih =>
      rw [Nat.add_right_comm]
      simp only [Repeats, ih]
      constructor
      · rintro ⟨d, hd, b, hm, hn⟩
        exact ⟨b, ⟨d, hd, hm⟩, hn⟩
      · rintro ⟨b, ⟨d, hd, hm⟩, hn⟩
        exact ⟨d, hd, b, hm, hn⟩

/-- What is passed by a relation is always read. -/
def Advances (R : Position → Position → Prop) : Prop :=
  ∀ a b, R a b → ∃ chars, a.Reads chars b

theorem Advances.repeats (hR : Advances R) (n : Nat) : Advances (Repeats R n) := by
  induction n with
  | zero =>
      rintro a b rfl
      exact ⟨[], reads_nil_iff.mpr rfl⟩
  | succ n ih =>
      rintro a c ⟨b, hab, hbc⟩
      obtain ⟨front, hfront⟩ := hR a b hab
      obtain ⟨back, hback⟩ := ih b c hbc
      exact ⟨front ++ back, reads_append_iff.mpr ⟨b, hfront, hback⟩⟩

/-- Each step either stays where it is or leaves less of the text. -/
theorem Advances.eq_or_lt (hR : Advances R) (h : R a b) :
    a = b ∨ b.after.length < a.after.length := by
  obtain ⟨chars, hreads⟩ := hR a b h
  cases chars with
  | nil => exact .inl (reads_nil_iff.mp hreads)
  | cons c chars =>
      right
      rw [hreads.after]
      simp only [List.cons_append, List.length_cons, List.length_append]
      omega

theorem Advances.length_le (hR : Advances R) (h : R a b) : b.after.length ≤ a.after.length := by
  obtain rfl | hlt := hR.eq_or_lt h
  · exact Nat.le_refl _
  · exact Nat.le_of_lt hlt

/-- Steps that stay where they are can be left out, so no more steps are needed than there are
characters to pass. -/
theorem Advances.shorten (hR : Advances R) (h : Repeats R n a c) (hm : m ≤ n)
    (hlength : a.after.length ≤ m + c.after.length) : Repeats R m a c := by
  induction n generalizing a m with
  | zero =>
      rw [Nat.le_zero.mp hm]
      exact h
  | succ n ih =>
      obtain ⟨b, hab, hbc⟩ := h
      obtain rfl | hlt := hR.eq_or_lt hab
      · obtain rfl | hm := Nat.eq_or_lt_of_le hm
        · exact ⟨a, hab, hbc⟩
        · exact ih hbc (Nat.le_of_lt_succ hm) hlength
      · have hle := (hR.repeats n).length_le hbc
        cases m with
        | zero => omega
        | succ m => exact ⟨b, hab, ih hbc (Nat.le_of_succ_le_succ hm) (by omega)⟩

/-- Of more steps than there are characters to pass one stays where it is, and can be taken again and
again. -/
theorem Advances.lengthen (hR : Advances R) (h : Repeats R n a c) (hm : n ≤ m)
    (hlength : a.after.length < n + c.after.length) : Repeats R m a c := by
  induction n generalizing a m with
  | zero =>
      cases h
      omega
  | succ n ih =>
      obtain ⟨b, hab, hbc⟩ := h
      obtain ⟨k, rfl⟩ := Nat.exists_eq_add_of_le' hm
      obtain rfl | hlt := hR.eq_or_lt hab
      · have hstay : ∀ k, Repeats R k a a := by
          intro k
          induction k with
          | zero => rfl
          | succ k hk => exact ⟨a, hab, hk⟩
        rw [← Nat.add_assoc, Nat.add_right_comm]
        exact repeats_add.mpr ⟨a, hstay (k + 1), hbc⟩
      · exact ⟨b, hab, ih hbc (Nat.le_add_left n k) (by omega)⟩

end Repetition

theorem advances_passes (p : Pattern) : Advances p.Passes := by
  induction p with
  | empty =>
      rintro a b rfl
      exact ⟨[], reads_nil_iff.mpr rfl⟩
  | literal chars => exact fun a b h => ⟨chars, h⟩
  | oneOf set =>
      rintro a b ⟨c, -, hreads⟩
      exact ⟨[c], hreads⟩
  | condition c =>
      rintro a b ⟨rfl, -⟩
      exact ⟨[], reads_nil_iff.mpr rfl⟩
  | followedBy p q hp hq =>
      -- The two parts read one text after the other.
      rintro a c ⟨b, hab, hbc⟩
      obtain ⟨front, hfront⟩ := hp a b hab
      obtain ⟨back, hback⟩ := hq b c hbc
      exact ⟨front ++ back, reads_append_iff.mpr ⟨b, hfront, hback⟩⟩
  | either p q hp hq =>
      intro a b h
      exact h.elim (hp a b) (hq a b)
  | repeated p least most rarely hp =>
      rintro a b ⟨n, -, -, hn⟩
      exact hp.repeats n a b hn
  | group number p hp => exact hp

/-! ## Sets of positions

Sets of positions are lists in the order of the text. The first position is the one with the most
text behind it, so it bounds how often a step can be taken that passes something.
-/

/-- A set of positions of a text. -/
structure IsSet (text : List Char) (ps : List Position) : Prop where
  ascending : ps.Pairwise fun a b => a.offset < b.offset
  isIn : ∀ a ∈ ps, a.IsIn text

theorem isSet_nil : IsSet text [] :=
  ⟨.nil, fun _ h => absurd h List.not_mem_nil⟩

theorem isSet_cons_iff : IsSet text (a :: ps) ↔
    (∀ b ∈ ps, a.offset < b.offset) ∧ a.IsIn text ∧ IsSet text ps := by
  constructor
  · rintro ⟨hascending, hisIn⟩
    obtain ⟨hfirst, hrest⟩ := List.pairwise_cons.mp hascending
    obtain ⟨ha, hps⟩ := List.forall_mem_cons.mp hisIn
    exact ⟨hfirst, ha, hrest, hps⟩
  · rintro ⟨hfirst, ha, hrest, hps⟩
    exact ⟨List.pairwise_cons.mpr ⟨hfirst, hrest⟩, List.forall_mem_cons.mpr ⟨ha, hps⟩⟩

theorem isSet_positionsFrom {offset : Nat} {before : Option Char} {rest : List Char}
    (h : (Position.mk offset before rest).IsIn text) :
    IsSet text (positionsFrom offset before rest) := by
  induction rest generalizing offset before with
  | nil => exact isSet_cons_iff.mpr ⟨by simp, h, isSet_nil⟩
  | cons c rest ih =>
      have hfirst : (Position.mk offset before (c :: rest)).Reads [c]
          (Position.mk (offset + 1) (some c) rest) := ⟨rfl, rfl, rfl⟩
      have hnext := h.of_reads hfirst
      refine isSet_cons_iff.mpr ⟨?_, h, ih hnext⟩
      intro b hb
      obtain ⟨front, hreads⟩ := mem_positionsFrom_iff.mp hb
      rw [hreads.offset]
      exact Nat.lt_of_lt_of_le (Nat.lt_succ_self offset) (Nat.le_add_right ..)

theorem isSet_positions (text : List Char) : IsSet text (positions text) :=
  isSet_positionsFrom ⟨[], reads_nil_iff.mpr rfl⟩

theorem IsSet.nodup (h : IsSet text ps) : ps.Nodup :=
  h.ascending.imp fun hlt heq => absurd (congrArg Position.offset heq) (Nat.ne_of_lt hlt)

theorem IsSet.length_lt_stepBound (h : IsSet text ps) (ha : a ∈ ps) :
    a.after.length < stepBound ps := by
  cases ps with
  | nil => cases ha
  | cons b ps =>
      obtain ⟨hfirst, ⟨front, hb⟩, hps⟩ := isSet_cons_iff.mp h
      obtain ⟨front', hfront⟩ := h.isIn a ha
      have hle : b.offset ≤ a.offset := by
        obtain rfl | ha := List.mem_cons.mp ha
        · exact Nat.le_refl _
        · exact Nat.le_of_lt (hfirst a ha)
      have hlengths := congrArg List.length (hb.after.symm.trans hfront.after)
      rw [List.length_append, List.length_append] at hlengths
      rw [hb.offset, hfront.offset] at hle
      rw [stepBound]
      omega

theorem mem_merge_iff (hps : IsSet text ps) (hqs : IsSet text qs) :
    a ∈ merge ps qs ↔ a ∈ ps ∨ a ∈ qs := by
  fun_induction merge ps qs with
  | case1 => simp
  | case2 => simp
  | case3 p ps q qs _ ih =>
      rw [List.mem_cons, ih (isSet_cons_iff.mp hps).2.2 hqs, List.mem_cons (l := ps), or_assoc]
  | case4 p ps q qs _ _ ih =>
      rw [List.mem_cons, ih hps (isSet_cons_iff.mp hqs).2.2, List.mem_cons (a := a) (b := q)]
      exact or_left_comm
  | case5 p ps q qs hpq hqp ih =>
      obtain ⟨-, hp, hps'⟩ := isSet_cons_iff.mp hps
      obtain ⟨-, hq, hqs'⟩ := isSet_cons_iff.mp hqs
      -- The two positions are one, of which the set keeps one copy.
      obtain rfl : p = q := hp.eq_of_offset hq (by omega)
      rw [List.mem_cons, ih hps' hqs', List.mem_cons, List.mem_cons]
      exact or_or_distrib_left

theorem isSet_merge (hps : IsSet text ps) (hqs : IsSet text qs) : IsSet text (merge ps qs) := by
  refine ⟨?_, fun a ha => (((mem_merge_iff hps hqs).mp ha).elim (hps.isIn a) (hqs.isIn a))⟩
  -- In each case the first position is in front of all that is merged behind it.
  fun_induction merge ps qs with
  | case1 => exact hqs.ascending
  | case2 => exact hps.ascending
  | case3 p ps q qs hlt ih =>
      obtain ⟨hp, -, hps'⟩ := isSet_cons_iff.mp hps
      obtain ⟨hq, -, -⟩ := isSet_cons_iff.mp hqs
      refine List.pairwise_cons.mpr ⟨fun a ha => ?_, ih hps' hqs⟩
      obtain ha | ha := (mem_merge_iff hps' hqs).mp ha
      · exact hp a ha
      · obtain rfl | ha := List.mem_cons.mp ha
        · exact hlt
        · exact Nat.lt_trans hlt (hq a ha)
  | case4 p ps q qs _ hlt ih =>
      obtain ⟨hp, -, -⟩ := isSet_cons_iff.mp hps
      obtain ⟨hq, -, hqs'⟩ := isSet_cons_iff.mp hqs
      refine List.pairwise_cons.mpr ⟨fun a ha => ?_, ih hps hqs'⟩
      obtain ha | ha := (mem_merge_iff hps hqs').mp ha
      · obtain rfl | ha := List.mem_cons.mp ha
        · exact hlt
        · exact Nat.lt_trans hlt (hp a ha)
      · exact hq a ha
  | case5 p ps q qs hpq hqp ih =>
      obtain ⟨hp, -, hps'⟩ := isSet_cons_iff.mp hps
      obtain ⟨hq, -, hqs'⟩ := isSet_cons_iff.mp hqs
      refine List.pairwise_cons.mpr ⟨fun a ha => ?_, ih hps' hqs'⟩
      obtain ha | ha := (mem_merge_iff hps' hqs').mp ha
      · exact hp a ha
      · have hlt := hq a ha
        omega

/-!
## Steps on sets

A step on sets is described by a relation on positions. Each way to put patterns together comes
with a lemma of this form, and the search is put together of these.
-/

/-- A step takes a set of positions to the set of those that are related to one of them. -/
def Computes (text : List Char) (R : Position → Position → Prop)
    (step : List Position → List Position) : Prop :=
  ∀ ps, IsSet text ps → IsSet text (step ps) ∧ ∀ b, b ∈ step ps ↔ ∃ a ∈ ps, R a b

section Steps

variable {R S : Position → Position → Prop} {step : List Position → List Position} {n : Nat}

theorem Computes.congr (hRS : ∀ a b, R a b ↔ S a b) (h : Computes text R step) :
    Computes text S step := by
  intro ps hps
  obtain ⟨hset, hmem⟩ := h ps hps
  refine ⟨hset, fun b => ?_⟩
  rw [hmem]
  simp only [hRS]

/-- A step that looks at each position on its own, and reads on by the same number of characters
everywhere. -/
theorem computes_filterMap {f : Position → Option Position} (size : Nat)
    (hf : ∀ a b, f a = some b → ∃ chars, a.Reads chars b ∧ chars.length = size) :
    Computes text (fun a b => f a = some b) (·.filterMap f) := by
  intro ps hps
  refine ⟨⟨?_, ?_⟩, fun b => List.mem_filterMap⟩
  · refine List.pairwise_filterMap.mpr (hps.ascending.imp ?_)
    intro a a' hlt b hb b' hb'
    obtain ⟨chars, hreads, hsize⟩ := hf a b hb
    obtain ⟨chars', hreads', hsize'⟩ := hf a' b' hb'
    rw [hreads.offset, hreads'.offset, hsize, hsize']
    exact Nat.add_lt_add_right hlt size
  · intro b hb
    obtain ⟨a, ha, hab⟩ := List.mem_filterMap.mp hb
    obtain ⟨chars, hreads, -⟩ := hf a b hab
    exact (hps.isIn a ha).of_reads hreads

theorem computes_iterate (h : Computes text R step) (n : Nat) :
    Computes text (Repeats R n) (iterate step n) := by
  induction n with
  | zero =>
      intro ps hps
      exact ⟨hps, fun b => by simp [iterate, Repeats]⟩
  | succ n ih =>
      intro ps hps
      unfold iterate
      -- An empty set stays empty, so the search can stop.
      split
      · next hempty =>
        rw [List.isEmpty_iff.mp hempty]
        exact ⟨isSet_nil, fun b => by simp⟩
      · obtain ⟨hset, hmem⟩ := h ps hps
        obtain ⟨hrest, hrestMem⟩ := ih (step ps) hset
        refine ⟨hrest, fun b => ?_⟩
        rw [hrestMem]
        simp only [hmem, Repeats]
        constructor
        · rintro ⟨c, ⟨a, ha, hac⟩, hcb⟩
          exact ⟨a, ha, c, hac, hcb⟩
        · rintro ⟨a, ha, c, hac, hcb⟩
          exact ⟨c, ⟨a, ha, hac⟩, hcb⟩

/-- Where a step leads to nothing new, no number of steps does. -/
theorem mem_of_repeats (hclosed : ∀ a ∈ ps, ∀ b, R a b → b ∈ ps) (ha : a ∈ ps)
    (h : Repeats R n a b) : b ∈ ps := by
  induction n generalizing a with
  | zero => exact h ▸ ha
  | succ n ih =>
      obtain ⟨c, hac, hcb⟩ := h
      exact ih (hclosed a ha c hac) hcb

theorem computes_upTo (h : Computes text R step) (n : Nat) :
    Computes text (fun a b => ∃ k ≤ n, Repeats R k a b) (upTo step n) := by
  induction n with
  | zero =>
      intro ps hps
      exact ⟨hps, fun b => by simp [upTo, Repeats]⟩
  | succ n ih =>
      intro ps hps
      obtain ⟨hset, hmem⟩ := h ps hps
      have hmerged := isSet_merge hps hset
      have hmergedMem {b : Position} : b ∈ merge ps (step ps) ↔ b ∈ ps ∨ ∃ a ∈ ps, R a b := by
        rw [mem_merge_iff hps hset, hmem]
      unfold upTo
      simp only
      split
      · next hlength =>
        -- The set has not grown, so it holds everything that can be reached.
        have hsubset : ps ⊆ merge ps (step ps) := fun a ha => hmergedMem.mpr (.inl ha)
        have hperm := (List.subperm_of_subset hps.nodup hsubset).perm_of_length_le (Nat.le_of_eq hlength)
        have hclosed : ∀ a ∈ ps, ∀ b, R a b → b ∈ ps := fun a ha b hab =>
          hperm.mem_iff.mpr (hmergedMem.mpr (.inr ⟨a, ha, hab⟩))
        refine ⟨hps, fun b => ⟨fun hb => ⟨b, hb, 0, Nat.zero_le _, rfl⟩, ?_⟩⟩
        rintro ⟨a, ha, k, -, hk⟩
        exact mem_of_repeats hclosed ha hk
      · obtain ⟨hrest, hrestMem⟩ := ih (merge ps (step ps)) hmerged
        refine ⟨hrest, fun b => ?_⟩
        rw [hrestMem]
        constructor
        · rintro ⟨c, hc, k, hk, hcb⟩
          obtain hc | ⟨a, ha, hac⟩ := hmergedMem.mp hc
          · exact ⟨c, hc, k, Nat.le_succ_of_le hk, hcb⟩
          · exact ⟨a, ha, k + 1, Nat.succ_le_succ hk, c, hac, hcb⟩
        · rintro ⟨a, ha, k, hk, hab⟩
          cases k with
          | zero => exact ⟨a, hmergedMem.mpr (.inl ha), 0, Nat.zero_le n, hab⟩
          | succ k =>
              obtain ⟨c, hac, hcb⟩ := hab
              exact ⟨c, hmergedMem.mpr (.inr ⟨a, ha, hac⟩), k, Nat.le_of_succ_le_succ hk, hcb⟩

end Steps

/-! ## Searching

A repetition is searched for in two parts: as often as it has to be there, and then as often as it
may be there. Both parts are cut off where every further step would stay where it is.
-/

section Repeated

variable {R : Position → Position → Prop} {least : Nat} {most : Option Nat}

/-- The steps that have to be taken, and those that may be. -/
theorem exists_repeats_iff :
    (∃ n, least ≤ n ∧ (∀ m ∈ most, n ≤ max least m) ∧ Repeats R n a c) ↔
      ∃ b, Repeats R least a b ∧ ∃ k, (∀ m ∈ most, k ≤ m - least) ∧ Repeats R k b c := by
  constructor
  · rintro ⟨n, hleast, hmost, hn⟩
    obtain ⟨k, rfl⟩ := Nat.exists_eq_add_of_le hleast
    obtain ⟨b, hb, hk⟩ := repeats_add.mp hn
    refine ⟨b, hb, k, fun m hm => ?_, hk⟩
    have := hmost m hm
    omega
  · rintro ⟨b, hb, k, hmost, hk⟩
    refine ⟨least + k, Nat.le_add_right least k, fun m hm => ?_, repeats_add.mpr ⟨b, hb, hk⟩⟩
    have := hmost m hm
    omega

theorem Advances.repeats_min_iff (hR : Advances R) {bound : Nat} (ha : a.after.length < bound) :
    Repeats R (min least bound) a b ↔ Repeats R least a b := by
  obtain hlt | hle := Nat.lt_or_ge bound least
  · rw [Nat.min_eq_right (Nat.le_of_lt hlt)]
    constructor
    · intro h
      exact hR.lengthen h (Nat.le_of_lt hlt) (by omega)
    · intro h
      exact hR.shorten h (Nat.le_of_lt hlt) (by omega)
  · rw [Nat.min_eq_left hle]

theorem Advances.exists_repeats_le_iff (hR : Advances R) {bound most : Nat}
    (ha : a.after.length < bound) :
    (∃ k ≤ min most bound, Repeats R k a b) ↔ ∃ k ≤ most, Repeats R k a b := by
  constructor
  · rintro ⟨k, hk, h⟩
    exact ⟨k, Nat.le_trans hk (Nat.min_le_left most bound), h⟩
  · rintro ⟨k, hk, h⟩
    obtain hlt | hle := Nat.lt_or_ge bound k
    · have hbound : bound ≤ most := Nat.le_trans (Nat.le_of_lt hlt) hk
      refine ⟨bound, Nat.le_min.mpr ⟨hbound, Nat.le_refl bound⟩, ?_⟩
      exact hR.shorten h (Nat.le_of_lt hlt) (by omega)
    · exact ⟨k, Nat.le_min.mpr ⟨hk, hle⟩, h⟩

theorem Advances.exists_repeats_bound_iff (hR : Advances R) {bound : Nat}
    (ha : a.after.length < bound) :
    (∃ k ≤ bound, Repeats R k a b) ↔ ∃ k, Repeats R k a b := by
  constructor
  · rintro ⟨k, -, h⟩
    exact ⟨k, h⟩
  · rintro ⟨k, h⟩
    obtain ⟨j, hj, h⟩ := (hR.exists_repeats_le_iff ha).mpr ⟨k, Nat.le_refl k, h⟩
    exact ⟨j, Nat.le_trans hj (Nat.min_le_right k bound), h⟩

end Repeated

theorem computes_repeated {p : Pattern} (h : Computes text p.Passes p.advance) (least : Nat)
    (most : Option Nat) (rarely : Bool) :
    Computes text (repeated p least most rarely).Passes (repeated p least most rarely).advance := by
  intro ps hps
  let bound := stepBound ps
  have hR := advances_passes p
  obtain ⟨hstart, hstartMem⟩ := computes_iterate h (min least bound) ps hps
  have hbound {a : Position} (ha : a ∈ ps) : a.after.length < bound := hps.length_lt_stepBound ha
  have hstartBound {b : Position} (hb : b ∈ iterate p.advance (min least bound) ps) :
      b.after.length < bound := by
    obtain ⟨a, ha, hab⟩ := (hstartMem b).mp hb
    exact Nat.lt_of_le_of_lt ((hR.repeats _).length_le hab) (hbound ha)
  -- What is reached from the start of the second part, for any bound on its steps.
  have hmem {c : Position} (most : Option Nat) :
      (∃ b ∈ iterate p.advance (min least bound) ps,
          ∃ k, (∀ m ∈ most, k ≤ m - least) ∧ Repeats p.Passes k b c) ↔
        ∃ a ∈ ps, (repeated p least most rarely).Passes a c := by
    simp only [Passes, exists_repeats_iff, hstartMem]
    constructor
    · rintro ⟨b, ⟨a, ha, hab⟩, hbc⟩
      exact ⟨a, ha, b, (hR.repeats_min_iff (hbound ha)).mp hab, hbc⟩
    · rintro ⟨a, ha, b, hab, hbc⟩
      exact ⟨b, ⟨a, ha, (hR.repeats_min_iff (hbound ha)).mpr hab⟩, hbc⟩
  -- Without a bound the search takes as many steps as there can be characters, and one more changes
  -- nothing.
  cases most with
  | none =>
      obtain ⟨hset, hsetMem⟩ := computes_upTo h bound _ hstart
      refine ⟨hset, fun c => (hsetMem c).trans (Iff.trans ?_ (hmem none))⟩
      refine exists_congr fun b => and_congr_right fun hb => ?_
      simpa using hR.exists_repeats_bound_iff (hstartBound hb)
  | some most =>
      obtain ⟨hset, hsetMem⟩ := computes_upTo h (min (most - least) bound) _ hstart
      refine ⟨hset, fun c => (hsetMem c).trans (Iff.trans ?_ (hmem (some most)))⟩
      refine exists_congr fun b => and_congr_right fun hb => ?_
      simpa using hR.exists_repeats_le_iff (hstartBound hb)

/-- The search takes a set of positions of a text to the set of all that are reached from them by
passing what the pattern describes. -/
theorem advance_spec (p : Pattern) (text : List Char) : Computes text p.Passes p.advance := by
  -- One case for each way to put a pattern together.
  induction p with
  | empty => exact fun ps hps => ⟨hps, fun b => by simp [advance, Passes]⟩
  | literal chars =>
      refine Computes.congr (fun a b => passAll?_eq_some_iff) (computes_filterMap chars.length ?_)
      exact fun a b h => ⟨chars, passAll?_eq_some_iff.mp h, rfl⟩
  | oneOf set =>
      refine Computes.congr (fun a b => pass?_eq_some_iff) (computes_filterMap 1 ?_)
      intro a b h
      obtain ⟨c, -, hreads⟩ := pass?_eq_some_iff.mp h
      exact ⟨[c], hreads, rfl⟩
  | condition c =>
      intro ps hps
      refine ⟨⟨hps.ascending.filter _, fun a ha => hps.isIn a (List.mem_of_mem_filter ha)⟩, ?_⟩
      intro b
      rw [advance, List.mem_filter]
      constructor
      · rintro ⟨hb, hholds⟩
        exact ⟨b, hb, rfl, hholds⟩
      · rintro ⟨a, ha, rfl, hholds⟩
        exact ⟨ha, hholds⟩
  | followedBy p q hp hq =>
      intro ps hps
      obtain ⟨hmid, hmidMem⟩ := hp ps hps
      obtain ⟨hset, hmem⟩ := hq _ hmid
      refine ⟨hset, fun c => ?_⟩
      rw [advance, hmem]
      simp only [hmidMem, Passes]
      constructor
      · rintro ⟨b, ⟨a, ha, hab⟩, hbc⟩
        exact ⟨a, ha, b, hab, hbc⟩
      · rintro ⟨a, ha, b, hab, hbc⟩
        exact ⟨b, ⟨a, ha, hab⟩, hbc⟩
  | either p q hp hq =>
      intro ps hps
      obtain ⟨hleft, hleftMem⟩ := hp ps hps
      obtain ⟨hright, hrightMem⟩ := hq ps hps
      refine ⟨isSet_merge hleft hright, fun b => ?_⟩
      rw [advance, mem_merge_iff hleft hright, hleftMem, hrightMem, ← exists_or]
      simp only [Passes, and_or_left]
  | repeated p least most rarely hp => exact computes_repeated hp least most rarely
  | group number p hp => exact hp

/-- A text matches a pattern if one of its positions is reached from one of its positions. -/
theorem occursIn_iff {p : Pattern} {text : String} :
    p.occursIn text = true ↔ ∃ a b, a.IsIn text.toList ∧ p.Passes a b := by
  obtain ⟨-, hmem⟩ := p.advance_spec text.toList _ (isSet_positions text.toList)
  rw [occursIn, Bool.not_eq_true', List.isEmpty_eq_false_iff_exists_mem]
  simp only [hmem, mem_positions_iff]
  exact exists_comm

/-- A literal occurs in a text where its characters stand one after the other. -/
theorem occursIn_literal_iff {text : String} :
    (literal chars).occursIn text = true ↔ chars <:+: text.toList := by
  rw [occursIn_iff]
  constructor
  · rintro ⟨a, b, ⟨front, hfront⟩, hreads⟩
    refine ⟨front, b.after, ?_⟩
    have hafter := hfront.after
    rw [hreads.after] at hafter
    rw [List.append_assoc]
    exact hafter.symm
  · rintro ⟨front, back, htext⟩
    have hreads : (Position.start text.toList).Reads (front ++ chars)
        ⟨(front ++ chars).length, (front ++ chars).getLast?, back⟩ :=
      ⟨htext.symm, (Nat.zero_add _).symm, Option.or_none.symm⟩
    obtain ⟨a, ha, hchars⟩ := reads_append_iff.mp hreads
    exact ⟨a, _, ⟨front, ha⟩, hchars⟩

end ModuleReadme.Pattern
