import Mathlib.Data.List.Chain
import ModuleReadme.Text.Ranges

/-!
# What is in a set of characters

The operations on sets look at ranges from left to right, and what they make is right only for
ranges that come in order. Of such sets each operation makes one of just the characters that it
should, and one that is in order again (`has_union`, `has_complement` and so on). A set that is
made from characters never covers a code point that is no character, so a range of it that begins
where it ends stands for one character (`IsProper`).
-/

namespace ModuleReadme.Text.Ranges

variable {a b ranges : Ranges} {r s : Nat × Nat} {n k : Nat} {c : Char}

/-!
## Membership

Sets are compared by the code points that they cover, so that the surrogates, which no character
has, can be spoken of as well.
-/

/-- The code point is in one of the ranges. -/
def Covers (ranges : Ranges) (n : Nat) : Prop := ∃ r ∈ ranges, r.1 ≤ n ∧ n ≤ r.2

theorem has_iff : ranges.has c = true ↔ ranges.Covers c.toNat := by
  simp [has, Covers]

theorem not_covers_nil : ¬ Covers [] n := by
  simp [Covers]

theorem covers_cons : Covers (r :: ranges) n ↔ (r.1 ≤ n ∧ n ≤ r.2) ∨ Covers ranges n := by
  simp [Covers]

theorem covers_singleton : Covers [r] n ↔ r.1 ≤ n ∧ n ≤ r.2 := by
  simp [Covers]

theorem covers_congr (h : ∀ r, r ∈ a ↔ r ∈ b) : Covers a n ↔ Covers b n := by
  simp only [Covers, h]

theorem has_congr {a b : Ranges} (h : Covers a c.toNat ↔ Covers b c.toNat) : a.has c = b.has c := by
  rw [Bool.eq_iff_iff, has_iff, has_iff, h]

/-- Ranges in the order of their beginnings. -/
def InOrder (ranges : Ranges) : Prop := ranges.Pairwise fun r s => r.1 ≤ s.1

theorem InOrder.tail (h : InOrder (r :: ranges)) : InOrder ranges :=
  List.Pairwise.of_cons h

theorem InOrder.le (h : InOrder (r :: ranges)) (hs : s ∈ ranges) : r.1 ≤ s.1 :=
  List.rel_of_pairwise_cons h hs

theorem inOrder_cons (h : ∀ s ∈ ranges, r.1 ≤ s.1) (hranges : InOrder ranges) :
    InOrder (r :: ranges) :=
  List.pairwise_cons.mpr ⟨h, hranges⟩

/-!
## Putting ranges together

The range at the front takes in the next one as long as they touch. What it covers then is what both
did, since no range begins before it: that is where the order counts.
-/

/-- The first range can take in what overlaps or touches it, and comes before the rest all the
same. -/
theorem InOrder.join (h : InOrder (r :: s :: ranges)) :
    InOrder ((r.1, max r.2 s.2) :: ranges) :=
  inOrder_cons (fun _ ht => h.le (List.mem_cons_of_mem s ht)) h.tail.tail

theorem covers_joinFrom (h : InOrder (r :: ranges)) :
    Covers (joinFrom r ranges) n ↔ Covers (r :: ranges) n := by
  induction ranges generalizing r with
  | nil => exact Iff.rfl
  | cons s rest ih =>
      have hrs : r.1 ≤ s.1 := h.le (List.mem_cons_self ..)
      unfold joinFrom
      split
      · -- The two ranges leave no gap between them.
        rw [ih h.join, covers_cons, covers_cons, covers_cons, ← or_assoc]
        apply or_congr_left
        simp only
        omega
      · rw [covers_cons, ih h.tail, covers_cons (r := r)]

/-- No range begins where none of the given ones does. -/
theorem exists_of_mem_joinFrom (hs : s ∈ joinFrom r ranges) : ∃ t ∈ r :: ranges, t.1 = s.1 := by
  induction ranges generalizing r with
  | nil => exact ⟨s, hs, rfl⟩
  | cons t rest ih =>
      unfold joinFrom at hs
      split at hs
      · -- The two ranges are one now, which begins where the first of them does.
        obtain ⟨u, hu, heq⟩ := ih hs
        obtain rfl | hu := List.mem_cons.mp hu
        · exact ⟨r, List.mem_cons_self .., heq⟩
        · exact ⟨u, List.mem_cons_of_mem r (List.mem_cons_of_mem t hu), heq⟩
      · obtain rfl | hs := List.mem_cons.mp hs
        · exact ⟨s, List.mem_cons_self .., rfl⟩
        · obtain ⟨u, hu, heq⟩ := ih hs
          exact ⟨u, List.mem_cons_of_mem r hu, heq⟩

theorem inOrder_joinFrom (h : InOrder (r :: ranges)) : InOrder (joinFrom r ranges) := by
  induction ranges generalizing r with
  | nil => exact List.pairwise_singleton ..
  | cons s rest ih =>
      unfold joinFrom
      split
      · exact ih h.join
      · refine inOrder_cons (fun t ht => ?_) (ih h.tail)
        obtain ⟨u, hu, heq⟩ := exists_of_mem_joinFrom ht
        rw [← heq]
        exact h.le hu

theorem covers_join (h : InOrder ranges) : Covers (join ranges) n ↔ Covers ranges n := by
  cases ranges with
  | nil => exact Iff.rfl
  | cons r rest => exact covers_joinFrom h

theorem inOrder_join (h : InOrder ranges) : InOrder (join ranges) := by
  cases ranges with
  | nil => exact h
  | cons r rest => exact inOrder_joinFrom h

theorem exists_of_mem_join (hs : s ∈ join ranges) : ∃ t ∈ ranges, t.1 = s.1 := by
  cases ranges with
  | nil => cases hs
  | cons r rest => exact exists_of_mem_joinFrom hs

/-! ## Union

Two lists in order are merged to one in order, and what touches is put together.
-/

theorem beginsBefore_trans (r s t : Nat × Nat) (hrs : beginsBefore r s = true)
    (hst : beginsBefore s t = true) : beginsBefore r t = true := by
  simp only [beginsBefore, decide_eq_true_eq] at *
  exact Nat.le_trans hrs hst

theorem beginsBefore_total (r s : Nat × Nat) : (beginsBefore r s || beginsBefore s r) = true := by
  simp only [beginsBefore, Bool.or_eq_true, decide_eq_true_eq]
  exact Nat.le_total r.1 s.1

theorem inOrder_iff : InOrder ranges ↔ ranges.Pairwise fun r s => beginsBefore r s = true := by
  simp [InOrder, beginsBefore]

theorem inOrder_merge (ha : InOrder a) (hb : InOrder b) :
    InOrder (List.merge a b beginsBefore) := by
  rw [inOrder_iff] at *
  exact List.pairwise_merge beginsBefore_trans beginsBefore_total a b ha hb

theorem inOrder_mergeSort (ranges : Ranges) : InOrder (ranges.mergeSort beginsBefore) := by
  rw [inOrder_iff]
  exact List.pairwise_mergeSort beginsBefore_trans beginsBefore_total ranges

theorem inOrder_union (ha : InOrder a) (hb : InOrder b) : InOrder (a.union b) :=
  inOrder_join (inOrder_merge ha hb)

theorem covers_union (ha : InOrder a) (hb : InOrder b) :
    (a.union b).Covers n ↔ a.Covers n ∨ b.Covers n := by
  rw [union, covers_join (inOrder_merge ha hb)]
  simp only [Covers, List.mem_merge, or_and_right, exists_or]

theorem has_union (ha : InOrder a) (hb : InOrder b) (c : Char) :
    (a.union b).has c = (a.has c || b.has c) := by
  rw [Bool.eq_iff_iff, has_iff, covers_union ha hb, Bool.or_eq_true, has_iff, has_iff]

theorem inOrder_ofList (ranges : Ranges) : InOrder (ofList ranges) :=
  inOrder_join (inOrder_mergeSort ranges)

theorem has_ofList (ranges : Ranges) (c : Char) : (ofList ranges).has c = ranges.has c := by
  apply has_congr
  rw [ofList, covers_join (inOrder_mergeSort ranges)]
  exact covers_congr fun r => List.mem_mergeSort

/-!
## Complement

The gaps are collected from left to right: `n` is the first code point that no range so far has. A
range that begins before `n` leaves no gap.
-/

/-- The gaps between ranges are cut off at the last code point, if no range begins beyond it. -/
theorem covers_gapsFrom (h : InOrder ranges) (hlast : ∀ r ∈ ranges, r.1 ≤ lastCode + 1) :
    Covers (gapsFrom n ranges) k ↔ n ≤ k ∧ k ≤ lastCode ∧ ¬ Covers ranges k := by
  induction ranges generalizing n with
  | nil =>
      simp only [not_covers_nil, not_false_eq_true, and_true]
      unfold gapsFrom
      split
      · exact covers_singleton
      · simp only [not_covers_nil, false_iff]
        omega
  | cons r rest ih =>
      obtain ⟨hr, hrest⟩ := List.forall_mem_cons.mp hlast
      have hbefore : k < r.1 → ¬ Covers rest k := by
        rintro hlt ⟨s, hs, hle, -⟩
        have := h.le hs
        omega
      unfold gapsFrom
      split
      · -- Below the range there is the new gap, above it are those of the rest.
        rw [covers_cons, ih h.tail hrest, covers_cons]
        simp only
        by_cases hk : k < r.1
        · simp only [hbefore hk, or_false, not_false_eq_true, and_true]
          omega
        · by_cases hcovers : Covers rest k
          · simp only [hcovers, or_true, or_false, not_true_eq_false, and_false, iff_false]
            omega
          · simp only [hcovers, or_false, not_false_eq_true, and_true]
            omega
      · rw [ih h.tail hrest, covers_cons]
        by_cases hcovers : Covers rest k
        · simp [hcovers]
        · simp only [hcovers, or_false, not_false_eq_true, and_true]
          omega

theorem exists_of_mem_gapsFrom (hs : s ∈ gapsFrom n ranges) : n ≤ s.1 ∧ s.1 ≤ s.2 := by
  induction ranges generalizing n with
  | nil =>
      unfold gapsFrom at hs
      split at hs
      · next hle =>
        rw [List.mem_singleton.mp hs]
        exact ⟨Nat.le_refl n, hle⟩
      · cases hs
  | cons r rest ih =>
      unfold gapsFrom at hs
      split at hs
      · -- There is room in front of the next range.
        next hlt =>
        obtain rfl | hs := List.mem_cons.mp hs
        · exact ⟨Nat.le_refl n, Nat.le_sub_one_of_lt hlt⟩
        · have := ih hs
          omega
      · have := ih hs
        omega

theorem inOrder_gapsFrom (n : Nat) (ranges : Ranges) : InOrder (gapsFrom n ranges) := by
  induction ranges generalizing n with
  | nil =>
      unfold gapsFrom
      split
      · exact List.pairwise_singleton ..
      · exact List.Pairwise.nil
  | cons r rest ih =>
      unfold gapsFrom
      split
      · -- The next gap begins behind the range that ends this one.
        refine inOrder_cons (fun s hs => ?_) (ih _)
        have := exists_of_mem_gapsFrom hs
        simp only
        omega
      · exact ih _

theorem inOrder_surrogates : InOrder surrogates := List.pairwise_singleton ..

theorem covers_surrogates : Covers surrogates n ↔ 0xD800 ≤ n ∧ n ≤ 0xDFFF := covers_singleton

theorem le_lastCode_toNat (c : Char) : c.toNat ≤ lastCode ∧ ¬ Covers surrogates c.toNat := by
  have h := c.valid
  simp only [UInt32.isValidChar, Nat.isValidChar, UInt32.toNat] at h
  rw [covers_surrogates]
  simp only [lastCode, Char.toNat, UInt32.toNat]
  omega

/-!
## Sets of characters

To be in order is not enough for a complement: a range with no code point or one that reaches
beyond the last code point would be taken for more than it covers. Proper sets have neither, nor
surrogates, and all operations keep sets proper.
-/

/-- The ranges are in order, each has a code point, and all of their code points are characters. -/
structure IsProper (ranges : Ranges) : Prop where
  inOrder : InOrder ranges
  nonempty : ∀ r ∈ ranges, r.1 ≤ r.2
  chars : ∀ n, Covers ranges n → n ≤ lastCode ∧ ¬ Covers surrogates n

/-- The range has a code point, and all of its code points are characters. -/
def IsOfChars (r : Nat × Nat) : Prop :=
  r.1 ≤ r.2 ∧ r.2 ≤ lastCode ∧ (r.2 < 0xD800 ∨ 0xDFFF < r.1)

instance : DecidablePred IsOfChars := fun _ => inferInstanceAs (Decidable (_ ∧ _ ∧ (_ ∨ _)))

theorem forall_isOfChars_iff : (∀ r ∈ ranges, IsOfChars r) ↔
    (∀ r ∈ ranges, r.1 ≤ r.2) ∧ ∀ n, Covers ranges n → n ≤ lastCode ∧ ¬ Covers surrogates n := by
  simp only [covers_surrogates]
  constructor
  · intro h
    refine ⟨fun r hr => (h r hr).1, fun n => ?_⟩
    rintro ⟨r, hr, hle, hge⟩
    have := h r hr
    unfold IsOfChars at this
    omega
  · rintro ⟨hne, hchars⟩ r hr
    have hle := hne r hr
    have hlast := hchars r.2 ⟨r, hr, hle, Nat.le_refl _⟩
    refine ⟨hle, hlast.1, ?_⟩
    -- A range on both sides of the surrogates has the first of them, or begins with one of them.
    by_contra hboth
    have := hchars (max r.1 0xD800) ⟨r, hr, by omega, by omega⟩
    omega

theorem isProper_iff : IsProper ranges ↔ InOrder ranges ∧ ∀ r ∈ ranges, IsOfChars r := by
  rw [forall_isOfChars_iff]
  exact ⟨fun h => ⟨h.inOrder, h.nonempty, h.chars⟩, fun ⟨h₁, h₂, h₃⟩ => ⟨h₁, h₂, h₃⟩⟩

/-! ### Checking a set -/

/-- Whether ranges are proper and none begins before `n`, found out by going through them once. -/
def checksFrom (n : Nat) : Ranges → Bool
  | [] => true
  | (first, last) :: rest =>
    n.ble first && first.ble last && last.ble lastCode && (last.blt 0xD800 || Nat.blt 0xDFFF first)
      && checksFrom first rest

theorem checksFrom_iff : checksFrom n ranges = true ↔
    (∀ r ∈ ranges, n ≤ r.1) ∧ InOrder ranges ∧ ∀ r ∈ ranges, IsOfChars r := by
  induction ranges generalizing n with
  | nil => simp [checksFrom, InOrder]
  | cons r rest ih =>
      simp only [checksFrom, Bool.and_eq_true, Bool.or_eq_true, Nat.ble_eq, Nat.blt_eq, ih,
        List.forall_mem_cons, InOrder, List.pairwise_cons, IsOfChars]
      constructor
      · rintro ⟨⟨⟨⟨hn, hle⟩, hlast⟩, hchars⟩, hrest, horder, hall⟩
        exact ⟨⟨hn, fun s hs => Nat.le_trans hn (hrest s hs)⟩, ⟨hrest, horder⟩,
          ⟨hle, hlast, hchars⟩, hall⟩
      · rintro ⟨⟨hn, -⟩, ⟨hrest, horder⟩, ⟨hle, hlast, hchars⟩, hall⟩
        exact ⟨⟨⟨⟨hn, hle⟩, hlast⟩, hchars⟩, hrest, horder, hall⟩

instance : DecidablePred IsProper := fun ranges =>
  decidable_of_iff (checksFrom 0 ranges = true) <| by
    rw [checksFrom_iff, isProper_iff]
    exact and_iff_right fun r _ => Nat.zero_le r.1

theorem IsProper.sublist (h : IsProper b) (hab : a.Sublist b) : IsProper a :=
  ⟨h.inOrder.sublist hab, fun r hr => h.nonempty r (hab.subset hr),
    fun n ⟨r, hr, hn⟩ => h.chars n ⟨r, hab.subset hr, hn⟩⟩

@[simp] theorem isProper_nil : IsProper [] :=
  ⟨List.Pairwise.nil, by simp, fun _ h => absurd h not_covers_nil⟩

/-! ### Operations keep sets proper -/

theorem IsProper.isValidChar (h : IsProper ranges) (hn : Covers ranges n) : n.isValidChar := by
  have := h.chars n hn
  rw [covers_surrogates] at this
  simp only [Nat.isValidChar, lastCode] at *
  omega

theorem toNat_ofNat (h : n.isValidChar) : (Char.ofNat n).toNat = n := by
  rw [Char.ofNat, dif_pos h]
  rfl

theorem IsProper.le_lastCode (h : IsProper ranges) (hr : r ∈ ranges) : r.1 ≤ lastCode :=
  (h.chars r.1 ⟨r, hr, Nat.le_refl _, h.nonempty r hr⟩).1

theorem le_of_mem_joinFrom (h : ∀ t ∈ r :: ranges, t.1 ≤ t.2) (hs : s ∈ joinFrom r ranges) :
    s.1 ≤ s.2 := by
  induction ranges generalizing r with
  | nil => exact h s hs
  | cons t rest ih =>
      obtain ⟨hr, ht⟩ := List.forall_mem_cons.mp h
      unfold joinFrom at hs
      split at hs
      · refine ih (List.forall_mem_cons.mpr ⟨?_, (List.forall_mem_cons.mp ht).2⟩) hs
        exact Nat.le_trans hr (Nat.le_max_left ..)
      · obtain rfl | hs := List.mem_cons.mp hs
        · exact hr
        · exact ih ht hs

theorem isProper_join (h : IsProper ranges) : IsProper (join ranges) where
  inOrder := inOrder_join h.inOrder
  nonempty := by
    cases ranges with
    | nil => simp [join]
    | cons r rest => exact fun s hs => le_of_mem_joinFrom h.nonempty hs
  chars n hn := h.chars n ((covers_join h.inOrder).mp hn)

@[simp] theorem isProper_union (ha : IsProper a) (hb : IsProper b) : IsProper (a.union b) := by
  apply isProper_join
  refine ⟨inOrder_merge ha.inOrder hb.inOrder, fun r hr => ?_, ?_⟩
  · exact (List.mem_merge.mp hr).elim (ha.nonempty r) (hb.nonempty r)
  · rintro n ⟨r, hr, hn⟩
    exact (List.mem_merge.mp hr).elim (fun hr => ha.chars n ⟨r, hr, hn⟩)
      (fun hr => hb.chars n ⟨r, hr, hn⟩)

@[simp] theorem isProper_unions {sets : List Ranges} (h : ∀ a ∈ sets, IsProper a) :
    IsProper (unions sets) := by
  induction sets with
  | nil => exact isProper_nil
  | cons a rest ih =>
      obtain ⟨ha, hrest⟩ := List.forall_mem_cons.mp h
      exact isProper_union ha (ih hrest)

theorem has_unions {sets : List Ranges} (h : ∀ a ∈ sets, IsProper a) (c : Char) :
    (unions sets).has c = sets.any (·.has c) := by
  induction sets with
  | nil => rfl
  | cons a rest ih =>
      obtain ⟨ha, hrest⟩ := List.forall_mem_cons.mp h
      rw [List.any_cons, ← ih hrest]
      exact has_union ha.inOrder (isProper_unions hrest).inOrder c

theorem isProper_ofList (h : ∀ r ∈ ranges, IsOfChars r) : IsProper (ofList ranges) := by
  obtain ⟨hne, hchars⟩ := forall_isOfChars_iff.mp h
  apply isProper_join
  refine ⟨inOrder_mergeSort ranges, fun r hr => hne r (List.mem_mergeSort.mp hr), fun n hn => ?_⟩
  exact hchars n ((covers_congr fun r => List.mem_mergeSort).mp hn)

theorem covers_complement (ha : IsProper a) :
    a.complement.Covers n ↔ n ≤ lastCode ∧ ¬ a.Covers n ∧ ¬ Covers surrogates n := by
  have hlast : ∀ r ∈ a.union surrogates, r.1 ≤ lastCode + 1 := by
    intro r hr
    obtain ⟨s, hs, heq⟩ := exists_of_mem_join hr
    rw [← heq]
    obtain hs | hs := List.mem_merge.mp hs
    · exact Nat.le_succ_of_le (ha.le_lastCode hs)
    · rw [List.mem_singleton.mp hs]
      decide
  rw [complement, covers_gapsFrom (inOrder_union ha.inOrder inOrder_surrogates) hlast,
    covers_union ha.inOrder inOrder_surrogates, not_or]
  simp

@[simp] theorem isProper_complement (ha : IsProper a) : IsProper a.complement := by
  refine ⟨inOrder_gapsFrom _ _, fun r hr => (exists_of_mem_gapsFrom hr).2, fun n hn => ?_⟩
  obtain ⟨hle, -, hchar⟩ := (covers_complement ha).mp hn
  exact ⟨hle, hchar⟩

theorem has_complement (ha : IsProper a) (c : Char) : a.complement.has c = !a.has c := by
  obtain ⟨hle, hchar⟩ := le_lastCode_toNat c
  rw [Bool.eq_iff_iff, has_iff, covers_complement ha, Bool.not_eq_true', ← Bool.not_eq_true,
    has_iff, and_iff_right hle, and_iff_left hchar]

/-!
## Further operations

The other operations are made of unions and complements, and so are the proofs.
-/

theorem covers_inter (ha : IsProper a) (hb : IsProper b) :
    (a.inter b).Covers n ↔ a.Covers n ∧ b.Covers n := by
  have ha' := isProper_complement ha
  have hb' := isProper_complement hb
  rw [inter, covers_complement (isProper_union ha' hb'), covers_union ha'.inOrder hb'.inOrder,
    covers_complement ha, covers_complement hb]
  have := ha.chars n
  tauto

@[simp] theorem isProper_inter (ha : IsProper a) (hb : IsProper b) : IsProper (a.inter b) :=
  isProper_complement (isProper_union (isProper_complement ha) (isProper_complement hb))

theorem has_inter (ha : IsProper a) (hb : IsProper b) (c : Char) :
    (a.inter b).has c = (a.has c && b.has c) := by
  rw [Bool.eq_iff_iff, Bool.and_eq_true, has_iff, has_iff, has_iff, covers_inter ha hb]

@[simp] theorem isProper_diff (ha : IsProper a) (hb : IsProper b) : IsProper (a.diff b) :=
  isProper_complement (isProper_union (isProper_complement ha) hb)

theorem has_diff (ha : IsProper a) (hb : IsProper b) (c : Char) :
    (a.diff b).has c = (a.has c && !b.has c) := by
  have ha' := isProper_complement ha
  rw [diff, has_complement (isProper_union ha' hb), has_union ha'.inOrder hb.inOrder,
    has_complement ha]
  simp

theorem isProper_symmDiff (ha : IsProper a) (hb : IsProper b) : IsProper (a.symmDiff b) :=
  isProper_union (isProper_diff ha hb) (isProper_diff hb ha)

theorem has_symmDiff (ha : IsProper a) (hb : IsProper b) (c : Char) :
    (a.symmDiff b).has c = (a.has c ^^ b.has c) := by
  rw [symmDiff, has_union (isProper_diff ha hb).inOrder (isProper_diff hb ha).inOrder,
    has_diff ha hb, has_diff hb ha]
  cases a.has c <;> cases b.has c <;> rfl

theorem isProper_signed (negated : Bool) (ha : IsProper a) : IsProper (signed negated a) := by
  cases negated with
  | false => exact ha
  | true => exact isProper_complement ha

theorem has_signed (negated : Bool) (ha : IsProper a) (c : Char) :
    (signed negated a).has c = (negated ^^ a.has c) := by
  cases negated with
  | false => exact (Bool.false_xor _).symm
  | true => rw [Bool.true_xor]; exact has_complement ha c

/-! ### Sets that are given -/

theorem isProper_all : IsProper all := isProper_complement isProper_nil

theorem has_all (c : Char) : all.has c = true := has_complement isProper_nil c

theorem covers_single : Covers (single c) n ↔ n = c.toNat := by
  rw [single, covers_singleton]
  omega

theorem isOfChars_single (c : Char) : IsOfChars (c.toNat, c.toNat) := by
  obtain ⟨hlast, hchar⟩ := le_lastCode_toNat c
  rw [covers_surrogates] at hchar
  unfold IsOfChars
  omega

@[simp] theorem isProper_single (c : Char) : IsProper (single c) :=
  isProper_iff.mpr ⟨List.pairwise_singleton .., List.forall_mem_singleton.mpr (isOfChars_single c)⟩

theorem has_single (c d : Char) : (single c).has d = (d == c) := by
  rw [Bool.eq_iff_iff, has_iff, covers_single, beq_iff_eq]
  exact ⟨fun h => Char.ext (UInt32.toNat_inj.mp h), congrArg Char.toNat⟩

theorem isProper_between {first last : Char} (h : first ≤ last) : IsProper (between first last) := by
  have hle : first.toNat ≤ last.toNat := h
  obtain ⟨-, hfirst⟩ := le_lastCode_toNat first
  obtain ⟨hlast, hchar⟩ := le_lastCode_toNat last
  rw [covers_surrogates] at hfirst hchar
  rw [isProper_iff]
  unfold between
  split
  · -- Two ranges, with the surrogates between them.
    have hcode : 0xD7FF ≤ lastCode := by decide
    simp only [InOrder, List.pairwise_cons, List.Pairwise.nil, List.forall_mem_cons,
      List.not_mem_nil, IsEmpty.forall_iff, implies_true, IsOfChars, and_true]
    omega
  · simp only [InOrder, List.pairwise_singleton, List.forall_mem_singleton, IsOfChars, true_and]
    omega

theorem has_between (first last c : Char) :
    (between first last).has c = true ↔ first ≤ c ∧ c ≤ last := by
  have hle (x y : Char) : x ≤ y ↔ x.toNat ≤ y.toNat := Iff.rfl
  have hc := (le_lastCode_toNat c).2
  rw [covers_surrogates] at hc
  rw [has_iff, hle, hle]
  unfold between
  split
  · rw [covers_cons, covers_singleton]
    omega
  · exact covers_singleton

end ModuleReadme.Text.Ranges
