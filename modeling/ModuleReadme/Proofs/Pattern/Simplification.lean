import ModuleReadme.Proofs.Pattern.Matching
import ModuleReadme.Proofs.Text.Ranges

/-!
# Simplification keeps what a pattern describes

A pattern is put together in a simple form while it is read. The simple form describes what the
parts describe one after the other (`passes_sequence`), one of the parts (`passes_alternatives`),
or a part again and again (`passes_times`). Sets can be put together in this way only if they are
in order, and a set of one character can become a literal only if it has the code point of a
character; all this holds of the sets in tidy patterns (`IsTidy`), and the simple forms of tidy
patterns are tidy.
-/

namespace ModuleReadme.Pattern

open Text

variable {p q : Pattern} {ps qs : List Pattern} {a b c : Position} {set : Ranges}

/-- All sets in the pattern are proper. -/
def IsTidy : Pattern → Prop
  | oneOf set => set.IsProper
  | followedBy p q | either p q => p.IsTidy ∧ q.IsTidy
  | repeated p _ _ _ | group _ p => p.IsTidy
  | empty | literal _ | condition _ => True

/-!
## Sequences

A sequence is taken apart into items, of which neighbouring literals are joined, and put together
again. What it passes is what the list of its items passes, whichever way the list is nested.
-/

/-- The patterns are passed one after the other. -/
def PassesAll : List Pattern → Position → Position → Prop
  | [], a, b => a = b
  | p :: ps, a, c => ∃ b, p.Passes a b ∧ PassesAll ps b c

theorem passesAll_singleton : PassesAll [p] a b ↔ p.Passes a b := by
  simp [PassesAll]

theorem passesAll_append : PassesAll (ps ++ qs) a c ↔ ∃ b, PassesAll ps a b ∧ PassesAll qs b c := by
  induction ps generalizing a with
  | nil => simp [PassesAll]
  | cons p ps ih =>
      simp only [List.cons_append, PassesAll, ih]
      constructor
      · rintro ⟨d, hd, b, hb, hc⟩
        exact ⟨b, ⟨d, hd, hb⟩, hc⟩
      · rintro ⟨b, ⟨d, hd, hb⟩, hc⟩
        exact ⟨d, hd, b, hb, hc⟩

theorem passes_chain : (chain ps).Passes a b ↔ PassesAll ps a b := by
  induction ps generalizing a with
  | nil => exact Iff.rfl
  | cons p ps ih =>
      cases ps with
      | nil => exact passesAll_singleton.symm
      | cons q qs => exact exists_congr fun d => and_congr_right fun _ => ih

theorem passesAll_items (p : Pattern) : PassesAll p.items a b ↔ p.Passes a b := by
  induction p generalizing a b with
  | followedBy p q _ hq => exact exists_congr fun d => and_congr_right fun _ => hq
  | _ => exact passesAll_singleton

theorem passesAll_flatMap_items (ps : List Pattern) :
    PassesAll (ps.flatMap items) a b ↔ PassesAll ps a b := by
  induction ps generalizing a with
  | nil => exact Iff.rfl
  | cons p ps ih =>
      rw [List.flatMap_cons, passesAll_append]
      exact exists_congr fun d => and_congr (passesAll_items p) ih

theorem passesAll_prepend (p : Pattern) (ps : List Pattern) :
    PassesAll (prepend p ps) a c ↔ PassesAll (p :: ps) a c := by
  unfold prepend
  split
  · simp [PassesAll, Passes]
  · next front back rest =>
    -- What two literals read one after the other, one literal reads at once.
    simp only [PassesAll, Passes, reads_append_iff]
    constructor
    · rintro ⟨d, ⟨b, hb, hd⟩, hc⟩
      exact ⟨b, hb, d, hd, hc⟩
    · rintro ⟨b, hb, d, hd, hc⟩
      exact ⟨d, ⟨b, hb, hd⟩, hc⟩
  · exact Iff.rfl

theorem passesAll_foldr_prepend (ps : List Pattern) :
    PassesAll (ps.foldr prepend []) a b ↔ PassesAll ps a b := by
  induction ps generalizing a with
  | nil => exact Iff.rfl
  | cons p ps ih =>
      rw [List.foldr_cons, passesAll_prepend]
      exact exists_congr fun d => and_congr_right fun _ => ih

theorem passes_sequence (ps : List Pattern) : (sequence ps).Passes a b ↔ PassesAll ps a b := by
  rw [sequence, passes_chain, passesAll_foldr_prepend, passesAll_flatMap_items]

theorem isTidy_chain (h : ∀ p ∈ ps, p.IsTidy) : (chain ps).IsTidy := by
  induction ps with
  | nil => trivial
  | cons p ps ih =>
      obtain ⟨hp, hps⟩ := List.forall_mem_cons.mp h
      cases ps with
      | nil => exact hp
      | cons q qs => exact ⟨hp, ih hps⟩

theorem isTidy_of_mem_items (hp : p.IsTidy) (hq : q ∈ p.items) : q.IsTidy := by
  induction p with
  | followedBy p r _ hr =>
      obtain rfl | hq := List.mem_cons.mp hq
      · exact hp.1
      · exact hr hp.2 hq
  | _ =>
      rw [List.mem_singleton.mp hq]
      exact hp

theorem isTidy_of_mem_prepend (hp : p.IsTidy) (hps : ∀ r ∈ ps, r.IsTidy)
    (hq : q ∈ prepend p ps) : q.IsTidy := by
  unfold prepend at hq
  split at hq
  · exact hps q hq
  · next front back rest =>
    obtain rfl | hq := List.mem_cons.mp hq
    · trivial
    · exact hps q (List.mem_cons_of_mem _ hq)
  · obtain rfl | hq := List.mem_cons.mp hq
    · exact hp
    · exact hps q hq

theorem isTidy_sequence (h : ∀ p ∈ ps, p.IsTidy) : (sequence ps).IsTidy := by
  apply isTidy_chain
  have hitems : ∀ q ∈ ps.flatMap items, q.IsTidy := by
    intro q hq
    obtain ⟨p, hp, hq⟩ := List.mem_flatMap.mp hq
    exact isTidy_of_mem_items (h p hp) hq
  generalize ps.flatMap items = qs at hitems
  induction qs with
  | nil => exact fun q hq => absurd hq List.not_mem_nil
  | cons p rest ih =>
      obtain ⟨hp, hrest⟩ := List.forall_mem_cons.mp hitems
      exact fun q hq => isTidy_of_mem_prepend hp (ih hrest) hq

/-!
## Alternatives

Alternatives are simplified in three ways: nested ones are put into one list, single characters are
put into a set, and what all of them begin with is put in front.
-/

theorem passes_choice (ps : List Pattern) : (choice ps).Passes a b ↔ ∃ p ∈ ps, p.Passes a b := by
  induction ps with
  | nil => simp [choice, Passes, Ranges.has]
  | cons p ps ih =>
      cases ps with
      | nil => simp [choice]
      | cons q qs =>
          rw [List.exists_mem_cons_iff, ← ih]
          exact Iff.rfl

theorem exists_mem_branches (p : Pattern) : (∃ q ∈ p.branches, q.Passes a b) ↔ p.Passes a b := by
  induction p with
  | either p q _ hq =>
      rw [branches, List.exists_mem_cons_iff, hq]
      exact Iff.rfl
  | _ => simp [branches]

theorem exists_mem_flatMap_branches (ps : List Pattern) :
    (∃ q ∈ ps.flatMap branches, q.Passes a b) ↔ ∃ p ∈ ps, p.Passes a b := by
  simp only [List.mem_flatMap]
  constructor
  · rintro ⟨q, ⟨p, hp, hq⟩, hab⟩
    exact ⟨p, hp, (exists_mem_branches p).mp ⟨q, hq, hab⟩⟩
  · rintro ⟨p, hp, hab⟩
    obtain ⟨q, hq, hab⟩ := (exists_mem_branches p).mpr hab
    exact ⟨q, ⟨p, hp, hq⟩, hab⟩

theorem isTidy_of_mem_branches (hp : p.IsTidy) (hq : q ∈ p.branches) : q.IsTidy := by
  induction p with
  | either p r _ hr =>
      obtain rfl | hq := List.mem_cons.mp hq
      · exact hp.1
      · exact hr hp.2 hq
  | _ =>
      rw [List.mem_singleton.mp hq]
      exact hp

theorem isTidy_choice (h : ∀ p ∈ ps, p.IsTidy) : (choice ps).IsTidy := by
  induction ps with
  | nil => exact Ranges.isProper_nil
  | cons p ps ih =>
      obtain ⟨hp, hps⟩ := List.forall_mem_cons.mp h
      cases ps with
      | nil => exact hp
      | cons q qs => exact ⟨hp, ih hps⟩

/-!
### Sets

Alternatives that are all single characters, or all sets, describe the characters of one set.
-/

theorem passes_ofSet (h : set.IsProper) : (ofSet set).Passes a b ↔ (oneOf set).Passes a b := by
  unfold ofSet
  split
  · next first last =>
    split
    · next heq =>
      subst heq
      have hvalid : first.isValidChar :=
        h.isValidChar (Ranges.covers_singleton.mpr ⟨Nat.le_refl first, Nat.le_refl first⟩)
      have hhas (c : Char) : Ranges.has [(first, first)] c = true ↔ c = Char.ofNat first := by
        rw [Ranges.has_iff, Ranges.covers_singleton]
        constructor
        · rintro ⟨hle, hge⟩
          rw [show first = c.toNat from Nat.le_antisymm hle hge, Char.ofNat_toNat]
        · rintro rfl
          rw [Ranges.toNat_ofNat hvalid]
          exact ⟨Nat.le_refl first, Nat.le_refl first⟩
      simp only [Passes, hhas, exists_eq_left]
    · exact Iff.rfl
  · exact Iff.rfl

theorem isTidy_ofSet (h : set.IsProper) : (ofSet set).IsTidy := by
  unfold ofSet
  split
  · split
    · trivial
    · exact h
  · exact h

/-- Where each of some alternatives is another way to write down a value, one of them passes as far as
one of the values does. -/
theorem exists_mem_mapM_iff {β : Type} {f : Pattern → Option β} {values : List β}
    {P : Pattern → Prop} {Q : β → Prop} (hf : ∀ p v, f p = some v → (P p ↔ Q v))
    (h : ps.mapM f = some values) : (∃ p ∈ ps, P p) ↔ ∃ v ∈ values, Q v := by
  induction ps generalizing values with
  | nil =>
      cases h
      simp
  | cons p ps ih =>
      rw [List.mapM_cons] at h
      simp only [Option.bind_eq_bind, Option.bind_eq_some_iff] at h
      obtain ⟨v, hv, vs, hvs, heq⟩ := h
      cases heq
      rw [List.exists_mem_cons_iff, List.exists_mem_cons_iff, ih hvs, hf p v hv]

theorem singleRange?_eq_some {r : Nat × Nat} (h : p.singleRange? = some r) :
    ∃ c : Char, r = (c.toNat, c.toNat) ∧ ∀ a b, p.Passes a b ↔ a.Reads [c] b := by
  unfold singleRange? at h
  split at h
  · next c =>
    cases h
    exact ⟨c, rfl, fun _ _ => Iff.rfl⟩
  · cases h

theorem set?_eq_some (h : p.set? = some set) : p = oneOf set := by
  unfold set? at h
  split at h
  · cases h
    rfl
  · cases h

theorem commonSet?_spec (htidy : ∀ p ∈ ps, p.IsTidy) (h : commonSet? ps = some set) :
    set.IsProper ∧ ∀ a b, (oneOf set).Passes a b ↔ ∃ p ∈ ps, p.Passes a b := by
  unfold commonSet? at h
  split at h
  · next ranges hranges =>
    cases h
    -- All alternatives are single characters.
    have hsingle (r : Nat × Nat) (hr : r ∈ ranges) : ∃ c : Char, r = (c.toNat, c.toNat) := by
      obtain ⟨p, -, hp⟩ := (exists_mem_mapM_iff (P := fun p => p.singleRange? = some r)
        (Q := fun v => v = r) (fun p v hv => by rw [hv, Option.some.injEq]) hranges).mpr ⟨r, hr, rfl⟩
      obtain ⟨c, hc, -⟩ := singleRange?_eq_some hp
      exact ⟨c, hc⟩
    refine ⟨Ranges.isProper_ofList fun r hr => ?_, fun a b => ?_⟩
    · obtain ⟨c, rfl⟩ := hsingle r hr
      exact Ranges.isOfChars_single c
    · rw [exists_mem_mapM_iff (Q := fun r => ∃ c : Char, r.1 ≤ c.toNat ∧ c.toNat ≤ r.2 ∧ a.Reads [c] b)
        ?_ hranges]
      · simp only [Passes, Ranges.has_ofList, Ranges.has_iff, Ranges.Covers]
        constructor
        · rintro ⟨c, ⟨r, hr, hle, hge⟩, hreads⟩
          exact ⟨r, hr, c, hle, hge, hreads⟩
        · rintro ⟨r, hr, c, hle, hge, hreads⟩
          exact ⟨c, ⟨r, hr, hle, hge⟩, hreads⟩
      · intro p r hr
        obtain ⟨c, rfl, hpasses⟩ := singleRange?_eq_some hr
        rw [hpasses]
        constructor
        · intro hreads
          exact ⟨c, Nat.le_refl _, Nat.le_refl _, hreads⟩
        · rintro ⟨d, hle, hge, hreads⟩
          obtain rfl : c = d := Char.ext (UInt32.toNat_inj.mp (Nat.le_antisymm hle hge))
          exact hreads
  · -- All alternatives are sets.
    obtain ⟨sets, hsets, rfl⟩ := Option.map_eq_some_iff.mp h
    have hproper : ∀ set ∈ sets, set.IsProper := by
      intro set hset
      obtain ⟨p, hp, heq⟩ := (exists_mem_mapM_iff (P := fun p => p.set? = some set)
        (Q := fun v => v = set) (fun p v hv => by rw [hv, Option.some.injEq]) hsets).mpr
          ⟨set, hset, rfl⟩
      have := htidy p hp
      rwa [set?_eq_some heq] at this
    refine ⟨Ranges.isProper_unions hproper, fun a b => ?_⟩
    rw [exists_mem_mapM_iff (Q := fun set => (oneOf set).Passes a b) ?_ hsets]
    · simp only [Passes, Ranges.has_unions hproper, List.any_eq_true]
      constructor
      · rintro ⟨c, ⟨set, hset, hc⟩, hreads⟩
        exact ⟨set, hset, c, hc, hreads⟩
      · rintro ⟨set, hset, c, hc, hreads⟩
        exact ⟨c, ⟨set, hset, hc⟩, hreads⟩
    · intro p set hset
      rw [set?_eq_some hset]

/-!
### Shared items

The items that all alternatives have in front are found two alternatives at a time, so they are a
beginning of each of them. Behind them the rests are alternatives again, which is what the
induction is on.
-/

theorem commonFront_isPrefix_left (ps qs : List Pattern) : commonFront ps qs <+: ps := by
  fun_induction commonFront ps qs with
  | case1 p ps qs ih => exact (List.cons_prefix_cons ..).mpr ⟨rfl, ih⟩
  | case2 => exact List.nil_prefix
  | case3 => exact List.nil_prefix

theorem commonFront_isPrefix_right (ps qs : List Pattern) : commonFront ps qs <+: qs := by
  fun_induction commonFront ps qs with
  | case1 p ps qs ih => exact (List.cons_prefix_cons ..).mpr ⟨rfl, ih⟩
  | case2 => exact List.nil_prefix
  | case3 => exact List.nil_prefix

theorem foldl_commonFront_isPrefix (front : List Pattern) (ps : List Pattern) :
    (ps.foldl (fun front q => commonFront front q.items) front) <+: front ∧
      ∀ q ∈ ps, (ps.foldl (fun front q => commonFront front q.items) front) <+: q.items := by
  induction ps generalizing front with
  | nil => exact ⟨List.prefix_rfl, by simp⟩
  | cons p ps ih =>
      obtain ⟨hfront, hrest⟩ := ih (commonFront front p.items)
      refine ⟨hfront.trans (commonFront_isPrefix_left _ _), ?_⟩
      exact List.forall_mem_cons.mpr ⟨hfront.trans (commonFront_isPrefix_right _ _), hrest⟩

theorem sharedItems_isPrefix (hp : p ∈ ps) : sharedItems ps <+: p.items := by
  cases ps with
  | nil => cases hp
  | cons q qs =>
      rw [sharedItems]
      split
      · obtain ⟨hq, hqs⟩ := foldl_commonFront_isPrefix q.items qs
        obtain rfl | hp := List.mem_cons.mp hp
        · exact hq
        · exact hqs p hp
      · exact List.nil_prefix

/-- What all alternatives begin with can be passed once and for all. -/
theorem exists_passes_iff_shared (a c : Position) :
    (∃ p ∈ ps, p.Passes a c) ↔
      ∃ b, PassesAll (sharedItems ps) a b ∧
        ∃ q ∈ ps.map (fun p => sequence (p.items.drop (sharedItems ps).length)), q.Passes b c := by
  have hp (p : Pattern) (hp : p ∈ ps) : p.Passes a c ↔ ∃ b, PassesAll (sharedItems ps) a b ∧
      (sequence (p.items.drop (sharedItems ps).length)).Passes b c := by
    have hitems := List.prefix_iff_eq_append.mp (sharedItems_isPrefix hp)
    rw [← passesAll_items, ← hitems, passesAll_append]
    simp only [passes_sequence, hitems]
  simp only [List.mem_map, exists_exists_and_eq_and]
  constructor
  · rintro ⟨p, hmem, hpasses⟩
    obtain ⟨b, hb, hc⟩ := (hp p hmem).mp hpasses
    exact ⟨b, hb, p, hmem, hc⟩
  · rintro ⟨b, hb, p, hmem, hc⟩
    exact ⟨p, hmem, (hp p hmem).mpr ⟨b, hb, hc⟩⟩

theorem alternativesWithin_spec (depth : Nat) (h : ∀ p ∈ ps, p.IsTidy) :
    (alternativesWithin depth ps).IsTidy ∧
      ∀ a b, (alternativesWithin depth ps).Passes a b ↔ ∃ p ∈ ps, p.Passes a b := by
  induction depth generalizing ps with
  | zero => exact ⟨isTidy_choice h, fun a b => passes_choice ps⟩
  | succ depth ih =>
      have hbranches : ∀ q ∈ ps.flatMap branches, q.IsTidy := by
        intro q hq
        obtain ⟨p, hp, hq⟩ := List.mem_flatMap.mp hq
        exact isTidy_of_mem_branches (h p hp) hq
      simp only [← exists_mem_flatMap_branches ps]
      unfold alternativesWithin
      split
      · next p heq =>
        rw [heq] at hbranches ⊢
        exact ⟨hbranches p (List.mem_singleton_self p), fun a b => by simp⟩
      · generalize ps.flatMap branches = qs at hbranches ⊢
        dsimp only
        split
        · next set _ hset =>
          obtain ⟨hproper, hpasses⟩ := commonSet?_spec hbranches hset
          exact ⟨isTidy_ofSet hproper, fun a b => (passes_ofSet hproper).trans (hpasses a b)⟩
        · exact ⟨isTidy_choice hbranches, fun a b => passes_choice qs⟩
        · next hset hshared =>
          -- What is left of each alternative behind the shared items is tidy again.
          have hrests : ∀ q ∈ qs.map (fun p => sequence (p.items.drop (sharedItems qs).length)),
              q.IsTidy := by
            intro q hq
            obtain ⟨p, hp, rfl⟩ := List.mem_map.mp hq
            exact isTidy_sequence fun r hr =>
              isTidy_of_mem_items (hbranches p hp) (List.mem_of_mem_drop hr)
          obtain ⟨hrestTidy, hrest⟩ := ih hrests
          constructor
          · apply isTidy_sequence
            intro q hq
            obtain hq | hq := List.mem_append.mp hq
            · cases qs with
              | nil => cases hq
              | cons p qs =>
                  have hp := List.mem_cons_self (a := p) (l := qs)
                  exact isTidy_of_mem_items (hbranches p hp) ((sharedItems_isPrefix hp).subset hq)
            · rw [List.mem_singleton.mp hq]
              exact hrestTidy
          · intro a c
            rw [passes_sequence, passesAll_append, exists_passes_iff_shared]
            exact exists_congr fun b => and_congr_right fun _ => passesAll_singleton.trans (hrest b c)

theorem passes_alternatives (h : ∀ p ∈ ps, p.IsTidy) :
    (alternatives ps).Passes a b ↔ ∃ p ∈ ps, p.Passes a b :=
  (alternativesWithin_spec _ h).2 a b

theorem isTidy_alternatives (h : ∀ p ∈ ps, p.IsTidy) : (alternatives ps).IsTidy :=
  (alternativesWithin_spec _ h).1

/-!
## Repetition

A pattern that passes no characters is repeated at most once. One that is repeated just once is
itself, and one that is repeated no time is empty.
-/

/-- A pattern of no length stays where it is. -/
theorem eq_of_isPoint (hp : p.isPoint = true) (h : p.Passes a b) : a = b := by
  induction p generalizing a b with
  | empty => exact h
  | literal chars => cases hp
  | oneOf set => cases hp
  | condition c => exact h.1
  | followedBy p q ihp ihq =>
      obtain ⟨hp, hq⟩ := Bool.and_eq_true_iff.mp hp
      obtain ⟨c, hac, hcb⟩ := h
      exact (ihp hp hac).trans (ihq hq hcb)
  | either p q ihp ihq =>
      obtain ⟨hp, hq⟩ := Bool.and_eq_true_iff.mp hp
      exact h.elim (ihp hp) (ihq hq)
  | repeated p least most rarely ih =>
      obtain ⟨n, -, -, hn⟩ := h
      have hp := (Bool.and_eq_true_iff.mp hp).2
      -- A second induction, on the number of repetitions.
      induction n generalizing a with
      | zero => exact hn
      | succ n hrest =>
          obtain ⟨c, hac, hcb⟩ := hn
          exact (ih hp hac).trans (hrest hcb)
  | group number p ih => exact ih hp h

/-- What stays where it is passes once or not at all. -/
theorem repeats_iff_of_isPoint (hp : p.isPoint = true) (n : Nat) :
    Repeats p.Passes n a b ↔ a = b ∧ (n = 0 ∨ p.Passes a a) := by
  induction n generalizing a with
  | zero => simp [Repeats]
  | succ n ih =>
      simp only [Repeats, ih]
      constructor
      · rintro ⟨c, hac, rfl, -⟩
        obtain rfl := eq_of_isPoint hp hac
        exact ⟨rfl, .inr hac⟩
      · rintro ⟨rfl, h⟩
        have haa : p.Passes a a := h.resolve_left (Nat.succ_ne_zero n)
        exact ⟨a, haa, rfl, .inr haa⟩

theorem passes_repeated_iff_of_isPoint (hp : p.isPoint = true) (least : Nat) (most : Option Nat)
    (rarely : Bool) :
    (repeated p least most rarely).Passes a b ↔ a = b ∧ (least = 0 ∨ p.Passes a a) := by
  simp only [Passes, repeats_iff_of_isPoint hp]
  constructor
  · rintro ⟨n, hleast, -, hab, hn⟩
    refine ⟨hab, hn.imp_left fun h => ?_⟩
    subst h
    exact Nat.le_zero.mp hleast
  · rintro ⟨hab, h⟩
    exact ⟨least, Nat.le_refl least, fun m _ => Nat.le_max_left .., hab, h⟩

theorem passes_times (p : Pattern) (least : Nat) (most : Option Nat) (rarely : Bool) :
    (times p least most rarely).Passes a b ↔ (repeated p least most rarely).Passes a b := by
  -- No time and once are not repetitions, whatever the pattern is.
  have hsimple (least : Nat) (most : Option Nat) :
      (if least = 0 ∧ most = some 0 then empty
        else if least = 1 ∧ most = some 1 then p
        else repeated p least most rarely).Passes a b ↔
          (repeated p least most rarely).Passes a b := by
    split
    · next h =>
      obtain ⟨rfl, rfl⟩ := h
      simp [Passes, Repeats]
    · split
      · next h =>
        obtain ⟨rfl, rfl⟩ := h
        have hone (n : Nat) : 1 ≤ n ∧ n ≤ 1 ↔ n = 1 := by omega
        simp [Passes, ← and_assoc, hone, Repeats]
      · exact Iff.rfl
  unfold times
  rw [hsimple]
  cases hp : p.isPoint with
  | false => simp
  | true =>
      rw [passes_repeated_iff_of_isPoint hp, passes_repeated_iff_of_isPoint hp, if_pos rfl]
      have hleast : min least 1 = 0 ↔ least = 0 := by omega
      rw [hleast]

theorem isTidy_times (h : p.IsTidy) (least : Nat) (most : Option Nat) (rarely : Bool) :
    (times p least most rarely).IsTidy := by
  have hsimple (least : Nat) (most : Option Nat) :
      (if least = 0 ∧ most = some 0 then empty
        else if least = 1 ∧ most = some 1 then p
        else repeated p least most rarely).IsTidy := by
    split
    · trivial
    · split
      · exact h
      · exact h
  exact hsimple _ _

end ModuleReadme.Pattern
