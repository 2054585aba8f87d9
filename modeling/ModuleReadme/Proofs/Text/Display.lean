import ModuleReadme.Text.Encoding
import Mathlib.Data.List.Basic

/-!
# Bytes that are shown as text

A byte below 128 is a character of its own, whatever is around it: bytes are shown up to such a
character as if it was not there (`display_append`), and no such character is shown that is not
among the bytes (`mem_of_mem_display`).
-/

namespace ModuleReadme.Text

variable {b : UInt8} {c : Char} {bytes : List UInt8} {text : String}

/-!
## Encoded text

In UTF-8 the bytes below 128 are the ASCII characters, and all bytes of other characters are
greater.
-/

theorem encode_eq_flatMap (text : String) :
    encode text = text.toList.flatMap String.utf8EncodeChar := by
  have hbytes : text.toByteArray = text.toList.utf8Encode := by
    rw [← String.toByteArray_ofList, String.ofList_toList]
  show text.toByteArray.data.toList = _
  rw [hbytes, List.utf8Encode, List.toList_data_toByteArray]

theorem encode_append (s t : String) : encode (s ++ t) = encode s ++ encode t := by
  simp [encode_eq_flatMap]

theorem toNat_ofNat_of_ascii (h : c.toNat < 0x80) : (UInt8.ofNat c.toNat).toNat = c.toNat := by
  apply UInt8.toNat_ofNat_of_lt'
  exact Nat.lt_trans h (by decide)

theorem utf8EncodeChar_of_ascii (h : c.toNat < 0x80) :
    String.utf8EncodeChar c = [UInt8.ofNat c.toNat] := by
  have hle : c.val.toNat ≤ 127 := Nat.le_of_lt_succ h
  simp only [String.utf8EncodeChar, if_pos hle]
  rfl

/-- The bytes of a character that is not ASCII are none of the ASCII bytes. -/
theorem le_of_mem_utf8EncodeChar (h : 0x80 ≤ c.toNat) (hb : b ∈ String.utf8EncodeChar c) :
    0x80 ≤ b := by
  have hnot : ¬ c.val.toNat ≤ 127 := Nat.not_le.mpr h
  -- The leading byte and the trailing ones all have the top bit set.
  have hofNat : ∀ n, 128 ≤ n → n < 256 → 0x80 ≤ UInt8.ofNat n := by
    intro n hlow hhigh
    rw [UInt8.le_iff_toNat_le, UInt8.toNat_ofNat_of_lt' hhigh]
    exact hlow
  simp only [String.utf8EncodeChar, if_neg hnot] at hb
  split at hb
  · simp only [List.mem_cons, List.not_mem_nil, or_false] at hb
    rcases hb with rfl | rfl <;> exact hofNat _ (by omega) (by omega)
  · split at hb
    · simp only [List.mem_cons, List.not_mem_nil, or_false] at hb
      rcases hb with rfl | rfl | rfl <;> exact hofNat _ (by omega) (by omega)
    · simp only [List.mem_cons, List.not_mem_nil, or_false] at hb
      rcases hb with rfl | rfl | rfl | rfl <;> exact hofNat _ (by omega) (by omega)

/-- A character below 128 is in a text exactly if its byte is in the encoding. -/
theorem mem_encode_iff (hc : c.toNat < 0x80) :
    UInt8.ofNat c.toNat ∈ encode text ↔ c ∈ text.toList := by
  rw [encode_eq_flatMap, List.mem_flatMap]
  constructor
  · rintro ⟨d, hd, hb⟩
    by_cases hascii : d.toNat < 0x80
    · rw [utf8EncodeChar_of_ascii hascii, List.mem_singleton] at hb
      have hnat := congrArg UInt8.toNat hb
      rw [toNat_ofNat_of_ascii hc, toNat_ofNat_of_ascii hascii] at hnat
      rwa [Char.toNat_inj.mp hnat]
    · -- A character beyond ASCII has no byte of this size.
      have hle := le_of_mem_utf8EncodeChar (Nat.le_of_not_lt hascii) hb
      rw [UInt8.le_iff_toNat_le, toNat_ofNat_of_ascii hc] at hle
      exact absurd hle (Nat.not_le.mpr hc)
  · intro hmem
    exact ⟨c, hmem, by simp [utf8EncodeChar_of_ascii hc]⟩

theorem eq_encode_of_decode? (h : decode? bytes = some text) : bytes = encode text := by
  unfold decode? String.fromUTF8? at h
  split at h
  · cases h
    rfl
  · cases h

theorem decode?_eq_some_iff : decode? bytes = some text ↔ bytes = encode text := by
  constructor
  · exact eq_encode_of_decode?
  · rintro rfl
    exact decode?_encode text

/-!
## Bytes that are not UTF-8

Reading bytes that are not UTF-8 goes on from one character to the next. What follows a first byte
is within bounds that begin at 128, so an ASCII byte ends what is being read and is read by itself.
-/

theorem le_low_of_leadByte? {missing value : Nat} {low high : UInt8}
    (h : leadByte? b = some (missing, low, high, value)) : 0x80 ≤ low := by
  unfold leadByte? at h
  grind

theorem isSuffix_trailBytes (missing : Nat) (low high : UInt8) (value : Nat) (bytes : List UInt8) :
    (trailBytes missing low high value bytes).2 <:+ bytes := by
  fun_induction trailBytes with
  | case1 => exact List.suffix_refl _
  | case2 => exact List.suffix_refl _
  | case3 low high value x bytes missing hx ih => exact ih.trans (List.suffix_cons x bytes)
  | case4 => exact List.suffix_refl _

/-- A byte below 128 follows no first byte. -/
theorem trailBytes_append {missing value : Nat} {low high : UInt8} (hb : b < 0x80)
    (hlow : 0x80 ≤ low) (bytes : List UInt8) :
    trailBytes missing low high value (bytes ++ [b]) =
      ((trailBytes missing low high value bytes).1,
        (trailBytes missing low high value bytes).2 ++ [b]) := by
  induction bytes generalizing missing low high value with
  | nil =>
      cases missing with
      | zero => simp [trailBytes]
      | succ missing =>
          -- The last byte is no continuation, so that the reading stops in front of it.
          have hout : ¬ low ≤ b := by
            intro hle
            rw [UInt8.le_iff_toNat_le] at hle hlow
            rw [UInt8.lt_iff_toNat_lt] at hb
            omega
          simp [trailBytes, hout]
  | cons x bytes ih =>
      cases missing with
      | zero => simp [trailBytes]
      | succ missing =>
          rw [List.cons_append, trailBytes, trailBytes]
          split
          · exact ih (UInt8.le_refl _)
          · rfl

theorem decodeLossy_append (hb : b < 0x80) (bytes : List UInt8) :
    decodeLossy (bytes ++ [b]) = decodeLossy bytes ++ [Char.ofNat b.toNat] := by
  fun_induction decodeLossy bytes with
  | case1 =>
      have hlead : leadByte? b = some (0, 0x80, 0xBF, b.toNat) := by
        rw [leadByte?, if_pos hb]
      simp [decodeLossy, hlead, trailBytes]
  | case2 x rest hlead ih =>
      rw [List.cons_append, decodeLossy, hlead]
      simp [ih]
  | case3 x rest missing low high value hlead hle ih =>
      rw [List.cons_append, decodeLossy, hlead]
      simp only [trailBytes_append hb (le_low_of_leadByte? hlead), ih, List.cons_append]

/-- What a first byte says: it is ASCII, or it makes what follows a greater character. -/
theorem leadByte?_cases {missing value : Nat} {low high : UInt8}
    (h : leadByte? b = some (missing, low, high, value)) :
    missing = 0 ∧ value = b.toNat ∨
      missing ≠ 0 ∧ (2 ≤ value ∨ 2 ≤ missing ∧ (1 ≤ value ∨ 0x90 ≤ low ∧ high ≤ 0xBF)) := by
  simp only [leadByte?, UInt8.lt_iff_toNat_lt, ← UInt8.toNat_inj, UInt8.reduceToNat] at h
  split_ifs at h <;> grind

/-- The bytes that follow a first byte make the character greater. -/
theorem exists_of_trailBytes {missing value : Nat} {low high : UInt8}
    (h : (trailBytes missing low high value bytes).1 = some c) :
    ∃ v, c = Char.ofNat v ∧ value ≤ v ∧ (missing = 0 → v = value) ∧
      (missing ≠ 0 → value * 64 ≤ v) := by
  induction bytes generalizing missing low high value with
  | nil =>
      cases missing with
      | zero =>
          rw [trailBytes, if_pos rfl] at h
          exact ⟨value, (Option.some.inj h).symm, by simp⟩
      | succ missing => simp [trailBytes] at h
  | cons x bytes ih =>
      cases missing with
      | zero =>
          rw [trailBytes] at h
          exact ⟨value, (Option.some.inj h).symm, by simp⟩
      | succ missing =>
          rw [trailBytes] at h
          split at h
          · -- Each continuation shifts the value by six bits, which never makes it smaller.
            obtain ⟨v, hc, hle, -, -⟩ := ih h
            refine ⟨v, hc, ?_, ?_, ?_⟩ <;> omega
          · cases h

/-- Only ASCII bytes stand for ASCII characters. -/
theorem eq_of_trailBytes {missing value : Nat} {low high : UInt8}
    (hlead : leadByte? b = some (missing, low, high, value))
    (h : (trailBytes missing low high value bytes).1 = some c) (hc : c.toNat < 0x80)
    (hzero : c.toNat ≠ 0) : c.toNat = b.toNat := by
  have hnat : ∀ v, c = Char.ofNat v → c.toNat = v := by
    rintro v rfl
    by_cases hv : v.isValidChar
    · rw [Char.ofNat, dif_pos hv]
      rfl
    · rw [Char.ofNat, dif_neg hv] at hzero
      exact absurd rfl hzero
  -- By its bounds a character of several bytes is no ASCII character, however it is made up.
  obtain ⟨v, hv, -, hsame, hmore⟩ := exists_of_trailBytes h
  rcases leadByte?_cases hlead with ⟨hmissing, hvalue⟩ | ⟨hmissing, hgreat⟩
  · rw [hnat v hv, hsame hmissing, hvalue]
  · exfalso
    have hv := hnat v hv
    have hmore := hmore hmissing
    rcases hgreat with hvalue | ⟨htwo, hgreat⟩
    · omega
    · -- The first of the bytes that follow makes it great enough for the second.
      obtain ⟨missing, rfl⟩ := Nat.exists_eq_add_of_le' htwo
      cases bytes with
      | nil => simp [trailBytes] at h
      | cons x bytes =>
          rw [trailBytes] at h
          split at h
          · next hx =>
            obtain ⟨u, hu, -, -, hless⟩ := exists_of_trailBytes h
            have hu := hnat u hu
            have hless := hless (by omega)
            simp only [Bool.and_eq_true, decide_eq_true_eq, UInt8.le_iff_toNat_le] at hx hgreat
            have hlow : UInt8.toNat 0x90 = 0x90 := rfl
            have hhigh : UInt8.toNat 0xBF = 0xBF := rfl
            omega
          · cases h

/-!
## Shown text

Bytes are shown as the text that they encode, or else character by character. One ASCII byte more at
the end does not change which of the two it is.
-/

/-- A text that ends with a byte below 128 ends with its character. -/
theorem exists_of_encode_eq_append (hc : c.toNat < 0x80)
    (h : bytes ++ [UInt8.ofNat c.toNat] = encode text) : ∃ front, bytes = encode front := by
  rw [encode_eq_flatMap] at h
  rcases List.eq_nil_or_concat' text.toList with hnil | ⟨front, d, hconcat⟩
  · simp [hnil] at h
  · rw [hconcat, List.flatMap_append, List.flatMap_singleton] at h
    have hascii : d.toNat < 0x80 := by
      apply Nat.lt_of_not_le
      intro hle
      -- Otherwise the last byte would be one of the bytes of a longer character.
      have hlast : UInt8.ofNat c.toNat ∈ String.utf8EncodeChar d := by
        have hne : String.utf8EncodeChar d ≠ [] := by
          simp only [String.utf8EncodeChar]
          grind
        have hgetLast := congrArg List.getLast? h
        rw [List.getLast?_concat, List.getLast?_append_of_ne_nil _ hne] at hgetLast
        exact List.mem_of_getLast? hgetLast.symm
      have hbyte := le_of_mem_utf8EncodeChar hle hlast
      rw [UInt8.le_iff_toNat_le, toNat_ofNat_of_ascii hc] at hbyte
      exact absurd hbyte (Nat.not_le.mpr hc)
    rw [utf8EncodeChar_of_ascii hascii] at h
    refine ⟨String.ofList front, ?_⟩
    rw [encode_eq_flatMap, String.toList_ofList]
    exact (List.append_inj' h rfl).1

theorem decode?_append_singleton (hc : c.toNat < 0x80) (bytes : List UInt8) :
    decode? (bytes ++ [UInt8.ofNat c.toNat]) =
      (decode? bytes).map fun text => text ++ String.singleton c := by
  have hsingle : encode (String.singleton c) = [UInt8.ofNat c.toNat] := by
    simp [encode_eq_flatMap, utf8EncodeChar_of_ascii hc]
  cases hbytes : decode? bytes with
  | some text =>
      rw [eq_encode_of_decode? hbytes, ← hsingle, ← encode_append, decode?_encode]
      rfl
  | none =>
      cases hall : decode? (bytes ++ [UInt8.ofNat c.toNat]) with
      | none => rfl
      | some text =>
          -- A text that ends in the byte would leave a text when the byte is taken off.
          obtain ⟨front, rfl⟩ := exists_of_encode_eq_append hc (eq_encode_of_decode? hall)
          rw [decode?_encode] at hbytes
          cases hbytes

theorem display_append_singleton (hc : c.toNat < 0x80) (bytes : List UInt8) :
    display (bytes ++ [UInt8.ofNat c.toNat]) = display bytes ++ String.singleton c := by
  have hlt : UInt8.ofNat c.toNat < 0x80 := by
    rw [UInt8.lt_iff_toNat_lt, toNat_ofNat_of_ascii hc]
    exact hc
  rw [display, display, decode?_append_singleton hc, decodeLossy_append hlt,
    toNat_ofNat_of_ascii hc, Char.ofNat_toNat]
  cases decode? bytes with
  | some text => rfl
  | none =>
      apply String.toList_inj.mp
      simp

/-- Whatever is in front of it, text in ASCII is shown as it is. -/
theorem display_append {s : String} (h : s.toList.all (·.toNat < 0x80) = true)
    (bytes : List UInt8) : display (bytes ++ encode s) = display bytes ++ s := by
  simp only [List.all_eq_true, decide_eq_true_eq] at h
  rw [encode_eq_flatMap]
  apply String.toList_inj.mp
  rw [String.toList_append]
  -- The characters go over to the bytes in front one by one.
  generalize s.toList = l at h ⊢
  induction l generalizing bytes with
  | nil => simp
  | cons c l ih =>
      obtain ⟨hc, hl⟩ := List.forall_mem_cons.mp h
      rw [List.flatMap_cons, utf8EncodeChar_of_ascii hc, ← List.append_assoc, ih _ hl,
        display_append_singleton hc]
      simp

/-- No ASCII character is shown that is not among the bytes. -/
theorem mem_of_mem_display (hc : c.toNat < 0x80) (hzero : c.toNat ≠ 0)
    (h : c ∈ (display bytes).toList) : UInt8.ofNat c.toNat ∈ bytes := by
  have hlossy : ∀ bytes, c ∈ decodeLossy bytes → UInt8.ofNat c.toNat ∈ bytes := by
    intro bytes h
    fun_induction decodeLossy bytes with
    | case1 => cases h
    | case2 x rest hlead ih =>
        rcases List.mem_cons.mp h with rfl | h
        · -- The replacement character is not an ASCII one.
          exact absurd hc (by decide)
        · exact List.mem_cons_of_mem x (ih h)
    | case3 x rest missing low high value hlead hle ih =>
        rcases List.mem_cons.mp h with heq | h
        · cases htrail : (trailBytes missing low high value rest).1 with
          | none =>
              rw [heq, htrail] at hc
              exact absurd hc (by decide)
          | some d =>
              rw [htrail, Option.getD_some] at heq
              subst heq
              -- A character in ASCII is its own leading byte.
              rw [eq_of_trailBytes hlead htrail hc hzero, UInt8.ofNat_toNat]
              exact List.mem_cons_self
        · exact List.mem_cons_of_mem x ((isSuffix_trailBytes _ _ _ _ _).mem (ih h))
  unfold display at h
  cases hbytes : decode? bytes with
  | some text =>
      rw [hbytes, Option.getD_some] at h
      rw [eq_encode_of_decode? hbytes]
      exact (mem_encode_iff hc).mpr h
  | none =>
      rw [hbytes, Option.getD_none, String.toList_ofList] at h
      exact hlossy bytes h

end ModuleReadme.Text
