import ModuleReadme.Text.Line
import Mathlib.Data.List.Basic

/-!
# Lines and slices

A text is cut in two ways: into lines, by line feeds, and into slices, by byte offsets.
-/

namespace ModuleReadme.Text

/-!
## Lines put together and cut again

A text that is written line by line, each line with a line feed behind it, is cut into just these
lines, whatever follows them (`lines_ended_append`). For that no line may hold a line feed of its
own, and no line that comes out of a text does (`not_mem_of_mem_lines`).
-/

/-! ### Writing lines -/

/-- Lines with a line feed behind each of them. -/
def ended (ls : List Line) : List Char := ls.flatMap (· ++ ['\n'])

@[simp] theorem ended_nil : ended [] = [] := rfl

@[simp] theorem ended_cons (l : Line) (ls : List Line) :
    ended (l :: ls) = l ++ '\n' :: ended ls := by
  simp [ended]

@[simp] theorem ended_append (ls ms : List Line) : ended (ls ++ ms) = ended ls ++ ended ms := by
  simp [ended]

@[simp] theorem unlines_singleton (l : Line) : unlines [l] = l := by
  simp [unlines, List.intercalate]

theorem unlines_cons {ls : List Line} (l : Line) (h : ls ≠ []) :
    unlines (l :: ls) = l ++ '\n' :: unlines ls := by
  obtain ⟨m, ls, rfl⟩ := List.exists_cons_of_ne_nil h
  simp [unlines, List.intercalate]

theorem unlines_append {ls ms : List Line} (hls : ls ≠ []) (hms : ms ≠ []) :
    unlines (ls ++ ms) = unlines ls ++ '\n' :: unlines ms := by
  induction ls with
  | nil => exact absurd rfl hls
  | cons l ls ih =>
      cases ls with
      | nil => rw [List.singleton_append, unlines_cons l hms, unlines_singleton]
      | cons m ls =>
          have hne : m :: ls ++ ms ≠ [] := List.cons_ne_nil m (ls ++ ms)
          rw [List.cons_append, unlines_cons l hne, ih (List.cons_ne_nil m ls),
            unlines_cons l (List.cons_ne_nil m ls), List.append_assoc, List.cons_append]

/-- In front of further lines every line is followed by a line feed. -/
theorem unlines_append_of_ne (ls : List Line) {ms : List Line} (h : ms ≠ []) :
    unlines (ls ++ ms) = ended ls ++ unlines ms := by
  induction ls with
  | nil => rfl
  | cons l ls ih =>
      have hne : ls ++ ms ≠ [] := List.append_ne_nil_of_right_ne_nil ls h
      rw [List.cons_append, unlines_cons l hne, ih, ended_cons, List.append_assoc, List.cons_append]

/-- A text begins with its first lines, and if something follows them, it is a line feed. -/
theorem exists_eq_unlines_append {text : List Char} {ls ms : List Line} (h : lines text = ls ++ ms)
    (hls : ls ≠ []) : ∃ rest, text = unlines ls ++ rest ∧ ∀ c ∈ rest.head?, c = '\n' := by
  rw [← unlines_lines text, h]
  by_cases hms : ms = []
  · exact ⟨[], by rw [hms, List.append_nil, List.append_nil], by simp⟩
  · exact ⟨'\n' :: unlines ms, unlines_append hls hms, by simp⟩

/-! ### Reading them back -/

/-- The line in front of the first line feed is the first line. -/
theorem lines_append_cons {l : Line} (h : '\n' ∉ l) (rest : List Char) :
    lines (l ++ '\n' :: rest) = l :: lines rest :=
  List.splitOn_append_cons_self_of_not_mem h rest

/-- Lines that are written one after the other are read back, and so is what follows them. -/
theorem lines_ended_append {ls : List Line} (h : ∀ l ∈ ls, '\n' ∉ l) (rest : List Char) :
    lines (ended ls ++ rest) = ls ++ lines rest := by
  induction ls with
  | nil => rfl
  | cons l ls ih =>
      have hl : '\n' ∉ l := h l List.mem_cons_self
      have hls : ∀ m ∈ ls, '\n' ∉ m := fun m hm => h m (List.mem_cons_of_mem l hm)
      rw [ended_cons, List.append_assoc, List.cons_append, lines_append_cons hl, ih hls]
      rfl

theorem take_lines_ended {ls : List Line} (h : ∀ l ∈ ls, '\n' ∉ l) (ms : List Line) {n : Nat}
    (hn : ls.length = n) : (lines (ended (ls ++ ms))).take n = ls := by
  rw [ended_append, lines_ended_append h, List.take_left' hn]

/-! ### Lines that come out of a text -/

theorem not_mem_of_mem_splitOn {α : Type} [DecidableEq α] {a : α} {l s : List α}
    (h : s ∈ l.splitOn a) : a ∉ s := by
  induction l generalizing s with
  | nil =>
      have hs : s = [] := by simpa using h
      simp [hs]
  | cons b l ih =>
      rw [List.splitOn_cons_eq_if_modifyHead] at h
      split at h
      · rcases List.mem_cons.mp h with rfl | h'
        · simp
        · exact ih h'
      · next hb =>
        -- A character that does not separate goes to the first piece of the rest.
        obtain ⟨first, others, hs⟩ := List.exists_cons_of_ne_nil (List.splitOn_ne_nil a l)
        rw [hs, List.modifyHead_cons] at h
        have hne : a ≠ b := by
          rintro rfl
          simp at hb
        rcases List.mem_cons.mp h with rfl | h'
        · have hfirst : a ∉ first := ih (by rw [hs]; exact List.mem_cons_self)
          simp [hne, hfirst]
        · exact ih (by rw [hs]; exact List.mem_cons_of_mem first h')

theorem not_mem_of_mem_lines {text : List Char} {l : Line} (h : l ∈ lines text) : '\n' ∉ l :=
  not_mem_of_mem_splitOn h

/-!
## Slices of a text

A text is stored as bytes, and a part of it is taken between two byte offsets. That fails if an
offset is beyond the end of the text or within a character, so whoever takes a slice has to know
that its offsets are boundaries. A slice is what stands between a front and a back of the text
(`slice?_eq_some_iff`). The offsets of consecutive pieces come from adding up the sizes of the
pieces; each is the size of what is in front of its piece (`getElem?_offsets`).
-/

variable {text s : String} {start stop offset : Nat}

/-! ### Boundaries -/

/-- The number of bytes that characters take up. -/
def byteSize (cs : List Char) : Nat := (String.ofList cs).utf8ByteSize

@[simp] theorem byteSize_nil : byteSize [] = 0 := rfl

@[simp] theorem byteSize_append (cs ds : List Char) :
    byteSize (cs ++ ds) = byteSize cs + byteSize ds := by
  simp [byteSize, String.ofList_append]

@[simp] theorem byteSize_singleton (c : Char) : byteSize [c] = c.utf8Size := by
  rw [byteSize, ← String.singleton_eq_ofList, String.utf8ByteSize_singleton]

theorem byteSize_toList (text : String) : byteSize text.toList = text.utf8ByteSize := by
  rw [byteSize, String.ofList_toList]

/-- An offset at which a character of the text begins, or the offset of the end of the text. -/
def IsBoundary (text : String) (offset : Nat) : Prop := (⟨offset⟩ : String.Pos.Raw).IsValid text

instance : Decidable (IsBoundary text offset) :=
  inferInstanceAs (Decidable ((⟨offset⟩ : String.Pos.Raw).IsValid text))

/-- At a boundary a text falls into a front and a back. -/
theorem isBoundary_iff :
    IsBoundary text offset ↔ ∃ front back, text = front ++ back ∧ offset = front.utf8ByteSize := by
  simp only [IsBoundary, String.Pos.Raw.isValid_iff_exists_append, String.Pos.Raw.ext_iff,
    String.byteIdx_rawEndPos]

theorem IsBoundary.le (h : IsBoundary text offset) : offset ≤ text.utf8ByteSize :=
  h.le_utf8ByteSize

theorem IsBoundary.append_left (h : IsBoundary text offset) (front : String) :
    IsBoundary (front ++ text) (front.utf8ByteSize + offset) :=
  String.Pos.Raw.IsValid.append_left h front

theorem IsBoundary.append_right (h : IsBoundary text offset) (back : String) :
    IsBoundary (text ++ back) offset :=
  String.Pos.Raw.IsValid.append_right h back

theorem isBoundary_size (text : String) : IsBoundary text text.utf8ByteSize :=
  isBoundary_iff.mpr ⟨text, "", by simp, rfl⟩

/-- Characters begin and end at boundaries. -/
theorem isBoundary_take (text : String) (n : Nat) :
    IsBoundary text (byteSize (text.toList.take n)) := by
  refine isBoundary_iff.mpr
    ⟨String.ofList (text.toList.take n), String.ofList (text.toList.drop n), ?_, rfl⟩
  rw [← String.ofList_append, List.take_append_drop, String.ofList_toList]

/-- A boundary that is not behind the front of a text is one of the front. -/
theorem IsBoundary.of_append {front back : String} (h : IsBoundary (front ++ back) offset)
    (hle : offset ≤ front.utf8ByteSize) : IsBoundary front offset := by
  rcases String.Pos.Raw.isValid_append.mp h with hfront | ⟨hge, -⟩
  · exact hfront
  · have hge : front.utf8ByteSize ≤ offset := hge
    rw [Nat.le_antisymm hle hge]
    exact isBoundary_size front

/-- The place of a boundary in its text. -/
def IsBoundary.pos (h : IsBoundary text offset) : text.Pos := text.pos ⟨offset⟩ h

@[simp] theorem IsBoundary.offset_pos (h : IsBoundary text offset) : h.pos.offset = ⟨offset⟩ := rfl

/-! ### Slices -/

/-- The part of a text between two byte offsets, which have to be boundaries and in order. -/
def slice? (text : String) (start stop : Nat) : Option String :=
  if h : IsBoundary text start ∧ IsBoundary text stop ∧ start ≤ stop then
    some (text.extract h.1.pos h.2.1.pos)
  else none

/-- There is a slice between boundaries, and nowhere else. -/
theorem isSome_slice?_iff :
    (slice? text start stop).isSome ↔
      IsBoundary text start ∧ IsBoundary text stop ∧ start ≤ stop := by
  unfold slice?
  split
  · next h => simp [h]
  · next h => simp [h]

theorem slice?_append (front s back : String) :
    slice? (front ++ s ++ back) front.utf8ByteSize (front.utf8ByteSize + s.utf8ByteSize) =
      some s := by
  have hstart : IsBoundary (front ++ s ++ back) front.utf8ByteSize :=
    ((isBoundary_size front).append_right s).append_right back
  have hstop : IsBoundary (front ++ s ++ back) (front.utf8ByteSize + s.utf8ByteSize) :=
    ((isBoundary_size s).append_left front).append_right back
  rw [slice?, dif_pos ⟨hstart, hstop, Nat.le_add_right ..⟩, Option.some_inj,
    ← String.toByteArray_inj, String.toByteArray_extract, IsBoundary.offset_pos,
    IsBoundary.offset_pos, String.append_assoc, String.toByteArray_append,
    String.toByteArray_append]
  -- Behind the bytes of the front as many are taken as the part has.
  exact (ByteArray.extract_append_size_add (i := 0)).trans (ByteArray.extract_append_eq_left rfl)

/-- A slice is what stands between a front and a back of the text. -/
theorem slice?_eq_some_iff :
    slice? text start stop = some s ↔
      ∃ front back, text = front ++ s ++ back ∧ start = front.utf8ByteSize ∧
        stop = start + s.utf8ByteSize := by
  constructor
  · intro h
    obtain ⟨hstart, hstop, hle⟩ := isSome_slice?_iff.mp (by rw [h]; rfl)
    -- The text is split at its second boundary first, since the other one is in front of it.
    obtain ⟨through, back, rfl, rfl⟩ := isBoundary_iff.mp hstop
    obtain ⟨front, part, rfl, rfl⟩ := isBoundary_iff.mp (hstart.of_append hle)
    rw [String.utf8ByteSize_append, slice?_append, Option.some_inj] at h
    subst h
    exact ⟨front, back, rfl, rfl, String.utf8ByteSize_append⟩
  · rintro ⟨front, back, rfl, rfl, rfl⟩
    exact slice?_append front s back

/-- A boundary within a slice is one of the text. -/
theorem IsBoundary.of_slice? (h : IsBoundary s offset) (hslice : slice? text start stop = some s) :
    IsBoundary text (start + offset) := by
  obtain ⟨front, back, rfl, rfl, -⟩ := slice?_eq_some_iff.mp hslice
  exact (h.append_left front).append_right back

/-- A slice by the characters in front of it. -/
theorem slice?_of_toList_eq {front cs back : List Char} (h : text.toList = front ++ cs ++ back) :
    slice? text (byteSize front) (byteSize front + byteSize cs) = some (String.ofList cs) := by
  have htext : text = String.ofList front ++ String.ofList cs ++ String.ofList back := by
    rw [← String.ofList_append, ← String.ofList_append, ← h, String.ofList_toList]
  rw [htext]
  exact slice?_append _ _ _

/-- The first characters of a text are the slice up to their size. -/
theorem slice?_zero_of_toList_eq {cs back : List Char} (h : text.toList = cs ++ back) :
    slice? text 0 (byteSize cs) = some (String.ofList cs) := by
  rw [← List.nil_append cs] at h
  simpa using slice?_of_toList_eq h

/-- No slice begins or ends within a character. -/
example : slice? "é" 0 2 = some "é" ∧ slice? "é" 0 1 = none ∧ slice? "é" 1 2 = none := by
  decide +kernel

/-! ### Offsets -/

/-- Pieces that stand one after the other, each with the offset at which it begins. -/
def offsets (size : α → Nat) (start : Nat) : List α → List (Nat × α)
  | [] => []
  | a :: rest => (start, a) :: offsets size (start + size a) rest

@[simp] theorem map_snd_offsets (size : α → Nat) (start : Nat) (l : List α) :
    (offsets size start l).map Prod.snd = l := by
  induction l generalizing start with
  | nil => rfl
  | cons a rest ih => rw [offsets, List.map_cons, ih]

/-- A piece begins where the text of the pieces in front of it ends. -/
theorem getElem?_offsets {size : α → Nat} {spell : α → List Char}
    (h : ∀ a, size a = byteSize (spell a)) (start : Nat) (l : List α) (i : Nat) :
    (offsets size start l)[i]? =
      l[i]?.map fun a => (start + byteSize ((l.take i).flatMap spell), a) := by
  -- The offset of the first piece is part of the sum, so it changes along the list.
  induction l generalizing start i with
  | nil => rfl
  | cons a rest ih =>
      cases i with
      | zero => simp [offsets]
      | succ i => simp [offsets, ih, h, Nat.add_assoc]

/-- The characters of a text, each with the offset at which it begins. -/
def charOffsets (text : String) : List (Nat × Char) := offsets Char.utf8Size 0 text.toList

theorem getElem?_charOffsets (text : String) (n : Nat) :
    (charOffsets text)[n]? = text.toList[n]?.map (byteSize (text.toList.take n), ·) := by
  have hsize (c : Char) : c.utf8Size = byteSize [c] := (byteSize_singleton c).symm
  rw [charOffsets, getElem?_offsets hsize]
  simp

end ModuleReadme.Text
