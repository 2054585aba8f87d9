import ModuleReadme.Proofs.Controller.Positions
import ModuleReadme.Proofs.Controller.SummaryLines
import ModuleReadme.Proofs.Text.Lines

/-!
# Controllers by byte offsets

A controller can be surveyed on the text as it is stored. The text is cut into lines once, the lines
are kept with the byte offsets at which they begin, header and windows are slices between such
offsets, and all else goes by line numbers. A slice at a wrong offset, a number of no line and a
number below zero are faults, to which the answer is `none`, and a fault anywhere is one of the
whole. Whatever the text is, there are none: the offsets are the sizes of the lines above with their
line feeds (`getElem?_lines`), so that slices are what the lines say, and what is found is the
controller of the text (`faultless_ofText`).
-/

namespace ModuleReadme.Controller

open Text

/-- A text and its lines, each with the byte offset at which it begins. -/
structure LineIndex where
  text : String
  lines : List (Nat × Line)

namespace LineIndex

variable {text : String} {i : Nat}

/-!
## Cutting a text

An index answers with `none` where a program would be at fault. That it never does is the result
and no assumption.
-/

/-- The lines of a text. Behind each but the last there is a line feed, which is one byte. -/
def ofText (text : String) : LineIndex where
  text
  lines := offsets (fun line => byteSize line + 1) 0 (Text.lines text.toList)

def line? (index : LineIndex) (i : Nat) : Option Line := index.lines[i]?.map Prod.snd

def through? (index : LineIndex) (i : Nat) : Option String := do
  let (start, line) ← index.lines[i]?
  slice? index.text 0 (start + byteSize line)

/-- The offset of what is below line `i`, which is the end of the text if there is no more line. -/
def startBelow (index : LineIndex) (i : Nat) : Nat :=
  (index.lines[i + 1]?).elim index.text.utf8ByteSize Prod.fst

def below? (index : LineIndex) (i : Nat) : Option String :=
  slice? index.text (index.startBelow i) index.text.utf8ByteSize

/-- The first `n` characters below line `i`, or all of them if there are fewer. -/
def windowBelow? (index : LineIndex) (i n : Nat) : Option String := do
  let rest ← index.below? i
  match (charOffsets rest)[n]? with
  | some (stop, _) => slice? rest 0 stop
  | none => return rest

/-!
## The survey by line numbers

The same survey as that of the sites, with loops over line numbers in the place of recursion on
lines. Faults go through all of it.
-/

def handlerBelow? (index : LineIndex) (i : Nat) : Option (Option (List Char)) :=
  let last := min (i + handlerReach) (index.lines.length - 1)
  (List.range' (i + 1) (last - i)).findSomeM? fun k => do
    let line ← index.line? k
    return signatureName? (trim line)

def endpoint? (index : LineIndex) (base : List Char) (i : Nat) : Option (Option Endpoint) := do
  let line ← index.line? i
  let some (mapping, route) := Mapping.ofLine? line | return none
  let some handler ← index.handlerBelow? i | return none
  let window ← index.windowBelow? i parameterReach
  let summary ← search? index.line? (topmost i) i
  return some {
    handler := String.ofList handler
    path := String.ofList (joinRoute base route)
    method := mapping.method line
    parameters := parametersIn window.toList
    summary := String.ofList summary }

def declaration? (index : LineIndex) : Option Nat :=
  index.lines.findIdx? fun (_, line) => isClassDeclaration line

def header? (index : LineIndex) : Option String :=
  match index.declaration? with
  | some i => index.through? i
  | none => return index.text

def endpoints? (index : LineIndex) (base : List Char) : Option (List Endpoint) :=
  let first := index.declaration?.elim 0 (· + 1)
  (List.range' first (index.lines.length - first)).filterMapM (index.endpoint? base)

def controller? (index : LineIndex) (name : String) : Option (Option Controller) := do
  if !isMarked index.text.toList then return none
  let header ← index.header?
  let base := basePathOf header.toList
  let endpoints ← index.endpoints? base
  return some { name, basePath := String.ofList base, endpoints }

/-- What is cut out of the text stands between boundaries and is what the lines say. -/
structure IsExact (index : LineIndex) : Prop where
  /-- The lines are those of the text. -/
  lines_eq : index.lines.map Prod.snd = Text.lines index.text.toList
  /-- Joined by line feeds they are the text. -/
  joined : unlines (index.lines.map Prod.snd) = index.text.toList
  /-- A line begins behind the lines above it, each with its line feed. -/
  offset_eq : ∀ i start line, index.lines[i]? = some (start, line) →
    start = byteSize (ended ((index.lines.map Prod.snd).take i))
  /-- Lines begin and end at boundaries, between which they stand. -/
  cut : ∀ entry ∈ index.lines,
    IsBoundary index.text entry.1 ∧ IsBoundary index.text (entry.1 + byteSize entry.2) ∧
      entry.1 + byteSize entry.2 ≤ index.text.utf8ByteSize ∧
      slice? index.text entry.1 (entry.1 + byteSize entry.2) = some (String.ofList entry.2)
  /-- The text through a line is made of the lines through it. -/
  through : ∀ i < index.lines.length,
    index.through? i = some (String.ofList (unlines ((index.lines.map Prod.snd).take (i + 1))))
  /-- A window holds the first characters of the lines below. -/
  window : ∀ i < index.lines.length, ∀ n, index.windowBelow? i n =
    some (String.ofList ((unlines ((index.lines.map Prod.snd).drop (i + 1))).take n))
  /-- Below the last line there is nothing. -/
  window_last : ∀ n, index.windowBelow? (index.lines.length - 1) n = some ""
  /-- What is below a line begins at a boundary. -/
  windowStart : ∀ i < index.lines.length, IsBoundary index.text (index.startBelow i)
  /-- Wherever a window ends, it ends at a boundary. -/
  windowEnd : ∀ i < index.lines.length, ∀ rest, index.below? i = some rest →
    ∀ stop ∈ (charOffsets rest).map Prod.fst,
      IsBoundary rest stop ∧ IsBoundary index.text (index.startBelow i + stop)

/-!
## Offsets of lines

The offsets count bytes and the lines are lists of characters. The bytes of a text are those of its
characters, so that the offset of a line is the size of what stands above it.
-/

@[simp] theorem text_ofText (text : String) : (ofText text).text = text := rfl

@[simp] theorem map_snd_lines (text : String) :
    (ofText text).lines.map Prod.snd = Text.lines text.toList :=
  map_snd_offsets ..

@[simp] theorem length_lines (text : String) :
    (ofText text).lines.length = (Text.lines text.toList).length := by
  rw [← map_snd_lines, List.length_map]

/-- The offset of a line is the size of the lines above it, each with its line feed. -/
theorem getElem?_lines (text : String) (i : Nat) :
    (ofText text).lines[i]? = (Text.lines text.toList)[i]?.map
      (byteSize (ended ((Text.lines text.toList).take i)), ·) := by
  have hsize (line : Line) : byteSize line + 1 = byteSize (line ++ ['\n']) := by
    rw [byteSize_append, byteSize_singleton]
    rfl
  have h := getElem?_offsets hsize 0 (Text.lines text.toList) i
  rwa [Nat.zero_add] at h

@[simp] theorem line?_ofText (text : String) (i : Nat) :
    (ofText text).line? i = (Text.lines text.toList)[i]? := by
  rw [line?, getElem?_lines, Option.map_map, Function.comp_def, Option.map_id']

/-!
## The text around a line

A slice is exact if the text is put together of what stands in front of it, the slice, and the
rest. For each slice this is a fact about lines and line feeds.
-/

/-- The lines through a line are what is above it and the line. -/
theorem unlines_take_succ {line : Line} (h : (Text.lines text.toList)[i]? = some line) :
    unlines ((Text.lines text.toList).take (i + 1)) =
      ended ((Text.lines text.toList).take i) ++ line := by
  rw [List.take_add_one, h, Option.toList_some, unlines_append_of_ne _ (List.cons_ne_nil line []),
    unlines_singleton]

/-- A line stands behind the lines above it. -/
theorem exists_rest {line : Line} (h : (Text.lines text.toList)[i]? = some line) :
    ∃ rest, text.toList = ended ((Text.lines text.toList).take i) ++ line ++ rest := by
  have hlines := (List.take_append_drop (i + 1) (Text.lines text.toList)).symm
  have hlt := (List.getElem?_eq_some_iff.mp h).1
  obtain ⟨rest, htext, -⟩ := exists_eq_unlines_append hlines
    (List.ne_nil_of_length_pos (by rw [List.length_take]; omega))
  exact ⟨rest, by rwa [unlines_take_succ h] at htext⟩

theorem through?_ofText (h : i < (Text.lines text.toList).length) :
    (ofText text).through? i =
      some (String.ofList (unlines ((Text.lines text.toList).take (i + 1)))) := by
  have hline := List.getElem?_eq_getElem h
  obtain ⟨rest, htext⟩ := exists_rest hline
  have hslice := slice?_zero_of_toList_eq htext
  rw [byteSize_append] at hslice
  rw [through?, getElem?_lines, hline, unlines_take_succ hline]
  exact hslice

/-- What is below a line begins at the offset of the next line, or at the end of the text. -/
theorem exists_above (text : String) (i : Nat) : ∃ above,
    text.toList = above ++ unlines ((Text.lines text.toList).drop (i + 1)) ∧
      (ofText text).startBelow i = byteSize above := by
  rw [startBelow, getElem?_lines]
  cases hline : (Text.lines text.toList)[i + 1]? with
  | none =>
      -- There is no line below, and the whole text is above.
      have hnil := List.drop_eq_nil_of_le (List.getElem?_eq_none_iff.mp hline)
      refine ⟨text.toList, ?_, ?_⟩
      · rw [hnil]
        exact (List.append_nil _).symm
      · rw [byteSize_toList]
        rfl
  | some line =>
      have hlt := (List.getElem?_eq_some_iff.mp hline).1
      have hne : (Text.lines text.toList).drop (i + 1) ≠ [] := by
        rw [ne_eq, List.drop_eq_nil_iff]
        omega
      refine ⟨ended ((Text.lines text.toList).take (i + 1)), ?_, ?_⟩
      · rw [← unlines_append_of_ne _ hne, List.take_append_drop, unlines_lines]
      · rw [Option.map_some, Option.elim_some]

theorem below?_ofText (text : String) (i : Nat) :
    (ofText text).below? i =
      some (String.ofList (unlines ((Text.lines text.toList).drop (i + 1)))) := by
  obtain ⟨above, htext, hstart⟩ := exists_above text i
  have hsize : text.utf8ByteSize =
      byteSize above + byteSize (unlines ((Text.lines text.toList).drop (i + 1))) := by
    rw [← byteSize_append, ← htext, byteSize_toList]
  rw [below?, text_ofText, hstart, hsize]
  rw [← List.append_nil (above ++ _)] at htext
  exact slice?_of_toList_eq htext

theorem windowBelow?_ofText (text : String) (i n : Nat) :
    (ofText text).windowBelow? i n =
      some (String.ofList ((unlines ((Text.lines text.toList).drop (i + 1))).take n)) := by
  rw [windowBelow?, below?_ofText]
  generalize unlines ((Text.lines text.toList).drop (i + 1)) = below
  simp only [Option.bind_eq_bind, Option.bind_some, getElem?_charOffsets, String.toList_ofList]
  cases hn : below[n]? with
  | none =>
      rw [List.take_of_length_le (List.getElem?_eq_none_iff.mp hn)]
      rfl
  | some c =>
      have hbelow : (String.ofList below).toList = below.take n ++ below.drop n := by
        rw [String.toList_ofList, List.take_append_drop]
      exact slice?_zero_of_toList_eq hbelow

/-- Whatever is cut out of a text by its line index is cut out exactly. -/
theorem isExact_ofText (text : String) : (ofText text).IsExact where
  lines_eq := map_snd_lines text
  joined := by rw [map_snd_lines, text_ofText, unlines_lines]
  offset_eq := by
    intro i start line hline
    rw [getElem?_lines] at hline
    obtain ⟨_, -, hentry⟩ := Option.map_eq_some_iff.mp hline
    rw [map_snd_lines]
    exact (congrArg Prod.fst hentry).symm
  cut := by
    intro entry hentry
    obtain ⟨i, hi⟩ := List.mem_iff_getElem?.mp hentry
    rw [getElem?_lines] at hi
    obtain ⟨line, hline, rfl⟩ := Option.map_eq_some_iff.mp hi
    -- A line stands in the text behind the lines above it, and this is what a slice needs.
    obtain ⟨rest, htext⟩ := exists_rest hline
    have hslice := slice?_of_toList_eq htext
    obtain ⟨hstart, hstop, -⟩ := isSome_slice?_iff.mp (by rw [hslice]; rfl)
    exact ⟨hstart, hstop, hstop.le, hslice⟩
  through := by
    intro i hi
    rw [map_snd_lines]
    exact through?_ofText (by rwa [length_lines] at hi)
  window := by
    intro i _ n
    rw [map_snd_lines]
    exact windowBelow?_ofText text i n
  window_last := by
    intro n
    rw [windowBelow?_ofText, List.drop_eq_nil_of_le (by rw [length_lines]; omega)]
    simp [unlines]
  windowStart := by
    intro i _
    have hbelow : ((ofText text).below? i).isSome := by
      rw [below?_ofText]
      rfl
    exact (isSome_slice?_iff.mp hbelow).1
  windowEnd := by
    intro i _ rest hrest stop hstop
    obtain ⟨entry, hentry, rfl⟩ := List.mem_map.mp hstop
    obtain ⟨n, hn⟩ := List.mem_iff_getElem?.mp hentry
    -- A window ends in front of a character, so at a boundary.
    rw [getElem?_charOffsets] at hn
    obtain ⟨c, -, rfl⟩ := Option.map_eq_some_iff.mp hn
    have hboundary := isBoundary_take rest n
    exact ⟨hboundary, hboundary.of_slice? hrest⟩

/-!
## Loops without faults

A loop is without faults if its body is, for each number that it comes to. Then it does what a
function on the lines themselves does.
-/

section Loops

variable {α β : Type}

theorem findSomeM?_eq_some {f : α → Option (Option β)} {g : α → Option β} {l : List α}
    (h : ∀ a ∈ l, f a = some (g a)) : l.findSomeM? f = some (l.findSome? g) := by
  induction l with
  | nil => rfl
  | cons a l ih =>
      obtain ⟨ha, hl⟩ := List.forall_mem_cons.mp h
      rw [List.findSomeM?_cons, ha, List.findSome?_cons]
      cases hg : g a with
      | none => exact ih hl
      | some b => rfl

theorem filterMapM_eq_some {f : α → Option (Option β)} {g : α → Option β} {l : List α}
    (h : ∀ a ∈ l, f a = some (g a)) : l.filterMapM f = some (l.filterMap g) := by
  induction l with
  | nil => rfl
  | cons a l ih =>
      obtain ⟨ha, hl⟩ := List.forall_mem_cons.mp h
      rw [List.filterMapM_cons, ha, List.filterMap_cons]
      cases hg : g a with
      | none => exact ih hl
      | some b => simp [ih hl]

/-- A stretch of a list is read by its positions. -/
theorem filterMap_range' (l : List α) {s n : Nat} (h : s + n ≤ l.length) :
    (List.range' s n).filterMap (l[·]?) = (l.drop s).take n := by
  induction n generalizing s with
  | zero => rw [List.take_zero]; rfl
  | succ n ih =>
      rw [List.range'_succ, List.filterMap_cons, List.getElem?_eq_getElem (by omega),
        ih (by omega), List.drop_eq_getElem_cons (show s < l.length by omega), List.take_succ_cons]

theorem filterMap_bind_range' (f : α → Option β) (l : List α) {s n : Nat} (h : s + n ≤ l.length) :
    ((List.range' s n).filterMap fun k => l[k]?.bind f) = ((l.drop s).take n).filterMap f := by
  rw [← filterMap_range' l h, List.filterMap_filterMap]

end Loops

/-!
## The survey without faults

Part by part, the survey by offsets is that by sites. Every number that is asked for is that of a
line, since it was tested against the number of lines before.
-/

theorem handlerBelow?_ofText (h : i < (Text.lines text.toList).length) :
    (ofText text).handlerBelow? i =
      some (Controller.handlerBelow? ((Text.lines text.toList).drop (i + 1))) := by
  rw [handlerBelow?, length_lines]
  simp only [line?_ofText]
  generalize Text.lines text.toList = ls at h
  -- The last line that is looked at is the last one in reach or the last one of the text.
  have hreach : (ls.drop (i + 1)).take (min (i + handlerReach) (ls.length - 1) - i) =
      (ls.drop (i + 1)).take handlerReach := by
    rw [List.take_eq_take_iff, List.length_drop]
    omega
  -- So no number is asked for that is not the number of a line.
  have hread : ∀ k ∈ List.range' (i + 1) (min (i + handlerReach) (ls.length - 1) - i),
      (ls[k]?.bind fun line => some (signatureName? (trim line))) =
        some (ls[k]?.bind fun line => signatureName? (trim line)) := by
    intro k hk
    have hmem := List.mem_range'_1.mp hk
    rw [List.getElem?_eq_getElem (by omega), Option.bind_some, Option.bind_some]
  refine (findSomeM?_eq_some hread).trans ?_
  rw [← List.head?_filterMap, filterMap_bind_range' _ ls (by omega), hreach, List.head?_filterMap,
    Controller.handlerBelow?]

/-- A line of the text yields what its site yields. -/
theorem endpoint?_ofText (base : List Char) (h : i < (Text.lines text.toList).length) :
    (ofText text).endpoint? base i =
      some ((sites (Text.lines text.toList))[i]?.bind (Site.endpoint? base)) := by
  have hline := List.getElem?_eq_getElem h
  have hsummary : search? (ofText text).line? (topmost i) i =
      some (summaryAt (Text.lines text.toList) i) := by
    rw [funext (line?_ofText text)]
    exact search?_getElem? h.le
  rw [endpoint?, line?_ofText, getElem?_sites, hline, Option.map_some, Option.bind_some,
    Site.endpoint?]
  simp only [handlerBelow?_ofText h, windowBelow?_ofText, hsummary]
  -- Both go through the same tests, in the same order.
  cases hmapping : Mapping.ofLine? (Text.lines text.toList)[i] with
  | none => simp [hmapping]
  | some found =>
      cases Controller.handlerBelow? ((Text.lines text.toList).drop (i + 1)) with
      | none => simp [hmapping]
      | some handler => simp [hmapping, parametersBelow, summaryAt]

theorem declaration?_ofText (text : String) :
    (ofText text).declaration? = (Text.lines text.toList).findIdx? isClassDeclaration := by
  rw [declaration?, ← map_snd_lines, List.findIdx?_map]
  rfl

theorem header?_ofText (text : String) :
    (ofText text).header? = some (String.ofList (headerOf text.toList)) := by
  rw [header?, headerOf, declaration?_ofText]
  cases hfound : (Text.lines text.toList).findIdx? isClassDeclaration with
  | none => exact congrArg some String.ofList_toList.symm
  | some i => exact through?_ofText (List.findIdx?_eq_some_iff_findIdx_eq.mp hfound).1

theorem elim_declaration? (text : String) :
    (ofText text).declaration?.elim 0 (· + 1) = headerLines text.toList := by
  rw [declaration?_ofText, headerLines]
  cases (Text.lines text.toList).findIdx? isClassDeclaration <;> rfl

theorem endpoints?_ofText (text : String) (base : List Char) :
    (ofText text).endpoints? base =
      some ((bodySites text.toList).filterMap (Site.endpoint? base)) := by
  have hheader := headerLines_le text.toList
  have hlength : (sites (Text.lines text.toList)).length = (Text.lines text.toList).length :=
    length_sitesBelow ..
  rw [endpoints?, elim_declaration?, length_lines, bodySites_eq]
  generalize headerLines text.toList = first at hheader
  have hlines : ∀ i ∈ List.range' first ((Text.lines text.toList).length - first),
      (ofText text).endpoint? base i =
        some ((sites (Text.lines text.toList))[i]?.bind (Site.endpoint? base)) := by
    intro i hi
    have hmem := List.mem_range'_1.mp hi
    exact endpoint?_ofText base (by omega)
  refine (filterMapM_eq_some hlines).trans ?_
  rw [filterMap_bind_range' _ _ (by omega), List.take_of_length_le]
  rw [List.length_drop, hlength]

theorem controller?_ofText (text name : String) :
    (ofText text).controller? name = some (ofText? name text) := by
  rw [controller?, ofText?, survey?, text_ofText, header?_ofText]
  cases isMarked text.toList with
  | false => rfl
  | true =>
      simp [endpoints?_ofText, Survey.controller, List.filterMap_filterMap, endpoint?_finding?]

/-- Whatever a text is, no slice between the offsets of its lines is at fault, each is what the
lines say, and the survey by offsets and line numbers goes through to the controller of the text. -/
theorem faultless_ofText (text : String) :
    (ofText text).IsExact ∧ ∀ name, (ofText text).controller? name = some (ofText? name text) :=
  ⟨isExact_ofText text, controller?_ofText text⟩

/-- A window is counted in characters, whatever their sizes. -/
example : (ofText "é\nüb").windowBelow? 0 1 = some "ü" ∧
    (ofText "é\nüb").through? 1 = some "é\nüb" ∧ (ofText "é\nüb").line? 2 = none := by
  decide +kernel

end LineIndex

end ModuleReadme.Controller
