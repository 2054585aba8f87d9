import ModuleReadme.Proofs.Json.Grammar
import ModuleReadme.Text.Search

/-!
# Reading JSON

A reader for the texts of the grammar, by recursive descent: each function reads what stands at the
front of a text and gives back what follows. The reader takes whatever the grammar allows for a
value and finds just this value (`ofText?_of_isText`), so no text stands for two values.
-/

namespace ModuleReadme.Json

open Text

/-!
## The reader

The functions follow the rules of the grammar. One character tells which rule it is: there is
nothing to be tried again.
-/

def readUnit? (text : List Char) : Option (Nat × List Char) :=
  if 4 ≤ text.length then (hexNumber? (text.take 4)).map (·, text.drop 4) else none

/-- A character behind `\u`, for which there may be a second unit. -/
def readUnits? (text : List Char) : Option (Char × List Char) :=
  (readUnit? text).bind fun (n, rest) =>
    if isHighSurrogate n then
      ((after? ['\\', 'u'] rest).bind readUnit?).bind fun (low, rest) =>
        if isLowSurrogate low then some (pairedChar n low, rest) else none
    else if n.isValidChar then some (Char.ofNat n, rest) else none

def readEscape? : List Char → Option (Char × List Char)
  | [] => none
  | e :: rest => if e = 'u' then readUnits? rest else (shortEscapes.lookup e).map (·, rest)

def readCharacter? : List Char → Option (Char × List Char)
  | [] => none
  | c :: rest =>
    if c = '\\' then readEscape? rest else if c.toNat < 0x20 then none else some (c, rest)

/-- The characters through the quote that ends a string literal. -/
def readCharacters? (text : List Char) : Option (List Char × List Char) :=
  match text with
  | [] => none
  | c :: tail =>
    if c = '"' then some ([], tail)
    else
      match readCharacter? (c :: tail) with
      | none => none
      | some (d, rest) =>
        if rest.length ≤ tail.length then
          (readCharacters? rest).map fun (ds, rest) => (d :: ds, rest)
        else none
termination_by text.length

def readLiteral? (text : List Char) : Option (String × List Char) :=
  ((after? ['"'] text).bind readCharacters?).map fun (cs, rest) => (String.ofList cs, rest)

def skipSpace (text : List Char) : List Char := text.dropWhile isSpace

/-- What follows a mark that may have blanks in front. -/
def skipMark? (mark : Char) (text : List Char) : Option (List Char) :=
  after? [mark] (skipSpace text)

/-- The name of a member, through the blanks behind the colon. -/
def readName? (text : List Char) : Option (String × List Char) :=
  (readLiteral? (skipSpace text)).bind fun (name, rest) =>
    (skipMark? ':' rest).map fun rest => (name, skipSpace rest)

theorem length_skipSpace_le (text : List Char) : (skipSpace text).length ≤ text.length :=
  (List.dropWhile_sublist isSpace).length_le

mutual

/-- A value without blanks in front. -/
def readValue? (text : List Char) : Option (Json × List Char) :=
  match text with
  | [] => none
  | c :: rest =>
    if c = '[' then
      match skipMark? ']' rest with
      | some rest => some (array [], rest)
      | none => (readItems? rest).map fun (items, rest) => (array items, rest)
    else if c = '\x7b' then
      match skipMark? '\x7d' rest with
      | some rest => some (object [], rest)
      | none => (readMembers? rest).map fun (members, rest) => (object members, rest)
    else if c = 'n' then (after? ['u', 'l', 'l'] rest).map (null, ·)
    else (readLiteral? (c :: rest)).map fun (s, rest) => (string s, rest)
termination_by 2 * text.length

def readItems? (text : List Char) : Option (List Json × List Char) :=
  have := length_skipSpace_le text
  match readValue? (skipSpace text) with
  | none => none
  | some (item, rest) =>
    match skipMark? ',' rest with
    | none => (skipMark? ']' rest).map ([item], ·)
    | some rest =>
      -- What is left is always shorter; the recursion is allowed because it is tested.
      if rest.length < text.length then
        (readItems? rest).map fun (items, rest) => (item :: items, rest)
      else none
termination_by 2 * text.length + 1

def readMembers? (text : List Char) : Option (List (String × Json) × List Char) :=
  match readName? text with
  | none => none
  | some (name, rest) =>
    -- What is left is shorter after each step, as the recursion needs.
    if rest.length < text.length then
      match readValue? rest with
      | none => none
      | some (value, rest) =>
        match skipMark? ',' rest with
        | none => (skipMark? '\x7d' rest).map ([(name, value)], ·)
        | some rest =>
          if rest.length < text.length then
            (readMembers? rest).map fun (members, rest) => ((name, value) :: members, rest)
          else none
    else none
termination_by 2 * text.length + 1

end

/-- The value that a text stands for. -/
def ofText? (text : List Char) : Option Json :=
  (readValue? (skipSpace text)).bind fun (j, rest) =>
    if (skipSpace rest).isEmpty then some j else none

/-!
## Characters

Each way to write a character is read back, whatever follows it. A literal ends with its quote
since no character is written with a quote in front.
-/

theorem readUnit?_append {digits : List Char} {n : Nat} (hlength : digits.length = 4)
    (hnumber : hexNumber? digits = some n) (rest : List Char) :
    readUnit? (digits ++ rest) = some (n, rest) := by
  rw [readUnit?, if_pos (by simp [hlength]), List.take_left' hlength, List.drop_left' hlength,
    hnumber, Option.map_some]

theorem isHighSurrogate_eq_false {n : Nat} (h : n.isValidChar) : isHighSurrogate n = false := by
  rw [isHighSurrogate, Bool.and_eq_false_iff]
  simp only [decide_eq_false_iff_not]
  rw [Nat.isValidChar] at h
  omega

theorem readCharacter?_append {written : List Char} {c : Char} (h : IsCharacter written c)
    (rest : List Char) : readCharacter? (written ++ rest) = some (c, rest) := by
  cases h with
  | plain hcontrol hquote hbackslash =>
      rw [List.cons_append, List.nil_append, readCharacter?, if_neg hbackslash,
        if_neg (Nat.not_lt.mpr hcontrol)]
  | @short e c h =>
      have hshort : ∀ row ∈ shortEscapes, row.1 ≠ 'u' ∧ shortEscapes.lookup row.1 = some row.2 := by
        decide
      obtain ⟨hu, hlookup⟩ := hshort (e, c) h
      simp [readCharacter?, readEscape?, hu, hlookup]
  | unit hlength hnumber hvalid =>
      -- No valid character is the first half of a pair.
      have hread := readUnit?_append hlength hnumber rest
      simp [readCharacter?, readEscape?, readUnits?, hread, hvalid, isHighSurrogate_eq_false hvalid]
  | @pair digits digits' high low hlength hlength' hnumber hnumber' hhigh hlow =>
      have hread := readUnit?_append hlength hnumber ('\\' :: 'u' :: (digits' ++ rest))
      have hread' := readUnit?_append hlength' hnumber' rest
      simp [readCharacter?, readEscape?, readUnits?, hread, hread', after?, hhigh, hlow]

/-- No character is written with a quote in front, so that the first such quote ends a literal. -/
theorem IsCharacter.exists_cons {written : List Char} {c : Char} (h : IsCharacter written c) :
    ∃ first tail, written = first :: tail ∧ first ≠ '"' := by
  cases h with
  | plain hcontrol hquote hbackslash => exact ⟨c, [], rfl, hquote⟩
  | short h => exact ⟨'\\', _, rfl, by decide⟩
  | unit hlength hnumber hvalid => exact ⟨'\\', _, rfl, by decide⟩
  | pair hlength hlength' hnumber hnumber' hhigh hlow => exact ⟨'\\', _, rfl, by decide⟩

theorem readCharacters?_append {written cs : List Char} (h : IsCharacters written cs)
    (rest : List Char) : readCharacters? (written ++ '"' :: rest) = some (cs, rest) := by
  induction h with
  | nil => rw [List.nil_append, readCharacters?, if_pos rfl]
  | @cons written more c cs hc hcs ih =>
      have hread := readCharacter?_append hc (more ++ '"' :: rest)
      obtain ⟨first, tail, rfl, hquote⟩ := hc.exists_cons
      rw [List.append_assoc, List.cons_append] at *
      rw [readCharacters?, if_neg hquote, hread]
      simp [ih]

theorem readLiteral?_append {written : List Char} {s : String} (h : IsLiteral written s)
    (rest : List Char) : readLiteral? (written ++ rest) = some (s, rest) := by
  obtain ⟨h⟩ := h
  have hread := readCharacters?_append h rest
  simp [readLiteral?, after?, hread]

/-! ## Blanks -/

theorem skipSpace_append {space : List Char} (h : AllSpace space) (text : List Char) :
    skipSpace (space ++ text) = skipSpace text :=
  List.dropWhile_append_of_pos h

theorem skipSpace_cons {c : Char} (h : isSpace c = false) (text : List Char) :
    skipSpace (c :: text) = c :: text :=
  List.dropWhile_cons_of_neg (by simp [h])

theorem skipMark?_append {mark : Char} (hmark : isSpace mark = false) {space : List Char}
    (h : AllSpace space) (rest : List Char) :
    skipMark? mark (space ++ mark :: rest) = some rest := by
  rw [skipMark?, skipSpace_append h, skipSpace_cons hmark]
  exact after?_append [mark] rest

theorem skipMark?_eq_none {mark c : Char} (hc : isSpace c = false) (hne : mark ≠ c)
    {space : List Char} (h : AllSpace space) (rest : List Char) :
    skipMark? mark (space ++ c :: rest) = none := by
  rw [skipMark?, skipSpace_append h, skipSpace_cons hc, after?, if_neg hne]

/-!
## Values

What can stand at the front of a value tells that a bracket does not close at once. The induction is
on the grammar, with any text behind what it wrote.
-/

theorem IsLiteral.exists_cons {written : List Char} {s : String} (h : IsLiteral written s) :
    ∃ tail, written = '"' :: tail := by
  obtain ⟨h⟩ := h
  exact ⟨_, rfl⟩

/-- A value begins with no blank and with no bracket that closes an array. -/
theorem IsValue.exists_cons {written : List Char} {j : Json} (h : IsValue written j) :
    ∃ c tail, written = c :: tail ∧ isSpace c = false ∧ ']' ≠ c := by
  cases h with
  | null => exact ⟨'n', _, rfl, by decide, by decide⟩
  | string h =>
      obtain ⟨tail, rfl⟩ := h.exists_cons
      exact ⟨'"', tail, rfl, by decide, by decide⟩
  | noItems h => exact ⟨'[', _, rfl, by decide, by decide⟩
  | array h => exact ⟨'[', _, rfl, by decide, by decide⟩
  | noMembers h => exact ⟨'\x7b', _, rfl, by decide, by decide⟩
  | object h => exact ⟨'\x7b', _, rfl, by decide, by decide⟩

theorem IsItems.skipMark?_eq_none {written : List Char} {items : List Json}
    (h : IsItems written items) (rest : List Char) : skipMark? ']' (written ++ rest) = none := by
  cases h with
  | last hfront h hback =>
      obtain ⟨c, tail, rfl, hc, hne⟩ := h.exists_cons
      simpa using Json.skipMark?_eq_none hc hne hfront _
  | cons hfront h hback hrest =>
      obtain ⟨c, tail, rfl, hc, hne⟩ := h.exists_cons
      simpa using Json.skipMark?_eq_none hc hne hfront _

theorem IsMembers.skipMark?_eq_none {written : List Char} {members : List (String × Json)}
    (h : IsMembers written members) (rest : List Char) :
    skipMark? '\x7d' (written ++ rest) = none := by
  cases h with
  | last hfront hkey hmiddle hspace h hback =>
      obtain ⟨tail, rfl⟩ := hkey.exists_cons
      simpa using Json.skipMark?_eq_none (by decide) (by decide) hfront _
  | cons hfront hkey hmiddle hspace h hback hrest =>
      obtain ⟨tail, rfl⟩ := hkey.exists_cons
      simpa using Json.skipMark?_eq_none (by decide) (by decide) hfront _

theorem readValue?_literal {written : List Char} {s : String} (h : IsLiteral written s)
    (rest : List Char) : readValue? (written ++ rest) = some (string s, rest) := by
  have hread := readLiteral?_append h rest
  obtain ⟨tail, rfl⟩ := h.exists_cons
  rw [List.cons_append] at *
  rw [readValue?, if_neg (by decide), if_neg (by decide), if_neg (by decide), hread,
    Option.map_some]

theorem skipSpace_append_isValue {front written : List Char} {j : Json} (hfront : AllSpace front)
    (h : IsValue written j) (rest : List Char) :
    skipSpace (front ++ (written ++ rest)) = written ++ rest := by
  obtain ⟨c, tail, rfl, hc, -⟩ := h.exists_cons
  rw [skipSpace_append hfront, List.cons_append, skipSpace_cons hc]

theorem readName?_append {front key middle space written : List Char} {name : String} {value : Json}
    (hfront : AllSpace front) (hkey : IsLiteral key name) (hmiddle : AllSpace middle)
    (hspace : AllSpace space) (h : IsValue written value) (rest : List Char) :
    readName? (front ++ (key ++ (middle ++ ':' :: (space ++ (written ++ rest))))) =
      some (name, written ++ rest) := by
  have hread := readLiteral?_append hkey (middle ++ ':' :: (space ++ (written ++ rest)))
  have hstart : skipSpace (front ++ (key ++ (middle ++ ':' :: (space ++ (written ++ rest))))) =
      key ++ (middle ++ ':' :: (space ++ (written ++ rest))) := by
    obtain ⟨tail, rfl⟩ := hkey.exists_cons
    rw [skipSpace_append hfront, List.cons_append, skipSpace_cons (by decide)]
  rw [readName?, hstart, hread, Option.bind_some]
  show (skipMark? ':' _).map _ = _
  rw [skipMark?_append (by decide) hmiddle, Option.map_some, skipSpace_append_isValue hspace h]

/-- Behind the name of a member there is less to be read than in front. -/
theorem length_lt_member (front key middle space rest : List Char) :
    rest.length < (front ++ (key ++ (middle ++ ':' :: (space ++ rest)))).length := by
  simp only [List.length_append, List.length_cons]
  omega

mutual

/-- The reader finds what the grammar wrote. -/
theorem readValue?_append {written : List Char} {j : Json} (h : IsValue written j)
    (rest : List Char) : readValue? (written ++ rest) = some (j, rest) :=
  match h with
  | .null => by simp [readValue?, after?]
  | .string h => readValue?_literal h rest
  | .noItems h => by
      have hclosed := skipMark?_append (by decide : isSpace ']' = false) h rest
      simp [readValue?, hclosed]
  | .array h => by
      -- The list has items, so it does not close at once.
      have hopen := h.skipMark?_eq_none (']' :: rest)
      have hread := readItems?_append h rest
      simp [readValue?, hopen, hread]
  | .noMembers h => by
      have hclosed := skipMark?_append (by decide : isSpace '\x7d' = false) h rest
      simp [readValue?, hclosed]
  | .object h => by
      have hopen := h.skipMark?_eq_none ('\x7d' :: rest)
      have hread := readMembers?_append h rest
      simp [readValue?, hopen, hread]

theorem readItems?_append {written : List Char} {items : List Json} (h : IsItems written items)
    (rest : List Char) : readItems? (written ++ ']' :: rest) = some (items, rest) :=
  match h with
  | @IsItems.last front written back item hfront h hback => by
      have hread := readValue?_append h (back ++ ']' :: rest)
      have hcomma := skipMark?_eq_none (by decide) (by decide : ',' ≠ ']') hback rest
      have hclosed := skipMark?_append (by decide : isSpace ']' = false) hback rest
      simp only [List.append_assoc]
      -- Behind the last item there is no comma but the bracket.
      rw [readItems?, skipSpace_append_isValue hfront h, hread]
      simp only [hcomma, hclosed, Option.map_some]
  | @IsItems.cons front written back more item items hfront h hback hmore => by
      have hread := readValue?_append h (back ++ ',' :: (more ++ ']' :: rest))
      have hcomma := skipMark?_append (by decide : isSpace ',' = false) hback (more ++ ']' :: rest)
      have hitems := readItems?_append hmore rest
      -- The comma at least has been taken, so the reader goes on.
      have hshorter : (more ++ ']' :: rest).length <
          (front ++ (written ++ (back ++ ',' :: (more ++ ']' :: rest)))).length := by
        simp only [List.length_append, List.length_cons]
        omega
      simp only [List.append_assoc, List.cons_append]
      rw [readItems?, skipSpace_append_isValue hfront h, hread]
      simp only [hcomma, hshorter, if_true, hitems, Option.map_some]

theorem readMembers?_append {written : List Char} {members : List (String × Json)}
    (h : IsMembers written members) (rest : List Char) :
    readMembers? (written ++ '\x7d' :: rest) = some (members, rest) :=
  match h with
  | @IsMembers.last front key middle space written back name value hfront hkey hmiddle hspace h
      hback => by
      have hname := readName?_append hfront hkey hmiddle hspace h (back ++ '\x7d' :: rest)
      have hread := readValue?_append h (back ++ '\x7d' :: rest)
      have hcomma := skipMark?_eq_none (by decide) (by decide : ',' ≠ '\x7d') hback rest
      have hclosed := skipMark?_append (by decide : isSpace '\x7d' = false) hback rest
      simp only [List.append_assoc, List.cons_append]
      rw [readMembers?, hname]
      simp only [length_lt_member, if_true, hread, hcomma, hclosed, Option.map_some]
  | @IsMembers.cons front key middle space written back more name value members hfront hkey hmiddle
      hspace h hback hmore => by
      have hname := readName?_append hfront hkey hmiddle hspace h
        (back ++ ',' :: (more ++ '\x7d' :: rest))
      have hread := readValue?_append h (back ++ ',' :: (more ++ '\x7d' :: rest))
      have hcomma := skipMark?_append (by decide : isSpace ',' = false) hback
        (more ++ '\x7d' :: rest)
      have hmembers := readMembers?_append hmore rest
      have hshorter : (more ++ '\x7d' :: rest).length <
          (written ++ (back ++ ',' :: (more ++ '\x7d' :: rest))).length := by
        simp only [List.length_append, List.length_cons]
        omega
      -- The reader tests twice for what is left: behind the name and behind the comma.
      have hguard := Nat.lt_trans hshorter (length_lt_member front key middle space _)
      simp only [List.append_assoc, List.cons_append]
      rw [readMembers?, hname]
      simp only [length_lt_member, if_true, hread, hcomma, hguard, hmembers, Option.map_some]

end

/-! ## Texts -/

/-- A text stands for the value that is read from it. -/
theorem ofText?_of_isText {text : List Char} {j : Json} (h : IsText text j) :
    ofText? text = some j := by
  obtain @⟨front, written, back, j, hfront, h, hback⟩ := h
  have hread := readValue?_append h back
  have hend : skipSpace back = [] := by
    rw [← List.append_nil back, skipSpace_append hback]
    rfl
  rw [ofText?, List.append_assoc, skipSpace_append_isValue hfront h, hread, Option.bind_some]
  simp [hend]

/-- No text stands for two values. -/
theorem IsText.unique {text : List Char} {i j : Json} (hi : IsText text i) (hj : IsText text j) :
    i = j := by
  have h := (ofText?_of_isText hi).symm.trans (ofText?_of_isText hj)
  exact Option.some.inj h

end ModuleReadme.Json
