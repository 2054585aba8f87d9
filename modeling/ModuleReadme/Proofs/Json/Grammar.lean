import ModuleReadme.Json
import Mathlib.Data.List.Basic

/-!
# The grammar of JSON

What a text must look like to stand for a JSON value: blanks between its parts, string literals with
escapes, arrays and objects. Numbers and truth values are left out here as they are left out of
`Json`. A value that is laid out over several lines is written by this grammar (`isText_text`).
-/

namespace ModuleReadme.Json

/-!
## Characters

A character is written as it is, with a backslash and a letter, or by its code unit in hexadecimal
digits. Characters beyond the first 65536 have two code units.
-/

/-- The characters that stand for themselves behind a backslash or have a letter for them. -/
def shortEscapes : List (Char × Char) :=
  [('"', '"'), ('\\', '\\'), ('/', '/'), ('b', '\x08'), ('f', '\x0C'), ('n', '\n'), ('r', '\r'),
    ('t', '\t')]

def hexDigit? (c : Char) : Option Nat :=
  if '0' ≤ c ∧ c ≤ '9' then some (c.toNat - 48)
  else if 'a' ≤ c ∧ c ≤ 'f' then some (c.toNat - 87)
  else if 'A' ≤ c ∧ c ≤ 'F' then some (c.toNat - 55)
  else none

def hexNumber? (digits : List Char) : Option Nat :=
  (digits.mapM hexDigit?).map (·.foldl (16 * · + ·) 0)

/-- The first half of a pair of code units that stand for one character. -/
def isHighSurrogate (n : Nat) : Bool := 0xD800 ≤ n && n < 0xDC00

/-- The second half of a pair of code units that stand for one character. -/
def isLowSurrogate (n : Nat) : Bool := 0xDC00 ≤ n && n < 0xE000

/-- The character that a pair of code units stands for. -/
def pairedChar (high low : Nat) : Char :=
  Char.ofNat (0x10000 + 0x400 * (high - 0xD800) + (low - 0xDC00))

/-- The ways in which a character can be written inside a string literal. -/
inductive IsCharacter : List Char → Char → Prop where
  | plain {c : Char} (hcontrol : 0x20 ≤ c.toNat) (hquote : c ≠ '"') (hbackslash : c ≠ '\\') :
      IsCharacter [c] c
  | short {e c : Char} (h : (e, c) ∈ shortEscapes) : IsCharacter ['\\', e] c
  | unit {digits : List Char} {n : Nat} (hlength : digits.length = 4)
      (hnumber : hexNumber? digits = some n) (hvalid : n.isValidChar) :
      IsCharacter ('\\' :: 'u' :: digits) (Char.ofNat n)
  | pair {digits digits' : List Char} {high low : Nat} (hlength : digits.length = 4)
      (hlength' : digits'.length = 4) (hnumber : hexNumber? digits = some high)
      (hnumber' : hexNumber? digits' = some low) (hhigh : isHighSurrogate high = true)
      (hlow : isLowSurrogate low = true) :
      IsCharacter ('\\' :: 'u' :: digits ++ '\\' :: 'u' :: digits') (pairedChar high low)

/-- The ways in which some characters can be written, one after the other. -/
inductive IsCharacters : List Char → List Char → Prop where
  | nil : IsCharacters [] []
  | cons {written rest : List Char} {c : Char} {cs : List Char} (hc : IsCharacter written c)
      (hcs : IsCharacters rest cs) : IsCharacters (written ++ rest) (c :: cs)

/-- The ways in which a string literal can be written. -/
inductive IsLiteral : List Char → String → Prop where
  | intro {written : List Char} {text : String} (h : IsCharacters written text.toList) :
      IsLiteral ('"' :: written ++ ['"']) text

/-!
## Values

Blanks are allowed around items and around the colon of a member, and so they belong to the rule
for an item or a member. There is no item behind the last comma.
-/

def isSpace (c : Char) : Bool := c == ' ' || c == '\t' || c == '\n' || c == '\r'

def AllSpace (text : List Char) : Prop := ∀ c ∈ text, isSpace c = true

mutual

/-- The ways in which a value can be written, without blanks around it. -/
inductive IsValue : List Char → Json → Prop where
  | null : IsValue ['n', 'u', 'l', 'l'] null
  | string {written : List Char} {text : String} (h : IsLiteral written text) :
      IsValue written (string text)
  | noItems {space : List Char} (h : AllSpace space) : IsValue ('[' :: space ++ [']']) (array [])
  | array {written : List Char} {items : List Json} (h : IsItems written items) :
      IsValue ('[' :: written ++ [']']) (array items)
  | noMembers {space : List Char} (h : AllSpace space) :
      IsValue ('\x7b' :: space ++ ['\x7d']) (object [])
  | object {written : List Char} {members : List (String × Json)} (h : IsMembers written members) :
      IsValue ('\x7b' :: written ++ ['\x7d']) (object members)

/-- The ways in which one or more items can be written, with commas between them. -/
inductive IsItems : List Char → List Json → Prop where
  | last {front written back : List Char} {item : Json} (hfront : AllSpace front)
      (h : IsValue written item) (hback : AllSpace back) : IsItems (front ++ written ++ back) [item]
  | cons {front written back rest : List Char} {item : Json} {items : List Json}
      (hfront : AllSpace front) (h : IsValue written item) (hback : AllSpace back)
      (hrest : IsItems rest items) :
      IsItems (front ++ written ++ back ++ ',' :: rest) (item :: items)

/-- The ways in which one or more members can be written, with commas between them. -/
inductive IsMembers : List Char → List (String × Json) → Prop where
  | last {front key middle space written back : List Char} {name : String} {value : Json}
      (hfront : AllSpace front) (hkey : IsLiteral key name) (hmiddle : AllSpace middle)
      (hspace : AllSpace space) (h : IsValue written value) (hback : AllSpace back) :
      IsMembers (front ++ key ++ middle ++ ':' :: space ++ written ++ back) [(name, value)]
  | cons {front key middle space written back rest : List Char} {name : String} {value : Json}
      {members : List (String × Json)}
      (hfront : AllSpace front) (hkey : IsLiteral key name) (hmiddle : AllSpace middle)
      (hspace : AllSpace space) (h : IsValue written value) (hback : AllSpace back)
      (hrest : IsMembers rest members) :
      IsMembers (front ++ key ++ middle ++ ':' :: space ++ written ++ back ++ ',' :: rest)
        ((name, value) :: members)

end

/-- A text that stands for a value: the value with blanks around it. -/
inductive IsText : List Char → Json → Prop where
  | intro {front written back : List Char} {j : Json} (hfront : AllSpace front)
      (h : IsValue written j) (hback : AllSpace back) : IsText (front ++ written ++ back) j

/-!
## Literals that are laid out

Of the ways to write a character the layout takes the shortest that there is.
-/

theorem hexNumber?_control : ∀ n < 0x20,
    hexNumber? ['0', '0', Nat.digitChar (n / 16), Nat.digitChar (n % 16)] = some n := by
  decide

/-- The escapes are those of the grammar. -/
theorem isCharacter_escape (c : Char) : IsCharacter (escape c) c := by
  unfold escape
  -- One case for each character with a letter, then the other control characters and the rest.
  split_ifs with hquote hbackslash hb hf hn hr ht hcontrol
  · exact .short (by simp [hquote, shortEscapes])
  · exact .short (by simp [hbackslash, shortEscapes])
  · exact .short (by simp [hb, shortEscapes])
  · exact .short (by simp [hf, shortEscapes])
  · exact .short (by simp [hn, shortEscapes])
  · exact .short (by simp [hr, shortEscapes])
  · exact .short (by simp [ht, shortEscapes])
  · have hunit : IsCharacter _ (Char.ofNat c.toNat) :=
      .unit rfl (hexNumber?_control c.toNat hcontrol) c.valid
    rwa [Char.ofNat_toNat] at hunit
  · exact .plain (by omega) hquote hbackslash

theorem isCharacters_flatMap_escape (cs : List Char) : IsCharacters (cs.flatMap escape) cs := by
  induction cs with
  | nil => exact .nil
  | cons c cs ih => exact .cons (isCharacter_escape c) ih

theorem isLiteral_literal (text : String) : IsLiteral (literal text) text :=
  .intro (isCharacters_flatMap_escape text.toList)

/-!
## Values that are laid out

The layout puts line feeds and spaces where blanks are allowed. The induction is on the value,
together for values, items and members.
-/

theorem allSpace_nil : AllSpace [] := by
  intro c hc
  cases hc

theorem allSpace_blank : AllSpace [' '] := by
  intro c hc
  rw [List.mem_singleton.mp hc]
  rfl

theorem allSpace_newline (level : Nat) : AllSpace (newline level) := by
  intro c hc
  rcases List.mem_cons.mp hc with rfl | hc
  · rfl
  · rw [List.eq_of_mem_replicate hc]
    rfl

mutual

/-- A value that is laid out is written by the grammar. -/
theorem isValue_layout (level : Nat) (j : Json) : IsValue (j.layout level) j :=
  match j with
  | null => .null
  | string text => by
      rw [layout]
      exact .string (isLiteral_literal text)
  | array [] => by
      rw [layout]
      exact .noItems allSpace_nil
  | array (item :: rest) => by
      rw [layout]
      exact .array (isItems_layoutItems (level + 1) (allSpace_newline level) (item :: rest)
        (List.cons_ne_nil item rest))
  | object [] => by
      rw [layout]
      exact .noMembers allSpace_nil
  | object (member :: rest) => by
      rw [layout]
      exact .object (isMembers_layoutMembers (level + 1) (allSpace_newline level) (member :: rest)
        (List.cons_ne_nil member rest))

/-- The blanks in front of the bracket that closes stand behind the last item. -/
theorem isItems_layoutItems (level : Nat) {back : List Char} (hback : AllSpace back)
    (items : List Json) (hne : items ≠ []) : IsItems (layoutItems level items ++ back) items :=
  match items with
  | [] => absurd rfl hne
  | [item] => by
      have h := IsItems.last (allSpace_newline level) (isValue_layout level item) hback
      simpa [layoutItems] using h
  | item :: next :: rest => by
      have h := IsItems.cons (allSpace_newline level) (isValue_layout level item) allSpace_nil
        (isItems_layoutItems level hback (next :: rest) (List.cons_ne_nil next rest))
      rw [layoutItems]
      simpa using h

theorem isMembers_layoutMembers (level : Nat) {back : List Char} (hback : AllSpace back)
    (members : List (String × Json)) (hne : members ≠ []) :
    IsMembers (layoutMembers level members ++ back) members :=
  match members with
  | [] => absurd rfl hne
  -- The last member has no comma behind it.
  | [(name, value)] => by
      have h := IsMembers.last (allSpace_newline level) (isLiteral_literal name) allSpace_nil
        allSpace_blank (isValue_layout level value) hback
      simpa [layoutMembers] using h
  | (name, value) :: next :: rest => by
      have h := IsMembers.cons (allSpace_newline level) (isLiteral_literal name) allSpace_nil
        allSpace_blank (isValue_layout level value) allSpace_nil
        (isMembers_layoutMembers level hback (next :: rest) (List.cons_ne_nil next rest))
      rw [layoutMembers]
      simpa using h

end

/-- The text of a value stands for it. -/
theorem isText_text (j : Json) : IsText j.text.toList j := by
  have h := IsText.intro allSpace_nil (isValue_layout 0 j) allSpace_nil
  simpa [text] using h

end ModuleReadme.Json
