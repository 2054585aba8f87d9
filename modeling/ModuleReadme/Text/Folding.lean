import ModuleReadme.Text.Casing
import ModuleReadme.Text.Category
import ModuleReadme.Text.Mark
import ModuleReadme.Text.Word

/-!
# Case in patterns

Patterns know case in two ways: as a property of characters, and as what is disregarded when
characters are compared without case.
-/

namespace ModuleReadme.Text

/-!
## Properties of case

Which characters are of a case, and which are changed when a text is brought to one, by version 16
of Unicode. The mappings themselves are those of `upper` and `lower`, which know the characters of
version 17 as well.
-/

/-! ### Cases -/

def otherUppercaseRanges : Ranges :=
  [(0x2160, 0x216F), (0x24B6, 0x24CF), (0x1F130, 0x1F149), (0x1F150, 0x1F169), (0x1F170, 0x1F189)]

def otherLowercaseRanges : Ranges :=
  [(0xAA, 0xAA), (0xBA, 0xBA), (0x2B0, 0x2B8), (0x2C0, 0x2C1), (0x2E0, 0x2E4), (0x345, 0x345),
   (0x37A, 0x37A), (0x10FC, 0x10FC), (0x1D2C, 0x1D6A), (0x1D78, 0x1D78), (0x1D9B, 0x1DBF),
   (0x2071, 0x2071), (0x207F, 0x207F), (0x2090, 0x209C), (0x2170, 0x217F), (0x24D0, 0x24E9),
   (0x2C7C, 0x2C7D), (0xA69C, 0xA69D), (0xA770, 0xA770), (0xA7F2, 0xA7F4), (0xA7F8, 0xA7F9),
   (0xAB5C, 0xAB5F), (0xAB69, 0xAB69), (0x10780, 0x10780), (0x10783, 0x10785), (0x10787, 0x107B0),
   (0x107B2, 0x107BA), (0x1E030, 0x1E06D)]

def uppercaseRanges : Ranges := .union uppercaseLetterRanges otherUppercaseRanges

def lowercaseRanges : Ranges := .union lowercaseLetterRanges otherLowercaseRanges

def casedRanges : Ranges := .unions [uppercaseRanges, lowercaseRanges, titlecaseLetterRanges]

def midWordRanges : Ranges :=
  [(0x27, 0x27), (0x2E, 0x2E), (0x3A, 0x3A), (0xB7, 0xB7), (0x387, 0x387), (0x55F, 0x55F),
   (0x5F4, 0x5F4), (0x2018, 0x2019), (0x2024, 0x2024), (0x2027, 0x2027), (0xFE13, 0xFE13),
   (0xFE52, 0xFE52), (0xFE55, 0xFE55), (0xFF07, 0xFF07), (0xFF0E, 0xFF0E), (0xFF1A, 0xFF1A)]

/-- The characters that are passed over in search of the cases around a character. -/
def caseIgnorableRanges : Ranges :=
  .unions [nonspacingMarkRanges, enclosingMarkRanges, formatRanges, modifierLetterRanges,
    modifierSymbolRanges, midWordRanges]

/-! ### Changes -/

def CaseRun.codes (run : CaseRun) : Ranges :=
  if run.step = 1 then [(run.first, run.last)]
  else (List.range ((run.last - run.first) / run.step + 1)).map fun i =>
    (run.first + i * run.step, run.first + i * run.step)

/-- The characters outside ASCII that are mapped to others. -/
def mappedRanges (runs : List CaseRun) (expansions : List (Nat × List Nat)) : Ranges :=
  (Ranges.ofList (runs.flatMap (·.codes) ++ expansions.map fun e => (e.1, e.1))).diff recentRanges

def loweredRanges : Ranges := .union [(0x41, 0x5A)] (mappedRanges lowerRuns lowerExpansions)

/-- Letters whose upper case came with version 17 of Unicode. -/
def raisedLaterRanges : Ranges := [(0xA7D3, 0xA7D3), (0xA7D5, 0xA7D5)]

def raisedRanges : Ranges :=
  .union [(0x61, 0x7A)] ((mappedRanges upperRuns upperExpansions).diff raisedLaterRanges)

def raisedOnlyRanges : Ranges :=
  [(0x1C5, 0x1C5), (0x1C8, 0x1C8), (0x1CB, 0x1CB), (0x1F2, 0x1F2), (0x10D0, 0x10FA),
   (0x10FD, 0x10FF), (0x1F88, 0x1F8F), (0x1F98, 0x1F9F), (0x1FA8, 0x1FAF), (0x1FBC, 0x1FBC),
   (0x1FCC, 0x1FCC), (0x1FFC, 0x1FFC)]

def titledOnlyRanges : Ranges :=
  [(0x1C4, 0x1C4), (0x1C7, 0x1C7), (0x1CA, 0x1CA), (0x1F1, 0x1F1)]

def titledRanges : Ranges := (raisedRanges.diff raisedOnlyRanges).union titledOnlyRanges

/-- The characters that do not change in lower case and do when case is taken away. -/
def foldedOnlyRanges : Ranges :=
  [(0xB5, 0xB5), (0xDF, 0xDF), (0x149, 0x149), (0x17F, 0x17F), (0x345, 0x345), (0x3C2, 0x3C2),
   (0x3D0, 0x3D1), (0x3D5, 0x3D6), (0x3F0, 0x3F1), (0x3F5, 0x3F5), (0x587, 0x587),
   (0x13F8, 0x13FD), (0x1C80, 0x1C88), (0x1E9A, 0x1E9B), (0x1F80, 0x1F87), (0x1F90, 0x1F97),
   (0x1FA0, 0x1FA7), (0x1FB2, 0x1FB4), (0x1FB7, 0x1FB7), (0x1FC2, 0x1FC4), (0x1FC7, 0x1FC7),
   (0x1FF2, 0x1FF4), (0x1FF7, 0x1FF7), (0xAB70, 0xABBF), (0xFB00, 0xFB06), (0xFB13, 0xFB17)]

/-- The Cherokee letters in upper case, which stay when case is taken away. -/
def cherokeeUppercaseRanges : Ranges := [(0x13A0, 0x13F5)]

def foldedRanges : Ranges := (loweredRanges.diff cherokeeUppercaseRanges).union foldedOnlyRanges

/-! ### All properties -/

def caseProperties : List NamedRanges :=
  [⟨["upper", "uppercase"], uppercaseRanges⟩,
   ⟨["oupper", "otheruppercase"], otherUppercaseRanges⟩,
   ⟨["lower", "lowercase"], lowercaseRanges⟩,
   ⟨["olower", "otherlowercase"], otherLowercaseRanges⟩,
   ⟨["cased"], casedRanges⟩,
   ⟨["ci", "caseignorable"], caseIgnorableRanges⟩,
   ⟨["cwl", "changeswhenlowercased"], loweredRanges⟩,
   ⟨["cwu", "changeswhenuppercased"], raisedRanges⟩,
   ⟨["cwt", "changeswhentitlecased"], titledRanges⟩,
   ⟨["cwcf", "changeswhencasefolded"], foldedRanges⟩,
   ⟨["cwcm", "changeswhencasemapped"], raisedRanges.union loweredRanges⟩]

/-!
## Case folding

Two characters differ in case only if they fold to the same character. Folding goes by the mappings
of one character to one character, first to upper and then to lower case, with a few exceptions,
and leaves characters alone that are younger than version 16 of Unicode. `variants` goes back: it
lists all characters with the same folding.
-/

/-! ### The folding of a character -/

/-- The image of a character, if it is a single character, and the character itself otherwise. -/
def single (image : List Char) (c : Char) : Char :=
  match image with
  | [d] => d
  | _ => c

/-- The characters that fold to something else than the lower case of their upper case. The first
one folds to itself. -/
def foldExceptions : List (Nat × Nat) :=
  [(0x131, 0x131), (0x1FD3, 0x390), (0x1FE3, 0x3B0), (0xFB05, 0xFB06)]

def fold (c : Char) : Char :=
  if c.toNat < 0x80 then c.toLower
  else if isLetter16 c then  -- everything with a case is a letter
    match foldExceptions.lookup c.toNat with
    | some n => Char.ofNat n
    | none =>
      let raised := single (upper c) c
      single (lower raised) raised
  else c

/-!
### Characters with the same folding

A character with a given folding is found by going back from the folding: through lower case, then
through upper case. What is found in this way is only a candidate, since an exception may fold to
something else.
-/

/-- The code point of which the run makes `n`, if there is one. -/
def CaseRun.source? (run : CaseRun) (n : Nat) : Option Nat :=
  if run.image ≤ n && (run.image? (run.first + (n - run.image))).isSome then
    some (run.first + (n - run.image))
  else none

def sources (runs : List CaseRun) (c : Char) : List Char :=
  (runs.filterMap (·.source? c.toNat)).map Char.ofNat

/-- The characters that can have the folding `c`. -/
def candidates (c : Char) : List Char :=
  let raised := c :: c.toUpper :: sources lowerRuns c
  raised ++ raised.flatMap (sources upperRuns)
    ++ (foldExceptions.filter (·.2 == c.toNat)).map fun e => Char.ofNat e.1

/-- The characters that differ from `c` in case only, `c` among them. -/
def variants (c : Char) : List Char := c :: (candidates (fold c)).filter (fold · == fold c)

/-!
### Sets

Only the characters of a set that differ from others in case at all are looked at one by one.
-/

def CaseRun.imageCodes (run : CaseRun) : Ranges :=
  run.codes.map fun r => (r.1 - run.first + run.image, r.2 - run.first + run.image)

/-- Characters among which are all that differ from another one in case only. -/
def foldableRanges : Ranges :=
  .ofList <|
    (0x41, 0x5A) :: (0x61, 0x7A) :: foldExceptions.flatMap (fun e => [(e.1, e.1), (e.2, e.2)])
    ++ (upperRuns ++ lowerRuns).flatMap fun run => run.codes ++ run.imageCodes

def Ranges.chars (set : Ranges) : List Char :=
  set.flatMap fun r => (List.range (r.2 + 1 - r.1)).map fun i => Char.ofNat (r.1 + i)

/-- The characters of a set and those that differ from them in case only. -/
def Ranges.foldCase (set : Ranges) : Ranges :=
  set.union <| .ofList <| ((set.inter foldableRanges).chars.flatMap variants).flatMap Ranges.single

/-- The same for ASCII characters alone. -/
def Ranges.foldAsciiCase (set : Ranges) : Ranges :=
  .unions [set, (set.inter [(0x41, 0x5A)]).map fun r => (r.1 + 0x20, r.2 + 0x20),
    (set.inter [(0x61, 0x7A)]).map fun r => (r.1 - 0x20, r.2 - 0x20)]

end ModuleReadme.Text
