import ModuleReadme.Text.Property
import ModuleReadme.Text.Script

/-!
# Bounds in text

The classes of characters by which text is cut into what a reader takes for one character, into
words and into sentences, by version 16 of Unicode.
-/

namespace ModuleReadme.Text

/-!
### What a reader takes for one character

Marks go with the character in front of them, and the parts of a Hangul syllable go together. The
classes follow one another in the tables; what a class has is taken away from the next one.
-/

/-- The characters that go together with the one behind them. -/
def prependRanges : Ranges :=
  [(0x600, 0x605), (0x6DD, 0x6DD), (0x70F, 0x70F), (0x890, 0x891), (0x8E2, 0x8E2), (0xD4E, 0xD4E),
   (0x110BD, 0x110BD), (0x110CD, 0x110CD), (0x111C2, 0x111C3), (0x113D1, 0x113D1),
   (0x1193F, 0x1193F), (0x11941, 0x11941), (0x11A3A, 0x11A3A), (0x11A84, 0x11A89),
   (0x11D46, 0x11D46), (0x11F02, 0x11F02)]

/-- The spacing marks that go without the character in front. -/
def nonspacingVowelRanges : Ranges :=
  [(0x102B, 0x102C), (0x1038, 0x1038), (0x1062, 0x1064), (0x1067, 0x106D), (0x1083, 0x1083),
   (0x1087, 0x108C), (0x108F, 0x108F), (0x109A, 0x109C), (0x1A61, 0x1A61), (0x1A63, 0x1A64),
   (0xAA7B, 0xAA7B), (0xAA7D, 0xAA7D), (0x11720, 0x11721)]

/-- The joiner, and its counterpart that keeps characters apart. -/
def joinerRanges : Ranges := [(0x200C, 0x200D)]

def lineEndRanges : Ranges := [(0xA, 0xA), (0xD, 0xD)]

/-- The characters that stand between others and show nothing. -/
def graphemeControlRanges : Ranges :=
  ((Ranges.unions [controlRanges, formatRanges, lineSeparatorRanges, paragraphSeparatorRanges,
    ignorableRanges.inter unassignedRanges]).diff
      (.unions [lineEndRanges, joinerRanges, prependRanges])).diff graphemeExtendRanges

def graphemeMarkRanges : Ranges :=
  ((Ranges.unions [spacingMarkRanges, [(0xE33, 0xE33), (0xEB3, 0xEB3)]]).diff
    graphemeExtendRanges).diff nonspacingVowelRanges

def leadingLetterRanges : Ranges := [(0x1100, 0x115F), (0xA960, 0xA97C)]

def vowelLetterRanges : Ranges :=
  [(0x1160, 0x11A7), (0xD7B0, 0xD7C6), (0x16D63, 0x16D63), (0x16D67, 0x16D6A)]

def trailingLetterRanges : Ranges := [(0x11A8, 0x11FF), (0xD7CB, 0xD7FB)]

/-- The Hangul syllables that end in a vowel: every 28th. -/
def openSyllableRanges : Ranges :=
  (List.range 399).map fun i => (0xAC00 + i * 28, 0xAC00 + i * 28)

def closedSyllableRanges : Ranges := Ranges.diff [(0xAC00, 0xD7A3)] openSyllableRanges

def graphemeBreaks : List NamedRanges :=
  [⟨["cn", "control"], graphemeControlRanges⟩,
   ⟨["cr"], [(0xD, 0xD)]⟩,
   ⟨["lf"], [(0xA, 0xA)]⟩,
   ⟨["ex", "extend"], graphemeExtendRanges.union emojiModifierRanges⟩,
   ⟨["l"], leadingLetterRanges⟩,
   ⟨["v"], vowelLetterRanges⟩,
   ⟨["t"], trailingLetterRanges⟩,
   ⟨["lv"], openSyllableRanges⟩,
   ⟨["lvt"], closedSyllableRanges⟩,
   ⟨["pp", "prepend"], prependRanges⟩,
   ⟨["ri", "regionalindicator"], regionalIndicatorRanges⟩,
   ⟨["sm", "spacingmark"], graphemeMarkRanges⟩,
   ⟨["zwj"], [(0x200D, 0x200D)]⟩]

/-!
### Words

The bounds of words hang on the kinds of letters, digits and marks around a place.
-/

def continuingRanges : Ranges := graphemeExtendRanges.union spacingMarkRanges

/-- The format characters that words are read past. -/
def wordFormatRanges : Ranges :=
  (formatRanges.diff (.unions [joinerRanges, prependedMarkRanges])).diff graphemeExtendRanges

def katakanaSignRanges : Ranges :=
  [(0x3031, 0x3035), (0x309B, 0x309C), (0x30A0, 0x30A0), (0x30FC, 0x30FC), (0xFF70, 0xFF70)]

def katakanaRanges : Ranges := ((named? scripts "kana").getD []).union katakanaSignRanges

def hebrewLetterRanges : Ranges := ((named? scripts "hebr").getD []).inter otherLetterRanges

/-- The characters that are letters for the bounds of words alone. -/
def wordLetterRanges : Ranges :=
  [(0x2C2, 0x2C5), (0x2D2, 0x2D7), (0x2DE, 0x2DF), (0x2E5, 0x2EB), (0x2ED, 0x2ED), (0x2EF, 0x2FF),
   (0x55A, 0x55C), (0x55E, 0x55E), (0x58A, 0x58A), (0x5F3, 0x5F3), (0x70F, 0x70F),
   (0xA708, 0xA716), (0xA720, 0xA721), (0xA789, 0xA78A), (0xAB5B, 0xAB5B)]

/-- The characters of the scripts of South East Asia, in which words are not kept apart. -/
def unspacedRanges : Ranges :=
  [(0xE01, 0xE3A), (0xE40, 0xE4E), (0xE81, 0xE82), (0xE84, 0xE84), (0xE86, 0xE8A), (0xE8C, 0xEA3),
   (0xEA5, 0xEA5), (0xEA7, 0xEBD), (0xEC0, 0xEC4), (0xEC6, 0xEC6), (0xEC8, 0xECE), (0xEDC, 0xEDF),
   (0x1000, 0x103F), (0x1050, 0x108F), (0x109A, 0x109F), (0x1780, 0x17D3), (0x17D7, 0x17D7),
   (0x17DC, 0x17DD), (0x1950, 0x196D), (0x1970, 0x1974), (0x1980, 0x19AB), (0x19B0, 0x19C9),
   (0x19DA, 0x19DA), (0x19DE, 0x19DF), (0x1A20, 0x1A5E), (0x1A60, 0x1A7C), (0x1AA0, 0x1AAD),
   (0xA9E0, 0xA9EF), (0xA9FA, 0xA9FE), (0xAA60, 0xAAC2), (0xAADB, 0xAADF), (0x11700, 0x1171A),
   (0x1171D, 0x1172B), (0x1173A, 0x1173B), (0x1173F, 0x11746)]

/-- The characters of words whose bounds the letters around them tell. -/
def alphabeticWordRanges : Ranges :=
  (alphabeticRanges.union wordLetterRanges).diff
    (.unions [ideographicRanges, katakanaRanges, unspacedRanges,
      (named? scripts "hira").getD [], continuingRanges, hebrewLetterRanges])

def midNumberRanges : Ranges :=
  [(0x2C, 0x2C), (0x3B, 0x3B), (0x37E, 0x37E), (0x589, 0x589), (0x60C, 0x60D), (0x66C, 0x66C),
   (0x7F8, 0x7F8), (0x2044, 0x2044), (0xFE10, 0xFE10), (0xFE14, 0xFE14), (0xFE50, 0xFE50),
   (0xFE54, 0xFE54), (0xFF0C, 0xFF0C), (0xFF1B, 0xFF1B)]

def numericRanges : Ranges :=
  .unions [decimalNumberRanges, [(0x66B, 0x66B)], prependedMarkRanges.diff [(0x70F, 0x70F)]]

def wordBlankRanges : Ranges :=
  [(0x20, 0x20), (0x1680, 0x1680), (0x2000, 0x2006), (0x2008, 0x200A), (0x205F, 0x205F),
   (0x3000, 0x3000)]

def wordBreaks : List NamedRanges :=
  [⟨["cr"], [(0xD, 0xD)]⟩,
   ⟨["lf"], [(0xA, 0xA)]⟩,
   ⟨["nl", "newline"], [(0xB, 0xC), (0x85, 0x85), (0x2028, 0x2029)]⟩,
   ⟨["extend"], (continuingRanges.union emojiModifierRanges).diff [(0x200D, 0x200D)]⟩,
   ⟨["fo", "format"], wordFormatRanges.diff [(0x200B, 0x200B)]⟩,
   ⟨["zwj"], [(0x200D, 0x200D)]⟩,
   ⟨["ri", "regionalindicator"], regionalIndicatorRanges⟩,
   ⟨["ka", "katakana"], katakanaRanges⟩,
   ⟨["hl", "hebrewletter"], hebrewLetterRanges⟩,
   ⟨["le", "aletter"], alphabeticWordRanges⟩,
   ⟨["sq", "singlequote"], [(0x27, 0x27)]⟩,
   ⟨["dq", "doublequote"], [(0x22, 0x22)]⟩,
   ⟨["mb", "midnumlet"], [(0x2E, 0x2E), (0x2018, 0x2019), (0x2024, 0x2024), (0xFE52, 0xFE52),
     (0xFF07, 0xFF07), (0xFF0E, 0xFF0E)]⟩,
   ⟨["ml", "midletter"], [(0x3A, 0x3A), (0xB7, 0xB7), (0x387, 0x387), (0x55F, 0x55F),
     (0x5F4, 0x5F4), (0x2027, 0x2027), (0xFE13, 0xFE13), (0xFE55, 0xFE55), (0xFF1A, 0xFF1A)]⟩,
   ⟨["mn", "midnum"], midNumberRanges⟩,
   ⟨["nu", "numeric"], numericRanges⟩,
   ⟨["ex", "extendnumlet"], connectorPunctuationRanges.union [(0x202F, 0x202F)]⟩,
   ⟨["wsegspace"], wordBlankRanges⟩]

/-!
### Sentences

A sentence ends behind a mark for its end and the closing marks and blanks after it, unless a letter
in lower case shows that it goes on.
-/

/-- The Georgian letters that are neither upper nor lower case where sentences end. -/
def georgianRanges : Ranges :=
  [(0x10D0, 0x10FA), (0x10FD, 0x10FF), (0x1C90, 0x1CBA), (0x1CBD, 0x1CBF)]

def sentenceLowerRanges : Ranges := lowercaseRanges.diff (graphemeExtendRanges.union georgianRanges)

def sentenceUpperRanges : Ranges :=
  (uppercaseRanges.union titlecaseLetterRanges).diff georgianRanges

def sentenceLetterRanges : Ranges :=
  (alphabeticRanges.union [(0x5F3, 0x5F3), (0x70F, 0x70F)]).diff
    (.unions [sentenceLowerRanges, sentenceUpperRanges, continuingRanges])

/-- The full stops, which do not always end a sentence. -/
def fullStopRanges : Ranges :=
  [(0x2E, 0x2E), (0x2024, 0x2024), (0xFE52, 0xFE52), (0xFF0E, 0xFF0E)]

def sentenceEndRanges : Ranges := sentenceTerminalRanges.diff fullStopRanges

/-- The punctuation behind which a sentence goes on. -/
def sentenceContinueRanges : Ranges :=
  [(0x2C, 0x2D), (0x3A, 0x3B), (0x37E, 0x37E), (0x55D, 0x55D), (0x60C, 0x60D), (0x7F8, 0x7F8),
   (0x1802, 0x1802), (0x1808, 0x1808), (0x2013, 0x2014), (0x3001, 0x3001), (0xFE10, 0xFE11),
   (0xFE13, 0xFE14), (0xFE31, 0xFE32), (0xFE50, 0xFE51), (0xFE54, 0xFE55), (0xFE58, 0xFE58),
   (0xFE63, 0xFE63), (0xFF0C, 0xFF0D), (0xFF1A, 0xFF1B), (0xFF64, 0xFF64)]

/-- The quotation marks that neither open nor close by their general category. -/
def straightQuoteRanges : Ranges :=
  [(0x22, 0x22), (0x27, 0x27), (0x275B, 0x2760), (0x2E00, 0x2E01), (0x2E06, 0x2E08),
   (0x2E0B, 0x2E0B), (0x1F676, 0x1F678)]

def sentenceCloseRanges : Ranges :=
  (Ranges.unions [openPunctuationRanges, closePunctuationRanges, initialPunctuationRanges,
    finalPunctuationRanges, straightQuoteRanges]).diff
      (.unions [[(0x5F3, 0x5F3)], fullStopRanges, sentenceEndRanges])

def sentenceBlankRanges : Ranges :=
  [(0x9, 0x9), (0xB, 0xC), (0x20, 0x20), (0xA0, 0xA0), (0x1680, 0x1680), (0x2000, 0x200A),
   (0x202F, 0x202F), (0x205F, 0x205F), (0x3000, 0x3000)]

def sentenceBreaks : List NamedRanges :=
  [⟨["cr"], [(0xD, 0xD)]⟩,
   ⟨["lf"], [(0xA, 0xA)]⟩,
   ⟨["se", "sep"], [(0x85, 0x85), (0x2028, 0x2029)]⟩,
   ⟨["ex", "extend"], continuingRanges.union [(0x200D, 0x200D)]⟩,
   ⟨["fo", "format"], wordFormatRanges⟩,
   ⟨["sp"], sentenceBlankRanges⟩,
   ⟨["lo", "lower"], sentenceLowerRanges⟩,
   ⟨["up", "upper"], sentenceUpperRanges⟩,
   ⟨["le", "oletter"], sentenceLetterRanges⟩,
   ⟨["nu", "numeric"], numericRanges.union [(0x66C, 0x66C)]⟩,
   ⟨["at", "aterm"], fullStopRanges⟩,
   ⟨["sc", "scontinue"], sentenceContinueRanges⟩,
   ⟨["st", "sterm"], sentenceEndRanges⟩,
   ⟨["cl", "close"], sentenceCloseRanges⟩]

end ModuleReadme.Text
