import Schemata.Text.Unicode.Property
import Schemata.Text.Unicode.Script

/-!
# Break classes

The classes of characters by which a text is cut into signs, words and sentences.  The classes of
one sort are tried in order, and a character belongs to the first one that has it.

## Main definitions

* `Unicode.BreakClasses.chars?` : the characters of a class by its name.
* `Unicode.signBreak`, `Unicode.wordBreak`, `Unicode.sentenceBreak` : the three sorts of classes.
-/

namespace Schemata.Unicode

/-- Classes in the order in which they are tried, with their names in lower case. -/
structure BreakClasses where
  classes : List (List String × CharSet)

/-- The characters of the class with a name in lower case that are in no class before it. -/
def BreakClasses.chars? (rule : BreakClasses) (name : String) : Option CharSet :=
  let before := rule.classes.takeWhile fun entry => !entry.1.contains name
  (rule.classes.find? (·.1.contains name)).map fun entry =>
    entry.2.difference (.unions (before.map Prod.snd))

/-- The signs that stand before a number. -/
def numberSigns : CharSet :=
  prependedConcatenationMark.chars.difference (.ofCodes [0x70F])

/-- What belongs to the character before it. -/
def attached : CharSet :=
  .unions [graphemeExtend.chars, inCategories ["Mc"], .ofCodes [0x200D]]

/-- The characters that separate paragraphs, line feed and carriage return apart. -/
def separators : CharSet :=
  .ofCodes [0x85, 0x2028, 0x2029]

/-- The first syllables of the blocks of 28 that share a lead and a vowel. -/
def blockSyllables : CharSet :=
  .ofCodes ((List.range 399).map fun i => 0xAC00 + 28 * i)

/-- The scripts in which words are not parted letter by letter. -/
def unpartedScripts : CharSet :=
  .unions (["Ahom", "Hira", "Kana", "Khmr", "Lana", "Laoo", "Mymr", "Tale", "Talu", "Tavt",
    "Thai"].map inScript)

/-- The classes for breaks between signs. -/
def signBreak : BreakClasses where
  classes :=
    [ (["cr"], .ofCodes [0xD]),
      (["lf"], .ofCodes [0xA]),
      (["zwj"], .ofCodes [0x200D]),
      (["ex", "extend"], graphemeExtend.chars.union emojiModifier.chars),
      (["pp", "prepend"], .union prependedConcatenationMark.chars
        (.ofCodes [0xD4E, 0x111C2, 0x111C3, 0x113D1, 0x1193F, 0x11941, 0x11A3A, 0x11A84, 0x11A85,
          0x11A86, 0x11A87, 0x11A88, 0x11A89, 0x11D46, 0x11F02])),
      (["cn", "control"], .union (inCategories ["Cc", "Cf", "Zl", "Zp"])
        (defaultIgnorableCodePoint.chars.intersection (inCategories ["Cn"]))),
      (["sm", "spacingmark"], .symmetricDifference (inCategories ["Mc"])
        (.ofRuns [
          "3635 1 127 1 375 2 11 1 41 3 2 7 21 1 3 6 2 1 10 3 2500 1 1 2 36886 1 1 1 27810 2"])),
      (["l"], .ofRuns ["4352 96 38912 29"]),
      (["v"], .ofRuns ["4448 72 50696 23 38300 1 3 4"]),
      (["t"], .ofRuns ["4520 88 50635 49"]),
      (["lv"], blockSyllables),
      (["lvt"], .ofRuns ["44032 11172"]),
      (["ri", "regionalindicator"], regionalIndicator.chars)]

/-- The classes for breaks between words. -/
def wordBreak : BreakClasses where
  classes :=
    [ (["cr"], .ofCodes [0xD]),
      (["lf"], .ofCodes [0xA]),
      (["nl", "newline"], separators.union (.ofCodes [0xB, 0xC])),
      (["dq", "doublequote"], .ofCodes [0x22]),
      (["sq", "singlequote"], .ofCodes [0x27]),
      (["zwj"], .ofCodes [0x200D]),
      (["extend"], attached.union emojiModifier.chars),
      (["nu", "numeric"],
        .unions [inCategories ["Nd"], numberSigns, .ofCodes [0x66B, 0x19DA]]),
      (["fo", "format"], .difference (inCategories ["Cf"]) (.ofCodes [0x70F, 0x200B])),
      (["hl", "hebrewletter"], .intersection (inScript "Hebr") (inCategories ["Lo"])),
      (["ka", "katakana"], .union (inScript "Kana")
        (.ofCodes [0x3031, 0x3032, 0x3033, 0x3034, 0x3035, 0x309B, 0x309C, 0x30A0, 0x30FC,
          0xFF70])),
      (["wsegspace"], .difference (inCategories ["Zs"]) (.ofCodes [0xA0, 0x2007, 0x202F])),
      (["ex", "extendnumlet"], .union (inCategories ["Pc"]) (.ofCodes [0x202F])),
      (["mn", "midnum"], .ofCodes [0x2C, 0x3B, 0x37E, 0x589, 0x60C, 0x60D, 0x66C, 0x7F8, 0x2044,
        0xFE50, 0xFE54, 0xFF0C, 0xFF1B]),
      (["mb", "midnumlet"], .ofCodes [0x2E, 0x2018, 0x2019, 0x2024, 0xFE52, 0xFF07, 0xFF0E]),
      (["ml", "midletter"],
        .ofCodes [0x3A, 0xB7, 0x387, 0x55F, 0x5F4, 0x2027, 0xFE13, 0xFE55, 0xFF1A]),
      (["ri", "regionalindicator"], regionalIndicator.chars),
      (["le", "aletter"], .union
        (alphabetic.chars.difference (ideographic.chars.union unpartedScripts))
        (.ofRuns [
          "706 4 12 6 6 2 5 7 1 1 1 17 602 3 1 1 43 1 104 1 283 1 40952 15 9 2 103 2 976 1"]))]

/-- The classes for breaks between sentences. -/
def sentenceBreak : BreakClasses where
  classes :=
    [ (["cr"], .ofCodes [0xD]),
      (["lf"], .ofCodes [0xA]),
      (["ex", "extend"], attached),
      (["se", "sep"], separators),
      (["nu", "numeric"],
        .unions [inCategories ["Nd"], numberSigns, .ofCodes [0x66B, 0x66C, 0x19DA]]),
      (["fo", "format"], inCategories ["Cf"]),
      (["sp"], whiteSpace.chars),
      (["lo", "lower"], lowercase.chars.difference (.ofRuns ["4304 43 2 3"])),
      (["up", "upper"],
        .difference (.union uppercase.chars (inCategories ["Lt"])) (.ofRuns ["7312 43 2 3"])),
      (["le", "oletter"], alphabetic.chars.union (.ofCodes [0x5F3])),
      (["at", "aterm"], .ofCodes [0x2E, 0x2024, 0xFE52, 0xFF0E]),
      (["st", "sterm"], sentenceTerminal.chars),
      (["sc", "scontinue"], .ofCodes [0x2C, 0x2D, 0x3A, 0x3B, 0x37E, 0x55D, 0x60C, 0x60D, 0x7F8,
        0x1802, 0x1808, 0x2013, 0x2014, 0x3001, 0xFE10, 0xFE11, 0xFE13, 0xFE14, 0xFE31, 0xFE32,
        0xFE50, 0xFE51, 0xFE54, 0xFE55, 0xFE58, 0xFE63, 0xFF0C, 0xFF0D, 0xFF1A, 0xFF1B, 0xFF64]),
      (["cl", "close"], .union (inCategories ["Pe", "Pf", "Pi", "Ps"])
        (.ofRuns ["34 1 4 1 10035 6 1695 2 4 3 2 1 116842 3"]))]

end Schemata.Unicode
