import QueryShell.Text.Width.Table

/-!
# Display width

How many columns of a terminal a text takes. Most characters take a number of
columns of their own, two if they are wide, none if they join another or are not
shown at all, and one otherwise, and the width of a text is the sum. In some
places it is less or more than that: pictures that are joined to one take the
room of one, a selector turns a sign into a picture or back, and some scripts
write two letters in one. What a character takes then depends on what follows
it, so a text is measured from its end: `step` reads one character against a
`Following`, the part of the text after it that matters.

`lineWidth` is the width of a text as it is shown. `charColumns` is what one
character takes where lines are broken, which happens between any two
characters.
-/

namespace QueryShell.Text

/-- Letters that may become one with a letter before them; `joined` says that a
joiner stands between. -/
inductive LigaturePart where
  /-- The Hebrew letter that joins an alef. -/
  | lamed (joined : Bool)
  /-- The Buginese letter that joins a vowel sign. -/
  | ya (joined : Bool)
  /-- The Buginese letter with its vowel sign. -/
  | vowelYa
  | tifinagh (joined : Bool)
  /-- A Tifinagh letter after the sign that joins consonants. -/
  | tifinaghSign
  | lisuTone
  /-- The Old Turkic letter that joins another. -/
  | orkhon (joined : Bool)
  /-- A Khmer letter that is written below the one before it. -/
  | khmer
deriving DecidableEq, Repr

/-- What the character after the current one is to it. -/
inductive Neighbour where
  | plain
  | lineBreak
  | skinTone
  /-- The letter that may end a flag. -/
  | flagLetter
  | flagLetters
  | picture
  /-- A joiner before a picture. -/
  | joiner
  /-- The sign of a key before a joiner. -/
  | keycap
  /-- One letter of a flag before a joiner. -/
  | joinedLetter
  /-- More letters of flags before a joiner, an even number of them or an odd
  one. -/
  | joinedLetters (even : Bool)
  /-- The end of a flag's tag and the letters of the tag before it. -/
  | tagLetters (count : Nat)
  /-- The digits before the letters of a tag. -/
  | tagDigits (count : Nat)
  /-- The Kirat Rai vowel sign E. -/
  | vowelE
  /-- The Kirat Rai vowel sign AI. -/
  | vowelAI
  /-- An Arabic alef, which a lam before it takes in. -/
  | alef
  | ligature (part : LigaturePart)
deriving DecidableEq, Repr

/-- What follows the current character: a neighbour, and the selectors before
that one. -/
structure Following where
  neighbour : Neighbour
  /-- The selector of the picture form (U+FE0F). -/
  picture : Bool
  /-- The selector of the text form (U+FE0E). -/
  text : Bool
  /-- The selector of the fullwidth form (U+FE01). -/
  full : Bool
deriving DecidableEq, Repr

namespace Neighbour

def following (n : Neighbour) : Following := ⟨n, false, false, false⟩

/-- Whether selectors do not hide what follows them. -/
def keepsSelectors : Neighbour → Bool
  | alef | ligature _ => true
  | _ => false

/-- Whether the picture form before it is part of what follows. -/
def joinsPicture : Neighbour → Bool
  | joiner | keycap => true
  | _ => false

end Neighbour

namespace LigaturePart

/-- The part with a joiner before it. -/
def join : LigaturePart → LigaturePart
  | lamed _ => lamed true
  | ya _ => ya true
  | tifinagh _ => tifinagh true
  | orkhon _ => orkhon true
  | p => p

end LigaturePart

/-! ## Classes of characters -/

def isBetween (first last : Nat) (c : Char) : Bool :=
  first ≤ c.toNat && c.toNat ≤ last

def isJoiner (c : Char) : Bool := c.toNat == 0x200D

def isFlagLetter (c : Char) : Bool := isBetween 0x1F1E6 0x1F1FF c

def isSkinTone (c : Char) : Bool := isBetween 0x1F3FB 0x1F3FF c

def isTagLetter (c : Char) : Bool := isBetween 0xE0061 0xE007A c

def isTagDigit (c : Char) : Bool := isBetween 0xE0030 0xE0039 c

def isTifinagh (c : Char) : Bool := isBetween 0x2D31 0x2D65 c || c.toNat == 0x2D6F

/-- The Khmer letters that may be written below another. -/
def isKhmerLetter (c : Char) : Bool :=
  inSomeRange
    [(0x1780, 0x1782), (0x1784, 0x1787), (0x1789, 0x178C), (0x178E, 0x1793), (0x1795, 0x1798),
      (0x179B, 0x179D), (0x17A0, 0x17A0), (0x17A2, 0x17A2), (0x17A7, 0x17A7), (0x17AB, 0x17AC),
      (0x17AF, 0x17AF)] c

/-- The Arabic letters of the form of an alef. -/
def isAlef (c : Char) : Bool :=
  inSomeRange
    [(0x622, 0x623), (0x625, 0x625), (0x627, 0x627), (0x671, 0x673), (0x675, 0x675),
      (0x773, 0x774), (0x870, 0x882)] c

/-- The Arabic letters of the form of a lam. -/
def isLam (c : Char) : Bool :=
  inSomeRange
    [(0x644, 0x644), (0x6B5, 0x6B8), (0x76A, 0x76A), (0x8A6, 0x8A6), (0x8C7, 0x8C7)] c

/-- The quotation marks with a fullwidth form. -/
def isCurlyQuote (c : Char) : Bool :=
  inSomeRange [(0x2018, 0x2019), (0x201C, 0x201D)] c

/-- Characters that take no column of their own. -/
def isZeroWidth (c : Char) : Bool :=
  (isExtend c && !isSoundMark c && c.toNat != 0x2D7F) || inSomeRange hiddenRanges c

/-- Marks between two Arabic letters that do not keep them from joining. -/
def isTransparent (c : Char) : Bool :=
  isZeroWidth c && !inSomeRange opaqueRanges c

/-- Marks within a ligature that are not shown. -/
def isSkipped (c : Char) : Bool :=
  inSomeRange
    [(0x34F, 0x34F), (0x17B4, 0x17B5), (0x180B, 0x180D), (0x180F, 0x180F), (0xFE00, 0xFE0F),
      (0xE0100, 0xE01EF)] c

/-- Characters with a picture form. -/
def hasPictureForm (c : Char) : Bool :=
  inSomeRange selectableRanges c

/-- Pictures with a text form that is narrower. -/
def hasNarrowTextForm (c : Char) : Bool :=
  !isBetween 0x1F200 0x1F2FF c && inSomeRange emojiRanges c && hasPictureForm c

/-! ## One character -/

/-- The columns of a character that stands alone, and what it is to the
character before it. -/
def alone (c : Char) : Nat × Following :=
  let n := c.toNat
  if n = 0x5DC then (1, (Neighbour.ligature (.lamed false)).following)
  else if isAlef c then (1, Neighbour.alef.following)
  else if isKhmerLetter c then (1, (Neighbour.ligature .khmer).following)
  else if n = 0x17D8 then (3, Neighbour.plain.following)
  else if n = 0x1A10 then (1, (Neighbour.ligature (.ya false)).following)
  else if isTifinagh c then (1, (Neighbour.ligature (.tifinagh false)).following)
  else if isBetween 0xA4FC 0xA4FD c then (1, (Neighbour.ligature .lisuTone).following)
  else if n = 0x10C03 then (1, (Neighbour.ligature (.orkhon false)).following)
  else if n = 0x16D67 then (1, Neighbour.vowelE.following)
  else if n = 0x16D68 then (1, Neighbour.vowelAI.following)
  else if isFlagLetter c then (1, Neighbour.flagLetter.following)
  else if isSkinTone c then (2, Neighbour.skinTone.following)
  else if inSomeRange emojiRanges c then (2, Neighbour.picture.following)
  else if isZeroWidth c then (0, Neighbour.plain.following)
  else if inSomeRange wideRanges c then (2, Neighbour.plain.following)
  else (1, Neighbour.plain.following)

/-- What a selector makes of what follows it. -/
def select? (f : Following) (c : Char) : Option Following :=
  let kept (keep : Bool) : Following := if keep then f else Neighbour.plain.following
  if c.toNat = 0xFE01 then
    some { kept f.neighbour.keepsSelectors with full := true }
  else if c.toNat = 0xFE0E then
    some { kept f.neighbour.keepsSelectors with text := true }
  else if c.toNat = 0xFE0F then
    some { kept (f.neighbour.keepsSelectors || f.neighbour.joinsPicture) with picture := true }
  else none

/-- What a character adds to the width if it becomes one with a part of a
ligature. -/
def ligate? (p : LigaturePart) (c : Char) : Option (Int × Neighbour) :=
  match p with
  | .lamed true => if c.toNat = 0x5D0 then some (0, .plain) else none
  | .ya true => if c.toNat = 0x1A17 then some (0, .ligature .vowelYa) else none
  | .vowelYa => if c.toNat = 0x1A15 then some (0, .plain) else none
  | .tifinagh joined =>
    if c.toNat = 0x2D7F then some (1, .ligature .tifinaghSign)
    else if joined && isTifinagh c then some (0, .plain)
    else none
  | .tifinaghSign => if isTifinagh c then some (-1, .plain) else none
  | .lisuTone => if isBetween 0xA4F8 0xA4FB c then some (0, .plain) else none
  | .orkhon true => if c.toNat = 0x10C32 then some (0, .plain) else none
  | .khmer => if c.toNat = 0x17D2 then some (-1, .plain) else none
  | _ => none

/-- What a character adds to the width if it becomes one with its neighbour. -/
def combine? (n : Neighbour) (c : Char) : Option (Int × Neighbour) :=
  match n with
  | .alef =>
    if isLam c then some (0, .plain) else if isTransparent c then some (0, .alef) else none
  | .ligature p => ligate? p c
  | .skinTone =>
    if inSomeRange modifiableRanges c then some (0, .picture)
    else if isJoiner c then some (0, .joiner)
    else none
  | .flagLetter => if isFlagLetter c then some (1, .flagLetters) else none
  | .flagLetters =>
    if isFlagLetter c then some (1, .flagLetters)
    else if isJoiner c then some (0, .joiner)
    else none
  | .picture => if isJoiner c then some (0, .joiner) else none
  | .joiner =>
    if c.toNat = 0x20E3 then some (0, .keycap)
    else if isFlagLetter c then some (1, .joinedLetter)
    else if isSkinTone c then some (0, .skinTone)
    else if c.toNat = 0xE007F then some (0, .tagLetters 0)
    else if inSomeRange emojiRanges c then some (0, .picture)
    else none
  | .joinedLetter => if isFlagLetter c then some (-1, .joinedLetters true) else none
  | .joinedLetters even =>
    if isFlagLetter c then some (if even then 3 else -1, .joinedLetters (!even))
    else if isJoiner c then some (0, .joiner)
    else none
  | .tagLetters k =>
    if isTagLetter c && k < 6 then some (0, .tagLetters (k + 1))
    else if isTagDigit c && k < 5 then some (0, .tagDigits 1)
    else if c.toNat = 0x1F3F4 && 3 ≤ k then some (0, .picture)
    else none
  | .tagDigits k =>
    if isTagDigit c && k < 3 then some (0, .tagDigits (k + 1))
    else if c.toNat = 0x1F3F4 && k = 3 then some (0, .picture)
    else none
  | .vowelE =>
    if c.toNat = 0x16D63 || c.toNat = 0x16D69 then some (0, .plain)
    else if c.toNat = 0x16D67 then some (0, .vowelAI)
    else if c.toNat = 0x16D68 then some (1, .vowelE)
    else none
  | .vowelAI => if c.toNat = 0x16D63 then some (0, .plain) else none
  | .plain | .lineBreak | .keycap => none

/-- What a character adds to the width if no selector stands between it and its
neighbour. -/
def stepPlain (f : Following) (c : Char) : Int × Following :=
  let outside : Int × Following :=
    match if f = f.neighbour.following then combine? f.neighbour c else none with
    | some (w, n) => (w, n.following)
    | none => ((alone c).1, (alone c).2)
  match f.neighbour with
  | .ligature p =>
    if isJoiner c then (0, { f with neighbour := .ligature p.join })
    else if isSkipped c then (0, f)
    else outside
  | _ => outside

/-- What a character adds to the width if no selector of the picture form
follows it. -/
def stepText (f : Following) (c : Char) : Int × Following :=
  if c.toNat ≤ 0xA0 then
    if c = '\n' then (1, Neighbour.lineBreak.following)
    else if c = '\r' && f = Neighbour.lineBreak.following then (0, Neighbour.plain.following)
    else (1, Neighbour.plain.following)
  else
    match select? f c with
    | some g => (0, g)
    | none =>
      if f.text then
        if hasNarrowTextForm c then (1, Neighbour.plain.following)
        else stepPlain { f with text := false } c
      else if f.full && isCurlyQuote c then (2, Neighbour.plain.following)
      else stepPlain { f with full := false } c

/-- What a character adds to the width of what follows it, and what the two
together are to the character before them. -/
def step (f : Following) (c : Char) : Int × Following :=
  if f.picture then
    if hasPictureForm c then
      (if f.neighbour.joinsPicture then 0 else 2, Neighbour.picture.following)
    else if f.neighbour.keepsSelectors then stepText { f with picture := false } c
    else stepText Neighbour.plain.following c
  else stepText f c

/-- The columns of a text that is shown on one line. -/
def lineWidth (cs : List Char) : Nat :=
  let start : Int × Following := (0, Neighbour.plain.following)
  (cs.foldr (fun c s => (s.1 + (step s.2 c).1, (step s.2 c).2)) start).1.toNat

/-- The columns that a character fills where lines are broken: one at least. -/
def charColumns (c : Char) : Nat :=
  max 1 (alone c).1

end QueryShell.Text
