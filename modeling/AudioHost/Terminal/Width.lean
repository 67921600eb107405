import AudioHost.Terminal.Classes

/-!
How many columns of a terminal a text takes.

Most characters take one column. The wide ones of East Asian scripts and pictures take two, and
marks that go onto other characters take none. Some characters that stand together are shown as
one: pictures with joiners between them, flags, and letters that merge. So a text is measured from
its end, and what was met last is remembered while it may still change what stands before it.
-/

namespace AudioHost.Terminal

/-! ## What stands behind -/

/-- Letters that may merge with what stands before them. -/
inductive Merging where
  | hebrewLamed
  | bugineseYa
  /-- The letter with a vowel sign before it. -/
  | bugineseVowelYa
  | tifinaghConsonant
  /-- The letter with a joining sign before it. -/
  | tifinaghJoined
  | lisuTone
  | orkhonI
  | khmerLetter
deriving DecidableEq, Repr

/-- How many letters of flags stand at the end of joined pictures. -/
inductive FlagCount where
  | one
  | even
  | odd
deriving DecidableEq, Repr

/-- What begins behind a character, as far as it matters. -/
inductive Behind where
  | other
  | lineFeed
  | picture
  /-- A tone of skin. -/
  | tone
  | flagLetter
  | flagLetters
  /-- A joiner in front of a picture. -/
  | joiner
  /-- The frame of a key, and a joiner. -/
  | joinedKey
  | joinedFlag (count : FlagCount)
  /-- Tags that end a flag, and a joiner: some letters, and digits before them. -/
  | joinedTags (letters digits : Nat)
  /-- An Arabic letter that merges with another one before it. -/
  | alef
  | merging (m : Merging) (joined : Bool)
  /-- Vowel signs of Kirat Rai: one, or two of them. -/
  | vowelSign (double : Bool)
deriving DecidableEq, Repr

/-- A character that selects how the one before it is shown. -/
inductive Selector where
  | picture
  | letter
  /-- Quotation marks become wide ones. -/
  | wide
deriving DecidableEq, Repr

/-- What is remembered while a text is measured. -/
structure Context where
  behind : Behind
  selector : Option Selector
deriving DecidableEq, Repr

namespace Context

/-- Nothing that matters stands behind. -/
def empty : Context := ⟨.other, none⟩

/-- Something stands directly behind. -/
def after (b : Behind) : Context := ⟨b, none⟩

end Context

/-! ## Classes -/

/-- The character selects a picture or a letter before it. -/
def isSelectable (n : Nat) : Bool := isWithin selectableRanges n

/-- The picture may also be shown as a letter, in one column. -/
def isLetterToo (n : Nat) : Bool :=
  isSelectable n && isWithin pictureRanges n && !(0x1F200 ≤ n && n ≤ 0x1F2FF)

/-- A letter of a flag. -/
def isFlagLetter (n : Nat) : Bool := 0x1F1E6 ≤ n && n ≤ 0x1F1FF

/-- A tone of skin. -/
def isTone (n : Nat) : Bool := 0x1F3FB ≤ n && n ≤ 0x1F3FF

/-- The joiner of pictures and letters. -/
def joiner : Nat := 0x200D

/-- Signs that may stand between letters that merge. -/
def isIgnored (n : Nat) : Bool :=
  isWithin [(0x34F, 0x34F), (0x17B4, 0x17B5), (0x180B, 0x180D), (0x180F, 0x180F),
    (0x200D, 0x200D), (0xFE00, 0xFE0F), (0xE0100, 0xE01EF)] n

/-- Arabic letters that merge with an alef behind them. -/
def isLam (n : Nat) : Bool :=
  isWithin [(0x644, 0x644), (0x6B5, 0x6B8), (0x76A, 0x76A), (0x8A6, 0x8A6), (0x8C7, 0x8C7)] n

/-- Arabic letters of the shape of an alef. -/
def isAlef (n : Nat) : Bool :=
  isWithin [(0x622, 0x623), (0x625, 0x625), (0x627, 0x627), (0x671, 0x673), (0x675, 0x675),
    (0x773, 0x774), (0x870, 0x882)] n

/-- Consonants of Tifinagh. -/
def isTifinaghConsonant (n : Nat) : Bool := isWithin [(0x2D31, 0x2D65), (0x2D6F, 0x2D6F)] n

/-- Khmer letters that have a form below another letter. -/
def isKhmerLetter (n : Nat) : Bool :=
  isWithin [(0x1780, 0x1782), (0x1784, 0x1787), (0x1789, 0x178C), (0x178E, 0x1793),
    (0x1795, 0x1798), (0x179B, 0x179D), (0x17A0, 0x17A0), (0x17A2, 0x17A2), (0x17A7, 0x17A7),
    (0x17AB, 0x17AC), (0x17AF, 0x17AF)] n

/-- Quotation marks that have two widths. -/
def isQuotation (n : Nat) : Bool := isWithin [(0x2018, 0x2019), (0x201C, 0x201D)] n

/-! ## Single characters -/

/-- The columns of a character that stands alone. -/
def charWidth (c : Char) : Nat :=
  let n := c.toNat
  if n ≤ 0xA0 then 1
  else if isWithin markRanges n then 0
  else if n = 0x17D8 then 3
  else if isWithin wideRanges n then 2
  else 1

/-- What a character is for those before it. -/
def contextOf (n : Nat) : Context :=
  if n ≤ 0xA0 then if n = 10 then .after .lineFeed else .empty
  else if n = 0xFE0F then ⟨.other, some .picture⟩
  else if n = 0xFE0E then ⟨.other, some .letter⟩
  else if n = 0xFE01 then ⟨.other, some .wide⟩
  else if isTone n then .after .tone
  else if isFlagLetter n then .after .flagLetter
  else if isWithin pictureRanges n then .after .picture
  else if isAlef n then .after .alef
  else if n = 0x5DC then .after (.merging .hebrewLamed false)
  else if n = 0x1A10 then .after (.merging .bugineseYa false)
  else if isTifinaghConsonant n then .after (.merging .tifinaghConsonant false)
  else if n = 0xA4FC || n = 0xA4FD then .after (.merging .lisuTone false)
  else if n = 0x10C03 then .after (.merging .orkhonI false)
  else if isKhmerLetter n then .after (.merging .khmerLetter false)
  else if n = 0x16D67 then .after (.vowelSign false)
  else if n = 0x16D68 then .after (.vowelSign true)
  else .empty

/-! ## Selectors -/

/-- The context without its selector, before a character that the selector does not concern. -/
def Context.unselected (x : Context) : Context :=
  match x.selector, x.behind with
  | some .picture, .alef => .after .alef
  | some .picture, .merging m joined => .after (.merging m joined)
  | some .picture, _ => .empty
  | _, b => .after b

/-- The context with a selector before it. Letters that merge are not kept apart by it, and
pictures not by one for pictures. -/
def Context.select (x : Context) (s : Selector) : Context :=
  match x.behind, s with
  | .alef, _ => ⟨x.behind, some s⟩
  | .merging _ _, _ => ⟨x.behind, some s⟩
  | .joiner, .picture => ⟨x.behind, some s⟩
  | .joinedKey, .picture => ⟨x.behind, some s⟩
  | _, _ => ⟨.other, some s⟩

/-- What a selector makes of a character before it, if it concerns it. -/
def selected? (n : Nat) (x : Context) : Option (Int × Context) :=
  match x.selector with
  | some .picture =>
    if isSelectable n then
      let isJoined := x.behind == .joiner || x.behind == .joinedKey
      some (if isJoined then 0 else 2, .after .picture)
    else none
  | some .letter => if isLetterToo n then some (1, .empty) else none
  | some .wide => if isQuotation n then some (2, .empty) else none
  | none => none

/-! ## Characters that are shown as one -/

/-- A letter or sign before a letter that may merge with it. -/
def merged? (m : Merging) (joined : Bool) (n : Nat) : Option (Int × Context) :=
  if n = joiner then some (0, .after (.merging m true))
  else if isIgnored n then some (0, .after (.merging m joined))
  else match m, joined with
    | .hebrewLamed, true => if n = 0x5D0 then some (0, .empty) else none
    | .bugineseYa, true =>
      if n = 0x1A17 then some (0, .after (.merging .bugineseVowelYa true)) else none
    | .bugineseVowelYa, _ => if n = 0x1A15 then some (0, .empty) else none
    | .tifinaghConsonant, _ =>
      if n = 0x2D7F then some (1, .after (.merging .tifinaghJoined true))
      else if joined && isTifinaghConsonant n then some (0, .empty)
      else none
    | .tifinaghJoined, _ => if isTifinaghConsonant n then some (-1, .empty) else none
    | .lisuTone, _ => if 0xA4F8 ≤ n ∧ n ≤ 0xA4FB then some (0, .empty) else none
    | .orkhonI, true => if n = 0x10C32 then some (0, .empty) else none
    | .khmerLetter, _ => if n = 0x17D2 then some (-1, .empty) else none
    | _, _ => none

/-- A tag, or the flag that tags belong to, before tags at the end of joined pictures. A flag has
three to six letters, or three digits and up to four letters behind them. -/
def tagged? (letters digits n : Nat) : Option (Int × Context) :=
  if 0xE0061 ≤ n ∧ n ≤ 0xE007A then
    if digits = 0 ∧ letters < 6 then some (0, .after (.joinedTags (letters + 1) 0)) else none
  else if 0xE0030 ≤ n ∧ n ≤ 0xE0039 then
    if (digits = 0 ∧ letters < 5) ∨ (0 < digits ∧ digits < 3) then
      some (0, .after (.joinedTags letters (digits + 1)))
    else none
  else if n = 0x1F3F4 ∧ (digits = 3 ∨ (digits = 0 ∧ 3 ≤ letters)) then some (0, .after .picture)
  else none

/-- A character before a joiner and a picture. -/
def joined? (n : Nat) : Option (Int × Context) :=
  if n = 0x20E3 then some (0, .after .joinedKey)
  else if isFlagLetter n then some (1, .after (.joinedFlag .one))
  else if isTone n then some (0, .after .tone)
  else if n = 0xE007F then some (0, .after (.joinedTags 0 0))
  else if isWithin pictureRanges n then some (0, .after .picture)
  else none

/-- A letter of a flag before others at the end of joined pictures. Two letters are one flag. -/
def flagged? (count : FlagCount) (n : Nat) : Option (Int × Context) :=
  if !isFlagLetter n then none
  else match count with
    | .even => some (3, .after (.joinedFlag .odd))
    | _ => some (-1, .after (.joinedFlag .even))

/-- A character before a vowel sign of Kirat Rai, which may be a part of the same sign. -/
def vowelled? (double : Bool) (n : Nat) : Option (Int × Context) :=
  if n = 0x16D63 then some (0, .empty)
  else if double then none
  else if n = 0x16D67 then some (0, .after (.vowelSign true))
  else if n = 0x16D68 then some (1, .after (.vowelSign false))
  else if n = 0x16D69 then some (0, .empty)
  else none

/-- Pictures can be joined to what begins with this. -/
def isJoinable : Behind → Bool
  | .picture => true
  | .tone => true
  | .flagLetters => true
  | .joinedFlag .even => true
  | .joinedFlag .odd => true
  | _ => false

/-- What a character and those behind it are together, if they belong together. -/
def together? (n : Nat) (b : Behind) : Option (Int × Context) :=
  if n = joiner ∧ isJoinable b then some (0, .after .joiner)
  else match b with
    | .alef =>
      if isLam n then some (0, .empty)
      else if isWithin markRanges n && !isWithin stiffMarkRanges n then some (0, .after .alef)
      else none
    | .merging m joined => merged? m joined n
    | .tone => if isWithin tintedRanges n then some (0, .after .picture) else none
    | .flagLetter => if isFlagLetter n then some (1, .after .flagLetters) else none
    | .flagLetters => if isFlagLetter n then some (1, .after .flagLetters) else none
    | .joiner => joined? n
    | .joinedFlag count => flagged? count n
    | .joinedTags letters digits => tagged? letters digits n
    | .vowelSign double => vowelled? double n
    | _ => none

/-! ## Texts -/

/-- The columns that a character adds to those behind it, and what it is for those before it. -/
def step (c : Char) (x : Context) : Int × Context :=
  let n := c.toNat
  let alone : Int × Context := (charWidth c, contextOf n)
  let rest := x.unselected
  match selected? n x with
  | some r => r
  | none =>
    if n ≤ 0xA0 then if n = 13 ∧ rest.behind = .lineFeed then (0, .empty) else alone
    else if n = 0xFE0F then (0, rest.select .picture)
    else if n = 0xFE0E then (0, rest.select .letter)
    else (together? n rest.behind).getD alone

/-- The columns of a text. -/
def width (cs : List Char) : Nat :=
  (cs.foldr (fun c (total, x) => let (columns, x) := step c x; (total + columns, x))
    ((0 : Int), Context.empty)).1.toNat

end AudioHost.Terminal
