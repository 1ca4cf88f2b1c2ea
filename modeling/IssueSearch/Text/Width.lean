import IssueSearch.Text.Columns
import IssueSearch.Text.Emoji
import IssueSearch.Text.LetterCase

/-!
# The width of a text

The number of columns that a text takes up on a terminal.  Most characters have
a width of their own; some are drawn together with what follows them: an emoji
with its parts, a letter with the letters of its ligature, a carriage return with
a line feed.  So a text is measured from its end, and each character is placed
before what follows it.

* `Selector`, `Ligature`, `Follower`, `Following`: what may follow a character;
* `alone`: the width of a character before nothing of the kind;
* `combine?`, `place`: its width before what follows;
* `measure`, `width`: the width of a text;
* `width_printable`: a text of printable ASCII characters is as wide as it is
  long.
-/

namespace IssueSearch.Text

/-- A variation selector, which chooses how the character before it is drawn. -/
inductive Selector where
  /-- As an emoji. -/
  | emoji
  /-- As text. -/
  | text
  /-- As a full-width quotation mark. -/
  | fullWidth
  deriving Repr, DecidableEq

/-- The end of a ligature, which letters before it may complete. -/
inductive Ligature where
  | lamed
  | buginese
  | bugineseVowel
  | tifinagh
  | tifinaghJoiner
  | lisu
  | turkic
  | khmer
  deriving Repr, DecidableEq

/-- The characters after a place in a text, as far as the width of the
characters before it depends on them. -/
inductive Follower where
  | other
  | lineFeed
  /-- A skin tone. -/
  | skinTone
  /-- One letter of a flag. -/
  | flagLetter
  /-- Two or more letters of flags. -/
  | flagLetters
  | emoji
  /-- A joiner before an emoji, so that an emoji before it has no width of its
  own; the five that follow are such endings with more of the emoji in front. -/
  | joined
  /-- The frame of a keycap. -/
  | joinedKeycap
  /-- A single letter of a flag. -/
  | joinedFlag
  /-- Several letters of flags, an even number of them or not. -/
  | joinedFlags (even : Bool)
  /-- A sequence of tags that ends with some letters. -/
  | tagLetters (count : Nat)
  /-- A sequence of tags that ends with some digits before the letters. -/
  | tagDigits (count : Nat)
  /-- An Arabic letter that an `ل` before it is drawn into. -/
  | alef
  /-- The vowel sign `E` of Kirat Rai. -/
  | vowelE
  /-- The vowel sign `AI` of Kirat Rai. -/
  | vowelAi
  /-- The end of a ligature, with a joiner in front or not. -/
  | ligature (kind : Ligature) (joiner : Bool)
  deriving Repr, DecidableEq

/-- What follows a place in a text: a selector, if one comes first, and the
characters after it. -/
structure Following where
  selector : Option Selector := none
  follower : Follower := .other
  deriving Repr, DecidableEq

namespace Follower

/-- Whether letters before a selector still join what follows the selector. -/
def isLetter : Follower → Bool
  | alef | ligature .. => true
  | _ => false

/-- Whether an emoji before it belongs to a joined one. -/
def isJoined : Follower → Bool
  | joined | joinedKeycap => true
  | _ => false

/-- The characters from a selector on. -/
def select (follower : Follower) (selector : Selector) : Following :=
  if follower.isLetter || (selector = .emoji && follower.isJoined) then
    { selector := some selector, follower }
  else { selector := some selector }

end Follower

/-! ## Classes of characters -/

/-- The joiner of no width. -/
def zeroWidthJoiner : Char := '\u200d'

/-- The selectors of the standard that the width depends on. -/
def selector? (c : Char) : Option Selector :=
  if c = '\ufe0f' then some .emoji
  else if c = '\ufe0e' then some .text
  else if c = '\ufe01' then some .fullWidth
  else none

/-- The letters of flags. -/
def isFlagLetter (c : Char) : Bool :=
  0x1F1E6 ≤ c.toNat && c.toNat ≤ 0x1F1FF

/-- The skin tones. -/
def isSkinTone (c : Char) : Bool :=
  0x1F3FB ≤ c.toNat && c.toNat ≤ 0x1F3FF

/-- The tags that stand for `a` to `z`. -/
def isTagLetter (c : Char) : Bool :=
  0xE0061 ≤ c.toNat && c.toNat ≤ 0xE007A

/-- The tags that stand for `0` to `9`. -/
def isTagDigit (c : Char) : Bool :=
  0xE0030 ≤ c.toNat && c.toNat ≤ 0xE0039

/-- The quotation marks that a selector makes full-width. -/
def isCurlyQuote (c : Char) : Bool :=
  c = '‘' || c = '’' || c = '“' || c = '”'

/-- The emoji that a selector makes text of one column; ideographs in a frame
keep their two columns as text. -/
def isNarrowAsText (c : Char) : Bool :=
  inRuns selectableRuns c.toNat && inRuns emojiRuns c.toNat
    && !(0x1F200 ≤ c.toNat && c.toNat ≤ 0x1F2FF)

/-- The Arabic letters of the joining group of `ل`. -/
def isLam (c : Char) : Bool :=
  inRuns [(0x644, 0x644), (0x6B5, 0x6B8), (0x76A, 0x76A), (0x8A6, 0x8A6), (0x8C7, 0x8C7)] c.toNat

/-- The Arabic letters of the joining group of `ا`. -/
def isAlef (c : Char) : Bool :=
  inRuns [(0x622, 0x623), (0x625, 0x625), (0x627, 0x627), (0x671, 0x673), (0x675, 0x675),
    (0x773, 0x774), (0x870, 0x882)] c.toNat

/-- The letters of Khmer that have a form below another letter. -/
def isKhmerLetter (c : Char) : Bool :=
  inRuns [(0x1780, 0x1782), (0x1784, 0x1787), (0x1789, 0x178C), (0x178E, 0x1793),
    (0x1795, 0x1798), (0x179B, 0x179D), (0x17A0, 0x17A0), (0x17A2, 0x17A2), (0x17A7, 0x17A7),
    (0x17AB, 0x17AC), (0x17AF, 0x17AF)] c.toNat

/-- The consonants of Tifinagh. -/
def isTifinagh (c : Char) : Bool :=
  inRuns [(0x2D31, 0x2D65), (0x2D6F, 0x2D6F)] c.toNat

/-- The marks without a shape of their own, which do not part the letters of a
ligature. -/
def isInvisibleMark (c : Char) : Bool :=
  inRuns [(0x34F, 0x34F), (0x17B4, 0x17B5), (0x180B, 0x180D), (0x180F, 0x180F),
    (0x200D, 0x200D), (0xFE00, 0xFE0F), (0xE0100, 0xE01EF)] c.toNat

/-! ## Widths -/

/-- What a character is to the characters before it. -/
def Follower.ofChar (c : Char) : Follower :=
  if c = '\n' then .lineFeed
  else if c.toNat ≤ 0xA0 then .other
  else if c = 'ל' then .ligature .lamed false
  else if isAlef c then .alef
  else if isKhmerLetter c then .ligature .khmer false
  else if c = '\u1a10' then .ligature .buginese false
  else if isTifinagh c then .ligature .tifinagh false
  else if c = '\ua4fc' || c = '\ua4fd' then .ligature .lisu false
  else if c.toNat = 0x10C03 then .ligature .turkic false
  else if c.toNat = 0x16D67 then .vowelE
  else if c.toNat = 0x16D68 then .vowelAi
  else if isFlagLetter c then .flagLetter
  else if isSkinTone c then .skinTone
  else if inRuns emojiRuns c.toNat then .emoji
  else .other

/-- The number of columns of a character of its own. -/
def charWidth (c : Char) : Nat :=
  if c.toNat ≤ 0xA0 then 1
  else if c.toNat = 0x17D8 then 3
  else if inRuns markRuns c.toNat || inRuns hiddenRuns c.toNat then 0
  else if inRuns wideRuns c.toNat then 2
  else 1

/-- A character before nothing that it is drawn together with: its width, and
what follows the place in front of it. -/
def alone (c : Char) : Int × Following :=
  (charWidth c, { follower := .ofChar c })

/-- A character that is drawn together with what follows it: the columns that it
adds, and what follows the place in front of it.  A character may take back a
column of what follows. -/
def combine? (c : Char) : Follower → Option (Int × Follower)
  | .other => none
  | .lineFeed => if c = '\r' then some (0, .other) else none
  | .skinTone =>
      if inRuns skinRuns c.toNat then some (0, .emoji)
      else if c = zeroWidthJoiner then some (0, .joined)
      else none
  | .flagLetter => if isFlagLetter c then some (1, .flagLetters) else none
  | .flagLetters =>
      if isFlagLetter c then some (1, .flagLetters)
      else if c = zeroWidthJoiner then some (0, .joined)
      else none
  | .emoji => if c = zeroWidthJoiner then some (0, .joined) else none
  | .joined =>
      if c.toNat = 0x20E3 then some (0, .joinedKeycap)
      else if isFlagLetter c then some (1, .joinedFlag)
      else if isSkinTone c then some (0, .skinTone)
      else if c.toNat = 0xE007F then some (0, .tagLetters 0)
      else if inRuns emojiRuns c.toNat then some (0, .emoji)
      else none
  | .joinedKeycap => none
  -- two letters make a flag, which has no width of its own here
  | .joinedFlag => if isFlagLetter c then some (-1, .joinedFlags true) else none
  | .joinedFlags even =>
      if isFlagLetter c then
        some (if even then (3, .joinedFlags false) else (-1, .joinedFlags true))
      else if c = zeroWidthJoiner then some (0, .joined)
      else none
  | .tagLetters count =>
      if isTagLetter c && count < 6 then some (0, .tagLetters (count + 1))
      else if isTagDigit c && count ≤ 4 then some (0, .tagDigits 1)
      else if c.toNat = 0x1F3F4 && 3 ≤ count then some (0, .emoji)
      else none
  | .tagDigits count =>
      if isTagDigit c && count < 3 then some (0, .tagDigits (count + 1))
      else if c.toNat = 0x1F3F4 && count = 3 then some (0, .emoji)
      else none
  | .alef =>
      if isLam c then some (0, .other)
      else if inRuns markRuns c.toNat then some (0, .alef)
      else none
  | .vowelE =>
      if c.toNat = 0x16D63 || c.toNat = 0x16D69 then some (0, .other)
      else if c.toNat = 0x16D67 then some (0, .vowelAi)
      else if c.toNat = 0x16D68 then some (1, .vowelE)
      else none
  | .vowelAi => if c.toNat = 0x16D63 then some (0, .other) else none
  | .ligature kind joiner =>
      if c = zeroWidthJoiner then some (0, .ligature kind true)
      else if isInvisibleMark c then some (0, .ligature kind joiner)
      else match kind with
      | .lamed => if joiner && c = 'א' then some (0, .other) else none
      | .buginese =>
          if joiner && c = '\u1a17' then some (0, .ligature .bugineseVowel true) else none
      | .bugineseVowel => if c = '\u1a15' then some (0, .other) else none
      | .tifinagh =>
          if c = '\u2d7f' then some (1, .ligature .tifinaghJoiner true)
          else if joiner && isTifinagh c then some (0, .other)
          else none
      -- the column of the joiner is taken back
      | .tifinaghJoiner => if isTifinagh c then some (-1, .other) else none
      | .lisu =>
          if 0xA4F8 ≤ c.toNat && c.toNat ≤ 0xA4FB then some (0, .other) else none
      | .turkic => if joiner && c.toNat = 0x10C32 then some (0, .other) else none
      -- the letter is drawn below the one before the sign
      | .khmer => if c = '\u17d2' then some (-1, .other) else none

/-- A character that the selector after it applies to: the columns that it adds,
and what follows the place in front of it. -/
def selected? (c : Char) (following : Following) : Option (Int × Following) :=
  match following.selector with
  | some .emoji =>
      if inRuns selectableRuns c.toNat then
        some (if following.follower.isJoined then 0 else 2, { follower := .emoji })
      else none
  | some .text => if isNarrowAsText c then some (1, {}) else none
  | some .fullWidth => if isCurlyQuote c then some (2, {}) else none
  | none => none

/-- What follows a place, without a selector that does not apply to the
character before it. -/
def Following.unselected (following : Following) : Follower :=
  if following.selector.isNone || following.follower.isLetter then following.follower
  else .other

/-- A character before what follows it: the columns that it adds, and what
follows the place in front of it. -/
def place (c : Char) (following : Following) : Int × Following :=
  match selected? c following with
  | some placed => placed
  | none =>
    let follower := following.unselected
    match selector? c with
    | some selector => (0, follower.select selector)
    | none =>
      match combine? c follower with
      | some (columns, follower) => (columns, { follower })
      | none => alone c

/-- The number of columns of a text, and what it is to the characters before
it. -/
def measure (text : List Char) : Int × Following :=
  text.foldr
    (fun c (columns, following) =>
      let (added, following) := place c following
      (columns + added, following))
    (0, {})

/-- The number of columns of a text. -/
def width (text : String) : Nat :=
  (measure text.toList).1.toNat

/-! ## Laws -/

/-- A printable ASCII character takes up one column before another one. -/
theorem place_printable (c : Char) (h : 0x20 ≤ c.toNat ∧ c.toNat < 0x7F) :
    place c {} = (1, {}) := by
  have small : c.toNat ≤ 0xA0 := by omega
  have differs (d : Char) (hd : d.toNat < 0x20 ∨ 0x7F ≤ d.toNat) : c ≠ d := by
    rintro rfl
    omega
  have unselecting : selector? c = none := by
    simp [selector?, differs '\ufe0f' (by decide), differs '\ufe0e' (by decide),
      differs '\ufe01' (by decide)]
  simp [place, selected?, Following.unselected, unselecting, combine?, alone, charWidth,
    Follower.ofChar, small, differs '\n' (by decide)]

/-- A text of printable ASCII characters takes up one column for each of them. -/
theorem measure_printable (text : List Char)
    (h : ∀ c ∈ text, 0x20 ≤ c.toNat ∧ c.toNat < 0x7F) :
    measure text = ((text.length : Int), {}) := by
  induction text with
  | nil => rfl
  | cons c rest ih =>
    have rest_measure := ih fun d hd => h d (List.mem_cons_of_mem _ hd)
    rw [measure] at rest_measure ⊢
    simp [rest_measure, place_printable c (h c (by simp))]

/-- A text of printable ASCII characters is as wide as it is long. -/
theorem width_printable (text : String)
    (h : ∀ c ∈ text.toList, 0x20 ≤ c.toNat ∧ c.toNat < 0x7F) :
    width text = text.length := by
  simp [width, measure_printable text.toList h, String.length_toList]

end IssueSearch.Text
