import LineMachine.Text.Decimal
import LineMachine.Text.Utf8

/-!
# Locales

A locale decides how an integer is written in a message, and nothing else: texts are the same in
every locale. The digits form groups, counted from the right: the first group has `first` digits
and the others have `others`. So the mark stands after each digit with `k` digits to its right where
`k` is `first` plus a multiple of `others`.

A locale is chosen by a tag, such as `de-CH`. How tags are read is a matter of its own (`Tags`), and
`ofTag` is one way to do so, for a few languages. It ignores letter case, and an underscore may stand
for a hyphen.
-/

namespace LineMachine

/-- How integers are written. -/
structure Locale where
  /-- The code point of the digit zero; the other digits follow it. -/
  zero : Nat := 0x30
  /-- What stands between two groups. -/
  mark : Text
  /-- The size of the last group. -/
  first : Nat := 3
  /-- The size of the groups before it. -/
  others : Nat := 3
  /-- What stands before the digits of a negative number. -/
  minus : Text := Text.ascii "-"
  deriving DecidableEq, Repr

namespace Locale

/-- A mark stands after a digit that has `k` digits to its right. -/
def marked (l : Locale) (k : Nat) : Bool := l.first ≤ k && (k - l.first) % l.others == 0

/-- The digits `ds`, each followed by a mark where a group ends. -/
def group (l : Locale) : List Nat → Text
  | [] => []
  | d :: ds =>
    Text.encodeScalar (l.zero + d) ++ (if l.marked ds.length && !ds.isEmpty then l.mark else []) ++
      l.group ds

/-- A natural number in groups. -/
def ofNat (l : Locale) (n : Nat) : Text :=
  l.group ((Text.ofNat n).map fun b => b.toNat - 48)

/-- An integer in groups. -/
def ofInt (l : Locale) : Int → Text
  | .ofNat n => l.ofNat n
  | .negSucc n => l.minus ++ l.ofNat (n + 1)

/-- The encoding of the no-break space. -/
def noBreakSpace : Text := [0xC2, 0xA0]

/-- The encoding of the Arabic thousands separator. -/
def arabicMark : Text := [0xD9, 0xAC]

/-- The encoding of the minus sign, which is not the hyphen. -/
def minusSign : Text := [0xE2, 0x88, 0x92]

/-- American English, the locale that holds until another one is chosen. -/
def english : Locale := { mark := Text.ascii "," }

/-- The languages, each with its locale. -/
def languages : List (Text × Locale) :=
  [(Text.ascii "en", english),
    (Text.ascii "de", { mark := Text.ascii "." }),
    (Text.ascii "es", { mark := Text.ascii "." }),
    (Text.ascii "fr", { mark := noBreakSpace }),
    (Text.ascii "sv", { mark := noBreakSpace, minus := minusSign }),
    (Text.ascii "hi", { mark := Text.ascii ",", others := 2 }),
    (Text.ascii "bn", { mark := Text.ascii ",", others := 2, zero := 0x9E6 }),
    (Text.ascii "ar", { mark := arabicMark, zero := 0x660, minus := [0xD8, 0x9C] ++ Text.ascii "-" }),
    (Text.ascii "fa", { mark := arabicMark, zero := 0x6F0, minus := [0xE2, 0x80, 0x8E] ++ minusSign })]

/-- The tags with a locale that is not the one of their language. -/
def regions : List (Text × Locale) :=
  [(Text.ascii "de-ch", { mark := [0xE2, 0x80, 0x99] })]

/-- Why a tag chooses no locale. -/
inductive TagError where
  | malformed
  | unknown (subtag : Text)
  deriving DecidableEq, Repr

/-- The wording of a tag error. -/
def TagError.message : TagError → Text
  | .malformed => Text.ascii "language: tag is not well-formed"
  | .unknown s => Text.ascii "language: subtag \"" ++ s ++ Text.ascii "\" is well-formed but unknown"

/-- How tags are read: the locale that a tag chooses, or why it chooses none. -/
abbrev Tags := Text → Except TagError Locale

/-- A letter of a tag in lower case, and an underscore as a hyphen. -/
def foldByte (b : UInt8) : UInt8 :=
  if Text.byte 'A' ≤ b && b ≤ Text.byte 'Z' then b + 32
  else if b = Text.byte '_' then Text.byte '-'
  else b

/-- A lower-case letter. -/
def isLetter (b : UInt8) : Bool := Text.byte 'a' ≤ b && b ≤ Text.byte 'z'

/-- A part of a tag has one to eight letters and digits. -/
def isSubtag (t : Text) : Bool :=
  1 ≤ t.length && t.length ≤ 8 && t.all fun b => isLetter b || Text.isDigit b

/-- The first part of a tag has two or three letters. -/
def isLanguage (t : Text) : Bool := 2 ≤ t.length && t.length ≤ 3 && t.all isLetter

/-- The locale that a tag of one of the languages chooses. -/
def ofTag (tag : Text) : Except TagError Locale :=
  let folded := tag.map foldByte
  let parts := Text.splitOn (Text.byte '-') folded
  let language := parts.headD []
  if !parts.all isSubtag || !isLanguage language then .error .malformed
  else match languages.lookup language with
    | none => .error (.unknown language)
    | some locale => .ok ((regions.lookup folded).getD locale)

end Locale

end LineMachine
