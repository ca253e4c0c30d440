import LineMachine.Lesson.Token
import LineMachine.Text.Letter
import LineMachine.Text.Lines
import LineMachine.Text.Quoted

/-!
# Reading one token

`readToken` reads the token at the start of some characters: a name, a number, a string or a symbol.
A stray byte of the source counts as the replacement character, and all line breaks of the source are
read as line feeds.

A string may run over several lines if it has three quotes on each side. Within a string a backslash
stands before what is meant by another character, unless the string is raw.
-/

namespace LineMachine.Lesson

/-! ## Characters -/

/-- The code point of a character. -/
abbrev rune (c : Char) : Nat := c.toNat

/-- A step of `Text.scan` that reads a carriage return, with its line feed, as a line feed. -/
def returnStep (b : UInt8) (t : Text) : UInt8 × Nat :=
  match b, t with
  | 0x0D, 0x0A :: _ => (Text.newline, 1)
  | 0x0D, _ => (Text.newline, 0)
  | b, _ => (b, 0)

/-- The code points of a source, where each stray byte is the replacement character. -/
def runes (source : Text) : List Nat :=
  (Text.pieces (Text.scan returnStep source)).map fun
    | .scalar code _ => code
    | .stray _ => 0xFFFD

/-- The bytes of code points. -/
def ofRunes (rs : List Nat) : Text := (rs.map Text.encodeScalar).flatten

/-- A decimal digit. -/
def isDigitRune (r : Nat) : Bool := rune '0' ≤ r && r ≤ rune '9'

/-- The value of a digit in bases up to sixteen. -/
def digitValue (r : Nat) : Nat :=
  if isDigitRune r then r - rune '0'
  else if rune 'a' ≤ r && r ≤ rune 'f' then r - rune 'a' + 10
  else if rune 'A' ≤ r && r ≤ rune 'F' then r - rune 'A' + 10
  else 16

/-- A character that may start a name: a letter of any script or an underscore. -/
def isNameStart (r : Nat) : Bool :=
  if r < 0x80 then
    (rune 'a' ≤ r && r ≤ rune 'z') || (rune 'A' ≤ r && r ≤ rune 'Z') || r == rune '_'
  else Text.isLetter r

/-- A character that may stand in a name. Digits are those of ASCII. -/
def isNameRune (r : Nat) : Bool := isNameStart r || isDigitRune r

/-- A quote. -/
def isQuote (r : Nat) : Bool := r == rune '"' || r == rune '\''

/-- How many characters at the front have a property. -/
def spanLength (p : Nat → Bool) (rs : List Nat) : Nat := (rs.takeWhile p).length

/-! ## Literals -/

/-- What is read at the start of some characters: a token and the number of characters that it takes
up, or a fault, told at so many columns from there. -/
inductive Reading where
  | token (t : Token) (length : Nat)
  | fault (column : Nat) (message : Text)
  deriving DecidableEq, Repr

/-- The number that digits of a base denote. -/
def digitsValue (base : Nat) (rs : List Nat) : Nat :=
  rs.foldl (fun n r => base * n + digitValue r) 0

/-- Read the digits of a number that starts with a zero and a letter for its base. Only hexadecimal
numbers may have more than 63 bits. -/
def readBased (base : Nat) (column : Nat) (what : String) (rs : List Nat) : Reading :=
  let n := spanLength (fun r => digitValue r < base) rs
  let value := digitsValue base (rs.take n)
  if n = 0 then .fault column (Text.ascii ("invalid " ++ what ++ " literal"))
  else if base < 16 && 0x7FFFFFFFFFFFFFFF < value then .fault 0 (Text.ascii "invalid int literal")
  else .token (.int value) (n + 2)

/-- The floating number `coefficient * 10 ^ power`, which is written in `length` characters and has to
be finite. -/
def floatReading (coefficient : Nat) (power : Int) (length : Nat) : Reading :=
  let x := Binary64.ofDecimal coefficient power
  if x.isInfinite then .fault length (Text.ascii "invalid float literal")
  else .token (.float x) length

/-- Read the power of ten of a float whose coefficient has been read. -/
def readPower (coefficient : Nat) (places length : Nat) (rs : List Nat) : Reading :=
  match rs with
  | e :: rest =>
    if e == rune 'e' || e == rune 'E' then
      let signed := match rest with
        | s :: _ => s == rune '+' || s == rune '-'
        | [] => false
      let skip := if signed then 1 else 0
      let n := spanLength isDigitRune (rest.drop skip)
      let total := length + 1 + skip + n
      if n = 0 then .fault total (Text.ascii "invalid float literal")
      else
        let size : Int := digitsValue 10 ((rest.drop skip).take n)
        let power := if rest.head? == some (rune '-') then -size else size
        floatReading coefficient (power - places) total
    else floatReading coefficient (-places) length
  | [] => floatReading coefficient (-places) length

/-- Read a decimal number. -/
def readDecimal (rs : List Nat) : Reading :=
  let n := spanLength isDigitRune rs
  let whole := rs.take n
  match rs.drop n with
  | r :: rest =>
    if r == rune '.' then
      let k := spanLength isDigitRune rest
      readPower (digitsValue 10 (whole ++ rest.take k)) k (n + 1 + k) (rest.drop k)
    else if r == rune 'e' || r == rune 'E' then readPower (digitsValue 10 whole) 0 n (r :: rest)
    else integer n whole
  | [] => integer n whole
where
  /-- A run of digits, which may not start with a zero unless it has no other digit. -/
  integer (n : Nat) (whole : List Nat) : Reading :=
    if whole.head? == some (rune '0') && whole.any (· != rune '0') then
      if whole.all (· ≤ rune '7') then
        .fault n (Text.ascii "obsolete form of octal literal; use 0o" ++ ofRunes whole.tail)
      else .fault 0 (Text.ascii "invalid int literal")
    else .token (.int (digitsValue 10 whole)) n

/-- Read a number or a point. -/
def readNumber (rs : List Nat) : Reading :=
  match rs with
  | 0x30 :: b :: rest =>
    if b == rune 'x' || b == rune 'X' then readBased 16 0 "hex" rest
    else if b == rune 'o' || b == rune 'O' then readBased 8 2 "octal" rest
    else if b == rune 'b' || b == rune 'B' then readBased 2 2 "binary" rest
    else readDecimal rs
  | 0x2E :: rest =>
    match rest with
    | r :: _ => if isDigitRune r then readDecimal rs else .token (.symbol ".") 1
    | [] => .token (.symbol ".") 1
  | _ => readDecimal rs

/-- The number of characters up to the closing quote of a string in one line. -/
def shortLength (q : Nat) : List Nat → Nat → Except String Nat
  | [], _ => .error "unexpected EOF in string"
  | [c], k =>
    if c = q then .ok (k + 1)
    else if c = 10 then .error "unexpected newline in string"
    else .error "unexpected EOF in string"
  | c :: d :: rs, k =>
    if c = q then .ok (k + 1)
    else if c = 10 then .error "unexpected newline in string"
    else if c = 92 then shortLength q rs (k + 2)
    else shortLength q (d :: rs) (k + 1)

/-- The number of characters up to the third of the closing quotes, `quotes` of which have been
met. -/
def longLength (q : Nat) : List Nat → Nat → Nat → Except String Nat
  | [], _, _ => .error "unexpected EOF in string"
  | [c], quotes, k =>
    if c = q ∧ quotes = 2 then .ok (k + 1) else .error "unexpected EOF in string"
  | c :: d :: rs, quotes, k =>
    if c = q then (if quotes = 2 then .ok (k + 1) else longLength q (d :: rs) (quotes + 1) (k + 1))
    else if c = 92 then longLength q rs 0 (k + 2)
    else longLength q (d :: rs) 0 (k + 1)

/-- A number in hexadecimal with capital letters. -/
def upperHex (width n : Nat) : Text :=
  (Text.hex width n).map fun b => if Text.byte 'a' ≤ b && b ≤ Text.byte 'z' then b - 32 else b

/-- Escapes of one letter. -/
def simpleEscapes : List (UInt8 × UInt8) :=
  [(Text.byte 'a', 7), (Text.byte 'b', 8), (Text.byte 'f', 12), (Text.byte 'n', 10),
    (Text.byte 'r', 13), (Text.byte 't', 9), (Text.byte 'v', 11), (Text.byte '\\', 92),
    (Text.byte '\'', 39), (Text.byte '"', 34)]

/-- An escape as it is written: a backslash and the bytes after it. -/
def escapeText (t : Text) : Text := Text.byte '\\' :: t

/-- A byte that is written as a number; in a string it has to be ASCII. -/
def numberEscape (isBytes : Bool) (kind : String) (written : Text) (n extra : Nat) :
    Except Text Text × Nat :=
  if !isBytes && 127 < n then
    (.error (Text.ascii "non-ASCII " ++ Text.ascii kind ++ Text.ascii " escape " ++
      escapeText written ++ Text.ascii " (use \\u" ++ upperHex 4 n ++
      Text.ascii " for the UTF-8 encoding of U+" ++ upperHex 4 n ++ Text.ascii ")"), extra)
  else if 256 ≤ n then
    (.error (Text.ascii "invalid escape sequence " ++ escapeText (Text.padZero 3 written)), extra)
  else (.ok [n.toUInt8], extra)

/-- The character that is written by its code point in `size` digits after the letter `c`. -/
def scalarEscape (c : UInt8) (size : Nat) (t : Text) : Except Text Text × Nat :=
  let ds := (t.take size).map (·.toNat)
  if t.length < size then (.error (Text.ascii "truncated escape sequence " ++ escapeText (c :: t)), 0)
  else if !ds.all (digitValue · < 16) then
    (.error (Text.ascii "invalid escape sequence " ++ escapeText (c :: t.take size)), 0)
  else
    let n := digitsValue 16 ds
    if 0x10FFFF < n then
      (.error (Text.ascii "code point out of range: " ++ escapeText (c :: t.take size) ++
        Text.ascii " (max \\U" ++ Text.hex 8 n ++ Text.ascii ")"), 0)
    else if 0xD800 ≤ n && n < 0xE000 then
      (.error (Text.ascii "invalid Unicode code point U+" ++ upperHex 4 n), 0)
    else (.ok (Text.encodeScalar n), size + 1)

/-- A step of `Text.scan` that reads one escape of a string, or one byte as it is. -/
def escapeStep (isBytes : Bool) (b : UInt8) (t : Text) : Except Text Text × Nat :=
  if b ≠ Text.byte '\\' then (.ok [b], 0)
  else match t with
    | [] => (.error (Text.ascii "truncated escape sequence \\"), 0)
    | c :: t =>
      if c = Text.newline then (.ok [], 1)
      else match simpleEscapes.lookup c with
        | some v => (.ok [v], 1)
        | none =>
          if c = Text.byte 'x' then
            let ds := (t.take 2).map (·.toNat)
            if t.length < 2 then
              (.error (Text.ascii "truncated escape sequence " ++ escapeText (c :: t)), 0)
            else if !ds.all (digitValue · < 16) then
              (.error (Text.ascii "invalid escape sequence " ++ escapeText (c :: t.take 2)), 0)
            else numberEscape isBytes "hex" (c :: t.take 2) (digitsValue 16 ds) 3
          else if c = Text.byte 'u' then scalarEscape c 4 t
          else if c = Text.byte 'U' then scalarEscape c 8 t
          else
            let ds := ((c :: t).take 3).takeWhile fun b => digitValue b.toNat < 8
            if ds.isEmpty then
              (.error (Text.ascii "invalid escape sequence " ++
                escapeText (Text.encodeScalar c.toNat)), 0)
            else
              let n := digitsValue 8 (ds.map (·.toNat))
              numberEscape isBytes "octal" (Text.digits 8 n) n ds.length

/-- The text that the inside of a string literal stands for. -/
def unescape (raw isBytes : Bool) (t : Text) : Except Text Text :=
  if raw then .ok t
  else do return (← (Text.scan (escapeStep isBytes) t).mapM id).flatten

/-- Read a string literal. Before its quote stand `skip` letters that say what it is. -/
def readString (skip : Nat) (raw isBytes : Bool) (rs : List Nat) : Reading :=
  match rs.drop skip with
  | [] => .fault 0 (Text.ascii "unexpected EOF in string")
  | q :: rest =>
    let long := rest.take 2 == [q, q]
    let opening := if long then 3 else 1
    let length := if long then longLength q (rest.drop 2) 0 0 else shortLength q rest 0
    match length with
    | .error m => .fault 0 (Text.ascii m)
    | .ok k =>
      let inside := ((q :: rest).drop opening).take (k - opening)
      match unescape raw isBytes (ofRunes inside) with
      | .error m => .fault skip m
      | .ok t => .token (if isBytes then .bytes t else .string t) (skip + opening + k)

/-- Read a name or a word. -/
def readName (rs : List Nat) : Reading :=
  let n := spanLength isNameRune rs
  let t := ofRunes (rs.take n)
  match Token.reservedWords.find? fun w => Text.ascii w == t with
  | some w => .token (.reserved w) n
  | none =>
    match Token.words.find? fun w => Text.ascii w == t with
    | some w => .token (.word w) n
    | none => .token (.name t) n

/-- Read a symbol. -/
def readSymbol (rs : List Nat) : Reading :=
  match Token.symbols.find? fun s => (s.toList.map rune).isPrefixOf rs with
  | some s => .token (.symbol s) s.length
  | none =>
    .fault 0 (Text.ascii "unexpected input character " ++ Text.quoteCharacter (rs.headD 0))

/-- Read the token at the start of some characters, which are not blank. -/
def readToken (rs : List Nat) : Reading :=
  match rs with
  | [] => .token .endOfFile 0
  | c :: rest =>
    let next := rest.headD 0
    if isQuote c then readString 0 false false rs
    else if c == rune 'r' && isQuote next then readString 1 true false rs
    else if c == rune 'b' && isQuote next then readString 1 false true rs
    else if c == rune 'r' && next == rune 'b' && isQuote (rest.tail.headD 0) then
      readString 2 true true rs
    else if isNameStart c then readName rs
    else if isDigitRune c || c == rune '.' then readNumber rs
    else readSymbol rs

end LineMachine.Lesson
