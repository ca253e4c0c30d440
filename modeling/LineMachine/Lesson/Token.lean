import LineMachine.Lesson.Float

/-!
# Tokens of a lesson

Lessons are written in a subset of Starlark. A lesson is read as a list of tokens, each with the
positions where it starts and where reading goes on after it. Columns count characters.

Reading never fails as a whole: what cannot be read becomes a `fault` token, which ends the list. So
a fault is only met by someone who reads that far.
-/

namespace LineMachine.Lesson

/-- A place in the source of a lesson, counted from one. -/
structure Position where
  line : Nat := 1
  col : Nat := 1
  deriving DecidableEq, Repr

namespace Position

/-- The position after a character. -/
def after (p : Position) (r : Nat) : Position :=
  if r = 10 then ⟨p.line + 1, 1⟩ else ⟨p.line, p.col + 1⟩

/-- The position after several characters. -/
def afterAll (p : Position) (rs : List Nat) : Position := rs.foldl after p

/-- The position `n` columns further. -/
def shift (p : Position) (n : Nat) : Position := ⟨p.line, p.col + n⟩

/-- A position with the name of its file. -/
def text (file : Text) (p : Position) : Text :=
  file ++ Text.ascii ":" ++ Text.ofNat p.line ++ Text.ascii ":" ++ Text.ofNat p.col

end Position

/-- A token. -/
inductive Token where
  | endOfFile
  | newline
  | indent
  | outdent
  | name (t : Text)
  | int (n : Nat)
  | float (x : Binary64)
  | string (t : Text)
  | bytes (t : Text)
  | symbol (s : String)
  | word (s : String)
  | reserved (s : String)
  | fault (message : Text)
  deriving DecidableEq, Repr

/-- A token with the position of its start and the position after it. -/
structure Lexeme where
  token : Token
  start : Position
  stop : Position
  deriving DecidableEq, Repr

namespace Token

/-- A token as it is called in messages. -/
def describe : Token → Text
  | .endOfFile => Text.ascii "end of file"
  | .newline => Text.ascii "newline"
  | .indent => Text.ascii "indent"
  | .outdent => Text.ascii "outdent"
  | .name _ => Text.ascii "identifier"
  | .int _ => Text.ascii "int literal"
  | .float _ => Text.ascii "float literal"
  | .string _ => Text.ascii "string literal"
  | .bytes _ => Text.ascii "bytes literal"
  | .symbol s => Text.ascii "'" ++ Text.ascii s ++ Text.ascii "'"
  | .word s | .reserved s => Text.ascii s
  | .fault m => m

/-- The words with a meaning of their own. -/
def words : List String :=
  ["and", "break", "continue", "def", "elif", "else", "for", "if", "in", "lambda", "load", "not",
    "or", "pass", "return", "while"]

/-- The words that are kept free. -/
def reservedWords : List String :=
  ["as", "async", "await", "class", "del", "except", "finally", "from", "global", "import", "is",
    "nonlocal", "raise", "try", "with", "yield"]

/-- The symbols, the longer ones first. -/
def symbols : List String :=
  ["<<=", ">>=", "//=", "**", "//", "<<", ">>", "<=", ">=", "==", "!=", "+=", "-=", "*=", "/=",
    "%=", "&=", "|=", "^=", "+", "-", "*", "/", "%", "&", "|", "^", "~", ",", "=", ";", ":", "(",
    ")", "[", "]", "\x7b", "\x7d", "<", ">"]

end Token

end LineMachine.Lesson
