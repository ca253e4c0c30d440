import LineMachine.Locale.Basic

/-!
# Message patterns

A pattern is a text with places for arguments. `%v` takes an argument of either kind, `%s` a text
and `%d` an integer; `%%` is a percent sign. Integers are written as the locale says, texts as they
are. What is wrong with a pattern is told in the message itself: a place without an argument, an
argument of the wrong kind, arguments that no place took.
-/

namespace LineMachine.Locale

/-- An argument of a pattern. -/
inductive Argument where
  | text (t : Text)
  | int (i : Int)
  deriving DecidableEq, Repr

namespace Argument

/-- An argument as it is written at `%v`. -/
def plain (l : Locale) : Argument → Text
  | .text t => t
  | .int i => l.ofInt i

/-- An argument with the name of its kind. -/
def described (l : Locale) : Argument → Text
  | .text t => Text.ascii "string=" ++ t
  | .int i => Text.ascii "int=" ++ l.ofInt i

/-- The verb asks for arguments of this kind. -/
def fits (verb : Text) : Argument → Bool
  | .text _ => verb == Text.ascii "v" || verb == Text.ascii "s"
  | .int _ => verb == Text.ascii "v" || verb == Text.ascii "d"

end Argument

/-- What is written for a verb and the argument that it meets. -/
def fill (l : Locale) (verb : Text) (a : Argument) : Text :=
  if a.fits verb then a.plain l
  else Text.ascii "%!" ++ verb ++ Text.ascii "(" ++ a.described l ++ Text.ascii ")"

/-- The arguments that no place took. A pattern that takes none may leave all. -/
def leftover (l : Locale) (taken : Bool) (args : List Argument) : Text :=
  if taken && !args.isEmpty then
    Text.ascii "%!(EXTRA " ++ Text.join (Text.ascii ", ") (args.map (·.described l)) ++
      Text.ascii ")"
  else []

/-- Fill the places of a pattern, given as its pieces. `taken` says that an argument has been used
before. -/
def fillPieces (l : Locale) : Bool → List Argument → List Text → Text
  | taken, args, [] => leftover l taken args
  | taken, args, [p] =>
    if p = Text.ascii "%" then Text.ascii "%!(NOVERB)" ++ leftover l taken args
    else p ++ leftover l taken args
  | taken, args, p :: verb :: rest =>
    if p = Text.ascii "%" then
      if verb = Text.ascii "%" then verb ++ fillPieces l taken args rest
      else match args with
        | [] => Text.ascii "%!" ++ verb ++ Text.ascii "(MISSING)" ++ fillPieces l taken [] rest
        | a :: more => fill l verb a ++ fillPieces l true more rest
    else p ++ fillPieces l taken args (verb :: rest)

/-- The message that a pattern and its arguments make in a locale. -/
def format (l : Locale) (pattern : Text) (args : List Argument) : Text :=
  fillPieces l false args ((Text.pieces pattern).map Text.Piece.bytes)

end LineMachine.Locale
