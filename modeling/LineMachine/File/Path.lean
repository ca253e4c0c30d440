import LineMachine.Text.Utf8

/-!
# Paths

A path is a text whose elements are divided by slashes. A name within a folder has a stricter form:
it is well-formed UTF-8, and none of its elements is empty or made of one or two dots, unless the
whole name is one dot. So a name never leads out of its folder.

`clean` gives the shortest path that names the same place without looking at any folder: empty
elements and single dots vanish, and two dots take away the element before them.
-/

namespace LineMachine.Path

/-- The slash. -/
abbrev slash : UInt8 := Text.byte '/'

/-- The element that stands for the folder itself. -/
def dot : Text := Text.ascii "."

/-- The element that stands for the folder above. -/
def dotDot : Text := Text.ascii ".."

/-- The elements of a path. A leading or trailing slash gives an empty one. -/
def elements (p : Text) : List Text := Text.splitOn slash p

/-- The path with these elements. -/
def ofElements (es : List Text) : Text := Text.join [slash] es

/-- An element that a name may have. -/
def isElement (e : Text) : Bool := !e.isEmpty && e != dot && e != dotDot

/-- A text that names something within a folder. -/
def isName (t : Text) : Bool := Text.isUtf8 t && (t == dot || (elements t).all isElement)

/-- A path that starts at the root of the whole file system. -/
def isRooted (p : Text) : Bool := p.head? == some slash

/-- Put one more element on a cleaned path, which is given with its last element first. -/
def cleanStep (rooted : Bool) (done : List Text) (e : Text) : List Text :=
  if e.isEmpty || e == dot then done
  else if e == dotDot then
    match done with
    | [] => if rooted then [] else [dotDot]
    | last :: before => if last == dotDot then dotDot :: done else before
  else e :: done

/-- The elements of a path that remain when it is cleaned. -/
def cleanElements (p : Text) : List Text :=
  ((elements p).foldl (cleanStep (isRooted p)) []).reverse

/-- The cleaned path. -/
def clean (p : Text) : Text :=
  if isRooted p then slash :: ofElements (cleanElements p)
  else match cleanElements p with
    | [] => dot
    | es => ofElements es

/-- The cleaned path of `name` within the folder at `folder`. An empty path names nothing and is left
out. -/
def join (folder name : Text) : Text :=
  match [folder, name].filter (!·.isEmpty) with
  | [] => []
  | ps => clean (ofElements ps)

/-- A path cut behind its last slash. -/
def split (p : Text) : Text × Text :=
  let name := (p.reverse.takeWhile (· != slash)).reverse
  (p.take (p.length - name.length), name)

/-- The last element of a name. -/
def base (name : Text) : Text := (elements name).getLastD []

end LineMachine.Path
