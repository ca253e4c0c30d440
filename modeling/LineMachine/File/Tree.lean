import LineMachine.File.Error
import LineMachine.File.Path

/-!
# Trees of folders and files

A tree holds folders and files, without links, and one of its folders is the working folder. It maps
the route of each item, which is the list of the elements that lead to it from the root, to the item.
The view of a tree is `get?`. The working folder and those on the way to it are always there.

Operations take a path as the operating system does. A rooted path starts at the root and any other
in the working folder, and both are walked along element by element, so the leftmost problem decides.
A step up leads out of the working folder, too, and from the root to the root.
-/

namespace LineMachine

/-- The elements that lead from the root to an item. -/
abbrev Route := List Text

/-- An item of a tree. -/
inductive Item where
  | file (data : Text)
  | folder
  deriving DecidableEq, Repr

/-- The items of a file system, and the route of the working folder. -/
structure Tree where
  items : List (Route × Item) := []
  home : Route := []
  deriving Repr

namespace Tree

/-- The item at a route. -/
def get? (t : Tree) (r : Route) : Option Item :=
  if r.isPrefixOf t.home then some .folder else t.items.lookup r

/-- The tree with `item` at `r`, where there may have been another one before. -/
def set (t : Tree) (r : Route) (item : Item) : Tree :=
  if (t.items.lookup r).isSome then
    { t with items := t.items.map fun e => if e.1 = r then (r, item) else e }
  else { t with items := t.items ++ [(r, item)] }

/-- The longest path that the operating system takes, and one byte more. -/
def pathLimit : Nat := 4096

/-- The longest element that a folder takes. -/
def elementLimit : Nat := 255

/-- Go from the folder at a route along one element. -/
def follow (t : Tree) (r : Route) (e : Text) : Except SystemError Route :=
  if t.get? r ≠ some .folder then .error .notFolder
  else if e.isEmpty || e == Path.dot then .ok r
  else if e == Path.dotDot then .ok r.dropLast
  else if elementLimit < e.length then .error .nameTooLong
  else if (t.get? (r ++ [e])).isSome then .ok (r ++ [e])
  else .error .noEntry

/-- Go from a route along several elements. -/
def walk (t : Tree) (r : Route) (es : List Text) : Except SystemError Route := es.foldlM t.follow r

/-- Where a path starts. -/
def start (t : Tree) (path : Text) : Route := if Path.isRooted path then [] else t.home

/-- A path that the operating system takes at all. -/
def accept (path : Text) : Except SystemError Unit :=
  if path.contains 0 then .error .badArgument
  else if path.isEmpty then .error .noEntry
  else if pathLimit ≤ path.length then .error .nameTooLong
  else .ok ()

/-- The route that a path leads to. -/
def resolve (t : Tree) (path : Text) : Except SystemError Route := do
  accept path
  t.walk (t.start path) (Path.elements path)

/-- The item that a path leads to. -/
def find (t : Tree) (path : Text) : Except SystemError Item := do
  return (t.get? (← t.resolve path)).getD .folder

/-- The last element of a path before its trailing slashes, with the elements before it and whether
there is a trailing slash. There is no last element if the path has slashes only. -/
def lastElement (path : Text) : Option (List Text × Text × Bool) :=
  let es := (Path.elements path).reverse
  match es.dropWhile List.isEmpty with
  | [] => none
  | e :: before => some (before.reverse, e, (es.headD []).isEmpty)

/-- The place of a new item: the route of its folder and its own element. The answer is `none` if the
path ends in a dot, in two dots or at the root, where only a folder can be. -/
def resolveNew (t : Tree) (path : Text) : Except SystemError (Option (Route × Text × Bool)) := do
  accept path
  match lastElement path with
  | none => return none
  | some (before, e, slashed) =>
    let r ← t.walk (t.start path) before
    if t.get? r ≠ some .folder then throw .notFolder
    if e == Path.dot || e == Path.dotDot then return none
    return some (r, e, slashed)

/-- Make an empty file, or empty the one that is there. The answer is its route. -/
def createFile (t : Tree) (path : Text) : Except SystemError (Route × Tree) := do
  match ← t.resolveNew path with
  | none => throw .isFolder
  | some (r, e, slashed) =>
    if slashed then throw .isFolder
    if elementLimit < e.length then throw .nameTooLong
    if t.get? (r ++ [e]) = some .folder then throw .isFolder
    return (r ++ [e], t.set (r ++ [e]) (.file []))

/-- Make a folder where nothing is. -/
def createFolder (t : Tree) (path : Text) : Except SystemError Tree := do
  match ← t.resolveNew path with
  | none => throw .exists
  | some (r, e, _) =>
    if elementLimit < e.length then throw .nameTooLong
    if (t.get? (r ++ [e])).isSome then throw .exists
    return t.set (r ++ [e]) .folder

/-- Put bytes at the end of the file at a route. -/
def append (t : Tree) (r : Route) (data : Text) : Tree :=
  match t.get? r with
  | some (.file old) => t.set r (.file (old ++ data))
  | _ => t

/-- The tree with the folders on the way to a route that are not there yet. -/
def withFolders (t : Tree) (r : Route) : Tree :=
  (List.range r.length).foldl (fun t k =>
    if (t.get? (r.take (k + 1))).isSome then t else t.set (r.take (k + 1)) .folder) t

/-- The order of routes: a folder before what it holds, names by their bytes. -/
def routeLe (a b : Route) : Bool := !decide (b < a)

/-- The items with their routes, a folder before what it holds, and names in the order of their
bytes. -/
def listing (t : Tree) : List (Route × Item) := t.items.mergeSort fun a b => routeLe a.1 b.1

end Tree

end LineMachine
