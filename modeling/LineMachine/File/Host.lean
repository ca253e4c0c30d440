import LineMachine.File.Tree

/-!
# Hosts

A host carries out the operations on files that the library needs, within a monad of its own. The
host of a tree is pure and changes the tree; the program proper runs on the host of the operating
system.
-/

namespace LineMachine

/-- The operations on files of an operating system. A file that has been created is written to by its
handle. -/
structure Host (φ : Type) (m : Type → Type) where
  /-- The item at a path. -/
  find : Text → ExceptT SystemError m Item
  /-- Make an empty file, or empty the one that is there. -/
  createFile : Text → ExceptT SystemError m φ
  /-- Make a folder where nothing is. -/
  createFolder : Text → ExceptT SystemError m Unit
  /-- Put bytes at the end of a created file. -/
  write : φ → Text → ExceptT SystemError m Unit
  /-- Close a created file. -/
  close : φ → ExceptT SystemError m Unit

namespace Tree

/-- Look at the tree. -/
def query {α : Type} (f : Tree → Except SystemError α) : ExceptT SystemError (StateM Tree) α :=
  ExceptT.mk fun t => (f t, t)

/-- Change the tree, unless the operation fails. -/
def change {α : Type} (f : Tree → Except SystemError (α × Tree)) :
    ExceptT SystemError (StateM Tree) α :=
  ExceptT.mk fun t =>
    match f t with
    | .ok (a, t') => (.ok a, t')
    | .error e => (.error e, t)

/-- The host that holds a tree. Writing to a created file and closing it always succeed. -/
def host : Host Route (StateM Tree) where
  find path := query (·.find path)
  createFile path := change (·.createFile path)
  createFolder path := change fun t => (t.createFolder path).map fun t' => ((), t')
  write r data := change fun t => .ok ((), t.append r data)
  close _ := change fun t => .ok ((), t)

end Tree

end LineMachine
