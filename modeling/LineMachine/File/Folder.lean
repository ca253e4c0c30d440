import LineMachine.File.Host

/-!
# Folders

A folder is given by its path and offers what is below it under names, which cannot lead out of it.
Entering, creating and making folders address the cleaned path of the name within the folder, and
this path appears in the errors of the operating system. Looking things up goes along the folder's
path as it is written, and errors tell the name only.
-/

namespace LineMachine

/-- A folder, given by its path. -/
structure Folder where
  path : Text
  deriving DecidableEq, Repr

namespace Folder

/-- Name the operation and the path in an error of the operating system. -/
def located {m : Type → Type} [Monad m] {α : Type} (operation path : Text)
    (x : ExceptT SystemError m α) : ExceptT FileError m α :=
  ExceptT.mk (x.run >>= fun r => pure (r.mapError fun e => .path operation path (.system e)))

/-- An error that names an operation and a path. -/
def refusal (operation path : Text) (cause : PathCause) : FileError := .path operation path cause

/-- The path of `name` within the folder. -/
def join (d : Folder) (operation name : Text) : Except FileError Text :=
  if Path.isName name then .ok (Path.join d.path name)
  else .error (refusal operation name (.fault .invalid))

/-- The path of `name` for looking it up, with the folder's path as it is written. -/
def locate (d : Folder) (operation name : Text) : Except FileError Text :=
  if d.path.isEmpty then .error (refusal operation name .emptyRoot)
  else if !Path.isName name || name.contains 0 then
    .error (refusal operation name (.fault .invalid))
  else if d.path.getLast? = some Path.slash then .ok (d.path ++ name)
  else .ok (d.path ++ [Path.slash] ++ name)

section

variable {φ : Type} {m : Type → Type} [Monad m]

/-- Look something up by its name. -/
def look (h : Host φ m) (d : Folder) (operation name : Text) : ExceptT FileError m Item := do
  let path ← liftExcept (d.locate operation name)
  located operation name (h.find path)
where
  /-- An answer that needs no host. -/
  liftExcept {α : Type} (x : Except FileError α) : ExceptT FileError m α := ExceptT.mk (pure x)

/-- Tell what stands under a name. -/
def stat (h : Host φ m) (d : Folder) (name : Text) : ExceptT FileError m Item :=
  d.look h (Text.ascii "stat") name

/-- Open what stands under a name. -/
def openItem (h : Host φ m) (d : Folder) (name : Text) : ExceptT FileError m Item :=
  d.look h (Text.ascii "open") name

/-- The folder under a name. -/
def enter (h : Host φ m) (d : Folder) (name : Text) : ExceptT FileError m Folder := do
  let path ← ExceptT.mk (pure (d.join (Text.ascii "sub") name))
  match ← located (Text.ascii "stat") path (h.find path) with
  | .folder => return ⟨path⟩
  | .file _ => throw (refusal (Text.ascii "sub") name (.fault .invalid))

/-- Create a file, or empty the one that is there. -/
def create (h : Host φ m) (d : Folder) (name : Text) : ExceptT FileError m φ := do
  let path ← ExceptT.mk (pure (d.join (Text.ascii "create") name))
  located (Text.ascii "open") path (h.createFile path)

/-- Make a folder. -/
def makeFolder (h : Host φ m) (d : Folder) (name : Text) : ExceptT FileError m Unit := do
  let path ← ExceptT.mk (pure (d.join (Text.ascii "mkdir") name))
  located (Text.ascii "mkdir") path (h.createFolder path)

end

end Folder

end LineMachine
