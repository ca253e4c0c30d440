import LineMachine.File.Folder

/-!
# Documents

A document is a program text in a file. `Store` is what saving needs and `Shelf` is what loading
needs. Folders offer both; so does the rehearsal of `LineMachine.Rehearsal`, which has no files.

A document is saved under a name with folders in front. The folders are entered one after the other,
and a missing one is made. A loaded document is always well-formed UTF-8: what is not is repaired.
-/

namespace LineMachine

/-- What saving a document needs: folders of type `δ` and handles of type `φ`. -/
structure Store (δ φ : Type) (m : Type → Type) where
  enter : δ → Text → ExceptT FileError m δ
  makeFolder : δ → Text → Nat → ExceptT FileError m Unit
  create : δ → Text → ExceptT FileError m φ
  write : φ → Text → ExceptT FileError m Unit
  close : φ → ExceptT FileError m Unit

/-- What loading a document needs: whether there is a regular file, and its bytes. -/
structure Shelf (δ : Type) (m : Type → Type) where
  isRegular : δ → Text → ExceptT FileError m Bool
  read : δ → Text → ExceptT FileError m Text

namespace Document

/-- How the name of a file with a program usually ends. -/
def suffix : Text := Text.ascii ".tom"

/-- The permissions of a new folder. -/
def folderMode : Nat := 0o755

section

variable {δ φ : Type} {m : Type → Type} [Monad m]

/-- Enter a folder, and make it if it is missing. -/
def enterOrMake (s : Store δ φ m) (d : δ) (e : Text) : ExceptT FileError m δ :=
  tryCatch (s.enter d e) fun err =>
    if err.isMissing then do
      s.makeFolder d e folderMode
      s.enter d e
    else throw err

/-- Enter folders one after the other, and make the missing ones. -/
def enterAll (s : Store δ φ m) : δ → List Text → ExceptT FileError m δ
  | d, [] => pure d
  | d, e :: es => do enterAll s (← enterOrMake s d e) es

/-- Write a text to a created file and close it. If writing fails the file is closed all the same. -/
def writeAndClose (s : Store δ φ m) (file : φ) (text : Text) : ExceptT FileError m Unit := do
  tryCatch (s.write file text) fun err => do
    tryCatch (s.close file) fun _ => pure ()
    throw err
  s.close file

/-- Save a text, with errors as they come. -/
def saveAs (s : Store δ φ m) (d : δ) (name text : Text) : ExceptT FileError m Unit := do
  if !Path.isName name || name == Path.dot then throw (.bare .invalid)
  let folder ← enterAll s d (Path.elements name).dropLast
  let file ← s.create folder (Path.base name)
  writeAndClose s file text

/-- Name the document in an error. -/
def named {α : Type} (name : Text) (x : ExceptT FileError m α) : ExceptT DocumentError m α :=
  ExceptT.mk (x.run >>= fun r => pure (r.mapError fun cause => { name, cause }))

/-- Save a text under a name. -/
def save (s : Store δ φ m) (d : δ) (name text : Text) : ExceptT DocumentError m Unit :=
  named name (saveAs s d name text)

/-- Load a text, with errors as they come. -/
def loadFrom (s : Shelf δ m) (d : δ) (name : Text) : ExceptT FileError m Text := do
  if !(← s.isRegular d name) then throw (.bare .corrupt)
  return Text.repair (← s.read d name)

/-- Load the text under a name. -/
def load (s : Shelf δ m) (d : δ) (name : Text) : ExceptT DocumentError m Text :=
  named name (loadFrom s d name)

end

theorem run_named {σ α : Type} {x : ExceptT FileError (StateM σ) α} {r : Except FileError α}
    {before after : σ} (h : x.run.run before = (r, after)) (name : Text) :
    (named name x).run.run before = (r.mapError (⟨name, ·⟩), after) := by
  rw [named, ExceptT.run_mk, StateT.run_bind, h]
  rfl

end Document

namespace Folder

variable {φ : Type} {m : Type → Type} [Monad m]

/-- Tell of a failed write or close, which name no operation of their own. -/
def onHandle {α : Type} (operation : String) (x : ExceptT SystemError m α) :
    ExceptT FileError m α :=
  located (Text.ascii operation) [] x

/-- Folders as a store. -/
def store (h : Host φ m) : Store Folder φ m where
  enter d name := d.enter h name
  makeFolder d name _ := d.makeFolder h name
  create d name := d.create h name
  write file text := onHandle "write" (h.write file text)
  close file := onHandle "close" (h.close file)

/-- The item is a file. -/
def isFile : Item → Bool
  | .file _ => true
  | .folder => false

/-- Folders as a shelf. -/
def shelf (h : Host φ m) : Shelf Folder m where
  isRegular d name := do return isFile (← d.stat h name)
  read d name := do
    match ← d.openItem h name with
    | .file data => return data
    | .folder => throw (refusal (Text.ascii "read") name (.system .isFolder))

end Folder

end LineMachine
