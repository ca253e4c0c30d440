import LineMachine.Text.Basic

/-!
# What goes wrong with files

`Fault` is the short list of reasons that a caller may ask for, whatever the wording and wherever the
failure comes from. A failure of the operating system has a wording of its own and has one of these
reasons only if it stands for it.
-/

namespace LineMachine

/-- The reasons that a caller may ask for. -/
inductive Fault where
  | invalid | exists | missing | denied | closed | corrupt
  deriving DecidableEq, Repr

/-- The wording of a bare reason. -/
def Fault.message : Fault → Text
  | .invalid => Text.ascii "invalid argument"
  | .exists => Text.ascii "file already exists"
  | .missing => Text.ascii "file does not exist"
  | .denied => Text.ascii "permission denied"
  | .closed => Text.ascii "file already closed"
  | .corrupt => Text.ascii "file is not a readable document"

/-- A failure of the operating system. -/
inductive SystemError where
  | noEntry | exists | notFolder | isFolder | nameTooLong | badArgument | denied
  | other (message : Text)
  deriving DecidableEq, Repr

namespace SystemError

/-- The wording of a failure of the operating system. -/
def message : SystemError → Text
  | .noEntry => Text.ascii "no such file or directory"
  | .exists => Text.ascii "file exists"
  | .notFolder => Text.ascii "not a directory"
  | .isFolder => Text.ascii "is a directory"
  | .nameTooLong => Text.ascii "file name too long"
  | .badArgument => Text.ascii "invalid argument"
  | .denied => Text.ascii "permission denied"
  | .other m => m

/-- The reason that a failure of the operating system stands for. -/
def fault? : SystemError → Option Fault
  | .noEntry => some .missing
  | .exists => some .exists
  | .denied => some .denied
  | _ => none

end SystemError

/-- Why an operation on a path failed. -/
inductive PathCause where
  | fault (f : Fault)
  | system (e : SystemError)
  | emptyRoot
  deriving DecidableEq, Repr

namespace PathCause

/-- The wording of a cause. -/
def message : PathCause → Text
  | .fault f => f.message
  | .system e => e.message
  | .emptyRoot => Text.ascii "os: DirFS with empty root"

/-- The reason behind a cause. -/
def fault? : PathCause → Option Fault
  | .fault f => some f
  | .system e => e.fault?
  | .emptyRoot => none

end PathCause

/-- A failed operation on files: a bare reason, a reason with the operation and the path that it was
about, or any other failure. -/
inductive FileError where
  | bare (f : Fault)
  | path (operation path : Text) (cause : PathCause)
  | other (message : Text)
  deriving DecidableEq, Repr

namespace FileError

/-- The wording of a failed operation. -/
def message : FileError → Text
  | .bare f => f.message
  | .path op p cause => op ++ Text.ascii " " ++ p ++ Text.ascii ": " ++ cause.message
  | .other m => m

/-- The reason behind a failed operation. -/
def fault? : FileError → Option Fault
  | .bare f => some f
  | .path _ _ cause => cause.fault?
  | .other _ => none

/-- The operation failed because something does not exist. -/
def isMissing (e : FileError) : Bool := e.fault? = some .missing

end FileError

/-- A document could not be loaded or saved. -/
structure DocumentError where
  name : Text
  cause : FileError
  deriving DecidableEq, Repr

/-- The wording of a document error. -/
def DocumentError.message (e : DocumentError) : Text :=
  e.name ++ Text.ascii ": " ++ e.cause.message

end LineMachine
