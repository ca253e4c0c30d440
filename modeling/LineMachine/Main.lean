import LineMachine.CommandLine.Program

/-!
# The command line

The program on the files of the operating system.
-/

namespace LineMachine.CommandLine

/-- The text of a string. -/
def textOfString (s : String) : Text := s.toUTF8.toList

/-- The string of a text, in which what is not UTF-8 has been repaired. -/
def stringOfText (t : Text) : String :=
  (String.fromUTF8? (ByteArray.mk (Text.repair t).toArray)).getD ""

/-- A failure of the operating system by its number. -/
def systemErrorOfCode (code : UInt32) (details : String) : SystemError :=
  match code.toNat with
  | 2 => .noEntry
  | 13 => .denied
  | 17 => .exists
  | 20 => .notFolder
  | 21 => .isFolder
  | 22 => .badArgument
  | 36 => .nameTooLong
  | _ => .other (textOfString details)

/-- A failure of the operating system. -/
def systemErrorOf : IO.Error → SystemError
  | .noFileOrDirectory _ code details | .inappropriateType (some _) code details
  | .invalidArgument (some _) code details | .permissionDenied (some _) code details
  | .alreadyExists (some _) code details => systemErrorOfCode code details
  | .inappropriateType none code details | .invalidArgument none code details
  | .permissionDenied none code details | .alreadyExists none code details
  | .otherError code details => systemErrorOfCode code details
  | e => .other (textOfString (toString e))

/-- An action of the operating system. -/
def attempt {α : Type} (x : IO α) : ExceptT SystemError IO α :=
  ExceptT.mk do
    try return .ok (← x)
    catch e => return .error (systemErrorOf e)

/-- What is at a path: bytes that can be read, or a folder. -/
def findItem (path : Text) : ExceptT SystemError IO Item :=
  tryCatch
    (do return .file (← attempt (IO.FS.readBinFile (stringOfText path))).toList)
    fun
      | .isFolder => return .folder
      | e => throw e

/-- The host of the operating system. -/
def systemHost : Host IO.FS.Handle IO where
  find := findItem
  createFile path := attempt (IO.FS.Handle.mk (stringOfText path) .write)
  createFolder path := attempt (IO.FS.createDir (stringOfText path))
  write file t := attempt (file.write (ByteArray.mk t.toArray))
  close file := attempt file.flush

end LineMachine.CommandLine

/-- Run the program with the arguments of the command line. -/
def main (args : List String) : IO UInt32 := do
  let outcome ← LineMachine.CommandLine.execute LineMachine.CommandLine.systemHost
    LineMachine.Locale.ofTag (LineMachine.Text.ascii "tom")
    (args.map LineMachine.CommandLine.textOfString)
  let stdout ← IO.getStdout
  stdout.write (ByteArray.mk outcome.stdout.toArray)
  stdout.flush
  let stderr ← IO.getStderr
  stderr.write (ByteArray.mk outcome.stderr.toArray)
  stderr.flush
  return outcome.exit.toUInt32
