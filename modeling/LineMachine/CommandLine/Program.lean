import LineMachine.CommandLine.Options
import LineMachine.Lesson.Session

/-!
# The program

The program loads a program text from a file or takes it from its arguments, saves it if it is told
to, and then executes a lesson on it, or plays it and prints the report. The steps are taken in this
order, and the first that fails ends the program.

It runs on any host, and with any way to read the tags of locales. On the host of a tree it is a
function from a tree and arguments to an outcome and a tree.
-/

namespace LineMachine.CommandLine

open Lesson

/-- Why the program fails. -/
inductive ProgramError where
  | locale (tag : Text) (e : Locale.TagError)
  | document (e : DocumentError)
  | file (e : FileError)
  | lesson (path : Text) (e : LessonError)
  | nothingToDo
  deriving Repr

/-- The wording of a failure. -/
def ProgramError.message (l : Locale) : ProgramError → Text
  | .locale tag e => tag ++ Text.ascii ": " ++ e.message
  | .document e => e.message
  | .file e => e.message
  | .lesson path e => path ++ Text.ascii ": " ++ e.message l
  | .nothingToDo => Text.ascii "one of -c, -e or -s is required"

/-- What the program has put out so far: what is printed, and what is told in a locale. -/
structure Console where
  locale : Locale := .english
  printed : Text := []
  told : List Diagnostic := []

/-- A step of the program within a monad. -/
abbrev Step (m : Type → Type) := ExceptT ProgramError (StateT Console m)

/-- The folder and the name that a path is made of. -/
def splitPath (path : Text) : Folder × Text :=
  let (folder, name) := Path.split path
  (⟨if folder.isEmpty then Path.dot else folder⟩, name)

/-- The output goes to standard output. -/
def Options.toConsole (o : Options) : Bool := o.output == Text.ascii "-"

/-- The program has something to play or to execute. -/
def Options.hasTask (o : Options) : Bool :=
  !(o.lesson.isEmpty && o.compile.isEmpty && o.expr.isEmpty)

section

variable {φ : Type} {m : Type → Type} [Monad m]

namespace Step

/-- Tell something. -/
def tell (ds : List Diagnostic) : Step m Unit := modify fun c => { c with told := c.told ++ ds }

/-- Go on unless there is an error. -/
def check {α : Type} : Except ProgramError α → Step m α
  | .ok a => pure a
  | .error e => throw e

/-- An operation on files. -/
def onFiles {α : Type} (x : ExceptT FileError m α) : Step m α := do
  match ← (x.run : m _) with
  | .ok a => return a
  | .error e => throw (.file e)

end Step

/-- Choose the locale of messages. -/
def chooseLocale (tags : Locale.Tags) (o : Options) : Step m Unit := do
  unless o.locale.isEmpty do
    match tags o.locale with
    | .ok locale => modify fun c => { c with locale }
    | .error e => throw (.locale o.locale e)

/-- The emulator with the program text. -/
def loadProgram (h : Host φ m) (o : Options) : Step m Emulator := do
  let mut e : Emulator := { verbose := o.verbose }
  unless o.compile.isEmpty do
    let (folder, name) := splitPath o.compile
    let (loaded, r, told) ← (e.load (Folder.shelf h) folder name : m _)
    Step.tell told
    Step.check (r.mapError .document)
    e := loaded
  if o.expr.isEmpty then return e else return e.setText o.expr

/-- Save the program text. -/
def saveProgram (h : Host φ m) (o : Options) (e : Emulator) : Step m Unit := do
  unless o.write.isEmpty do
    let (folder, name) := splitPath o.write
    let (r, told) ← (e.save (Folder.store h) folder name : m _)
    Step.tell told
    Step.check (r.mapError .document)

/-- Put out a text, to a file if there is one. -/
def put (h : Host φ m) (o : Options) (file : Option φ) (t : Text) : Step m Unit :=
  match file with
  | none => modify fun c => { c with printed := c.printed ++ t }
  | some file => Step.onFiles (Folder.located (Text.ascii "write") o.output (h.write file t))

/-- The source of the lesson. -/
def readLesson (h : Host φ m) (o : Options) : Step m Text := do
  match ← Step.onFiles (Folder.located (Text.ascii "open") o.lesson (h.find o.lesson)) with
  | .file source => return source
  | .folder =>
    throw (.file (Folder.refusal (Text.ascii "read") o.lesson (.system .isFolder)))

/-- Execute the lesson. That its output cannot be written does not stop it. -/
def executeLesson (h : Host φ m) (o : Options) (file : Option φ) (e : Emulator) :
    Step m Unit := do
  let source ← readLesson h o
  let start : Session := { verbose := o.verbose, emulator := e }
  let (r, s) := start.execute o.lesson source
  Step.tell s.told.toList
  tryCatch (put h o file s.printed) fun _ => pure ()
  Step.check (r.mapError (.lesson o.lesson))

/-- Play the program text and put out the report. -/
def playProgram (h : Host φ m) (o : Options) (file : Option φ) (e : Emulator) : Step m Unit := do
  let (e, told) := e.play
  Step.tell told
  put h o file e.machine.snapshot.report

/-- Execute the lesson if there is one, else play the program text. -/
def perform (h : Host φ m) (o : Options) (file : Option φ) (e : Emulator) : Step m Unit :=
  if o.lesson.isEmpty then playProgram h o file e else executeLesson h o file e

/-- Perform the task with its output in a file, which is closed in any case. -/
def performInFile (h : Host φ m) (o : Options) (e : Emulator) : Step m Unit := do
  let file ← Step.onFiles (Folder.located (Text.ascii "open") o.output (h.createFile o.output))
  let close := Step.onFiles (Folder.located (Text.ascii "close") o.output (h.close file))
  tryCatch (perform h o (some file) e) fun err => do
    tryCatch close fun _ => pure ()
    throw err
  close

/-- Do what the options say. -/
def run (h : Host φ m) (tags : Locale.Tags) (o : Options) : Step m Unit := do
  chooseLocale tags o
  let e ← loadProgram h o
  saveProgram h o e
  if o.hasTask then
    if o.toConsole then perform h o none e else performInFile h o e
  else if o.write.isEmpty then throw .nothingToDo

/-- How the program ends. -/
structure Outcome where
  exit : Nat
  stdout : Text := []
  stderr : Text := []
  deriving Repr

/-- A line that says why the program gives up. -/
def fatal (program message : Text) : Text :=
  Diagnostic.closeLine (program ++ Text.ascii ": " ++ message)

/-- The outcome for a console and how the run ended. -/
def Console.outcome (program : Text) (c : Console) : Except ProgramError Unit → Outcome
  | .ok () => { exit := 0, stdout := c.printed, stderr := Diagnostic.stream c.locale c.told }
  | .error e =>
    { exit := 1, stdout := c.printed,
      stderr := Diagnostic.stream c.locale c.told ++ fatal program (e.message c.locale) }

/-- The outcome for refused arguments. -/
def Refusal.outcome (program : Text) (r : Refusal) : Outcome :=
  match r.message? with
  | none => { exit := 0, stderr := usage program }
  | some message => { exit := 2, stderr := message ++ [Text.newline] ++ usage program }

/-- Run the program with arguments. -/
def execute (h : Host φ m) (tags : Locale.Tags) (program : Text) (args : List Text) :
    m Outcome := do
  match ({} : Options).parse args with
  | .error r => return r.outcome program
  | .ok (o, []) =>
    let (r, c) ← ((run h tags o).run).run {}
    return c.outcome program r
  | .ok (_, rest) =>
    let list := Text.ascii "[" ++ Text.join (Text.ascii " ") rest ++ Text.ascii "]"
    return { exit := 1, stderr := fatal program (Text.ascii "Unknown arguments: " ++ list) }

end

end LineMachine.CommandLine
