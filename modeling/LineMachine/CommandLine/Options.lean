import LineMachine.Text.Quoted

/-!
# Options of the program

Options come before all other arguments. One that takes a value has it behind an equals sign or in
the next argument; the switch needs none. One dash is as good as two. Of several values for one
option the last counts. Two dashes alone end the options, and so does the first argument that is
none.
-/

namespace LineMachine.CommandLine

/-- What the program is told to do. -/
structure Options where
  compile : Text := []
  expr : Text := []
  write : Text := []
  lesson : Text := []
  output : Text := Text.ascii "-"
  locale : Text := []
  verbose : Bool := false
  deriving DecidableEq, Repr

/-- An option of the program. -/
inductive Flag where
  | compile | expr | locale | output | lesson | verbose | write
  deriving DecidableEq, Repr

namespace Flag

/-- The options in the order of their letters. -/
def all : List Flag := [.compile, .expr, .locale, .output, .lesson, .verbose, .write]

/-- The letter of an option. -/
def letter : Flag → Text
  | .compile => Text.ascii "c"
  | .expr => Text.ascii "e"
  | .locale => Text.ascii "l"
  | .output => Text.ascii "o"
  | .lesson => Text.ascii "s"
  | .verbose => Text.ascii "v"
  | .write => Text.ascii "w"

/-- What an option is for. -/
def purpose : Flag → Text
  | .compile => Text.ascii ".tom file to run"
  | .expr => Text.ascii "Program text to run, instead of a file"
  | .locale => Text.ascii "Message locale, such as en-US"
  | .output => Text.ascii "Log output (default \"-\")"
  | .lesson => Text.ascii "Starlark lesson script to execute"
  | .verbose => Text.ascii "Verbose mode"
  | .write => Text.ascii "Save the program text to a .tom file"

/-- The option with a name. -/
def ofName? (name : Text) : Option Flag := all.find? fun f => f.letter == name

/-- The lines on an option in the usage. -/
def usage (f : Flag) : Text :=
  let head := Text.ascii "  -" ++ f.letter
  match f with
  | .verbose => head ++ Text.ascii "\t" ++ f.purpose ++ Text.ascii "\n"
  | _ => head ++ Text.ascii " string\n    \t" ++ f.purpose ++ Text.ascii "\n"

end Flag

/-- The usage of the program. -/
def usage (program : Text) : Text :=
  Text.ascii "Usage of " ++ program ++ Text.ascii ":\n" ++ (Flag.all.map Flag.usage).flatten

/-- Why arguments are refused; asking for help counts as well. -/
inductive Refusal where
  | help
  | malformed (argument : Text)
  | unknown (name : Text)
  | missingValue (name : Text)
  | notBool (value name : Text)
  deriving DecidableEq, Repr

namespace Refusal

/-- The complaint, if there is one. -/
def message? : Refusal → Option Text
  | .help => none
  | .malformed a => some (Text.ascii "bad flag syntax: " ++ a)
  | .unknown name => some (Text.ascii "flag provided but not defined: -" ++ name)
  | .missingValue name => some (Text.ascii "flag needs an argument: -" ++ name)
  | .notBool value name =>
    some (Text.ascii "invalid boolean value " ++ Text.quote value ++ Text.ascii " for -" ++ name ++
      Text.ascii ": parse error")

end Refusal

/-- The words for true and false. -/
def boolWords : List (Text × Bool) :=
  (["1", "t", "T", "TRUE", "true", "True"].map fun w => (Text.ascii w, true)) ++
    (["0", "f", "F", "FALSE", "false", "False"].map fun w => (Text.ascii w, false))

/-- The words that ask for help. -/
def helpWords : List Text := [Text.ascii "help", Text.ascii "h"]

/-- What an argument is. -/
inductive Argument where
  | plain
  | terminator
  | malformed
  | flag (name : Text) (value : Option Text)
  deriving DecidableEq, Repr

/-- A name cut at its first equals sign, which may not be its first byte. -/
def cutValue (name : Text) : Text × Option Text :=
  match name with
  | [] => ([], none)
  | b :: rest =>
    let equals := Text.byte '='
    match rest.dropWhile (· ≠ equals) with
    | [] => (name, none)
    | _ :: value => (b :: rest.takeWhile (· ≠ equals), some value)

/-- Tell what an argument is. -/
def Argument.ofText (a : Text) : Argument :=
  let dash := Text.byte '-'
  match a with
  | b :: c :: rest =>
    if b ≠ dash then .plain
    else if c = dash && rest.isEmpty then .terminator
    else
      let name := if c = dash then rest else c :: rest
      if name.head? = some dash || name.head? = some (Text.byte '=') then .malformed
      else .flag (cutValue name).1 (cutValue name).2
  | _ => .plain

namespace Options

/-- Set an option that takes a text. -/
def setText (o : Options) (f : Flag) (value : Text) : Options :=
  match f with
  | .compile => { o with compile := value }
  | .expr => { o with expr := value }
  | .locale => { o with locale := value }
  | .output => { o with output := value }
  | .lesson => { o with lesson := value }
  | .write => { o with write := value }
  | .verbose => o

/-- Set an option whose value, if it needs one and has none, is the next argument. The answer also
says whether that argument has been used. -/
def set (o : Options) (name : Text) (value next : Option Text) : Except Refusal (Options × Bool) :=
  match Flag.ofName? name with
  | none => .error (if helpWords.contains name then .help else .unknown name)
  | some .verbose =>
    match value with
    | none => .ok ({ o with verbose := true }, false)
    | some w =>
      match boolWords.lookup w with
      | some b => .ok ({ o with verbose := b }, false)
      | none => .error (.notBool w name)
  | some f =>
    match value, next with
    | some v, _ => .ok (o.setText f v, false)
    | none, some v => .ok (o.setText f v, true)
    | none, none => .error (.missingValue name)

/-- Read options from the front of arguments. The answer also has the arguments that are left. -/
def parse (o : Options) : List Text → Except Refusal (Options × List Text)
  | [] => .ok (o, [])
  | [a] =>
    match Argument.ofText a with
    | .plain => .ok (o, [a])
    | .terminator => .ok (o, [])
    | .malformed => .error (.malformed a)
    | .flag name value =>
      match o.set name value none with
      | .error e => .error e
      | .ok (o, _) => .ok (o, [])
  | a :: b :: rest =>
    match Argument.ofText a with
    | .plain => .ok (o, a :: b :: rest)
    | .terminator => .ok (o, b :: rest)
    | .malformed => .error (.malformed a)
    | .flag name value =>
      match o.set name value (some b) with
      | .error e => .error e
      | .ok (o, true) => o.parse rest
      | .ok (o, false) => o.parse (b :: rest)

end Options

end LineMachine.CommandLine
