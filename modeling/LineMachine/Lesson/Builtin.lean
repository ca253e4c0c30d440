import LineMachine.Lesson.Dialogue
import LineMachine.Machine.Run

/-!
# Functions that every lesson knows

The arguments of a call are checked in a fixed order: the number of positional ones, their types, the
named ones one after the other, and at last whether one is missing. A call whose arguments are accepted
is a request, and only a request can bring anything about.
-/

namespace LineMachine.Lesson

/-! ## Arguments -/

/-- A parameter of a function that every lesson knows. -/
structure Slot where
  name : Text
  isText : Bool := true
  isOptional : Bool := false

namespace Slot

/-- The value fits the parameter, which is called so in messages. -/
def accept (f label : Text) (s : Slot) (v : Value) : Except EvalError Unit :=
  match s.isText, v with
  | false, _ | true, .string _ => .ok ()
  | true, v => .error (.argumentType f label v.typeName "string")

/-- Fill parameters with positional arguments. -/
def fill (f : Text) : List Slot → List Value → Except EvalError (List (Slot × Option Value))
  | [], _ => .ok []
  | s :: ss, [] => do return (s, none) :: (← fill f ss [])
  | s :: ss, v :: vs => do
    s.accept f s.name v
    return (s, some v) :: (← fill f ss vs)

/-- Put a named argument into its place. -/
def put (f x : Text) (v : Value) :
    List (Slot × Option Value) → Except EvalError (Option (List (Slot × Option Value)))
  | [] => .ok none
  | (s, former) :: rest => do
    if s.name = x then
      if former.isSome then throw (.repeatedArgument f x)
      s.accept f (EvalError.quoted x) v
      return some ((s, some v) :: rest)
    else return (← put f x v rest).map ((s, former) :: ·)

/-- Fill parameters with named arguments. Only the name of the first parameter is suggested in the
place of an unknown one. -/
def fillNamed (f : Text) :
    List (Slot × Option Value) → List (Text × Value) →
      Except EvalError (List (Slot × Option Value))
  | slots, [] => .ok slots
  | slots, (x, v) :: named => do
    match ← put f x v slots with
    | some slots => fillNamed f slots named
    | none => throw (.unexpectedKeyword f x ((slots.take 1).map (·.1.name)))

/-- The values of parameters for the arguments of a call. -/
def unpack (f : Text) (slots : List Slot) (args : List Value) (named : List (Text × Value)) :
    Except EvalError (List (Option Value)) := do
  if slots.length < args.length then
    throw (.tooManyArguments f args.length "at most " slots.length)
  let filled ← fillNamed f (← fill f slots args) named
  match filled.find? fun s => !s.1.isOptional && s.2.isNone with
  | some s => throw (.missingArgument f s.1.name)
  | none => return filled.map Prod.snd

end Slot

/-- The text in a value. -/
def textOf : Option (Option Value) → Text
  | some (some (.string t)) => t
  | _ => []

/-- The number of positional arguments is right, and there are no named ones. -/
def positional (f : Text) (least most : Nat) (args : List Value) (named : List (Text × Value)) :
    Except EvalError Unit := do
  unless named.isEmpty do throw (.unexpectedKeywords f)
  if args.length < least then
    throw (.tooFewArguments f args.length (if least < most then "at least " else "") least)
  if most < args.length then
    throw (.tooManyArguments f args.length (if least < most then "at most " else "") most)

/-- There is one argument. -/
def single (f : Text) (limit : String) (args : List Value) : Except EvalError Value :=
  match args with
  | [v] => .ok v
  | _ => .error (.tooManyArguments f args.length limit 1)

/-- The integers among arguments, all of which have to be integers of 64 bits. -/
def integers (f : Text) : Nat → List Value → Except EvalError (List Int)
  | _, [] => .ok []
  | i, .int n :: vs => do
    if !fits64 n then throw (.argumentRange f (Text.ofNat i) n)
    return n :: (← integers f (i + 1) vs)
  | i, v :: _ => .error (.argumentType f (Text.ofNat i) v.typeName "int")

/-! ## Functions that every lesson knows -/

/-- The names that every lesson knows. -/
def wellKnown : List (Text × Value) :=
  [(Text.ascii "None", .none), (Text.ascii "True", .bool true), (Text.ascii "False", .bool false),
    (Text.ascii "COMMAND_LIMIT", .int Machine.commandLimit),
    (Text.ascii "REGISTER_MAX", .int Register.greatest)] ++
    Builtin.all.map fun b => (b.name, .builtin b)

/-- The parameters of the functions whose arguments may be named. Of `print` these are the named ones
only. -/
def Builtin.parameters : Builtin → List Slot
  | .run => [{ name := Text.ascii "code" }]
  | .register => [{ name := Text.ascii "name" }]
  | .check =>
    [{ name := Text.ascii "cond", isText := false },
      { name := Text.ascii "msg", isOptional := true }]
  | .print => [{ name := Text.ascii "sep", isOptional := true }]
  | _ => []

/-! ## Requests -/

/-- What an accepted call asks for. The functions that have nothing to do with the emulator ask for
their value. -/
inductive Request where
  | run (code place : Text)
  | play (place : Text)
  | reset
  | register (r : Register)
  | zx
  | log
  | check (holds : Bool) (message place : Text)
  | print (line : Text)
  | value (v : Value)

namespace Call

/-- The values of the parameters. -/
def arguments (c : Call) : Except EvalError (List (Option Value)) :=
  Slot.unpack c.function.name c.function.parameters c.args c.named

/-- The size of a value. -/
def len (c : Call) (w : World) : Except EvalError Value := do
  positional c.function.name 1 1 c.args c.named
  let v ← single c.function.name "" c.args
  match w.size? v with
  | some n => if n < 0 then throw (.noLength v.typeName) else return .int n
  | none => throw (.noLength v.typeName)

/-- Integers at equal distances. -/
def range (c : Call) : Except EvalError Value := do
  positional c.function.name 1 3 c.args c.named
  match ← integers c.function.name 1 c.args with
  | [stop] => return .range { start := 0, stop }
  | [start, stop] => return .range { start, stop }
  | start :: stop :: step :: _ =>
    if step = 0 then throw .zeroRangeStep
    return .range { start, stop, step }
  | [] => return .range { start := 0, stop := 0 }

/-- The only argument, which may not be named. -/
def exactlyOne (c : Call) : Except EvalError Value := do
  unless c.named.isEmpty do throw (.noKeywords c.function.name)
  single c.function.name "exactly " c.args

/-- A value as it is printed. Stray bytes are replaced. -/
def str (c : Call) (w : World) : Except EvalError Value := do
  match ← c.exactlyOne with
  | .bytes t => return .string (Text.replaceStray t)
  | v => return .string (w.text v)

/-- A value as it is written. -/
def repr (c : Call) (w : World) : Except EvalError Value := do
  positional c.function.name 1 1 c.args c.named
  return .string (w.repr (← single c.function.name "" c.args))

/-- Whether a value counts as true. -/
def bool (c : Call) (w : World) : Except EvalError Value := do
  positional c.function.name 0 1 c.args c.named
  match c.args with
  | v :: _ => return .bool (w.truth v)
  | [] => return .bool false

/-- What a call asks for in a world, if it is accepted. -/
def request (c : Call) (w : World) : Except EvalError Request := do
  match c.function with
  | .run =>
    let vs ← c.arguments
    return .run (textOf vs[0]?) c.place
  | .play =>
    let _ ← c.arguments
    return .play c.place
  | .reset =>
    let _ ← c.arguments
    return .reset
  | .register =>
    let vs ← c.arguments
    let x := textOf vs[0]?
    match Register.ofName? x with
    | none => throw (.unknownRegister x)
    | some r => return .register r
  | .zx =>
    let _ ← c.arguments
    return .zx
  | .log =>
    let _ ← c.arguments
    return .log
  | .check =>
    let vs ← c.arguments
    let holds := match vs[0]? with
      | some (some v) => w.truth v
      | _ => false
    return .check holds (textOf vs[1]?) c.place
  | .print =>
    let vs ← { c with args := [] }.arguments
    let sep := match vs with
      | some (.string t) :: _ => t
      | _ => Text.ascii " "
    return .print (Text.join sep (c.args.map w.text))
  | .len => return .value (← c.len w)
  | .range => return .value (← c.range)
  | .type => return .value (.string (Text.ascii (← c.exactlyOne).typeName))
  | .str => return .value (← c.str w)
  | .repr => return .value (← c.repr w)
  | .bool => return .value (← c.bool w)

end Call

/-- The value of a request, read off the machine after it has been done. -/
def Request.result (w : World) (m : Machine) : Request → Value × World
  | .register r => (.int (m.registers.read r), w)
  | .zx => (.int m.zx, w)
  | .log => w.newList (m.log.toList.map fun e => .string e.text)
  | .value v => (v, w)
  | .run .. | .play _ | .reset | .check .. | .print _ => (.none, w)

end LineMachine.Lesson
