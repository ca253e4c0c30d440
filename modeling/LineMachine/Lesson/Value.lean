import LineMachine.Lesson.EvalError
import LineMachine.Lesson.Range
import LineMachine.Lesson.Scope
import LineMachine.Text.Quoted

/-!
# Values of a lesson

Numbers, texts and tuples are what they are. Lists, dictionaries and functions have an identity: a
value of these kinds is a number, under which the `World` keeps what it holds. So a list that is
changed through one name is seen to change through all.

A list or a dictionary counts the loops that go through it; while there is one it may not be changed.
-/

namespace LineMachine.Lesson

/-- The functions that every lesson knows. -/
inductive Builtin where
  | run | play | reset | register | zx | log | check
  | print | len | range | type | str | repr | bool
  deriving DecidableEq, Repr

namespace Builtin

/-- The name of a function. -/
def name : Builtin → Text
  | .run => Text.ascii "run" | .play => Text.ascii "play" | .reset => Text.ascii "reset"
  | .register => Text.ascii "register" | .zx => Text.ascii "zx" | .log => Text.ascii "log"
  | .check => Text.ascii "check" | .print => Text.ascii "print" | .len => Text.ascii "len"
  | .range => Text.ascii "range" | .type => Text.ascii "type" | .str => Text.ascii "str"
  | .repr => Text.ascii "repr" | .bool => Text.ascii "bool"

/-- All of them. -/
def all : List Builtin :=
  [.run, .play, .reset, .register, .zx, .log, .check, .print, .len, .range, .type, .str, .repr,
    .bool]

end Builtin

/-- A value. -/
inductive Value where
  | none
  | bool (b : Bool)
  | int (i : Int)
  | float (x : Binary64)
  | string (t : Text)
  | bytes (t : Text)
  | tuple (vs : List Value)
  | range (r : Range)
  | list (id : Nat)
  | dict (id : Nat)
  | function (id : Nat)
  | builtin (b : Builtin)
  | append (list id : Nat)

namespace Value

/-- The name of a value's type. -/
def typeName : Value → String
  | .none => "NoneType"
  | .bool _ => "bool"
  | .int _ => "int"
  | .float _ => "float"
  | .string _ => "string"
  | .bytes _ => "bytes"
  | .tuple _ => "tuple"
  | .range _ => "range"
  | .list _ => "list"
  | .dict _ => "dict"
  | .function _ => "function"
  | .builtin _ | .append .. => "builtin_function_or_method"

end Value

/-- The members of a value that a loop can go through, by their places. -/
structure Members where
  size : Nat
  item : Nat → Value

namespace Members

/-- The members of a list of values. -/
def ofList (vs : List Value) : Members :=
  let a := vs.toArray
  ⟨a.size, fun i => a.getD i .none⟩

/-- All members. -/
def toList (m : Members) : List Value := (List.range m.size).map m.item

end Members

/-- What a list holds, and how many loops are going through it. -/
structure ListCell where
  items : List Value := []
  readers : Nat := 0

/-- What a dictionary holds, and how many loops are going through it. -/
structure DictCell where
  entries : List (Value × Value) := []
  readers : Nat := 0

/-- The parameters of a function: those that may be given by their places, those that have to be given
by their names, the values of optional ones, and the names under which further arguments and further
named ones are taken up. -/
structure Signature where
  positional : List Text := []
  keywordOnly : List Text := []
  defaults : List (Text × Value) := []
  rest : Option Text := none
  others : Option Text := none

/-- A function that a lesson defines. The position of its definition tells it from others; `frames`
are the frames around it, the innermost one first. -/
structure Function where
  position : Position
  name : Text
  signature : Signature
  body : List Statement
  locals : List Text
  frames : List Nat

/-- What a running lesson has made so far. A frame holds the names of a call or a comprehension, some
of which may have no value yet. `methods` is the number of methods that have been taken from values. -/
structure World where
  globals : List (Text × Value) := []
  frames : Array (List (Text × Option Value)) := #[]
  lists : Array ListCell := #[]
  dicts : Array DictCell := #[]
  functions : Array Function := #[]
  methods : Nat := 0

namespace World

/-- The items of a list. -/
def items (w : World) (id : Nat) : List Value := (w.lists.getD id {}).items

/-- The entries of a dictionary. -/
def entries (w : World) (id : Nat) : List (Value × Value) := (w.dicts.getD id {}).entries

/-! ## Text -/

/-- How deep values may be nested when they are written out. -/
def textDepth : Nat := 10000

/-- Texts with commas between them. -/
def commas (ts : List Text) : Text := Text.join (Text.ascii ", ") ts

/-- A value as it is written inside another one. `lists` and `dicts` are those that it stands in; they
are not written a second time. -/
def textIn (w : World) : Nat → List Nat → List Nat → Value → Text
  | 0, _, _, _ => Text.ascii "..."
  | n + 1, lists, dicts, v =>
    match v with
    | .none => Text.ascii "None"
    | .bool b => if b then Text.ascii "True" else Text.ascii "False"
    | .int i => Text.ofInt i
    | .float x => x.text
    | .string t => Text.quote t
    | .bytes t => Text.byte 'b' :: Text.quote t
    | .tuple [v] => Text.ascii "(" ++ w.textIn n lists dicts v ++ Text.ascii ",)"
    | .tuple vs => Text.ascii "(" ++ commas (vs.map (w.textIn n lists dicts)) ++ Text.ascii ")"
    | .range r => r.text
    | .list id =>
      let inside :=
        if lists.contains id then Text.ascii "..."
        else commas ((w.items id).map (w.textIn n (id :: lists) dicts))
      Text.ascii "[" ++ inside ++ Text.ascii "]"
    | .dict id =>
      let inside :=
        if dicts.contains id then Text.ascii "..."
        else commas ((w.entries id).map fun (k, v) =>
          w.textIn n lists (id :: dicts) k ++ Text.ascii ": " ++ w.textIn n lists (id :: dicts) v)
      Text.ascii "\x7b" ++ inside ++ Text.ascii "\x7d"
    | .function id =>
      Text.ascii "<function " ++ ((w.functions[id]?).map (·.name)).getD [] ++ Text.ascii ">"
    | .builtin b => Text.ascii "<built-in function " ++ b.name ++ Text.ascii ">"
    | .append .. => Text.ascii "<built-in method append of list value>"

/-- A value as it is written. -/
def repr (w : World) (v : Value) : Text := w.textIn textDepth [] [] v

/-- A value as it is printed: a text is not quoted. -/
def text (w : World) : Value → Text
  | .string t | .bytes t => t
  | v => w.repr v

/-! ## Truth and order -/

/-- The members of a value that a loop can go through. -/
def members? (w : World) : Value → Option Members
  | .tuple vs => some (Members.ofList vs)
  | .range r => some ⟨r.size.toNat, fun i => .int (r.item i)⟩
  | .list id => some (Members.ofList (w.items id))
  | .dict id => some (Members.ofList ((w.entries id).map Prod.fst))
  | _ => none

/-- The size of a value that has one. -/
def size? (w : World) : Value → Option Int
  | .string t | .bytes t => some t.length
  | .tuple vs => some vs.length
  | .range r => some r.size
  | .list id => some (w.items id).length
  | .dict id => some (w.entries id).length
  | _ => none

/-- A value counts as true. -/
def truth (w : World) : Value → Bool
  | .none => false
  | .bool b => b
  | .int i => i ≠ 0
  | .float x => !x.isZero
  | v =>
    match w.size? v with
    | some n => 0 < n
    | none => true

/-- How deep values may be nested when they are compared. -/
def compareDepth : Nat := 10

/-- A comparison of two values, as it follows from how they compare. -/
def holds (op : BinaryOp) (o : Ordering) : Bool :=
  match op with
  | .eq => o == .eq
  | .ne => o != .eq
  | .lt => o == .lt
  | .le => o != .gt
  | .gt => o == .gt
  | .ge => o != .lt
  | _ => false

/-- How two texts compare: the first byte in which they differ decides. -/
def compareTexts : Text → Text → Ordering
  | [], [] => .eq
  | [], _ :: _ => .lt
  | _ :: _, [] => .gt
  | a :: s, b :: t => if a < b then .lt else if b < a then .gt else compareTexts s t

/-- How two integers compare. -/
def compareInts (a b : Int) : Ordering := if a < b then .lt else if a = b then .eq else .gt

/-- Equal or not, for values without an order. -/
def identity (op : BinaryOp) (a b : Value) (same : Bool) : Except EvalError Bool :=
  match op with
  | .eq => .ok same
  | .ne => .ok !same
  | _ => .error (.notOrdered op a.typeName b.typeName)

/-- Compare two sequences by the first pair that is not equal, else by their lengths. -/
def compareLists (cmp : BinaryOp → Value → Value → Except EvalError Bool) (op : BinaryOp) :
    List Value → List Value → Except EvalError Bool
  | a :: s, b :: t => do
    if ← cmp .eq a b then compareLists cmp op s t
    else match op with
      | .eq => return false
      | .ne => return true
      | op => cmp op a b
  | s, t => .ok (holds op (compareInts s.length t.length))

/-- Two dictionaries have the same keys with equal values. -/
def sameEntries (cmp : Value → Value → Except EvalError Bool) (d : List (Value × Value)) :
    List (Value × Value) → Except EvalError Bool
  | [] => .ok true
  | (k, v) :: rest => do
    match ← d.findM? fun e => cmp e.1 k with
    | some e => if ← cmp v e.2 then sameEntries cmp d rest else return false
    | none => return false

/-- Compare two values. Numbers compare with each other; all else compares within its type. -/
def compare (w : World) : Nat → BinaryOp → Value → Value → Except EvalError Bool
  | 0, _, _, _ => .error .comparisonDepth
  | n + 1, op, a, b =>
    let ordered (o : Ordering) : Except EvalError Bool := .ok (holds op o)
    let sequences (s t : List Value) : Except EvalError Bool :=
      if s.length ≠ t.length && (op == .eq || op == .ne) then .ok (op == .ne)
      else compareLists (w.compare n) op s t
    match a, b with
    | .int a, .int b => ordered (compareInts a b)
    | .float a, .float b => ordered (a.compare b)
    | .int a, .float b => ordered (Binary64.compareInt a b)
    | .float a, .int b => ordered (Binary64.compareInt b a).swap
    | .bool a, .bool b => ordered (compareInts a.toNat b.toNat)
    | .string a, .string b | .bytes a, .bytes b => ordered (compareTexts a b)
    | .tuple s, .tuple t => sequences s t
    | .list i, .list j => sequences (w.items i) (w.items j)
    | .dict i, .dict j =>
      let d := w.entries i
      let e := w.entries j
      if op == .eq || op == .ne then do
        let same ← if d.length = e.length then sameEntries (w.compare n .eq) e d else pure false
        return same == (op == .eq)
      else .error (.notOrdered op a.typeName b.typeName)
    | .range r, .range s => identity op a b (r.sameMembers s)
    | .function i, .function j => identity op a b (i == j)
    | .builtin f, .builtin g => identity op a b (f == g)
    | .append _ i, .append _ j => identity op a b (i == j)
    | .none, .none => identity op a b true
    | a, b => identity op a b false

/-- Two values are equal. -/
def equal (w : World) (a b : Value) : Except EvalError Bool := w.compare compareDepth .eq a b

/-! ## Keys -/

/-- A value may be a key unless it can change or is a range. -/
def requireKey : Value → Except EvalError Unit
  | .list _ => .error (.unhashable "list")
  | .dict _ => .error (.unhashable "dict")
  | .range _ => .error .rangeKey
  | .tuple vs => requireKeys vs
  | _ => .ok ()
where
  /-- All of several values may be keys. -/
  requireKeys : List Value → Except EvalError Unit
    | [] => .ok ()
    | v :: vs => do
      requireKey v
      requireKeys vs

/-- The value under a key. -/
def lookup? (w : World) (id : Nat) (key : Value) : Except EvalError (Option Value) := do
  requireKey key
  return (← (w.entries id).findM? fun e => w.equal e.1 key).map Prod.snd

/-- Put a value under a key, in the place of a former one or at the end, unless a loop is going through
the dictionary. -/
def insert (w : World) (id : Nat) (key value : Value) : Except EvalError World := do
  let cell := w.dicts.getD id {}
  if 0 < cell.readers then throw (.dictInUse "insert into")
  let entries ← match ← w.lookup? id key with
    | some _ =>
      cell.entries.mapM fun e => do if ← w.equal e.1 key then return (e.1, value) else return e
    | none => pure (cell.entries ++ [(key, value)])
  return { w with dicts := w.dicts.setIfInBounds id { cell with entries } }

/-! ## Lists -/

/-- A new list. -/
def newList (w : World) (items : List Value) : Value × World :=
  (.list w.lists.size, { w with lists := w.lists.push { items } })

/-- Change what a list holds, unless a loop is going through it. -/
def changeList (w : World) (id : Nat) (doing : String) (f : List Value → List Value) :
    Except EvalError World :=
  let cell := w.lists.getD id {}
  if 0 < cell.readers then .error (.listInUse doing)
  else .ok { w with lists := w.lists.setIfInBounds id { cell with items := f cell.items } }

/-- Note that a loop starts or stops going through a value. -/
def countReaders (w : World) (f : Nat → Nat) : Value → World
  | .list id =>
    { w with lists := w.lists.modify id fun cell => { cell with readers := f cell.readers } }
  | .dict id =>
    { w with dicts := w.dicts.modify id fun cell => { cell with readers := f cell.readers } }
  | _ => w

end World

end LineMachine.Lesson
