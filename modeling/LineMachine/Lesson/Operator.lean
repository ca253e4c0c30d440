import LineMachine.Binary64.Arithmetic
import LineMachine.Lesson.Bitwise
import LineMachine.Lesson.Eval
import LineMachine.Lesson.Format

/-!
# Operators of a lesson

What operators, indices, slices and members do with values. Texts are counted in bytes.
-/

namespace LineMachine.Lesson

/-! ## Operators -/

/-- The text `s` occurs in `t`. -/
def occursIn (s : Text) : Text → Bool
  | [] => s.isEmpty
  | b :: t => s.isPrefixOf (b :: t) || occursIn s t

/-- A value is a member of a container. What cannot be a key is in no dictionary. -/
def isMember (w : World) (a : Value) : Value → Except EvalError Bool
  | .string t =>
    match a with
    | .string s => .ok (occursIn s t)
    | a => .error (.memberOperand "string" "string" a.typeName)
  | .bytes t =>
    match a with
    | .bytes s => .ok (occursIn s t)
    | .int i => if 0 ≤ i && i < 256 then .ok (t.contains i.toNat.toUInt8) else .error (.notByte i)
    | a => .error (.byteOperand a.typeName)
  | .dict id =>
    match w.lookup? id a with
    | .ok found => .ok found.isSome
    | .error _ => .ok false
  | .range r =>
    match a.toInt with
    | .ok i => .ok (r.contains i)
    | .error _ => .error (.memberOperand "range" "integer" a.typeName)
  | .tuple vs => vs.anyM fun v => w.equal v a
  | .list id => (w.items id).anyM fun v => w.equal v a
  | c => .error (.unknownBinary .isIn a.typeName c.typeName)

/-- How often `size` items are to be repeated for the factor `n`. There may be less than `2 ^ 30` items
in all. -/
def repeatCount (size : Nat) (n : Int) : Except EvalError Nat :=
  if size = 0 then .ok 0
  else if !fits32 n then .error (.largeRepeat n)
  else if 0x40000000 ≤ size * n then .error (.excessiveRepeat size n)
  else .ok n.toNat

/-- The items `vs` over and over. -/
def repeated {α : Type} (n : Int) (vs : List α) : Except EvalError (List α) := do
  return (List.replicate (← repeatCount vs.length n) vs).flatten

/-- An integer as a floating number, which has to be finite. -/
def finiteFloat (i : Int) : Except EvalError Binary64 :=
  let x := Binary64.ofInt i
  if x.isInfinite then .error .intTooLarge else .ok x

/-- What an operator does with floating numbers. -/
def floatOperator? : BinaryOp → Option (Binary64 → Binary64 → Except EvalError Binary64)
  | .plus => some fun x y => .ok (x.add y)
  | .minus => some fun x y => .ok (x.sub y)
  | .times => some fun x y => .ok (x.mul y)
  | .divide => some fun x y => if y.isZero then .error .floatDivisionByZero else .ok (x.div y)
  | .floorDivide => some fun x y =>
    if y.isZero then .error .divisionByZero else .ok (x.div y).floor
  | .percent => some fun x y => if y.isZero then .error .floatModuloByZero else .ok (x.modulo y)
  | _ => none

/-- Apply an operator to two numbers, of which an integer is converted first. -/
def applyFloat (op : BinaryOp) (a b : Value) : Except EvalError Value := do
  match floatOperator? op, a, b with
  | some f, .float x, .float y => return .float (← f x y)
  | some f, .float x, .int j => return .float (← f x (← finiteFloat j))
  | some f, .int i, .float y =>
    let x ← finiteFloat i
    return .float (← f x y)
  | some f, .int i, .int j =>
    let x ← finiteFloat i
    let y ← finiteFloat j
    return .float (← f x y)
  | _, a, b => throw (.unknownBinary op a.typeName b.typeName)

/-- The integer of an index or of a number of places, which may have 32 bits. -/
def indexOf : Value → Except EvalError Int
  | .int i => if fits32 i then .ok i else .error (.indexRange i)
  | v => .error (.indexType v.typeName)

/-- The number of places that bits are to be moved by. -/
def shiftCount (isUp : Bool) (v : Value) : Except EvalError Nat := do
  let n ← indexOf v
  if n < 0 then throw (.negativeShift n)
  if isUp && 512 ≤ n then throw (.largeShift n)
  return n.toNat

/-- Apply an operator to its operands. -/
def applyBinary (op : BinaryOp) (a b : Value) : Eval Value := do
  let w ← get
  match op, a, b with
  | .eq, a, b | .ne, a, b | .lt, a, b | .le, a, b | .gt, a, b | .ge, a, b =>
    return .bool (← Eval.check (w.compare World.compareDepth op a b))
  | .isIn, a, b => return .bool (← Eval.check (isMember w a b))
  | .notIn, a, b => return .bool (!(← Eval.check (isMember w a b)))
  | .plus, .int a, .int b => return .int (a + b)
  | .minus, .int a, .int b => return .int (a - b)
  | .times, .int a, .int b => return .int (a * b)
  | .floorDivide, .int a, .int b =>
    if b = 0 then Eval.fail .divisionByZero else return .int (a.fdiv b)
  | .percent, .int a, .int b =>
    if b = 0 then Eval.fail .moduloByZero else return .int (a.fmod b)
  | .pipe, .int a, .int b => return .int (bitOr a b)
  | .pipe, .dict i, .dict j => do
    let id := w.dicts.size
    set { w with dicts := w.dicts.push { entries := w.entries i } }
    Eval.change fun w => (w.entries j).foldlM (fun w e => w.insert id e.1 e.2) w
    return .dict id
  | .amp, .int a, .int b => return .int (bitAnd a b)
  | .caret, .int a, .int b => return .int (bitXor a b)
  | .shiftLeft, .int a, b => return .int (shiftUp a (← Eval.check (shiftCount true b)))
  | .shiftRight, .int a, b => return .int (shiftDown a (← Eval.check (shiftCount false b)))
  | .percent, .string t, v => return .string (← Eval.check (format w t v))
  | .plus, .string a, .string b => return .string (a ++ b)
  | .times, .string t, .int n | .times, .int n, .string t =>
    return .string (← Eval.check (repeated n t))
  | .times, .bytes t, .int n | .times, .int n, .bytes t =>
    return .bytes (← Eval.check (repeated n t))
  | .plus, .tuple a, .tuple b => return .tuple (a ++ b)
  | .times, .tuple vs, .int n | .times, .int n, .tuple vs =>
    return .tuple (← Eval.check (repeated n vs))
  | .plus, .list i, .list j => Eval.newList (w.items i ++ w.items j)
  | .times, .list i, .int n | .times, .int n, .list i =>
    Eval.newList (← Eval.check (repeated n (w.items i)))
  | op, a, b => Eval.check (applyFloat op a b)

/-- Apply an operator to its operand. -/
def applyUnary (op : UnaryOp) (v : Value) : Eval Value := do
  match op, v with
  | .not, v => return .bool (!(← get).truth v)
  | .minus, .int i => return .int (-i)
  | .minus, .float x => return .float x.neg
  | .plus, .int i => return .int i
  | .plus, .float x => return .float x
  | .tilde, .int i => return .int (bitNot i)
  | op, v => Eval.fail (.unknownUnary op v.typeName)

/-! ## Indices and slices -/

/-- An error with what it is about. -/
def about {α : Type} (what : String) : Except EvalError α → Except EvalError α
  | .ok a => .ok a
  | .error e => .error (.within (Text.ascii what) e)

/-- The place of an index in a sequence, where negative ones count from the end. -/
def placeOf (type : String) (size i : Int) : Except EvalError Nat :=
  let j := if i < 0 then i + size else i
  if 0 ≤ j ∧ j < size then .ok j.toNat
  else if size = 0 then .error (.emptyIndex i type)
  else .error (.outOfRange i size type)

/-- The member of a value at an index or under a key. -/
def getIndex (v i : Value) : Eval Value := do
  let w ← get
  match v with
  | .dict id =>
    match ← Eval.check (w.lookup? id i) with
    | some v => return v
    | none => Eval.fail (.missingKey (w.repr i))
  | v =>
    match w.size? v with
    | none => Eval.fail (.notIndexable v.typeName i.typeName)
    | some size =>
      let i ← Eval.check (about (v.typeName ++ " index") (indexOf i))
      let j ← Eval.check (placeOf v.typeName size i)
      match v with
      | .string t => return .string ((t.drop j).take 1)
      | .bytes t => return .bytes ((t.drop j).take 1)
      | .tuple vs => return vs.getD j .none
      | .list id => return (w.items id).getD j .none
      | .range r => return .int (r.item j)
      | _ => return .none

/-- Put a value at an index of a list or under a key of a dictionary. -/
def setIndex (v i new : Value) : Eval Unit := do
  match v with
  | .dict id => Eval.change fun w => w.insert id i new
  | .list id =>
    let i ← Eval.check (indexOf i)
    let j ← Eval.check (placeOf v.typeName ((← get).items id).length i)
    Eval.change fun w => w.changeList id "assign to element of" (·.set j new)
  | v => Eval.fail (.itemAssignment v.typeName)

/-- The bound of a slice: one that is left out is at an end, negative ones count from the end. -/
def boundOf (what : String) (size missing : Int) : Value → Except EvalError Int
  | .none => .ok missing
  | v => do
    let i ← about ("invalid " ++ what ++ " index") (indexOf v)
    return if i < 0 then i + size else i

/-- The places that a slice takes from a sequence. -/
def slicePlaces (size : Int) (low high step : Value) : Except EvalError Range := do
  let step ← match step with
    | .none => pure 1
    | v => about "invalid slice step" (indexOf v)
  if step = 0 then throw .zeroStep
  if 0 < step then
    let start := within (← boundOf "start" size 0 low)
    let stop := within (← boundOf "end" size size high)
    return { start, stop := max start stop, step }
  else
    let start := min (← boundOf "start" size (size - 1) low) (size - 1)
    let stop := max (← boundOf "end" size (-1) high) (-1)
    return { start := max start stop, stop, step }
where
  /-- The place that is nearest to a bound. -/
  within (i : Int) : Int := if i < 0 then 0 else if size < i then size else i

/-- The members of a sequence at some places. -/
def pick {α : Type} (vs : List α) (places : Range) : List α :=
  let a := vs.toArray
  (List.range places.size.toNat).filterMap fun (i : Nat) => a[(places.item i).toNat]?

/-- The part of a sequence that a slice takes. -/
def getSlice (v low high step : Value) : Eval Value := do
  let w ← get
  let places (size : Int) : Eval Range := Eval.check (slicePlaces size low high step)
  match v with
  | .string t => return .string (pick t (← places t.length))
  | .bytes t => return .bytes (pick t (← places t.length))
  | .tuple vs => return .tuple (pick vs (← places vs.length))
  | .list id => Eval.newList (pick (w.items id) (← places (w.items id).length))
  | .range r =>
    let p ← places r.size
    return .range (r.slice p.start p.stop p.step)
  | v => Eval.fail (.notSliceable v.typeName)

/-! ## Members -/

/-- The members that the language knows for the values of a type, which a message may suggest. Of these
lessons have the method `append`. -/
def memberNames : Value → List String
  | .list _ => ["append", "clear", "extend", "index", "insert", "pop", "remove"]
  | .dict _ =>
    ["clear", "get", "items", "keys", "pop", "popitem", "setdefault", "update", "values"]
  | .bytes _ => ["elems"]
  | .string _ =>
    ["capitalize", "codepoint_ords", "codepoints", "count", "elem_ords", "elems", "endswith",
      "find", "format", "index", "isalnum", "isalpha", "isdigit", "islower", "isspace", "istitle",
      "isupper", "join", "lower", "lstrip", "partition", "removeprefix", "removesuffix", "replace",
      "rfind", "rindex", "rpartition", "rsplit", "rstrip", "split", "splitlines", "startswith",
      "strip", "title", "upper"]
  | _ => []

/-- A member of a value. -/
def getMember (v : Value) (x : Text) : Eval Value :=
  let names := (memberNames v).map Text.ascii
  let unknown : Eval Value := Eval.fail (.noMember v.typeName x (if x ∈ names then [] else names))
  match v with
  | .list id =>
    if x = Text.ascii "append" then
      modifyGet fun w => (.append id w.methods, { w with methods := w.methods + 1 })
    else unknown
  | _ => unknown

/-! ## Updates -/

/-- Update a value in the way of an assignment with an operator. A list takes up further items
itself, and a dictionary further entries. -/
def applyUpdate (op : BinaryOp) (a b : Value) : Eval Value := do
  match op, a with
  | .plus, .list id =>
    match (← get).members? b with
    | some m => do
      Eval.change fun w => w.changeList id "apply += to" (· ++ m.toList)
      return a
    | none => applyBinary op a b
  | .pipe, .dict id =>
    match b with
    | .dict j => do
      if 0 < ((← get).dicts.getD id {}).readers then Eval.fail (.dictInUse "apply |= to")
      Eval.change fun w => (w.entries j).foldlM (fun w e => w.insert id e.1 e.2) w
      return a
    | b => applyBinary op a b
  | op, a => applyBinary op a b

end LineMachine.Lesson
