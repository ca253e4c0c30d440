import LineMachine.Lesson.Value

/-!
# Formats

A format is a text with places in it, each of which is filled with a value in the way that a letter
says. A place takes the next one of the given values or, if it names a key, the value under this key
of a given dictionary. There have to be as many values as places; a dictionary may be left unused.
-/

namespace LineMachine.Lesson

/-- A piece of a format. A place may have a key, and its letter is missing if the format ends before
it. -/
inductive FormatPiece where
  | plain (b : UInt8)
  | place (key : Option Text) (letter : Option UInt8)
  | openKey
  deriving DecidableEq, Repr

/-- A step of `Text.scan` that reads one piece of a format. -/
def formatStep (b : UInt8) (t : Text) : FormatPiece × Nat :=
  if b ≠ Text.byte '%' then (.plain b, 0)
  else if t.head? = some (Text.byte '%') then (.plain b, 1)
  else if t.head? = some (Text.byte '(') then
    let key := t.tail.takeWhile (· ≠ Text.byte ')')
    match t.tail.drop key.length with
    | [] => (.openKey, t.length)
    | _ :: rest => (.place (some key) rest.head?, key.length + 2 + (rest.take 1).length)
  else (.place none t.head?, (t.take 1).length)

namespace Value

/-- The integer part of a number. -/
def toInt : Value → Except EvalError Int
  | .int i => .ok i
  | .float x =>
    match x.toInt? with
    | some i => .ok i
    | .none => .error (if x.isInfinite then .infiniteInteger else .nanInteger)
  | v => .error (.notInteger v.typeName)

/-- The floating number nearest to a number. -/
def toFloat? : Value → Option Binary64
  | .int i => some (.ofInt i)
  | .float x => some x
  | _ => .none

end Value

/-- An integer with its sign and digits in some base. -/
def inBase (base : Nat) : Int → Text
  | .ofNat n => Text.digits base n
  | .negSucc n => Text.byte '-' :: Text.digits base (n + 1)

/-- A text with capital letters. -/
def inCapitals (t : Text) : Text :=
  t.map fun b => if Text.byte 'a' ≤ b && b ≤ Text.byte 'z' then b - 32 else b

/-- A value as a single character. -/
def character : Value → Except EvalError Text
  | .int i =>
    if i < 0 || 0x10FFFF < i then .error (.formatCodePoint i)
    else if 0xD800 ≤ i && i ≤ 0xDFFF then .ok Text.replacement
    else .ok (Text.encodeScalar i.toNat)
  | .string t =>
    match Text.pieces t with
    | [.scalar _ encoding] => .ok encoding
    | [.stray _] => .ok Text.replacement
    | _ => .error .formatCharacter
  | v => .error (.formatCharacterType v.typeName)

/-- A value in the way that a letter says. -/
def convert (w : World) (c : UInt8) (v : Value) : Except EvalError Text :=
  let integer (write : Int → Text) : Except EvalError Text :=
    match v.toInt with
    | .ok i => .ok (write i)
    | .error e => .error (.formatInt c e)
  let floating (write : Binary64 → Text) : Except EvalError Text :=
    match v.toFloat? with
    | some x => .ok (write x)
    | none => .error (.formatFloat c v.typeName)
  match Char.ofNat c.toNat with
  | 's' => .ok (match v with | .string t => t | v => w.repr v)
  | 'r' => .ok (w.repr v)
  | 'd' | 'i' => integer Text.ofInt
  | 'o' => integer (inBase 8)
  | 'x' => integer (inBase 16)
  | 'X' => integer fun i => inCapitals (inBase 16 i)
  | 'e' => floating (Binary64.exponential 'e')
  | 'E' => floating (Binary64.exponential 'E')
  | 'f' => floating Binary64.fixed
  | 'F' => floating (Binary64.withSign fun _ _ => Text.ascii "%F")
  | 'g' => floating (Binary64.general 'e')
  | 'G' => floating (Binary64.general 'E')
  | 'c' => character v
  | '%' => .ok (Text.ascii "%")
  | _ => .error (.formatUnknown c)

/-- The value for a place: the one under a key of the operand, or the next one of `vs`. -/
def placeValue (w : World) (operand : Value) (vs : List Value) :
    Option Text → Except EvalError Value
  | none =>
    match vs with
    | v :: _ => .ok v
    | [] => .error .formatTooFew
  | some key =>
    match operand with
    | .dict id => do
      match ← w.lookup? id (.string key) with
      | some v => return v
      | none => throw (.formatKey key)
    | _ => .error .formatMapping

/-- Fill the places of a format with values. The text so far is in `acc`, the last part first. -/
def fillFormat (w : World) (operand : Value) :
    List Text → List FormatPiece → List Value → Except EvalError Text
  | acc, [], [] => .ok acc.reverse.flatten
  | acc, [], _ :: _ =>
    match operand with
    | .dict _ => .ok acc.reverse.flatten
    | _ => .error .formatTooMany
  | acc, .plain b :: ps, vs => fillFormat w operand ([b] :: acc) ps vs
  | _, .openKey :: _, _ => .error .formatKeyEnd
  | acc, .place key letter :: ps, vs => do
    let v ← placeValue w operand vs key
    match letter with
    | none => throw .formatEnd
    | some c => fillFormat w operand ((← convert w c v) :: acc) ps vs.tail

/-- The format `t` filled with a value, or with the members of a tuple. -/
def format (w : World) (t : Text) (v : Value) : Except EvalError Text :=
  fillFormat w v [] (Text.scan formatStep t) (match v with | .tuple vs => vs | v => [v])

end LineMachine.Lesson
