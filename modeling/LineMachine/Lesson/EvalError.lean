import LineMachine.Lesson.Spelling
import LineMachine.Lesson.Statement
import LineMachine.Text.Decimal
import LineMachine.Text.Utf8

/-!
# What goes wrong while a lesson runs

The causes for which a running lesson is given up, and their wording. Types of values are named as
lessons see them.
-/

namespace LineMachine.Lesson

/-- Why a running lesson is given up. -/
inductive EvalError where
  | unknownRegister (x : Text)
  | tooManyArguments (f : Text) (got : Nat) (limit : String) (most : Nat)
  | tooFewArguments (f : Text) (got : Nat) (limit : String) (least : Nat)
  | argumentType (f parameter : Text) (got want : String)
  | argumentRange (f parameter : Text) (i : Int)
  | repeatedArgument (f x : Text)
  | unexpectedKeyword (f x : Text) (known : List Text)
  | unexpectedKeywords (f : Text)
  | noKeywords (f : Text)
  | missingArgument (f x : Text)
  | noArguments (f : Text) (given : Nat)
  | positionalArguments (f : Text) (hasDefaults : Bool) (accepted given : Nat)
  | repeatedParameter (f x : Text)
  | unexpectedParameter (f x : Text)
  | missingParameters (f : Text) (names : List Text)
  | notMapping (type : String)
  | keywordType (type : String)
  | notSequenceArgument (type : String)
  | recursion (f : Text)
  | notFunction (type : String)
  | noMember (type : String) (x : Text) (known : List Text)
  | memberAssignment (type : String) (x : Text)
  | loadRefused
  | notIterable (type : String)
  | unassigned (scope : String) (x : Text)
  | unknownBinary (op : BinaryOp) (left right : String)
  | unknownUnary (op : UnaryOp) (type : String)
  | notOrdered (op : BinaryOp) (left right : String)
  | comparisonDepth
  | memberOperand (container wanted got : String)
  | byteOperand (got : String)
  | notByte (i : Int)
  | divisionByZero
  | moduloByZero
  | floatDivisionByZero
  | floatModuloByZero
  | intTooLarge
  | notInteger (type : String)
  | infiniteInteger
  | nanInteger
  | negativeShift (i : Int)
  | largeShift (i : Int)
  | largeRepeat (i : Int)
  | excessiveRepeat (size : Nat) (i : Int)
  | indexType (got : String)
  | indexRange (i : Int)
  | emptyIndex (i : Int) (type : String)
  | outOfRange (i size : Int) (type : String)
  | notIndexable (type index : String)
  | itemAssignment (type : String)
  | missingKey (key : Text)
  | repeatedKey (key : Text)
  | unhashable (type : String)
  | rangeKey
  | notSliceable (type : String)
  | zeroStep
  | zeroRangeStep
  | listInUse (doing : String)
  | dictInUse (doing : String)
  | noLength (type : String)
  | notSequence (type : String)
  | unpacking (tooMany : Bool) (got want : Nat)
  | formatEnd
  | formatKeyEnd
  | formatMapping
  | formatKey (key : Text)
  | formatUnknown (c : UInt8)
  | formatInt (c : UInt8) (e : EvalError)
  | formatFloat (c : UInt8) (type : String)
  | formatCodePoint (i : Int)
  | formatCharacter
  | formatCharacterType (type : String)
  | formatTooFew
  | formatTooMany
  | within (f : Text) (e : EvalError)
  | tooDeep
  deriving DecidableEq, Repr

namespace EvalError

/-- A text in double quotes. -/
def quoted (t : Text) : Text := Text.ascii "\"" ++ t ++ Text.ascii "\""

/-- The plural ending for a count. -/
def plural (n : Nat) : Text := if n = 1 then [] else Text.ascii "s"

/-- The wording of an error. -/
def message : EvalError → Text
  | .unknownRegister x => Text.ascii "'" ++ x ++ Text.ascii "' is not a register"
  | .tooManyArguments f got limit n | .tooFewArguments f got limit n =>
    f ++ Text.ascii ": got " ++ Text.ofNat got ++ Text.ascii " arguments, want " ++
      Text.ascii limit ++ Text.ofNat n
  | .argumentType f p got want =>
    f ++ Text.ascii ": for parameter " ++ p ++ Text.ascii (": got " ++ got ++ ", want " ++ want)
  | .argumentRange f p i =>
    f ++ Text.ascii ": for parameter " ++ p ++ Text.ascii ": " ++ Text.ofInt i ++
      Text.ascii " out of range (want value in signed 64-bit range)"
  | .repeatedArgument f x =>
    f ++ Text.ascii ": got multiple values for keyword argument " ++ quoted x
  | .unexpectedKeyword f x known =>
    f ++ Text.ascii ": unexpected keyword argument " ++ quoted x ++ Spelling.hint "" x known
  | .unexpectedKeywords f => f ++ Text.ascii ": unexpected keyword arguments"
  | .noKeywords f => f ++ Text.ascii " does not accept keyword arguments"
  | .missingArgument f x => f ++ Text.ascii ": missing argument for " ++ x
  | .noArguments f n =>
    Text.ascii "function " ++ f ++ Text.ascii " accepts no arguments (" ++ Text.ofNat n ++
      Text.ascii " given)"
  | .positionalArguments f hasDefaults n given =>
    Text.ascii "function " ++ f ++ Text.ascii " accepts " ++
      (if hasDefaults then Text.ascii "at most " else []) ++ Text.ofNat n ++
      Text.ascii " positional argument" ++ plural n ++ Text.ascii " (" ++ Text.ofNat given ++
      Text.ascii " given)"
  | .repeatedParameter f x =>
    Text.ascii "function " ++ f ++ Text.ascii " got multiple values for parameter " ++ quoted x
  | .unexpectedParameter f x =>
    Text.ascii "function " ++ f ++ Text.ascii " got an unexpected keyword argument " ++ quoted x
  | .missingParameters f xs =>
    Text.ascii "function " ++ f ++ Text.ascii " missing " ++ Text.ofNat xs.length ++
      Text.ascii " argument" ++ plural xs.length ++ Text.ascii " (" ++
      Text.join (Text.ascii ", ") xs ++ Text.ascii ")"
  | .notMapping t => Text.ascii ("argument after ** must be a mapping, not " ++ t)
  | .keywordType t => Text.ascii ("keywords must be strings, not " ++ t)
  | .notSequenceArgument t => Text.ascii ("argument after * must be iterable, not " ++ t)
  | .recursion f => Text.ascii "function " ++ f ++ Text.ascii " called recursively"
  | .notFunction t => Text.ascii ("invalid call of non-function (" ++ t ++ ")")
  | .noMember t x known =>
    Text.ascii t ++ Text.ascii " has no ." ++ x ++ Text.ascii " field or method" ++
      Spelling.hint "." x known
  | .memberAssignment t x =>
    Text.ascii "can't assign to ." ++ x ++ Text.ascii " field of " ++ Text.ascii t
  | .loadRefused => Text.ascii "load not implemented by this application"
  | .notIterable t => Text.ascii (t ++ " value is not iterable")
  | .unassigned scope x =>
    Text.ascii scope ++ Text.ascii " variable " ++ x ++ Text.ascii " referenced before assignment"
  | .unknownBinary op a b =>
    Text.ascii ("unknown binary op: " ++ a ++ " " ++ op.spelling ++ " " ++ b)
  | .unknownUnary op a => Text.ascii ("unknown unary op: " ++ op.spelling ++ " " ++ a)
  | .notOrdered op a b => Text.ascii (a ++ " " ++ op.spelling ++ " " ++ b ++ " not implemented")
  | .comparisonDepth => Text.ascii "comparison exceeded maximum recursion depth"
  | .memberOperand container wanted got =>
    Text.ascii ("'in <" ++ container ++ ">' requires " ++ wanted ++ " as left operand, not " ++ got)
  | .byteOperand got =>
    Text.ascii ("'in bytes' requires bytes or int as left operand, not " ++ got)
  | .notByte i =>
    Text.ascii "int in bytes: " ++ Text.ofInt i ++
      Text.ascii " out of range (want value in unsigned 8-bit range)"
  | .divisionByZero => Text.ascii "floored division by zero"
  | .moduloByZero => Text.ascii "integer modulo by zero"
  | .floatDivisionByZero => Text.ascii "floating-point division by zero"
  | .floatModuloByZero => Text.ascii "floating-point modulo by zero"
  | .intTooLarge => Text.ascii "int too large to convert to float"
  | .notInteger t => Text.ascii ("cannot convert " ++ t ++ " to int")
  | .infiniteInteger => Text.ascii "cannot convert float infinity to integer"
  | .nanInteger => Text.ascii "cannot convert float NaN to integer"
  | .negativeShift i => Text.ascii "negative shift count: " ++ Text.ofInt i
  | .largeShift i => Text.ascii "shift count too large: " ++ Text.ofInt i
  | .largeRepeat i => Text.ascii "repeat count " ++ Text.ofInt i ++ Text.ascii " too large"
  | .excessiveRepeat n i =>
    Text.ascii "excessive repeat (" ++ Text.ofNat n ++ Text.ascii " * " ++ Text.ofInt i ++
      Text.ascii " elements)"
  | .indexType got => Text.ascii ("got " ++ got ++ ", want int")
  | .indexRange i => Text.ofInt i ++ Text.ascii " out of range"
  | .emptyIndex i t =>
    Text.ascii "index " ++ Text.ofInt i ++ Text.ascii (" out of range: empty " ++ t)
  | .outOfRange i n t =>
    Text.ascii t ++ Text.ascii " index " ++ Text.ofInt i ++ Text.ascii " out of range [" ++
      Text.ofInt (-n) ++ Text.ascii ":" ++ Text.ofInt (n - 1) ++ Text.ascii "]"
  | .notIndexable t i => Text.ascii ("unhandled index operation " ++ t ++ "[" ++ i ++ "]")
  | .itemAssignment t => Text.ascii (t ++ " value does not support item assignment")
  | .missingKey k => Text.ascii "key " ++ k ++ Text.ascii " not in dict"
  | .repeatedKey k => Text.ascii "duplicate key: " ++ k
  | .unhashable t => Text.ascii ("unhashable type: " ++ t)
  | .rangeKey => Text.ascii "unhashable: range"
  | .notSliceable t => Text.ascii ("invalid slice operand " ++ t)
  | .zeroStep => Text.ascii "zero is not a valid slice step"
  | .zeroRangeStep => Text.ascii "range: step argument must not be zero"
  | .listInUse doing => Text.ascii ("cannot " ++ doing ++ " list during iteration")
  | .dictInUse doing => Text.ascii ("cannot " ++ doing ++ " hash table during iteration")
  | .noLength t => Text.ascii ("len: value of type " ++ t ++ " has no len")
  | .notSequence t => Text.ascii ("got " ++ t ++ " in sequence assignment")
  | .unpacking tooMany got want =>
    Text.ascii (if tooMany then "too many" else "too few") ++ Text.ascii " values to unpack (got " ++
      Text.ofNat got ++ Text.ascii ", want " ++ Text.ofNat want ++ Text.ascii ")"
  | .formatEnd => Text.ascii "incomplete format"
  | .formatKeyEnd => Text.ascii "incomplete format key"
  | .formatMapping => Text.ascii "format requires a mapping"
  | .formatKey key => Text.ascii "key not found: " ++ key
  | .formatUnknown c => Text.ascii "unknown conversion %" ++ Text.encodeScalar c.toNat
  | .formatInt c e => Text.byte '%' :: c :: Text.ascii " format requires integer: " ++ e.message
  | .formatFloat c t =>
    Text.byte '%' :: c :: Text.ascii (" format requires float, not " ++ t)
  | .formatCodePoint i =>
    Text.ascii "%c format requires a valid Unicode code point, got " ++ Text.ofInt i
  | .formatCharacter => Text.ascii "%c format requires a single-character string"
  | .formatCharacterType t =>
    Text.ascii ("%c format requires int or single-character string, not " ++ t)
  | .formatTooFew => Text.ascii "not enough arguments for format string"
  | .formatTooMany => Text.ascii "too many arguments for format string"
  | .within f e => f ++ Text.ascii ": " ++ e.message
  | .tooDeep => Text.ascii "nesting is too deep"

end EvalError

end LineMachine.Lesson
