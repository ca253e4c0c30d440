import LineMachine.Lesson.Reader

/-!
# The grammar of a lesson

Expressions are read by the levels of their operators, the loosest first. Statements are read line by
line, and those with a block up to the end of the block.

The reading functions take a depth, which each call uses up by one. `depthFor` is enough for all
sources, since between two tokens there are fewer than thirty nested calls.
-/

namespace LineMachine.Lesson

namespace Reader

mutual

/-- Read one expression. -/
def test : Nat → Reader Expr
  | 0 => refuse .tooDeep
  | n + 1 => do
    if ← isNext (.word "lambda") then return ← lambda n true
    let yes ← operand n 0
    if ← isNext (.word "if") then
      let p ← advance
      let cond ← operand n 0
      unless ← isNext (.word "else") do stop p .choiceWithoutElse
      let _ ← advance
      return .choice cond yes (← test n)
    else return yes

/-- Read one expression that is not a choice. -/
def plainTest : Nat → Reader Expr
  | 0 => refuse .tooDeep
  | n + 1 => do if ← isNext (.word "lambda") then lambda n false else operand n 0

/-- Read a function without a name, the body of which may be a choice or not. -/
def lambda : Nat → Bool → Reader Expr
  | 0, _ => refuse .tooDeep
  | n + 1, mayChoose => do
    let p ← advance
    let params ← parameters n []
    let _ ← symbol ":"
    return .lambda p params (← if mayChoose then test n else plainTest n)

/-- Read the parameters of a function, after those in the list, the last one first. -/
def parameters : Nat → List Parameter → Reader (List Parameter)
  | 0, _ => refuse .tooDeep
  | n + 1, ps => do
    if [.symbol ")", .symbol ":", .endOfFile].contains (← token) then return ps.reverse
    unless ps.isEmpty do
      let _ ← symbol ","
    match ← token with
    | .symbol ")" => return ps.reverse
    | .symbol "*" => do
      let p ← advance
      match ← token with
      | .name _ => parameters n (.sequence p (some (← identifier)) :: ps)
      | _ => parameters n (.sequence p none :: ps)
    | .symbol "**" => do
      let p ← advance
      let (q, x) ← identifier
      parameters n (.mapping p q x :: ps)
    | _ => do
      let (p, x) ← identifier
      if ← isNext (.symbol "=") then
        let p ← advance
        parameters n (.optional p x (← test n) :: ps)
      else parameters n (.required p x :: ps)

/-- Read an expression whose operators have at least a certain level. -/
def operand : Nat → Nat → Reader Expr
  | 0, _ => refuse .tooDeep
  | n + 1, level => do
    if BinaryOp.levels ≤ level then suffixed n
    else if level == 2 && (← isNext (.word "not")) then
      let p ← advance
      return .unary p .not (← operand n level)
    else operators n level true (← operand n (level + 1))

/-- Read on after the first operand of a level. -/
def operators : Nat → Nat → Bool → Expr → Reader Expr
  | 0, _, _, _ => refuse .tooDeep
  | n + 1, level, first, x => do
    joinNotIn
    match ← operator with
    | none => return x
    | some op =>
      if op.level < level then return x
      else
        match x with
        | .binary former _ _ =>
          if !first && op.level == BinaryOp.comparisonLevel then refuse (.notAssociative former op)
        | _ => pure ()
        let _ ← advance
        let y ← operand n (op.level + 1)
        operators n level false (.binary op x y)

/-- Read a primary expression with what is applied to it. -/
def suffixed : Nat → Reader Expr
  | 0 => refuse .tooDeep
  | n + 1 => do suffixes n (← primary n)

/-- Read what is applied to an expression: members, indices and calls. -/
def suffixes : Nat → Expr → Reader Expr
  | 0, _ => refuse .tooDeep
  | n + 1, e => do
    match ← token with
    | .symbol "." => do
      let _ ← advance
      let (_, x) ← identifier
      suffixes n (.member e x)
    | .symbol "[" => do
      let _ ← advance
      suffixes n (← brackets n e)
    | .symbol "(" => do
      let p ← advance
      let args ← arguments n []
      let _ ← symbol ")"
      suffixes n (.call e p args)
    | _ => return e

/-- Read the index or the bounds in brackets. -/
def brackets : Nat → Expr → Reader Expr
  | 0, _ => refuse .tooDeep
  | n + 1, e => do
    let low ← if ← isNext (.symbol ":") then pure none else some <$> expression n false
    match low with
    | some i =>
      if ← isNext (.symbol "]") then
        let _ ← advance
        return .index e i
    | none => pure ()
    let mut high := none
    let mut step := none
    if ← isNext (.symbol ":") then
      let _ ← advance
      unless (← isNext (.symbol ":")) || (← isNext (.symbol "]")) do
        high := some (← test n)
    if ← isNext (.symbol ":") then
      let _ ← advance
      unless ← isNext (.symbol "]") do
        step := some (← test n)
    let _ ← symbol "]"
    return .slice e low high step

/-- Read the arguments of a call, after those in the list, the last one first. -/
def arguments : Nat → List Argument → Reader (List Argument)
  | 0, _ => refuse .tooDeep
  | n + 1, args => do
    if (← isNext (.symbol ")")) || (← isNext .endOfFile) then return args.reverse
    unless args.isEmpty do
      let _ ← symbol ","
    match ← token with
    | .symbol ")" => return args.reverse
    | .symbol "*" => do
      let p ← advance
      arguments n (.sequence p (← test n) :: args)
    | .symbol "**" => do
      let p ← advance
      arguments n (.mapping p (← test n) :: args)
    | _ => do
      let e ← test n
      if ← isNext (.symbol "=") then
        match e with
        | .name p x =>
          let _ ← advance
          arguments n (.named p x (← test n) :: args)
        | _ => refuse .keywordForm
      else arguments n (.positional e :: args)

/-- Read a literal, a name, something in brackets or a signed expression. -/
def primary : Nat → Reader Expr
  | 0 => refuse .tooDeep
  | n + 1 => do
    match ← token with
    | .name x => return .name (← advance) x
    | .int i => return .literal (← advance) (.int i)
    | .float d => return .literal (← advance) (.float d)
    | .string t => return .literal (← advance) (.string t)
    | .bytes t => return .literal (← advance) (.bytes t)
    | .symbol "[" => do
      let p ← advance
      if ← isNext (.symbol "]") then
        let _ ← advance
        return .list p []
      let e ← test n
      if ← isNext (.word "for") then return ← comprehension n p (.item e) "]"
      let items ← items n [e] true
      let _ ← symbol "]"
      return .list p items
    | .symbol "\x7b" => do
      let p ← advance
      if ← isNext (.symbol "\x7d") then
        let _ ← advance
        return .dict p []
      let (k, v) ← entry n
      if ← isNext (.word "for") then return ← comprehension n p (.entry k v) "\x7d"
      let es ← entries n [.mk k v]
      let _ ← symbol "\x7d"
      return .dict p es
    | .symbol "(" => do
      let p ← advance
      if ← isNext (.symbol ")") then
        let _ ← advance
        return .tuple p []
      let e ← expression n true
      let _ ← symbol ")"
      return .paren p e
    | .symbol "-" => return .unary (← advance) .minus (← suffixed n)
    | .symbol "+" => return .unary (← advance) .plus (← suffixed n)
    | .symbol "~" => return .unary (← advance) .tilde (← suffixed n)
    | _ => unexpectedStart (Text.ascii "primary expression")

/-- Read a key and its value. -/
def entry : Nat → Reader (Expr × Expr)
  | 0 => refuse .tooDeep
  | n + 1 => do
    let k ← test n
    let _ ← symbol ":"
    return (k, ← test n)

/-- Read further entries of a dictionary, after those in the list, the last one first. -/
def entries : Nat → List Entry → Reader (List Entry)
  | 0, _ => refuse .tooDeep
  | n + 1, es => do
    if ← isNext (.symbol ",") then
      let _ ← advance
      if ← isNext (.symbol "\x7d") then return es.reverse
      let (k, v) ← entry n
      entries n (.mk k v :: es)
    else return es.reverse

/-- Read a comprehension from its first clause on, up to the bracket `close`. -/
def comprehension : Nat → Position → Yield → String → Reader Expr
  | 0, _, _, _ => refuse .tooDeep
  | n + 1, p, body, close => do
    let _ ← advance
    let vars ← targets n
    let _ ← consume (.word "in")
    let source ← operand n 0
    return .comprehension p body vars source (← clauses n close [])

/-- Read the further clauses of a comprehension, up to the bracket `close`. -/
def clauses : Nat → String → List Clause → Reader (List Clause)
  | 0, _, _ => refuse .tooDeep
  | n + 1, close, cs => do
    if ← isNext (.symbol close) then
      let _ ← advance
      return cs.reverse
    match ← token with
    | .word "for" => do
      let _ ← advance
      let vars ← targets n
      let _ ← consume (.word "in")
      clauses n close (.each vars (← operand n 0) :: cs)
    | .word "if" => do
      let _ ← advance
      clauses n close (.only (← plainTest n) :: cs)
    | _ => unexpected ((Token.symbol close).describe ++ Text.ascii ", for, or if")

/-- Read the variables of a loop. -/
def targets : Nat → Reader Expr
  | 0 => refuse .tooDeep
  | n + 1 => do
    let e ← suffixed n
    if ← isNext (.symbol ",") then return .tuple e.start (← moreTargets n [e]) else return e

/-- Read further variables of a loop, after those in the list, the last one first. -/
def moreTargets : Nat → List Expr → Reader (List Expr)
  | 0, _ => refuse .tooDeep
  | n + 1, es => do
    if ← isNext (.symbol ",") then
      let _ ← advance
      if ← endsList then return es.reverse
      moreTargets n ((← suffixed n) :: es)
    else return es.reverse

/-- Read an expression, or several with commas between them as a tuple. -/
def expression : Nat → Bool → Reader Expr
  | 0, _ => refuse .tooDeep
  | n + 1, trailing => do
    let e ← test n
    if ← isNext (.symbol ",") then return .tuple e.start (← items n [e] trailing) else return e

/-- Read further expressions with commas between them, after those in the list, the last one first.
If it is allowed a comma may stand at the end. -/
def items : Nat → List Expr → Bool → Reader (List Expr)
  | 0, _, _ => refuse .tooDeep
  | n + 1, es, trailing => do
    if ← isNext (.symbol ",") then
      let p ← advance
      if ← endsList then
        unless trailing do stop p .trailingComma
        return es.reverse
      items n ((← test n) :: es) trailing
    else return es.reverse

end

/-- Leave a string literal behind. -/
def stringLiteral (f : GrammarFault) : Reader (Position × Text) := do
  match ← token with
  | .string t => return (← advance, t)
  | _ => refuse f

/-- Read the names that a lesson asks another one for. -/
def loadedNames : Nat → List LoadedName → Reader (List LoadedName)
  | 0, _ => refuse .tooDeep
  | n + 1, names => do
    if (← isNext (.symbol ")")) || (← isNext .endOfFile) then return names.reverse
    let _ ← symbol ","
    match ← token with
    | .symbol ")" => return names.reverse
    | .string t => do
      let p ← advance
      loadedNames n (⟨p.shift 1, t, p.shift 1, t⟩ :: names)
    | .name _ => do
      let (p, x) ← identifier
      unless ← isNext (.symbol "=") do refuse (.loadUnnamed x)
      let _ ← advance
      let (q, t) ← stringLiteral (.loadUnquoted x)
      loadedNames n (⟨q.shift 1, t, p, x⟩ :: names)
    | t => refuse (.loadOperand t)

/-- The operator of an assignment that updates its target. -/
def updateOperator : Reader (Option BinaryOp) := do
  match ← token with
  | .symbol s => return BinaryOp.updating.find? fun op => op.spelling ++ "=" == s
  | _ => return none

/-- Read a statement that takes up no line of its own. -/
def small (n : Nat) : Reader Statement := do
  match ← token with
  | .word "return" => do
    let p ← advance
    if (← isNext .endOfFile) || (← isNext .newline) || (← isNext (.symbol ";")) then
      return .result p none
    return .result p (some (← expression n false))
  | .word "break" => return .jump (← advance) .leave
  | .word "continue" => return .jump (← advance) .next
  | .word "pass" => return .jump (← advance) .pass
  | .word "load" => do
    let p ← advance
    let paren ← symbol "("
    let _ ← stringLiteral .loadModule
    let names ← loadedNames n []
    let _ ← symbol ")"
    if names.isEmpty then stop paren .loadNothing
    return .load p names
  | _ => do
    let e ← expression n false
    if ← isNext (.symbol "=") then
      let _ ← advance
      return .assign e (← expression n false)
    match ← updateOperator with
    | some op => do
      let _ ← advance
      return .update op e (← expression n false)
    | none => return .expr e

/-- Read the statements of a line, after those in the list, the last one first. -/
def line : Nat → List Statement → Reader (List Statement)
  | 0, _ => refuse .tooDeep
  | n + 1, acc => do
    let acc := (← small n) :: acc
    if ← isNext (.symbol ";") then
      let _ ← advance
      if (← isNext .newline) || (← isNext .endOfFile) then finish acc else line n acc
    else finish acc
where
  /-- Leave the end of the line behind. -/
  finish (acc : List Statement) : Reader (List Statement) := do
    unless ← isNext .endOfFile do
      let _ ← consume .newline
    return acc.reverse

mutual

/-- Read the statements of a line, or one statement with a block. -/
def statement : Nat → Reader (List Statement)
  | 0 => refuse .tooDeep
  | n + 1 => do
    match ← token with
    | .word "def" => do
      let _ ← advance
      let (p, x) ← identifier
      let _ ← symbol "("
      let params ← parameters n []
      let _ ← symbol ")"
      let _ ← symbol ":"
      return [.define p x params (← suite n)]
    | .word "if" => do return [← conditional n (← advance)]
    | .word "for" => do
      let p ← advance
      let vars ← targets n
      let _ ← consume (.word "in")
      let source ← expression n false
      let _ ← symbol ":"
      return [.loop p vars source (← suite n)]
    | .word "while" => do
      let p ← advance
      let cond ← test n
      let _ ← symbol ":"
      return [.whileLoop p cond (← suite n)]
    | _ => line n []

/-- Read on after `if` or `elif`. -/
def conditional : Nat → Position → Reader Statement
  | 0, _ => refuse .tooDeep
  | n + 1, p => do
    let cond ← test n
    let _ ← symbol ":"
    let yes ← suite n
    match ← token with
    | .word "elif" => do return .conditional p cond yes [← conditional n (← advance)]
    | .word "else" => do
      let _ ← advance
      let _ ← symbol ":"
      return .conditional p cond yes (← suite n)
    | _ => return .conditional p cond yes []

/-- Read a block, or the statements of a line in place of one. -/
def suite : Nat → Reader (List Statement)
  | 0 => refuse .tooDeep
  | n + 1 => do
    if ← isNext .newline then
      let _ ← advance
      let _ ← consume .indent
      let body ← block n []
      let _ ← consume .outdent
      return body
    else line n []

/-- Read the statements of a block, after those in the list. -/
def block : Nat → List Statement → Reader (List Statement)
  | 0, _ => refuse .tooDeep
  | n + 1, acc => do
    if (← isNext .outdent) || (← isNext .endOfFile) then return acc
    block n (acc ++ (← statement n))

end

/-- Read statements up to the end of the source, after those in the list, the last one first. -/
def all : Nat → List Statement → Reader (List Statement)
  | 0, _ => refuse .tooDeep
  | n + 1, acc => do
    match ← token with
    | .endOfFile => return acc.reverse
    | .newline => do
      let _ ← advance
      all n acc
    | _ => all n ((← statement n).reverse ++ acc)

end Reader

/-- A depth that is enough for so many tokens. -/
def depthFor (tokens : Nat) : Nat := 32 * (tokens + 2)

/-- The statements of a source. -/
def statements (source : Text) : Except (Position × GrammarFault) (List Statement) :=
  let ls := tokens source
  StateT.run' (do Reader.settle; Reader.all (depthFor ls.length) []) ls

end LineMachine.Lesson
