import LineMachine.Lesson.Builtin
import LineMachine.Lesson.Operator
import LineMachine.Lesson.Sum

/-!
# Running a lesson

Expressions are evaluated from left to right. A call of a function that every lesson knows becomes a
call of the dialogue; all else happens in the lesson's own `World`. An error gives the lesson up at
once.

The evaluation takes a depth, which each nested call uses up by one. Loops and sequences do not use it
up. Since no function may call itself, the statements of a lesson and the number of its functions
bound the depth, and `depthOf` is enough.
-/

namespace LineMachine.Lesson

/-! ## Names -/

/-- Where a piece of a lesson is evaluated: its file, the globals of the lesson, the frames around it,
the innermost one first, and the definitions of the functions that are being called. -/
structure Context where
  file : Text
  globals : List Text
  frames : List Nat := []
  active : List Position := []

namespace Context

/-- The frame that a name belongs to. -/
def frameOf? (c : Context) (w : World) (x : Text) : Option Nat :=
  c.frames.find? fun f => ((w.frames.getD f []).lookup x).isSome

/-- The value of a name. -/
def read (c : Context) (x : Text) : Eval Value := do
  let w ← get
  match c.frameOf? w x with
  | some f =>
    match (w.frames.getD f []).lookup x with
    | some (some v) => return v
    | _ => Eval.fail (.unassigned "local" x)
  | none =>
    if c.globals.contains x then
      match w.globals.lookup x with
      | some v => return v
      | none => Eval.fail (.unassigned "global" x)
    else
      match wellKnown.lookup x with
      | some v => return v
      | none => Eval.fail (.unassigned "global" x)

/-- Give a name a value. -/
def write (c : Context) (x : Text) (v : Value) : Eval Unit :=
  modify fun w =>
    match c.frameOf? w x with
    | some f =>
      { w with frames := w.frames.modify f fun names =>
          names.map fun n => if n.1 = x then (x, some v) else n }
    | none => { w with globals := (x, v) :: w.globals.filter (·.1 ≠ x) }

/-- A context with a new frame inside, where some names have values and others have none yet. -/
def enter (c : Context) (names : List (Text × Option Value)) : Eval Context :=
  modifyGet fun w =>
    ({ c with frames := w.frames.size :: c.frames }, { w with frames := w.frames.push names })

end Context

/-- The members of a tuple or list of targets, for as many values. -/
def unpackValues (v : Value) (n : Nat) : Eval (List Value) := do
  match (← get).members? v with
  | none => Eval.fail (.notSequence v.typeName)
  | some m =>
    if n < m.size then Eval.fail (.unpacking true m.size n)
    else if m.size < n then Eval.fail (.unpacking false m.size n)
    else return m.toList

/-- The parameters of a function with their values, those without arguments taking their defaults; and
the further arguments and further named ones. -/
structure Binding where
  bound : List (Text × Value)
  rest : List Value := []
  others : List (Text × Value) := []

namespace Function

/-- Bind a named argument, to the parameter of this name or as a further one. -/
def bindNamed (f : Function) (b : Binding) (x : Text) (v : Value) : Except EvalError Binding := do
  let s := f.signature
  if (b.bound.lookup x).isSome || (b.others.lookup x).isSome then
    throw (.repeatedParameter f.name x)
  if (s.positional ++ s.keywordOnly).contains x then
    return { b with bound := b.bound ++ [(x, v)] }
  if s.others.isSome then return { b with others := b.others ++ [(x, v)] }
  throw (.unexpectedParameter f.name x)

/-- Bind the arguments of a call to the parameters of a function. -/
def bindArguments (f : Function) (args : List Value) (named : List (Text × Value)) :
    Except EvalError Binding := do
  let s := f.signature
  let params := s.positional ++ s.keywordOnly
  let count := s.positional.length
  let given := args.length + named.length
  if params.isEmpty && s.rest.isNone && s.others.isNone && 0 < given then
    throw (.noArguments f.name given)
  if count < args.length && s.rest.isNone then
    let hasDefaults := s.positional.any fun x => (s.defaults.lookup x).isSome
    throw (.positionalArguments f.name hasDefaults count args.length)
  let start : Binding := { bound := s.positional.zip args, rest := args.drop count }
  let b ← named.foldlM (fun b (x, v) => f.bindNamed b x v) start
  let missing := params.filter fun x =>
    (b.bound.lookup x).isNone && (s.defaults.lookup x).isNone
  unless missing.isEmpty do throw (.missingParameters f.name missing)
  return { b with bound := params.filterMap fun x =>
    ((b.bound.lookup x).or (s.defaults.lookup x)).map (x, ·) }

end Function

/-- Add a parameter, which has to be given by name or not. -/
def Signature.add (s : Signature) (named : Bool) (x : Text) : Signature :=
  if named then { s with keywordOnly := s.keywordOnly ++ [x] }
  else { s with positional := s.positional ++ [x] }

/-- Add the parameters of a function, where the values of the optional ones are given in their order.
After the one for further arguments all have to be given by name. -/
def Signature.ofParameters (s : Signature) (named : Bool) :
    List Parameter → List Value → Signature
  | [], _ => s
  | .required _ x :: ps, vs => (s.add named x).ofParameters named ps vs
  | .optional _ x _ :: ps, v :: vs =>
    Signature.ofParameters { s.add named x with defaults := s.defaults ++ [(x, v)] } named ps vs
  | .optional _ x _ :: ps, [] => (s.add named x).ofParameters named ps []
  | .sequence _ x :: ps, vs =>
    Signature.ofParameters { s with rest := x.map Prod.snd } true ps vs
  | .mapping _ _ x :: ps, vs => Signature.ofParameters { s with others := some x } true ps vs

/-- The named arguments that a mapping gives. -/
def namedOf (w : World) : Value → Except EvalError (List (Text × Value))
  | .dict id => (w.entries id).mapM fun
    | (.string x, v) => .ok (x, v)
    | (k, _) => .error (.keywordType k.typeName)
  | v => .error (.notMapping v.typeName)

/-- The arguments that a sequence gives. -/
def argumentsOf (w : World) (v : Value) : Except EvalError (List Value) :=
  match w.members? v with
  | some m => .ok m.toList
  | none => .error (.notSequenceArgument v.typeName)

/-- All names that a call binds, with their values. -/
def parameterValues (f : Function) (b : Binding) : Eval (List (Text × Value)) := do
  let rest := f.signature.rest.toList.map fun x => (x, Value.tuple b.rest)
  match f.signature.others with
  | none => return b.bound ++ rest
  | some x =>
    let entries := b.others.map fun (y, v) => (Value.string y, v)
    let d ← modifyGet fun w =>
      (Value.dict w.dicts.size, { w with dicts := w.dicts.push { entries } })
    return b.bound ++ rest ++ [(x, d)]

/-! ## Evaluation -/

/-- How a statement ends. -/
inductive Flow where
  | normal
  | leave
  | next
  | result (v : Value)

/-- Execute statements in turn until one of them does not end normally. -/
def inTurn {α : Type} (f : α → Eval Flow) : List α → Eval Flow
  | [] => pure .normal
  | s :: ss => do
    match ← f s with
    | .normal => inTurn f ss
    | flow => return flow

/-- Execute the body of a loop for `n` members of a value, from the place `i` on. -/
def forEach (body : Value → Eval Flow) (m : Members) : Nat → Nat → Eval Flow
  | 0, _ => pure .normal
  | n + 1, i => do
    match ← body (m.item i) with
    | .normal | .next => forEach body m n (i + 1)
    | .leave => return .normal
    | .result r => return .result r

/-- The items that `f` gives for `n` members of a value, from the place `i` on, after the items in
`acc`, the last of which stand first. -/
def gather (f : Value → Eval (List Value)) (m : Members) :
    List (List Value) → Nat → Nat → Eval (List Value)
  | acc, 0, _ => return acc.reverse.flatten
  | acc, n + 1, i => do
    let vs ← f (m.item i)
    gather f m (vs :: acc) n (i + 1)

/-- Go through the members of a value, which may not change meanwhile. -/
def overMembers {α : Type} (v : Value) (f : Members → Eval α) : Eval α := do
  match (← get).members? v with
  | none => Eval.fail (.notIterable v.typeName)
  | some m =>
    modify (·.countReaders (· + 1) v)
    let a ← f m
    modify (·.countReaders (· - 1) v)
    return a

/-- A literal as a value. -/
def Literal.value : Literal → Value
  | .int n => .int n
  | .float x => .float x
  | .string t => .string t
  | .bytes t => .bytes t

mutual

/-- Evaluate an expression. -/
def evalExpr : Nat → Context → Expr → Eval Value
  | 0, _, _ => Eval.fail .tooDeep
  | n + 1, c, e =>
    match e with
    | .name _ x => c.read x
    | .literal _ v => return v.value
    | .paren _ e => evalExpr n c e
    | .list _ es => do Eval.newList (← es.mapM (evalExpr n c))
    | .tuple _ es => return .tuple (← es.mapM (evalExpr n c))
    | .dict _ entries => do
      let id := (← get).dicts.size
      modify fun w => { w with dicts := w.dicts.push {} }
      entries.forM fun
        | .mk k v => do
          let k ← evalExpr n c k
          let v ← evalExpr n c v
          let w ← get
          if (← Eval.check (w.lookup? id k)).isSome then Eval.fail (.repeatedKey (w.repr k))
          Eval.change fun w => w.insert id k v
      return .dict id
    | .comprehension _ body vars source clauses => do
      let id := (← get).dicts.size
      let isDict := match body with
        | .item _ => false
        | .entry .. => true
      if isDict then modify fun w => { w with dicts := w.dicts.push {} }
      let source ← evalExpr n c source
      let inner ← c.enter ((clauseNames vars clauses).map (·, none))
      let give : Eval (List Value) := match body with
        | .item e => do return [← evalExpr n inner e]
        | .entry k v => do
          let k ← evalExpr n inner k
          let v ← evalExpr n inner v
          Eval.change fun w => w.insert id k v
          return []
      let items ← overMembers source fun m =>
        gather (fun v => do
          assign n inner vars v
          evalClauses n inner give clauses) m [] m.size 0
      if isDict then return .dict id else Eval.newList items
    | .choice cond yes no => do
      let v ← evalExpr n c cond
      if (← get).truth v then evalExpr n c yes else evalExpr n c no
    | .unary _ op e => do applyUnary op (← evalExpr n c e)
    | .binary .or a b => do
      let v ← evalExpr n c a
      if (← get).truth v then return v else evalExpr n c b
    | .binary .and a b => do
      let v ← evalExpr n c a
      if (← get).truth v then evalExpr n c b else return v
    | .binary .plus a b =>
      match (Expr.binary .plus a b).joinedSummands with
      | [] => return .none
      | e :: es => do
        let v ← evalExpr n c e
        es.foldlM (fun v e => do applyBinary .plus v (← evalExpr n c e)) v
    | .binary op a b => do
      let a ← evalExpr n c a
      let b ← evalExpr n c b
      applyBinary op a b
    | .call f p args => do
      let f ← evalExpr n c f
      let values ← args.filterMapM fun
        | .positional e => some <$> evalExpr n c e
        | _ => pure none
      let named ← args.filterMapM fun
        | .named _ x e => do return some (x, ← evalExpr n c e)
        | _ => pure none
      let sequences ← args.filterMapM fun
        | .sequence _ e => some <$> evalExpr n c e
        | _ => pure none
      let mappings ← args.filterMapM fun
        | .mapping _ e => some <$> evalExpr n c e
        | _ => pure none
      let w ← get
      let others ← Eval.check (mappings.mapM (namedOf w))
      let rest ← Eval.check (sequences.mapM (argumentsOf w))
      callValue n c p f (values ++ rest.flatten) (named ++ others.flatten)
    | .index e i => do
      let v ← evalExpr n c e
      let i ← evalExpr n c i
      getIndex v i
    | .slice e low high step => do
      let part (e : Option Expr) : Eval Value :=
        match e with
        | some e => evalExpr n c e
        | none => pure .none
      let v ← evalExpr n c e
      let low ← part low
      let high ← part high
      let step ← part step
      getSlice v low high step
    | .member e x => do getMember (← evalExpr n c e) x
    | .lambda p params body => makeFunction n c p (Text.ascii "lambda") params [.result p (some body)]

/-- Make a function, whose defaults are evaluated at once. -/
def makeFunction :
    Nat → Context → Position → Text → List Parameter → List Statement → Eval Value
  | 0, _, _, _, _, _ => Eval.fail .tooDeep
  | n + 1, c, position, name, params, body => do
    let defaults ← params.filterMapM fun
      | .optional _ _ e => some <$> evalExpr n c e
      | _ => pure none
    let f : Function :=
      { position, name, signature := Signature.ofParameters {} false params defaults, body,
        locals := Statement.boundNames.ofList body, frames := c.frames }
    modifyGet fun w => (.function w.functions.size, { w with functions := w.functions.push f })

/-- The items that the clauses of a comprehension give, where `give` gives those of one time. -/
def evalClauses : Nat → Context → Eval (List Value) → List Clause → Eval (List Value)
  | 0, _, _, _ => Eval.fail .tooDeep
  | n + 1, c, give, clauses =>
    match clauses with
    | [] => give
    | .only cond :: rest => do
      let v ← evalExpr n c cond
      if (← get).truth v then evalClauses n c give rest else return []
    | .each vars source :: rest => do
      let source ← evalExpr n c source
      overMembers source fun m =>
        gather (fun v => do
          assign n c vars v
          evalClauses n c give rest) m [] m.size 0

/-- Assign a value to a target. -/
def assign : Nat → Context → Expr → Value → Eval Unit
  | 0, _, _, _ => Eval.fail .tooDeep
  | n + 1, c, target, v =>
    match target with
    | .name _ x => c.write x v
    | .paren _ e => assign n c e v
    | .list _ es | .tuple _ es => do
      let vs ← unpackValues v es.length
      (es.zip vs).forM fun (e, v) => assign n c e v
    | .index e i => do
      let e ← evalExpr n c e
      let i ← evalExpr n c i
      setIndex e i v
    | .member e x => do
      let e ← evalExpr n c e
      Eval.fail (.memberAssignment e.typeName x)
    | _ => Eval.fail .tooDeep

/-- Call a value. -/
def callValue : Nat → Context → Position → Value → List Value → List (Text × Value) → Eval Value
  | 0, _, _, _, _, _ => Eval.fail .tooDeep
  | n + 1, c, p, f, args, named =>
    match f with
    | .builtin b => Eval.call { function := b, place := p.text c.file, args, named }
    | .append id _ => do
      Eval.check (positional (Text.ascii "append") 1 1 args named)
      let v ← Eval.check (single (Text.ascii "append") "" args)
      Eval.change fun w =>
        match w.changeList id "append to" (· ++ [v]) with
        | .error e => .error (.within (Text.ascii "append") e)
        | .ok w => .ok w
      return .none
    | .function id => do
      match (← get).functions[id]? with
      | none => Eval.fail (.notFunction f.typeName)
      | some g =>
        if c.active.contains g.position then Eval.fail (.recursion g.name)
        let b ← Eval.check (g.bindArguments args named)
        let bound ← parameterValues g b
        let others := g.locals.filter fun x => (bound.lookup x).isNone
        let inner : Context :=
          { c with frames := g.frames, active := g.position :: c.active }
        let inner ← inner.enter (bound.map (fun b => (b.1, some b.2)) ++ others.map (·, none))
        match ← inTurn (execute n inner) g.body with
        | .result v => return v
        | _ => return .none
    | f => Eval.fail (.notFunction f.typeName)

/-- Execute a statement. -/
def execute : Nat → Context → Statement → Eval Flow
  | 0, _, _ => Eval.fail .tooDeep
  | n + 1, c, s =>
    match s with
    | .expr e => do
      let _ ← evalExpr n c e
      return .normal
    | .assign target e => do
      assign n c target (← evalExpr n c e)
      return .normal
    | .update op target e => do
      update n c op target e
      return .normal
    | .define p x params body => do
      c.write x (← makeFunction n c p x params body)
      return .normal
    | .result _ e => do
      match e with
      | some e => return .result (← evalExpr n c e)
      | none => return .result .none
    | .jump _ .leave => return .leave
    | .jump _ .next => return .next
    | .jump _ .pass => return .normal
    | .conditional _ cond yes no => do
      let v ← evalExpr n c cond
      inTurn (execute n c) (if (← get).truth v then yes else no)
    | .loop _ vars source body => do
      let source ← evalExpr n c source
      overMembers source fun m =>
        forEach (fun v => do
          assign n c vars v
          inTurn (execute n c) body) m m.size 0
    | .whileLoop .. | .load .. => Eval.fail .loadRefused

/-- Execute an assignment that updates its target. -/
def update : Nat → Context → BinaryOp → Expr → Expr → Eval Unit
  | 0, _, _, _, _ => Eval.fail .tooDeep
  | n + 1, c, op, target, e =>
    match target with
    | .paren _ t => update n c op t e
    | .index a i => do
      let a ← evalExpr n c a
      let i ← evalExpr n c i
      let old ← getIndex a i
      let v ← evalExpr n c e
      setIndex a i (← applyUpdate op old v)
    | target => do
      let old ← evalExpr n c target
      let v ← evalExpr n c e
      assign n c target (← applyUpdate op old v)

end

/-- A depth that is enough for statements from so many tokens. -/
def depthOf (tokens : Nat) : Nat := (32 * (tokens + 2)) * (tokens + 2)

/-- Run the statements of a lesson. -/
def runStatements (file : Text) (depth : Nat) (ss : List Statement) : Eval Unit := do
  let c : Context := { file, globals := Statement.boundNames.ofList ss }
  let _ ← inTurn (execute depth c) ss

end LineMachine.Lesson
