import LineMachine.Lesson.Spelling
import LineMachine.Lesson.Statement

/-!
# Names and where they belong

Before a lesson runs all its names are looked up. A name that is bound anywhere in a function or a
comprehension belongs to it as a whole; else it is looked for outside, at last among the names of the
lesson and those that every lesson knows. A lesson that uses an unknown name, or a statement in a
place where it may not stand, does not run at all.

The statements are walked through first, and only then are the uses of names looked up, those of
inner functions before those of outer ones. So a name may be used before it is bound, and a misplaced
statement is told before an unknown name.

For an unknown name one is suggested that is bound around it or in the lesson. A name that every lesson
knows is suggested only if it has been looked up before in one of the functions or comprehensions
around.
-/

namespace LineMachine.Lesson

/-- Why a lesson may not run. -/
inductive ScopeFault where
  | undefined (x : Text) (known : List Text)
  | outside (statement : String)
  | outsideLoop (j : Jump)
  | whileLoop
  | sets
  | reassigned (scope : String) (x : Text) (first : Position)
  | reassignedLoad (x : Text)
  | repeatedParameter (x : Text)
  | misplaced (what : String) (former : Text)
  | repeatedKind (what : String)
  | bareSequence
  | repeatedKeyword (x : Text)
  | argumentLimit (kind : String) (count : Nat)
  | notAssignable (what : String)
  | updatedItems (what : String)
  | loadWithin (what : String)
  | loadEmpty
  | loadHidden (x : Text)
  deriving DecidableEq, Repr

/-- The wording of a fault in a file. -/
def ScopeFault.message (file : Text) : ScopeFault → Text
  | .undefined x known => Text.ascii "undefined: " ++ x ++ Spelling.hint "" x known
  | .outside s => Text.ascii s ++ Text.ascii " not within a function"
  | .outsideLoop j => Text.ascii (j.spelling ++ " not in a loop")
  | .whileLoop => Text.ascii "this Starlark dialect does not support while loops"
  | .sets => Text.ascii "this Starlark dialect does not support sets"
  | .reassigned scope x p =>
    Text.ascii ("cannot reassign " ++ scope ++ " ") ++ x ++ Text.ascii " declared at " ++ p.text file
  | .reassignedLoad x => Text.ascii "cannot reassign top-level " ++ x
  | .repeatedParameter x => Text.ascii "duplicate parameter: " ++ x
  | .misplaced what former => Text.ascii what ++ Text.ascii " may not follow " ++ former
  | .repeatedKind what => Text.ascii ("multiple " ++ what ++ " not allowed")
  | .bareSequence => Text.ascii "bare * must be followed by keyword-only parameters"
  | .repeatedKeyword x =>
    Text.ascii "keyword argument \"" ++ x ++ Text.ascii "\" is repeated"
  | .argumentLimit kind n =>
    Text.ofNat n ++ Text.ascii (" " ++ kind ++ " arguments in call, limit is 255")
  | .notAssignable what => Text.ascii ("can't assign to " ++ what)
  | .updatedItems what =>
    Text.ascii ("can't use " ++ what ++ " expression in augmented assignment")
  | .loadWithin what => Text.ascii ("load statement within a " ++ what)
  | .loadEmpty => Text.ascii "load: empty identifier"
  | .loadHidden x =>
    Text.ascii "load: names with leading underscores are not exported: " ++ x

/-! ## Bound names -/

/-- The names that an assignment to a target binds. -/
def Expr.boundNames : Expr → List Text
  | .name _ x => [x]
  | .paren _ e => e.boundNames
  | .list _ es | .tuple _ es => ofList es
  | _ => []
where
  /-- The names of several targets. -/
  ofList : List Expr → List Text
    | [] => []
    | e :: es => e.boundNames ++ ofList es

/-- The names that the clauses of a comprehension bind. -/
def clauseNames (vars : Expr) (clauses : List Clause) : List Text :=
  vars.boundNames ++ clauses.flatMap fun
    | .each vars _ => vars.boundNames
    | .only _ => []

/-- The names that a statement binds where it stands. -/
def Statement.boundNames : Statement → List Text
  | .assign target _ | .update _ target _ => target.boundNames
  | .define _ x _ _ => [x]
  | .conditional _ _ yes no => ofList yes ++ ofList no
  | .loop _ vars _ body => vars.boundNames ++ ofList body
  | .whileLoop _ _ body => ofList body
  | .load _ names => names.map (·.localName)
  | .expr _ | .result .. | .jump .. => []
where
  /-- The names that several statements bind. -/
  ofList : List Statement → List Text
    | [] => []
    | s :: ss => s.boundNames ++ ofList ss

/-! ## The walk -/

/-- A use of a name, with the blocks around it, the innermost one first. -/
structure NameUse where
  position : Position
  name : Text
  blocks : List Nat

/-- What is known on a walk through a lesson. `bound` holds the names that each block binds; block
zero is the lesson itself, whose own names are the globals. `loops` counts the loops around in the
innermost function. -/
structure Walk where
  bound : Array (List Text) := #[[]]
  blocks : List Nat := [0]
  functions : Nat := 0
  loops : Nat := 0
  conditionals : Nat := 0
  globals : List (Text × Position) := []
  loaded : List (Text × Position) := []
  uses : List (List NameUse) := [[]]
  settled : List NameUse := []

/-- A walk that stops at the first fault. -/
abbrev Walking := StateT Walk (Except (Position × ScopeFault))

namespace Walking

/-- Stop at a fault. -/
def stop (p : Position) (f : ScopeFault) : Walking Unit := throw (p, f)

/-- Note a use of a name. -/
def use (p : Position) (x : Text) : Walking Unit :=
  modify fun w =>
    match w.uses with
    | [] => w
    | us :: rest => { w with uses := (⟨p, x, w.blocks⟩ :: us) :: rest }

/-- Bind a name in the innermost block. The answer is whether it was bound there before. -/
def bindLocal (x : Text) : Walking Bool := do
  let w ← get
  let b := w.blocks.headD 0
  let names := w.bound.getD b []
  if names.contains x then return true
  set { w with bound := w.bound.setIfInBounds b (x :: names) }
  return false

/-- Bind a name by an assignment or a definition. A name of the lesson itself is bound once. -/
def bind (p : Position) (x : Text) : Walking Unit := do
  let w ← get
  if w.blocks == [0] then
    match w.loaded.lookup x, w.globals.lookup x with
    | some first, _ => stop p (.reassigned "local" x first)
    | none, some first => stop p (.reassigned "global" x first)
    | none, none => set { w with globals := w.globals ++ [(x, p)] }
  else
    let _ ← bindLocal x

/-- Walk through a block of its own. -/
def inBlock (body : Walking Unit) : Walking Unit := do
  let outer := (← get).blocks
  modify fun w => { w with bound := w.bound.push [], blocks := w.bound.size :: w.blocks }
  body
  modify fun w => { w with blocks := outer }

/-- Walk through the block of a function. No loop around the function is a loop of its body. Its uses
are settled when it ends. -/
def inFunction (body : Walking Unit) : Walking Unit := do
  let outer := (← get).loops
  modify fun w => { w with functions := w.functions + 1, loops := 0, uses := [] :: w.uses }
  inBlock body
  modify fun w =>
    let w := { w with functions := w.functions - 1, loops := outer }
    match w.uses with
    | [] => w
    | us :: rest => { w with uses := rest, settled := w.settled ++ us.reverse }

/-- What a target that cannot be assigned to is called. -/
def targetName : Expr → String
  | .literal .. => "literal"
  | .dict .. => "dictexpr"
  | .comprehension .. => "comprehension"
  | .choice .. => "condexpr"
  | .unary .. => "unaryexpr"
  | .binary .. => "binaryexpr"
  | .call .. => "callexpr"
  | .slice .. => "sliceexpr"
  | .name .. => "ident"
  | .paren .. => "parenexpr"
  | .list .. => "listexpr"
  | .tuple .. => "tupleexpr"
  | .index .. => "indexexpr"
  | .member .. => "dotexpr"
  | .lambda .. => "lambdaexpr"

/-- The parameters that have been walked through: whether there was an optional one, the one for further
arguments, the name of the one for further named arguments, and the number of parameters that have to
be given by name. -/
structure ParameterWalk where
  hasOptional : Bool := false
  sequence : Option (Position × Option (Position × Text)) := none
  mapping : Option (Position × Text) := none
  keywordOnly : Nat := 0

/-- Bind the name of a parameter. -/
def bindParameter (p : Position) (x : Text) : Walking Unit := do
  if ← bindLocal x then stop p (.repeatedParameter x)

/-- A parameter may not stand after the one for further named arguments. -/
def beforeMapping (w : ParameterWalk) (p : Position) (what : String) : Walking Unit :=
  match w.mapping with
  | some (_, x) => stop p (.misplaced what (Text.ascii "**" ++ x))
  | none => pure ()

/-- Walk through the parameters of a function. Those for further arguments are bound last. -/
def parameterList (w : ParameterWalk) : List Parameter → Walking Unit
  | [] => do
    match w.sequence with
    | some (_, some (p, x)) => bindParameter p x
    | some (p, none) => if w.keywordOnly == 0 then stop p .bareSequence
    | none => pure ()
    match w.mapping with
    | some (p, x) => bindParameter p x
    | none => pure ()
  | .required p x :: ps => do
    beforeMapping w p "required parameter"
    if w.sequence.isNone && w.hasOptional then
      stop p (.misplaced "required parameter" (Text.ascii "optional"))
    bindParameter p x
    parameterList { w with keywordOnly := w.keywordOnly + w.sequence.isSome.toNat } ps
  | .optional p x _ :: ps => do
    beforeMapping w p "optional parameter"
    bindParameter p x
    parameterList
      { w with hasOptional := true, keywordOnly := w.keywordOnly + w.sequence.isSome.toNat } ps
  | .sequence p x :: ps => do
    beforeMapping w p "* parameter"
    if w.sequence.isSome then stop p (.repeatedKind "* parameters")
    parameterList { w with sequence := some (p, x) } ps
  | .mapping p q x :: ps => do
    if w.mapping.isSome then stop p (.repeatedKind "** parameters")
    parameterList { w with mapping := some (q, x) } ps

/-- The arguments that have been walked through: the names, and whether there was a sequence or a
mapping. -/
structure ArgumentWalk where
  names : List Text := []
  hasSequence : Bool := false
  hasMapping : Bool := false

mutual

/-- Walk through an expression. -/
def expr : Expr → Walking Unit
  | .name p x => use p x
  | .literal .. => pure ()
  | .paren _ e | .unary _ _ e | .member e _ => expr e
  | .list _ es | .tuple _ es => exprs es
  | .dict _ entries => entryList entries
  | .comprehension _ body vars source clauses => do
    expr source
    inBlock do
      target false vars
      clauseList clauses
      yielded body
  | .choice cond yes no => do
    expr cond
    expr yes
    expr no
  | .binary _ a b | .index a b => do
    expr a
    expr b
  | .call f _ args => do
    expr f
    argumentList {} args
    let count := (args.filter Argument.isPositional).length
    if 255 < count then stop f.start (.argumentLimit "positional" count)
    let count := (args.filter Argument.isNamed).length
    if 255 < count then stop f.start (.argumentLimit "keyword" count)
  | .slice e low high step => do
    expr e
    optional low
    optional high
    optional step
  | .lambda _ params body => do
    defaultList params
    inFunction do
      parameterList {} params
      expr body

/-- Walk through what a comprehension gives. -/
def yielded : Yield → Walking Unit
  | .item e => expr e
  | .entry k v => do
    expr k
    expr v

/-- Walk through the defaults of parameters. -/
def defaultList : List Parameter → Walking Unit
  | [] => pure ()
  | .optional _ _ e :: ps => do
    expr e
    defaultList ps
  | _ :: ps => defaultList ps

/-- Walk through an expression that may be left out. -/
def optional : Option Expr → Walking Unit
  | none => pure ()
  | some e => expr e

/-- Walk through several expressions. -/
def exprs : List Expr → Walking Unit
  | [] => pure ()
  | e :: es => do
    expr e
    exprs es

/-- Walk through the entries of a dictionary. -/
def entryList : List Entry → Walking Unit
  | [] => pure ()
  | .mk k v :: es => do
    expr k
    expr v
    entryList es

/-- Walk through the clauses of a comprehension. -/
def clauseList : List Clause → Walking Unit
  | [] => pure ()
  | .each vars source :: cs => do
    target false vars
    expr source
    clauseList cs
  | .only cond :: cs => do
    expr cond
    clauseList cs

/-- Walk through the arguments of a call. -/
def argumentList (w : ArgumentWalk) : List Argument → Walking Unit
  | [] => pure ()
  | .mapping p e :: args => do
    if w.hasMapping then stop p (.repeatedKind "**kwargs")
    expr e
    argumentList { w with hasMapping := true } args
  | .sequence p e :: args => do
    if w.hasMapping then stop p (.misplaced "*args" (Text.ascii "**kwargs"))
    if w.hasSequence then stop p (.repeatedKind "*args")
    expr e
    argumentList { w with hasSequence := true } args
  | .named p x e :: args => do
    if w.hasMapping then stop p (.misplaced "keyword argument" (Text.ascii "**kwargs"))
    if w.hasSequence then stop p (.misplaced "keyword argument" (Text.ascii "*args"))
    if w.names.contains x then stop p (.repeatedKeyword x)
    expr e
    argumentList { w with names := x :: w.names } args
  | .positional e :: args => do
    if w.hasSequence then stop e.start (.misplaced "positional argument" (Text.ascii "*args"))
    if w.hasMapping then stop e.start (.misplaced "positional argument" (Text.ascii "**kwargs"))
    unless w.names.isEmpty do
      stop e.start (.misplaced "positional argument" (Text.ascii "named"))
    expr e
    argumentList w args

/-- Walk through the target of an assignment, which updates it or not. -/
def target (updates : Bool) : Expr → Walking Unit
  | .name p x => bind p x
  | .index a b => do
    expr a
    expr b
  | .member e _ => expr e
  | .tuple p es => do
    if updates then stop p (.updatedItems "tuple")
    targetList updates es
  | .list p es => do
    if updates then stop p (.updatedItems "list")
    targetList updates es
  | .paren _ e => target updates e
  | e => stop e.start (.notAssignable (targetName e))

/-- Walk through several targets. -/
def targetList (updates : Bool) : List Expr → Walking Unit
  | [] => pure ()
  | e :: es => do
    target updates e
    targetList updates es

end

/-- Walk through the names that are asked of another lesson. -/
def loadedList : List LoadedName → Walking Unit
  | [] => pure ()
  | n :: ns => do
    if n.exported.isEmpty then stop n.position .loadEmpty
    if n.exported.head? == some (Text.byte '_') then stop n.position (.loadHidden n.exported)
    if ← bindLocal n.localName then stop n.localPosition (.reassignedLoad n.localName)
    modify fun w => { w with loaded := w.loaded ++ [(n.localName, n.localPosition)] }
    loadedList ns

/-- Some statements may only stand in a function. -/
def requireFunction (p : Position) (what : String) : Walking Unit := do
  if (← get).functions == 0 then stop p (.outside what)

/-- Walk through the body of a loop. -/
def inLoop (body : Walking Unit) : Walking Unit := do
  modify fun w => { w with loops := w.loops + 1 }
  body
  modify fun w => { w with loops := w.loops - 1 }

/-- Walk through the branches of a conditional statement. -/
def inConditional (body : Walking Unit) : Walking Unit := do
  modify fun w => { w with conditionals := w.conditionals + 1 }
  body
  modify fun w => { w with conditionals := w.conditionals - 1 }

mutual

/-- Walk through a statement. -/
def statement : Statement → Walking Unit
  | .expr e => expr e
  | .assign t e => do
    expr e
    target false t
  | .update _ t e => do
    expr e
    target true t
  | .define p x params body => do
    bind p x
    defaultList params
    inFunction do
      parameterList {} params
      statementList body
  | .result p e => do
    requireFunction p "return statement"
    optional e
  | .jump p j => do
    if j ≠ .pass && (← get).loops == 0 then stop p (.outsideLoop j)
  | .conditional p cond yes no => do
    requireFunction p "if statement"
    expr cond
    inConditional do
      statementList yes
      statementList no
  | .loop p vars source body => do
    requireFunction p "for loop"
    expr source
    target false vars
    inLoop (statementList body)
  | .whileLoop p cond body => do
    stop p .whileLoop
    expr cond
    inLoop (statementList body)
  | .load p names => do
    let w ← get
    if 0 < w.functions then stop p (.loadWithin "function")
    else if 0 < w.loops then stop p (.loadWithin "loop")
    else if 0 < w.conditionals then stop p (.loadWithin "conditional")
    loadedList names

/-- Walk through several statements. -/
def statementList : List Statement → Walking Unit
  | [] => pure ()
  | s :: ss => do
    statement s
    statementList ss

end

end Walking

/-- Note a name in all blocks but that of the lesson itself. -/
def noteName (x : Text) (blocks : List Nat) (bound : Array (List Text)) : Array (List Text) :=
  (blocks.filter (· ≠ 0)).foldl (fun bound b => bound.modify b (x :: ·)) bound

/-- Look up a use of a name after the walk, where `bound` holds the names of each block and `known` says
which names every lesson knows. The answer is the names of each block after it. -/
def NameUse.lookUp (known : Text → Bool) (globals : List Text) (bound : Array (List Text))
    (u : NameUse) : Except (Position × ScopeFault) (Array (List Text)) :=
  let locals := u.blocks.flatMap fun b => bound.getD b []
  if locals.contains u.name || globals.contains u.name then .ok bound
  else if known u.name then .ok (noteName u.name u.blocks bound)
  else if u.name = Text.ascii "set" then .error (u.position, .sets)
  else
    let names := (locals ++ globals).mergeSort fun a b => decide (a ≤ b)
    .error (u.position, .undefined u.name names)

/-- Walk through the statements and look up the names that they use. -/
def checkScopes (known : Text → Bool) (ss : List Statement) :
    Except (Position × ScopeFault) Unit := do
  let (_, w) ← (Walking.statementList ss).run {}
  let uses := w.settled ++ (w.uses.headD []).reverse
  let _ ← uses.foldlM (fun bound u => u.lookUp known (w.globals.map Prod.fst) bound) w.bound

/-- Why the statements may not run as a lesson, if so. -/
def scopeFault? (known : Text → Bool) (ss : List Statement) : Option (Position × ScopeFault) :=
  match checkScopes known ss with
  | .error f => some f
  | .ok _ => none

end LineMachine.Lesson
