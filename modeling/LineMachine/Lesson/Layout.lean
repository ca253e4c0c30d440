import LineMachine.Lesson.Reading

/-!
# Lines and blocks of a lesson

A line feed ends a line, unless brackets are open or a backslash stands before it. Lines without
tokens do not count. The indentation of the other lines makes blocks: a wider one opens a block, and a
narrower one closes all blocks that are wider, the indentation of one of which it has to have.
-/

namespace LineMachine.Lesson

/-! ## Lines -/

/-- What is read between two tokens: where reading is, the number of open brackets, whether the line
has had no token yet, and the width of its indentation so far. -/
structure Cursor where
  position : Position := {}
  depth : Nat := 0
  fresh : Bool := true
  width : Nat := 0
  deriving Repr

/-- What the reader of lines finds: a token, or the indentation of a line with tokens in it. -/
inductive LineItem where
  | lexeme (l : Lexeme)
  | indentation (width : Nat) (position : Position)
  | finish (fresh : Bool) (position : Position)
  deriving Repr

/-- The number of brackets that are open after a token, or none if it closes one that is not open. -/
def bracketDepth (depth : Nat) (s : String) : Option Nat :=
  if ["(", "[", "\x7b"].contains s then some (depth + 1)
  else if [")", "]", "\x7d"].contains s then (if depth = 0 then none else some (depth - 1))
  else some depth

/-- The indentation of the line, if its first token is about to come. -/
def Cursor.opening (c : Cursor) : List LineItem :=
  if c.fresh && c.depth == 0 then [.indentation c.width c.position] else []

/-- Read on at the characters `r :: rs`. The answer is what is found, the cursor after it, and the
number of characters of `rs` that are used up; there is no cursor after a fault. -/
def Cursor.step (c : Cursor) (r : Nat) (rs : List Nat) : List LineItem × Option (Cursor × Nat) :=
  let p := c.position
  let fault (q : Position) (m : Text) : LineItem := .lexeme ⟨.fault m, q, q⟩
  if r = rune ' ' then
    ([], some ({ c with position := p.after r, width := c.width + 1 }, 0))
  else if r = rune '\t' then
    ([], some ({ c with position := p.after r, width := c.width + (8 - (p.col - 1) % 8) }, 0))
  else if r = rune '#' then
    let n := spanLength (fun r => r != 10 && r != 0) rs
    ([], some ({ c with position := p.shift (n + 1) }, n))
  else if r = 10 then
    let next := { c with position := p.after r, fresh := true, width := 0 }
    if 0 < c.depth || c.fresh then ([], some (next, 0))
    else ([.lexeme ⟨.newline, p, p.after r⟩], some (next, 0))
  else if r = rune '\\' then
    match rs with
    | 10 :: _ => (c.opening, some ({ c with position := (p.after r).after 10, fresh := false }, 1))
    | _ => (c.opening ++ [fault (p.after r) (Text.ascii "stray backslash in program")], none)
  else match readToken (r :: rs) with
    | .fault column m => (c.opening ++ [fault (p.shift column) m], none)
    | .token t n =>
      let stop := p.afterAll ((r :: rs).take n)
      let depth := match t with
        | .symbol s => bracketDepth c.depth s
        | _ => some c.depth
      match depth with
      | none =>
        (c.opening ++ [fault p (Text.ascii "unexpected " ++ t.describe)], none)
      | some depth =>
        (c.opening ++ [.lexeme ⟨t, p, stop⟩],
          some ({ c with position := stop, depth, fresh := false }, n - 1))

/-- Read characters to their end, or to a fault. `skip` of them have been used up already. -/
def Cursor.read (c : Cursor) (acc : List LineItem) : Nat → List Nat → List LineItem
  | _, [] => (LineItem.finish c.fresh c.position :: acc).reverse
  | k + 1, _ :: rs => c.read acc k rs
  | 0, r :: rs =>
    if r = 0 then (LineItem.finish c.fresh c.position :: acc).reverse
    else match c.step r rs with
      | (items, some (next, n)) => next.read (items.reverse ++ acc) n rs
      | (items, none) => (items.reverse ++ acc).reverse

/-! ## Blocks -/

/-- Close the blocks whose indentation is wider than `width`. The answer is the number of closed
blocks and the indentations that are still open. -/
def closeBlocks (width : Nat) : List Nat → Nat × List Nat
  | [] => (0, [])
  | w :: ws => if width < w then ((closeBlocks width ws).1 + 1, (closeBlocks width ws).2) else (0, w :: ws)

/-- Turn the indentation of lines into tokens that open and close blocks. The list holds the widths of
the open blocks, the innermost one first; the width of the whole source is zero. -/
def layout : List Nat → List LineItem → List Lexeme
  | _, [] => []
  | ws, .lexeme l :: items => l :: layout ws items
  | ws, .indentation width p :: items =>
    let current := ws.headD 0
    if current < width then ⟨.indent, p, p⟩ :: layout (width :: ws) items
    else
      let (n, stillOpen) := closeBlocks width ws
      if width = stillOpen.headD 0 then List.replicate n ⟨.outdent, p, p⟩ ++ layout stillOpen items
      else [⟨.fault (Text.ascii "unindent does not match any outer indentation level"), p, p⟩]
  | ws, .finish fresh p :: _ =>
    let closing := if ws.isEmpty then [] else
      (if fresh then [] else [⟨.newline, p, p⟩]) ++ ws.map fun _ => ⟨.outdent, p, p⟩
    closing ++ [⟨.endOfFile, p, p⟩]

/-- The tokens of a source. -/
def tokens (source : Text) : List Lexeme :=
  layout [] (Cursor.read {} [] 0 (runes source))

end LineMachine.Lesson
