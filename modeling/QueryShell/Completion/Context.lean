import QueryShell.Completion.Word

/-!
# The context of a cursor

What can be completed at a cursor depends on the tokens before it. `Machine`
walks along them and keeps two things: where in the chain
`db.<collection>.<call>(…)` it stands, and the brackets that are open inside the
arguments. Tokens that cannot be part of a query lead to
`Position.invalid`, where nothing is completed.
-/

namespace QueryShell.Completion

/-- What can be completed. -/
inductive Slot where
  | collection
  /-- The operation that a chain begins with. -/
  | method
  /-- A call on the result of another. -/
  | modifier
  /-- A stage of an aggregation pipeline. -/
  | stage
  /-- An operator of a query or of an expression. -/
  | operator
  /-- A field; `reference` says that a dollar sign stands before it. -/
  | field (reference : Bool)
deriving DecidableEq, Repr

/-- What can be completed, and the part of it that stands before the cursor. -/
structure Context where
  slot : Slot
  typed : List Char
deriving DecidableEq, Repr

/-- Where in a chain of calls the machine stands. -/
inductive Position where
  | start
  | afterDb
  | afterDbDot
  | afterCollection
  | afterCollectionDot
  /-- After the name of a call, which may be the name of the aggregation. -/
  | afterName (aggregate : Bool)
  | inside
  | afterCall
  | afterCallDot
  | invalid
deriving DecidableEq, Repr

/-- A bracket that is open inside the arguments. -/
inductive Frame where
  /-- A parenthesis; `aggregate` marks the one of the aggregation's call. -/
  | paren (aggregate : Bool)
  | object
  /-- A square bracket; `pipeline` marks the aggregation's first argument. -/
  | array (pipeline : Bool)
deriving DecidableEq, Repr

namespace Frame

def bracket : Frame → Bracket
  | paren _ => .paren
  | object => .brace
  | array _ => .square

end Frame

/-- The state of the walk along the tokens. -/
structure Machine where
  position : Position := .start
  /-- The brackets that are open, the innermost first. -/
  frames : List Frame := []
  last : Option TokenKind := none
deriving DecidableEq, Repr

namespace Machine

/-- The frame that an opening bracket inside the arguments makes. -/
def frameOf (m : Machine) : Bracket → Frame
  | .paren => .paren false
  | .brace => .object
  | .square =>
    .array (decide (m.frames = [.paren true]) && decide (m.last = some (.opener .paren)))

/-- The position and the open brackets after one more token inside the
arguments. -/
def stepInside (m : Machine) : TokenKind → Position × List Frame
  | .opener b => (.inside, m.frameOf b :: m.frames)
  | .closer b =>
    match m.frames with
    | [] => (.invalid, [])
    | f :: rest =>
      if f.bracket = b then (if rest.isEmpty then .afterCall else .inside, rest)
      else (.invalid, f :: rest)
  | _ => (.inside, m.frames)

/-- The position and the open brackets after one more token. The name of a
collection may be a numeral with a word right behind it. -/
def step (m : Machine) (kind : TokenKind) : Position × List Frame :=
  match m.position, kind with
  | .invalid, _ => (.invalid, m.frames)
  | p, .eof => (p, m.frames)
  | .start, .db => (.afterDb, m.frames)
  | .afterDb, .dot => (.afterDbDot, m.frames)
  | .afterDbDot, .ident _ => (.afterCollection, m.frames)
  | .afterDbDot, .db => (.afterCollection, m.frames)
  | .afterDbDot, .number _ => (.afterCollection, m.frames)
  | .afterCollection, .ident _ =>
    match m.last with
    | some (.number _) => (.afterCollection, m.frames)
    | _ => (.invalid, m.frames)
  | .afterCollection, .dot => (.afterCollectionDot, m.frames)
  | .afterCollectionDot, .ident name => (.afterName (name == "aggregate"), m.frames)
  | .afterCallDot, .ident _ => (.afterName false, m.frames)
  | .afterName aggregate, .opener .paren => (.inside, .paren aggregate :: m.frames)
  | .inside, kind => m.stepInside kind
  | .afterCall, .dot => (.afterCallDot, m.frames)
  | _, _ => (.invalid, m.frames)

/-- The machine after one more token. -/
def feed (m : Machine) (kind : TokenKind) : Machine :=
  let (position, frames) := m.step kind
  { position, frames, last := some kind }

/-- Whether the last token is a comma or the given bracket. -/
def afterSeparator (m : Machine) (b : Bracket) : Bool :=
  m.last == some (.opener b) || m.last == some .comma

/-- The context of a cursor outside all strings, with `typed` between the start
of its word and the cursor. -/
def context? (m : Machine) (typed : List Char) : Option Context :=
  let slot? : Option Slot :=
    match m.position with
    | .afterDbDot => some .collection
    | .afterCollectionDot => some .method
    | .afterCallDot => some .modifier
    | .inside =>
      if m.frames.head? = some (.array true) && m.afterSeparator .square then some .stage
      else if typed.head? = some '$' then some .operator
      else if m.frames.head? = some .object && m.afterSeparator .brace then some .operator
      else none
    | _ => none
  slot?.map fun slot => ⟨slot, typed⟩

/-- The context of a cursor inside the unclosed literal `t`, whose word begins
at `wordStart`. Only a field can be completed there: in a string between quotes,
right after the opening one. -/
def literalContext? (m : Machine) (t : Token) (wordStart : Nat) (typed : List Char)
    (hasSchema : Bool) : Option Context :=
  match t.kind with
  | .string _ quote _ =>
    if hasSchema && (quote == '"' || quote == '\'') &&
        wordStart == t.span.start + quote.utf8Size && m.position = .inside then
      match typed with
      | '$' :: rest => some ⟨.field true, rest⟩
      | _ => some ⟨.field false, typed⟩
    else none
  | _ => none

end Machine

/-- Walks along the tokens before the word at `wordStart`, or up to an unclosed
literal. -/
def contextOfTokens (wordStart : Nat) (typed : List Char) (hasSchema : Bool) :
    Machine → List Token → Option Context
  | m, [] => m.context? typed
  | m, t :: ts =>
    if t.isUnclosed then m.literalContext? t wordStart typed hasSchema
    else if wordStart ≤ t.span.start || t.kind = .eof then m.context? typed
    else contextOfTokens wordStart typed hasSchema (m.feed t.kind) ts

/-- The context of a cursor with the text `before` in front of it. -/
def contextOf (before : List Char) (hasSchema : Bool) : Option Context :=
  let typed := wordBefore before
  let wordStart := Text.byteLength before - Text.byteLength typed
  contextOfTokens wordStart typed hasSchema {} (Token.tokenize before)

end QueryShell.Completion
