import QueryShell.Literal.Parser
import QueryShell.Query.Basic
import QueryShell.Query.Fault

/-!
# Reading queries

`Query.parse` reads a query in two steps. `Target.read` reads the word `db`, a
point and the name of the collection from the characters, since a collection's
name need not be a word that the tokens know. What follows is a list of tokens:
`readCalls` walks along it once and reads the arguments of a call when it meets
the parenthesis that closes it.
-/

namespace QueryShell.Query

/-- The collection of a query, and the text after it. -/
structure Target where
  collection : List Char
  rest : List Char
  /-- The byte offset of `rest`. -/
  restStart : Nat

/-- Characters of a collection's name. -/
def isNameChar (c : Char) : Bool :=
  c.isAlphanum || c == '_'

namespace Target

/-- Reads what stands in front of the calls. The text begins at the offset
`start` and not with a blank. -/
def read (start : Nat) : List Char → Except (Fault × Nat) Target
  | 'd' :: 'b' :: afterDb =>
    if afterDb.head?.any fun c => isNameChar c || c == '$' then .error (.noDatabase, start)
    else
      let blanks := afterDb.takeWhile Text.isBlank
      match afterDb.dropWhile Text.isBlank with
      | '.' :: afterDot =>
        let nameStart := start + 2 + Text.byteLength blanks + 1 +
          Text.byteLength (afterDot.takeWhile Text.isBlank)
        let text := afterDot.dropWhile Text.isBlank
        let name := text.takeWhile isNameChar
        if name.isEmpty then .error (.noCollection, nameStart)
        else .ok ⟨name, text.dropWhile isNameChar, nameStart + Text.byteLength name⟩
      | _ => .error (.noDatabase, start)
  | _ => .error (.noDatabase, start)

end Target

/-- The collection that a text is about, which may go on in any way. -/
def collection? (text : String) : Option String :=
  let body := text.toList.dropWhile Text.isBlank
  match Target.read 0 body with
  | .ok t => some (String.ofList t.collection)
  | .error _ => none

/-- Whether a word can name an operation. -/
def isCallName : List Char → Bool
  | [] => false
  | c :: cs => (c.isAlpha || c == '_') && cs.all isNameChar

/-- Where in a chain of calls a token stands. -/
inductive Place where
  /-- After the collection or a call. -/
  | outside
  /-- After a point. -/
  | afterDot
  /-- After the name of a call, which begins at `start`. -/
  | afterName (name : String) (start : Nat)
  /-- Between the parentheses of a call, with `depth` more parentheses open. -/
  | inside (name : String) (start : Nat) (opener : Span) (depth : Nat)

/-- Reads the calls from a list of tokens. `text` begins at the offset `base`,
and `index` is the number of calls before the token at hand. -/
def readCalls (base : Nat) (text : List Char) (index : Nat) :
    Place → List Token → Except QueryError (List Call)
  | _, [] => .ok []
  | .outside, t :: ts =>
    match t.kind with
    | .eof => .ok []
    | .dot => readCalls base text index .afterDot ts
    | kind => .error (Fault.toError (.noDot kind) t.span.start)
  | .afterDot, t :: ts =>
    let fault := (Fault.toError .noName t.span.start).inCall index
    match t.kind with
    | .ident name =>
      if isCallName name.toList then readCalls base text index (.afterName name t.span.start) ts
      else .error fault
    | .db => readCalls base text index (.afterName "db" t.span.start) ts
    | _ => .error fault
  | .afterName name start, t :: ts =>
    if t.kind = .opener .paren then readCalls base text index (.inside name start t.span 0) ts
    else .error ((Fault.toError (.noParen name) t.span.start).inCall index)
  | .inside name start opener depth, t :: ts =>
    if t.isUnclosed then
      .error ((Fault.toError (.unclosed t.kind) t.span.start).inCall index)
    else
      match t.kind with
      | .opener .paren => readCalls base text index (.inside name start opener (depth + 1)) ts
      | .closer .paren =>
        match depth with
        | depth + 1 => readCalls base text index (.inside name start opener depth) ts
        | 0 =>
          let inner := Text.slice (opener.stop - base) (t.span.start - base) text
          match Literal.parseListAt opener.stop inner with
          | .error e => .error (e.inCall index)
          | .ok args => do
            let calls ← readCalls base text (index + 1) .outside ts
            .ok (⟨name, args, ⟨start, t.span.stop⟩⟩ :: calls)
      | .eof => .error ((Fault.toError .unbalanced opener.start).inCall index)
      | _ => readCalls base text index (.inside name start opener depth) ts

/-- Characters that may follow a query: blanks and semicolons. -/
def isTail (c : Char) : Bool :=
  Text.isBlank c || c == ';'

/-- Reads a query; its errors do not carry the query text yet. -/
def read (text : List Char) : Except QueryError Query :=
  let stripped := Text.dropEndWhile isTail text
  if stripped.isEmpty then .error (Fault.toError .empty 0)
  else
    let start := Text.byteLength (stripped.takeWhile Text.isBlank)
    match Target.read start (stripped.dropWhile Text.isBlank) with
    | .error (fault, offset) => .error (fault.toError offset)
    | .ok t => do
      let calls ← readCalls t.restStart t.rest 0 .outside (Token.tokenizeAt t.restStart t.rest)
      let collection := String.ofList t.collection
      if calls.isEmpty then
        .error (Fault.toError (.noCall collection) (Text.byteLength stripped))
      else .ok ⟨collection, calls⟩

/-- Reads a query. -/
def parse (text : String) : Except QueryError Query :=
  match read text.toList with
  | .ok q => .ok q
  | .error e => .error (e.withQuery text)

end QueryShell.Query
