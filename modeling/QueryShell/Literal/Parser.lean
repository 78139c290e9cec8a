import QueryShell.Literal.Basic
import QueryShell.Literal.Fault
import QueryShell.Literal.Printer
import QueryShell.Number.Decimal
import QueryShell.Token.Lexer

/-!
# Reading literals

`Literal.parseList` reads the arguments of a call: literals separated by commas,
with one more comma at the end if the text likes. The tokens are folded along
their brackets first (`TokenTree.ofTokens`), so that reading a literal is a
recursion on trees: a token or a minus with its numeral is a value, square
brackets hold elements, and braces hold properties. Nothing is ever evaluated;
an expression of any other form is a `Fault` of its own.
-/

namespace QueryShell.Literal

/-- A fault and its offset. -/
abbrev Located := Fault × Nat

/-- The number that a numeral stands for, which has to be finite. -/
def readNumeral (text : String) (offset : Nat) : Except Located Double :=
  match Double.ofNumeral? text.toList with
  | none => .error (.numeral text, offset)
  | some x => if x.isFinite then .ok x else .error (.range text, offset)

/-- The letters that a regular expression may have behind it. -/
def regexFlags : List Char := "dgimsuvxy".toList

/-- The first flag that is unknown or repeats one of those `seen` before. -/
def flagFault? (seen : List Char) : List Char → Option Fault
  | [] => none
  | c :: cs =>
    if !regexFlags.contains c then some (.unknownFlag c)
    else if seen.contains c then some (.repeatedFlag c)
    else flagFault? (c :: seen) cs

/-- The fault of a name in the place of a value, which depends on the token
after it. -/
def nameFault (name : String) : Option TokenKind → Fault
  | some (.opener .paren) => .callOf name
  | some .dot => .memberOf name
  | _ => .identifier name

/-- The value that a token alone stands for; `next` is the token after it. -/
def ofToken (t : Token) (next : Option TokenKind) : Except Located Literal :=
  let fail (f : Fault) : Except Located Literal := .error (f, t.span.start)
  match t.kind with
  | .string value quote _ => if quote = '\x60' then fail .template else .ok (string value)
  | .number text => (readNumeral text t.span.start).map number
  | .operator c => fail (if c = '-' then .minus else .operator c)
  | .regex pattern flags _ =>
    match flagFault? [] flags.toList with
    | some f => fail f
    | none => .ok (regex pattern flags)
  | .ident "true" => .ok (bool true)
  | .ident "false" => .ok (bool false)
  | .ident "null" => .ok null
  | .ident "new" => fail .constructor
  | .ident name => fail (nameFault name next)
  | .db => fail (nameFault "db" next)
  | .unknown c => fail (.character c)
  | .opener _ | .closer _ | .dot | .comma | .colon | .semicolon | .eof =>
    fail (.unexpected .value t.kind)

/-- The key that a token tree stands for. -/
def keyOf (t : TokenTree) : Except Located String :=
  match t.head with
  | .ident name => .ok name
  | .db => .ok "db"
  | .string value quote _ => if quote = '\x60' then .error (.template, t.start) else .ok value
  | .number text => (readNumeral text t.start).map fun x => String.ofList (numberChars x)
  | .opener .square => .error (.computedKey, t.start)
  | kind => .error (.unexpected .key kind, t.start)

/-- The fault of a token tree in a place where something else has to stand. -/
def misplaced (expected : Expected) (t : TokenTree) : Located :=
  let fault : Fault :=
    match t.head with
    | .opener .paren => .call
    | .dot => .member
    | .opener .square => .index
    | .operator c => .operator c
    | kind => .unexpected expected kind
  (fault, t.start)

/-- The text of the numeral, if the two trees are a minus and a numeral. -/
def negated? : TokenTree → TokenTree → Option (String × Nat)
  | .leaf ⟨.operator '-', _⟩, .leaf ⟨.number text, span⟩ => some (text, span.start)
  | _, _ => none

mutual

/-- The literal that a token tree stands for, `depth` brackets deep; `next` is
the token after it. -/
def ofTree (depth : Nat) (next : Option TokenKind) : TokenTree → Except Located Literal
  | .leaf t => ofToken t next
  | .group .paren start _ _ => .error (.parenthesized, start)
  | .group .square start children _ =>
    if depth < maxDepth then (elements (depth + 1) .afterElement children).map array
    else .error (.tooDeep, start)
  | .group .brace start children stop =>
    if depth < maxDepth then
      (properties (depth + 1) stop children).map fun ps => object (Entries.ofList ps)
    else .error (.tooDeep, start)

/-- The literals that stand between commas. What has to follow each of them is
`expected`. -/
def elements (depth : Nat) (expected : Expected) : List TokenTree → Except Located (List Literal)
  | [] => .ok []
  | [t] =>
    if t.head = .comma then .error (.hole, t.start)
    else do
      let x ← ofTree depth none t
      .ok [x]
  | t :: u :: rest =>
    if t.head = .comma then .error (.hole, t.start)
    else
      match negated? t u with
      | some (text, offset) => do
        let x ← readNumeral text offset
        let xs ← moreElements depth expected rest
        .ok (number x.neg :: xs)
      | none => do
        let x ← ofTree depth (some u.head) t
        let xs ← moreElements depth expected (u :: rest)
        .ok (x :: xs)

/-- What follows a literal: a comma and `elements`, or nothing. -/
def moreElements (depth : Nat) (expected : Expected) :
    List TokenTree → Except Located (List Literal)
  | [] => .ok []
  | t :: rest =>
    if t.head = .comma then elements depth expected rest else .error (misplaced expected t)

/-- The properties that stand between commas, up to the closing brace at
`stop`. -/
def properties (depth : Nat) (stop : Nat) :
    List TokenTree → Except Located (List (String × Literal))
  | [] => .ok []
  | [k] => do
    let _ ← keyOf k
    .error (.unexpected .colon (.closer .brace), stop)
  | [k, c] => do
    let _ ← keyOf k
    if c.head = .colon then .error (.unexpected .value (.closer .brace), stop)
    else .error (misplaced .colon c)
  | [k, c, t] => do
    let key ← keyOf k
    if c.head = .colon then
      let x ← ofTree depth none t
      .ok [(key, x)]
    else .error (misplaced .colon c)
  | k :: c :: t :: u :: rest => do
    let key ← keyOf k
    if c.head = .colon then
      match negated? t u with
      | some (text, offset) =>
        let x ← readNumeral text offset
        let ps ← moreProperties depth stop rest
        .ok ((key, number x.neg) :: ps)
      | none =>
        let x ← ofTree depth (some u.head) t
        let ps ← moreProperties depth stop (u :: rest)
        .ok ((key, x) :: ps)
    else .error (misplaced .colon c)

/-- What follows a property: a comma and `properties`, or nothing. -/
def moreProperties (depth : Nat) (stop : Nat) :
    List TokenTree → Except Located (List (String × Literal))
  | [] => .ok []
  | t :: rest =>
    if t.head = .comma then properties depth stop rest
    else .error (misplaced .afterProperty t)

end

/-- The literals of a list of tokens. -/
def listOfTokens (ts : List Token) : Except Located (List Literal) :=
  match ts.find? Token.isUnclosed with
  | some t => .error (.unclosed t.kind, t.span.start)
  | none =>
    match TokenTree.ofTokens ts with
    | .error (f, offset) => .error (.brackets f, offset)
    | .ok trees => elements 0 .afterArgument trees

/-- The literals of an argument text that begins at the byte offset `base`. -/
def parseListAt (base : Nat) (text : List Char) : Except QueryError (List Literal) :=
  match listOfTokens (Token.tokenizeAt base text) with
  | .ok xs => .ok xs
  | .error (f, offset) => .error (f.toError offset)

/-- The literals of an argument text. -/
def parseList (text : String) : Except QueryError (List Literal) :=
  parseListAt 0 text.toList

end QueryShell.Literal
