import QueryShell.Token.Basic

/-!
# Bracketed tokens

`TokenTree.ofTokens` folds a list of tokens along its brackets: what stands
between two matching brackets becomes one tree. The fold also refuses an empty
place between two commas outside all brackets, since it meets the tokens in the
order of the text and the first fault is the one to report.
-/

namespace QueryShell

/-- A token that is no bracket, or a pair of brackets with what stands between
them. -/
inductive TokenTree where
  | leaf (token : Token)
  /-- `start` is where the opening bracket begins and `stop` where the closing
  one begins. -/
  | group (bracket : Bracket) (start : Nat) (children : List TokenTree) (stop : Nat)

namespace TokenTree

/-- Where the first token of the tree begins. -/
def start : TokenTree → Nat
  | leaf t => t.span.start
  | group _ start _ _ => start

/-- What the first token of the tree is. -/
def head : TokenTree → TokenKind
  | leaf t => t.kind
  | group b .. => .opener b

/-- A bracket that is open: where it begins, and the trees before it, the last
one first. -/
structure Frame where
  bracket : Bracket
  start : Nat
  before : List TokenTree

/-- What is wrong with the brackets and commas of a list of tokens. -/
inductive Fault where
  /-- A closing bracket without an opening one. -/
  | unmatched (closer : Bracket)
  /-- A closing bracket of another form than the bracket that is open. -/
  | mismatched (opener closer : Bracket)
  /-- A bracket that is never closed. -/
  | unclosed (opener : Bracket)
  /-- No token before a comma outside all brackets. -/
  | emptyPlace

/-- Whether the trees read so far, the last one first, end just before a new
place. -/
def atPlaceStart : List TokenTree → Bool
  | [] => true
  | leaf t :: _ => t.kind == .comma
  | group .. :: _ => false

/-- Folds tokens along their brackets. `stack` holds the brackets that are open,
the innermost first, and `before` the trees read inside the innermost one, the
last one first. A fault comes with its offset. -/
def fold (stack : List Frame) (before : List TokenTree) :
    List Token → Except (Fault × Nat) (List TokenTree)
  | [] =>
    match stack with
    | [] => .ok before.reverse
    | f :: _ => .error (.unclosed f.bracket, f.start)
  | t :: ts =>
    match t.kind with
    | .opener b => fold (⟨b, t.span.start, before⟩ :: stack) [] ts
    | .closer b =>
      match stack with
      | [] => .error (.unmatched b, t.span.start)
      | f :: stack =>
        if f.bracket = b then
          fold stack (group b f.start before.reverse t.span.start :: f.before) ts
        else .error (.mismatched f.bracket b, t.span.start)
    | .comma =>
      if stack.isEmpty && atPlaceStart before then .error (.emptyPlace, t.span.start)
      else fold stack (leaf t :: before) ts
    | _ => fold stack (leaf t :: before) ts

/-- The trees of a list of tokens; a token for the end of the text is not part
of them. -/
def ofTokens (ts : List Token) : Except (Fault × Nat) (List TokenTree) :=
  fold [] [] (ts.filter (·.kind != .eof))

end TokenTree

end QueryShell
