import QueryShell.Text.Offset
import QueryShell.Token.Lexer

/-!
# The word under the cursor

A cursor is a byte offset, and may lie anywhere: past the end of the text or
inside a character, it counts as if it stood at the nearest character boundary
before (`Text.clamp`).
-/

namespace QueryShell.Completion

/-- The longest run of word characters at the end of a text. -/
def wordBefore (cs : List Char) : List Char :=
  (cs.reverse.takeWhile Lexeme.isWordChar).reverse

/-- The longest run of word characters at the beginning of a text. -/
def wordAfter (cs : List Char) : List Char :=
  cs.takeWhile Lexeme.isWordChar

/-- The bytes of the word that the cursor touches; no byte if it touches
none. -/
def wordRange (text : List Char) (cursor : Nat) : Span :=
  let before := Text.takeBytes cursor text
  let after := Text.dropBytes cursor text
  ⟨Text.byteLength before - Text.byteLength (wordBefore before),
    Text.byteLength before + Text.byteLength (wordAfter after)⟩

end QueryShell.Completion
