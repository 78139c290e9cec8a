/-!
# Snippets

Text to insert is given to the editor as a snippet, in which a dollar sign
begins a place for the cursor to stop at. `Snippet.escape` writes a text as the
snippet that inserts just that text.
-/

namespace QueryShell.Snippet

/-- Whether a character needs a backslash before it to stand for itself. -/
def isSpecial (c : Char) : Bool :=
  c == '\\' || c == '$' || c == '}'

/-- The snippet that inserts a text as it stands. -/
def escape (cs : List Char) : List Char :=
  cs.flatMap fun c => if isSpecial c then ['\\', c] else [c]

end QueryShell.Snippet
