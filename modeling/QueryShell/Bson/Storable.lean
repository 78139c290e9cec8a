import QueryShell.Bson.Basic

/-!
# Values that can be stored

The document store ends some texts with a NUL character: the keys of documents,
and the pattern and the options of a regular expression. A value can be stored
if none of these texts has a NUL inside. Strings are stored with their length
and may hold any character.
-/

namespace QueryShell.Bson

/-- Whether a text can be stored with a NUL as its end. -/
def isTerminable (s : String) : Bool :=
  s.toList.all (· != '\x00')

mutual

def isStorable : Bson → Bool
  | document entries => entriesStorable entries
  | array items => itemsStorable items
  | regex pattern options => isTerminable pattern && isTerminable options
  | codeWithScope _ scope => entriesStorable scope
  | _ => true

def itemsStorable : List Bson → Bool
  | [] => true
  | x :: xs => isStorable x && itemsStorable xs

def entriesStorable : List (String × Bson) → Bool
  | [] => true
  | (key, x) :: es => isTerminable key && isStorable x && entriesStorable es

end

end QueryShell.Bson
