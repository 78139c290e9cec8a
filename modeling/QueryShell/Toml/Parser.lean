import QueryShell.Toml.Item
import QueryShell.Toml.Scalar

/-!
# Reading TOML

`Toml.parse?` reads a document into the entries of its root table. A text that
is no TOML, or that defines a key twice, has none.
-/

namespace QueryShell.Toml

mutual

/-- Reads a value. -/
def value : (fuel depth : Nat) → List Char → Option (Value × List Char)
  | 0, _, _ => none
  | fuel + 1, depth, cs =>
    match cs with
    | '"' :: _ => (quotedString cs).map fun (s, rest) => (.string s, rest)
    | '\'' :: _ => (quotedString cs).map fun (s, rest) => (.string s, rest)
    | '[' :: rest =>
      if maxDepth ≤ depth then none
      else (elements fuel (depth + 1) rest).map fun (xs, rest) => (.array xs, rest)
    | '{' :: rest =>
      if maxDepth ≤ depth then none
      else
        (properties fuel (depth + 1) [] rest).map fun (es, rest) =>
          (.table (Item.entriesToValue es), rest)
    | _ => word cs

/-- Reads the elements of an array from after its opening bracket or a comma. -/
def elements : (fuel depth : Nat) → List Char → Option (List Value × List Char)
  | 0, _, _ => none
  | fuel + 1, depth, cs => do
    match ← skipLines cs.length cs with
    | ']' :: rest => some ([], rest)
    | cs => do
      let (x, rest) ← value fuel depth cs
      match ← skipLines rest.length rest with
      | ']' :: rest => some ([x], rest)
      | ',' :: rest => do
        let (xs, rest) ← elements fuel depth rest
        some (x :: xs, rest)
      | _ => none

/-- Reads the properties of a table that is written as a value, from after its
opening brace or a comma, and adds them to those before. Lines may end before
and after each part of a property. -/
def properties : (fuel depth : Nat) → Item.Open → List Char → Option (Item.Open × List Char)
  | 0, _, _, _ => none
  | fuel + 1, depth, es, cs => do
    match ← skipLines cs.length cs with
    | '}' :: rest => some (es, rest)
    | cs => do
      let ((path, key), rest) ← dottedKey cs
      let rest ← expect '=' (← skipLines rest.length rest)
      let (v, rest) ← value fuel depth (← skipLines rest.length rest)
      let es ← Item.addValue v key path es
      match ← skipLines rest.length rest with
      | '}' :: rest => some (es, rest)
      | ',' :: rest => properties fuel depth es rest
      | _ => none

end

/-- A document as far as it is read: its tables, and the path of the last
header. -/
structure Reading where
  root : Item.Open := []
  path : List String := []

/-- Reads a header or a property at the beginning of a line. -/
def statement (r : Reading) (cs : List Char) : Option (Reading × List Char) :=
  match cs with
  | '[' :: '[' :: rest => do
    let ((path, key), rest) ← dottedKey rest
    let rest ← expect ']' (← expect ']' rest)
    let root ← Item.descend (Item.openElement key) path r.root
    some (⟨root, path ++ [key]⟩, rest)
  | '[' :: rest => do
    let ((path, key), rest) ← dottedKey rest
    let rest ← expect ']' rest
    let root ← Item.descend (Item.openTable key) path r.root
    some (⟨root, path ++ [key]⟩, rest)
  | _ => do
    let ((path, key), rest) ← dottedKey cs
    let rest ← expect '=' rest
    let rest := skipSpaces rest
    let (v, rest) ← value (2 * rest.length + 2) 0 rest
    let root ← Item.descend (Item.addValue v key path) r.path r.root
    some (⟨root, r.path⟩, rest)

/-- Reads the lines of a document. -/
def lines : (fuel : Nat) → Reading → List Char → Option Reading
  | 0, _, _ => none
  | fuel + 1, r, cs => do
    let cs ← skipLines cs.length cs
    if cs.isEmpty then some r
    else do
      let (r, rest) ← statement r cs
      lines fuel r (← endLine? rest)

/-- The root table of a document. A mark of the byte order may stand in front of
it. -/
def parse? (text : String) : Option (Entries Value) := do
  let cs := text.toList
  let cs := if cs.head? = some (Char.ofNat 0xFEFF) then cs.drop 1 else cs
  let r ← lines (cs.length + 1) {} cs
  some (Item.entriesToValue r.root)

end QueryShell.Toml
