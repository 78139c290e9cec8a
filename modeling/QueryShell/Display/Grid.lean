import QueryShell.Text.Width

/-!
# Grids

A grid of texts drawn with lines around all cells. Columns are as wide as their
widest cell; a cell that is wider than the limit is wrapped first. The first row
is a header: its cells are centred in their columns, all others stand on the
left.
-/

namespace QueryShell.Grid

/-- The lines of a text; there is always one more than line breaks. -/
def lines : List Char → List (List Char)
  | [] => [[]]
  | c :: cs =>
    if c = '\n' then [] :: lines cs
    else
      match lines cs with
      | [] => [[c]]
      | l :: ls => (c :: l) :: ls

/-- The columns of the widest line. -/
def textWidth (cs : List Char) : Nat :=
  ((lines cs).map Text.lineWidth).foldl max 0

/-- Breaks a text into lines of at most `limit` columns; `used` columns of the
current line are taken. Words may be broken. A character that is wider than the
limit is replaced by as many replacement characters as fit. -/
def wrapFrom (limit : Nat) : (used : Nat) → List Char → List Char
  | _, [] => []
  | used, c :: cs =>
    let w := Text.charColumns c
    if c = '\n' then c :: wrapFrom limit 0 cs
    else if used + w ≤ limit then c :: wrapFrom limit (used + w) cs
    else
      let newLine := if used = 0 then [] else ['\n']
      if w ≤ limit then newLine ++ c :: wrapFrom limit w cs
      else newLine ++ List.replicate limit (Char.ofNat 0xFFFD) ++ wrapFrom limit limit cs

/-- Wraps a text that is wider than `limit` columns. -/
def wrap (limit : Nat) (cs : List Char) : List Char :=
  if textWidth cs ≤ limit then cs
  else if limit = 0 then []
  else wrapFrom limit 0 cs

/-- How a cell is set in its column. -/
structure Setting where
  centred : Bool
  /-- What is written before and after each line, without taking columns. -/
  before : List Char
  after : List Char

/-- The style of a header in colour: bold and cyan. -/
def colouredHeader : Setting :=
  ⟨true, "\x1b[36m\x1b[1m".toList, "\x1b[39m\x1b[22m".toList⟩

def plainHeader : Setting := ⟨true, [], []⟩

def body : Setting := ⟨false, [], []⟩

def blanks (n : Nat) : List Char :=
  List.replicate n ' '

/-- A line of a cell in a column of `width` columns. The lines of a cell keep
their left edges together. -/
def setLine (s : Setting) (width : Nat) (cell : List Char) (i : Nat) : List Char :=
  match (lines cell)[i]? with
  | none => blanks width
  | some l =>
    let free := width - textWidth cell
    let left := if s.centred then free / 2 else 0
    blanks left ++ s.before ++ l ++ s.after ++
      blanks (textWidth cell - Text.lineWidth l) ++ blanks (free - left)

/-- The text of a row: as many lines as its tallest cell has. -/
def rowLines (s : Setting) (widths : List Nat) (row : List (List Char)) : List (List Char) :=
  let height := (row.map fun c => (lines c).length).foldl max 0
  (List.range height).map fun i =>
    '│' :: (List.zipWith (fun w c => ' ' :: setLine s w c i ++ [' ', '│']) widths row).flatten

/-- A horizontal line with the given corners. -/
def rule (left middle right : Char) (widths : List Nat) : List Char :=
  match widths with
  | [] => [left, right]
  | w :: ws =>
    left :: List.replicate (w + 2) '─' ++
      (ws.flatMap fun w => middle :: List.replicate (w + 2) '─') ++ [right]

/-- The widest cell of each of `n` columns. -/
def columnWidths (n : Nat) (rows : List (List (List Char))) : List Nat :=
  (List.range n).map fun i => (rows.map fun r => textWidth (r[i]?.getD [])).foldl max 0

/-- Texts with line breaks between them. -/
def unlines : List (List Char) → List Char
  | [] => []
  | [l] => l
  | l :: ls => l ++ '\n' :: unlines ls

/-- Draws a header and rows, wrapping cells at `limit` columns. -/
def draw (limit : Nat) (coloured : Bool) (header : List (List Char))
    (rows : List (List (List Char))) : List Char :=
  let header := header.map (wrap limit)
  let rows := rows.map fun r => r.map (wrap limit)
  let widths := columnWidths header.length (header :: rows)
  let headerLines := rowLines (if coloured then colouredHeader else plainHeader) widths header
  let separated := rows.flatMap fun r => rule '├' '┼' '┤' widths :: rowLines body widths r
  unlines (rule '┌' '┬' '┐' widths :: headerLines ++ separated ++ [rule '└' '┴' '┘' widths])

end QueryShell.Grid
