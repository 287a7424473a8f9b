import GoldenSuite.Text.Width

/-! Tables of text: cells in columns, with a title, a header and a footer, drawn with lines or in
colours. -/

namespace GoldenSuite.Table

inductive Align where
  | left
  | right
deriving DecidableEq

/-- The colours of the parts of a table, as terminal codes. -/
structure Palette where
  title : String
  header : String
  footer : String
  oddRow : String
  evenRow : String

/-- How a table is drawn. -/
inductive Style where
  | lines
  | colored (palette : Palette)

/-- A column: its heading, its alignment, and the width at which its cells are wrapped. Cells of
numbers alone have their heading on the right. -/
structure Column where
  heading : String
  align : Align := .left
  numeric : Bool := false
  wrapAt : Option Nat := none

/-- What is drawn. -/
structure Contents where
  title : String
  columns : List Column
  rows : List (List String)
  footer : List String

-------------------------------------------------------------------------------
-- Text in cells
-------------------------------------------------------------------------------

def blanks (n : Nat) : String :=
  String.ofList (List.replicate n ' ')

def pad (align : Align) (width : Nat) (text : String) : String :=
  let fill := blanks (width - Text.Width.ofString text)
  match align with
  | .left => text ++ fill
  | .right => fill ++ text

/-- Writes a line over itself after every carriage return. -/
def overwrite : List Char → List Char → List Char → List Char
  | before, after, [] => before.reverse ++ after
  | before, after, c :: rest =>
      if c = '\r' then overwrite [] (before.reverse ++ after) rest
      else overwrite (c :: before) after.tail rest

/-- The lines of a text. -/
def linesOf (text : String) : List String :=
  text.splitOn "\n"

/-- Every tab as four blanks. -/
def withoutTabs (text : String) : String :=
  String.ofList (text.toList.flatMap fun c =>
    if c = '\t' then [' ', ' ', ' ', ' '] else [c])

/-- The text of a cell with tabs as blanks and carriage returns worked out. -/
def plainText (text : String) : String :=
  let lines := linesOf ((withoutTabs text).replace "\r\n" "\n")
  String.intercalate "\n" (lines.map fun line => String.ofList (overwrite [] [] line.toList))

def widestLine (text : String) : Nat :=
  ((linesOf text).map Text.Width.ofString).foldl max 0

/-- White space that separates words. -/
def isSpace (c : Char) : Bool :=
  c.isWhitespace || c = '\x0b' || c = '\x0c' || c = '\u0085' || c = '\u00a0' || c = '\u1680'
    || ('\u2000' ≤ c && c ≤ '\u200a') || c = '\u2028' || c = '\u2029' || c = '\u202f'
    || c = '\u205f' || c = '\u3000'

/-- The words of a text: the stretches between white space. -/
def words (text : String) : List String :=
  let finish (word : List Char) (found : List String) : List String :=
    if word.isEmpty then found else String.ofList word.reverse :: found
  let (word, found) := text.toList.foldl
    (fun (word, found) c => if isSpace c then ([], finish word found) else (c :: word, found))
    (([], []) : List Char × List String)
  (finish word found).reverse

/-- Text that is being set in lines of limited width: the lines that are full, the last first,
and the current one. -/
structure Setting where
  full : List String := []
  line : String := ""
  used : Nat := 0

namespace Setting

def newLine (s : Setting) : Setting :=
  { full := s.line :: s.full }

/-- Adds a character, on a new line if the current one is full. -/
def addChar (width : Nat) (s : Setting) (c : Char) : Setting :=
  let s := if s.used = width then s.newLine else s
  { s with line := s.line.push c, used := s.used + 1 }

def addText (s : Setting) (text : String) (width : Nat) : Setting :=
  { s with line := s.line ++ text, used := s.used + width }

/-- Ends a line that is full, if more words follow. -/
def settle (width : Nat) (more : Bool) (s : Setting) : Setting :=
  if s.used = width && more then s.newLine else s

def lines (s : Setting) : List String :=
  (s.line :: s.full).reverse

end Setting

/-- Sets words in lines. A word that does not fit goes to a new line; only a word wider than a
whole line is broken. -/
def setSoft (width : Nat) : Setting → List String → Setting
  | s, [] => s
  | s, word :: rest =>
      let size := Text.Width.ofString word
      let gap := if s.used = 0 then 0 else 1
      let next :=
        if s.used + gap + size ≤ width then s.addText (blanks gap ++ word) (gap + size)
        else
          let s := if s.used = 0 then s else s.newLine
          if size ≤ width then s.addText word size
          else word.toList.foldl (Setting.addChar width) s
      setSoft width (next.settle width !rest.isEmpty) rest

/-- Sets words in lines. A word that does not fit is broken at the edge. -/
def setHard (width : Nat) : Setting → List String → Setting
  | s, [] => s
  | s, word :: rest =>
      let s := if s.used = 0 then s else s.addText " " 1
      let size := Text.Width.ofString word
      let next :=
        if s.used + size ≤ width then s.addText word size
        else word.toList.foldl (Setting.addChar width) s
      setHard width (next.settle width !rest.isEmpty) rest

/-- Cuts a text at its empty lines. -/
def paragraphs (text : String) : List String :=
  text.splitOn "\n\n"

/-- A text in lines of at most `width` columns; one that fits as it is stays as it is. -/
def wrap (set : Nat → Setting → List String → Setting) (width : Nat) (text : String)
    : List String :=
  if Text.Width.ofString text ≤ width then linesOf text
  else
    let pieces := (paragraphs text).map fun paragraph => (set width {} (words paragraph)).lines
    match pieces with
    | [] => []
    | first :: rest => first ++ rest.flatMap fun piece => "" :: piece

-------------------------------------------------------------------------------
-- Layout
-------------------------------------------------------------------------------

/-- The width of a column: its widest cell, but no more than its limit. -/
def columnWidth (table : Contents) (index : Nat) (column : Column) : Nat :=
  let cells := column.heading :: (table.footer.getD index "")
    :: table.rows.map fun row => row.getD index ""
  let widest := (cells.map widestLine).foldl max 0
  match column.wrapAt with
  | some limit => min limit widest
  | none => widest

def columnWidths (table : Contents) : List Nat :=
  table.columns.mapIdx (columnWidth table)

/-- The lines of a cell. -/
def cellLines (column : Column) (width : Nat) (text : String) : List String :=
  match column.wrapAt with
  | some _ => wrap setSoft width text
  | none => linesOf text

/-- Headings and footers stand on the right over columns in which no cell is anything but a
number. -/
def frameAlign (table : Contents) (column : Column) : Align :=
  if column.numeric || table.rows.isEmpty then .right else .left

/-- A row of cells as lines of padded cells. -/
def layRow (aligns : List Align) (columns : List Column) (widths : List Nat)
    (cells : List String)
    : List (List String) :=
  let piles := (columns.zip widths).zipWith (fun cw cell => cellLines cw.1 cw.2 cell) cells
  let height := (piles.map List.length).foldl max 1
  (List.range height).map fun index =>
    (aligns.zip widths).zipWith
      (fun aw pile => " " ++ pad aw.1 aw.2 (pile.getD index "") ++ " ") piles

-------------------------------------------------------------------------------
-- Drawing
-------------------------------------------------------------------------------

def rule (left middle right : String) (fill : String) (widths : List Nat) : String :=
  left ++ String.intercalate middle
    (widths.map fun w => String.join (List.replicate (w + 2) fill)) ++ right

/-- A text without the white space around it. -/
def trimmed (text : String) : String :=
  let front := text.toList.dropWhile isSpace
  String.ofList (front.reverse.dropWhile isSpace).reverse

/-- The lines of the title, each padded to the width of the table. -/
def titleLines (width : Nat) (title : String) : List String :=
  (wrap setHard width (withoutTabs title)).map fun line => " " ++ pad .left width (trimmed line) ++ " "

def paint (codes text : String) : String :=
  "\x1b[" ++ codes ++ "m" ++ text ++ "\x1b[0m"

/-- The lines of a table that is drawn with lines. -/
def ruledLines (table : Contents) : List String :=
  let widths := columnWidths table
  let inner := (widths.map (· + 2)).foldl (· + ·) 0 + (widths.length - 1)
  let frame := table.columns.map (frameAlign table)
  let row (cells : List String) : String := "│" ++ String.intercalate "│" cells ++ "│"
  let lay (aligns : List Align) (cells : List String) : List String :=
    (layRow aligns table.columns widths cells).map row
  ["┌" ++ String.join (List.replicate inner "─") ++ "┐"]
    ++ (titleLines (inner - 2) table.title).map (fun line => "│" ++ line ++ "│")
    ++ [rule "├" "┬" "┤" "─" widths]
    ++ lay frame (table.columns.map (·.heading))
    ++ [rule "├" "┼" "┤" "─" widths]
    ++ table.rows.flatMap (lay (table.columns.map (·.align)))
    ++ [rule "├" "┼" "┤" "─" widths]
    ++ lay frame table.footer
    ++ [rule "└" "┴" "┘" "─" widths]

/-- The lines of a table that is drawn in colours. -/
def coloredLines (palette : Palette) (table : Contents) : List String :=
  let widths := columnWidths table
  let inner := (widths.map (· + 2)).foldl (· + ·) 0
  let frame := table.columns.map (frameAlign table)
  let lay (codes : String) (aligns : List Align) (cells : List String) : List String :=
    (layRow aligns table.columns widths cells).map fun line =>
      String.join (line.map (paint codes))
  let rowCodes (index : Nat) : String :=
    if index % 2 = 0 then palette.oddRow else palette.evenRow
  (titleLines (inner - 2) table.title).map (paint palette.title)
    ++ lay palette.header frame (table.columns.map (·.heading))
    ++ (table.rows.mapIdx fun index cells =>
        lay (rowCodes index) (table.columns.map (·.align)) cells).flatten
    ++ lay palette.footer frame table.footer

/-- A table as text, every line with its end. -/
def render (style : Style) (table : Contents) : String :=
  let plain := { table with rows := table.rows.map (·.map plainText) }
  let lines :=
    match style with
    | .lines => ruledLines plain
    | .colored palette => coloredLines palette plain
  String.join (lines.map (· ++ "\n"))

end GoldenSuite.Table
