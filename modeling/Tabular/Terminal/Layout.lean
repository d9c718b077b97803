import Tabular.Decimal.Text
import Tabular.Terminal.Style

/-!
# Text on a terminal

The building blocks of the reports that are read by people. Every block ends its last line.
-/

namespace Tabular.Terminal

def line (text : String) : String := text ++ "\n"

def repeated (n : Nat) (text : String) : String := String.join (List.replicate n text)

def heading (colours : Bool) (text : String) : String :=
  "\n" ++ line (Style.paint colours { bold := true, colour := some .blue } text) ++
    line (Style.paint colours { colour := some .blue } (repeated text.length "="))

def field (colours : Bool) (name value : String) : String :=
  "  " ++ Style.paint colours { dimmed := true } name ++ ": " ++ line value

def item (text : String) : String := "  • " ++ line text

def pad (width : Nat) (text : String) : String := text ++ repeated (width - text.length) " "

/-- The widths of the columns of a table: each holds its header and all of its cells. -/
def widths : List String → List (List String) → List Nat
  | [], _ => []
  | header :: headers, rows =>
    (rows.foldl (fun w row => max w ((row.head?.map (·.length)).getD 0)) header.length) ::
      widths headers (rows.map (·.tail))

/-- Cells of known width; cells beyond the last column keep their own. -/
def padCells : List Nat → List String → List String
  | w :: ws, cell :: cells => pad w cell :: padCells ws cells
  | [], cells => cells
  | _, [] => []

def table (colours : Bool) (headers : List String) (rows : List (List String)) : String :=
  let ws := widths headers rows
  let cells (row : List String) : String := line (" │ ".intercalate row)
  cells ((padCells ws headers).map (Style.paint colours { bold := true })) ++
    line ("─┼─".intercalate (ws.map (repeated · "─"))) ++
    String.join (rows.map fun row => cells (padCells ws row))

def percent (share : Float) : String := Decimal.fixedText 0 (share * 100.0) ++ "%"

def score (colours : Bool) (x : Float) : String :=
  let colour : Colour := if 80.0 ≤ x then .green else if 50.0 ≤ x then .yellow else .red
  Style.paint colours { bold := true, colour := some colour } (Decimal.fixedText 1 x)

def warning (colours : Bool) (text : String) : String :=
  let style : Style := { colour := some .yellow }
  style.paint colours "⚠\uFE0F" ++ " " ++ line (style.paint colours text)

def error (colours : Bool) (text : String) : String :=
  let style : Style := { colour := some .red }
  style.paint colours "❌" ++ " " ++ line (style.paint colours text)

def success (colours : Bool) (text : String) : String :=
  line (Style.paint colours { colour := some .green } text)

/-- The items, or a dash if there are none. -/
def joined (items : List String) : String :=
  if items.isEmpty then "-" else ", ".intercalate items

end Tabular.Terminal
