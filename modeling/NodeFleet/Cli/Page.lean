import NodeFleet.Cli.View
import NodeFleet.Text.Width

/-!
# Pages

What the client prints for people: tables with round corners, short texts of quantities, and
colours where they are wanted.  A table's columns are as wide as their widest cell; a cell
of several lines takes as many lines of the table.
-/

namespace NodeFleet.Cli

open NodeFleet.Text

/-! ## Colours -/

/-- Whether texts are coloured. -/
structure Palette where
  isOn : Bool

namespace Palette

/-- A text in a style, given by the numbers of the style. -/
def paint (p : Palette) (style text : String) : String :=
  if p.isOn then "\x1b[" ++ style ++ "m" ++ text ++ "\x1b[0m" else text

/-- A bold text. -/
def bold (p : Palette) : String → String := p.paint "1"

/-- The name of a state, coloured by what it means. -/
def state (p : Palette) (name : String) : String :=
  if name = "active" then p.paint "32" name
  else if name = "degraded" ∨ name = "registering" then p.paint "33" name
  else if name = "terminating" ∨ name = "stopped" then p.paint "31" name
  else name

/-- The line that tells of a success. -/
def success (p : Palette) (message : String) : String :=
  p.paint "1;32" "✓" ++ " " ++ message

/-- The line that warns. -/
def warning (p : Palette) (message : String) : String :=
  p.paint "1;33" "⚠" ++ " " ++ message

end Palette

/-! ## Tables -/

def repeated (n : Nat) (c : Char) : List Char :=
  List.replicate n c

/-- A cell: its lines. -/
abbrev Cell := List (List Char)

def cellOf (text : String) : Cell :=
  splitOn '\n' text.toList

/-- The columns that a cell takes. -/
def cellWidth (cell : Cell) : Nat :=
  (cell.map width).foldl max 0

def columnWidths (count : Nat) (rows : List (List Cell)) : List Nat :=
  (List.range count).map fun i =>
    (rows.map fun row => cellWidth ((row[i]?).getD [])).foldl max 0

/-- A line of a cell, filled up to the width of its column and with a blank on both sides. -/
def filled (columnWidth : Nat) (line : List Char) : List Char :=
  ' ' :: line ++ repeated (columnWidth - width line) ' ' ++ [' ']

/-- A line between rows. -/
def rule (left middle right : Char) (widths : List Nat) : List Char :=
  left :: [middle].intercalate (widths.map fun n => repeated (n + 2) '─') ++ [right]

def rowLines (widths : List Nat) (row : List Cell) : List (List Char) :=
  let height := (row.map List.length).foldl max 1
  (List.range height).map fun i =>
    let lines := (widths.zip row).map fun entry => filled entry.1 ((entry.2[i]?).getD [])
    '│' :: ['│'].intercalate lines ++ ['│']

def table (head : List String) (rows : List (List String)) : String :=
  let head := head.map cellOf
  let rows := rows.map fun row => row.map cellOf
  let widths := columnWidths head.length (head :: rows)
  let lines := rule '╭' '┬' '╮' widths :: rowLines widths head ++ rule '├' '┼' '┤' widths ::
    rows.flatMap (rowLines widths) ++ [rule '╰' '┴' '╯' widths]
  String.ofList (['\n'].intercalate lines)

/-- A table, or a word where there is nothing to show. -/
def tableOrNote (p : Palette) (head : List String) (rows : List (List String)) : String :=
  if rows = [] then p.paint "33" "No items found" else table head rows

/-! ## Quantities -/

/-- Thousandths of a processor core, as whole cores where they are. -/
def cpuText (millis : Nat) : String :=
  if 0 < millis ∧ millis % 1000 = 0 then Numeral.text (millis / 1000)
  else Numeral.text millis ++ "m"

/-- The units of memory above the byte, the largest first: the suffix of each, and the number of
places by which a one is shifted to give its bytes. -/
def memoryUnits : List (String × Nat) :=
  [("Pi", 50), ("Ti", 40), ("Gi", 30), ("Mi", 20), ("Ki", 10)]

/-- A number of bytes in the first of the given units in which it is whole. -/
def inFirstUnit (bytes : Nat) : List (String × Nat) → String
  | [] => Numeral.text bytes
  | (suffix, shift) :: later =>
      let unit := 1 <<< shift
      if bytes % unit = 0 then Numeral.text (bytes / unit) ++ suffix
      else inFirstUnit bytes later

/-- A number of bytes, in the largest unit in which it is whole. -/
def memoryText (bytes : Nat) : String :=
  if bytes = 0 then "0" else inFirstUnit bytes memoryUnits

/-- What is taken of what there is. -/
def shareText (used allocatable : String) : String :=
  used ++ "/" ++ allocatable

/-- A time, or a hyphen for none. -/
def timeText (t : Option Timestamp) : String :=
  (t.map Timestamp.tableText).getD "-"

/-- A number, or a hyphen for none. -/
def numberText (n : Option Nat) : String :=
  (n.map Numeral.text).getD "-"

/-! ## Agents and placements -/

namespace AgentView

/-- The processor cores of an agent. -/
def cpuShare (v : AgentView) : String :=
  shareText (cpuText v.used.cpuMillis) (cpuText (v.amount "cpu"))

def memoryShare (v : AgentView) : String :=
  shareText (memoryText v.used.memoryBytes) (memoryText (v.amount "memory"))

def row (p : Palette) (v : AgentView) : List String :=
  [v.name, p.state v.state, v.podCidr, v.cpuShare, v.memoryShare, Numeral.text v.livePlacements,
    numberText v.leaseVersion]

/-- The head of the table of agents. -/
def head : List String :=
  ["Name", "State", "Pod CIDR", "CPU", "Memory", "Placements", "Lease"]

/-- The lines that show one agent. -/
def lines (p : Palette) (v : AgentView) : List String :=
  let line (c : Char) : String := String.ofList (repeated 50 c)
  [p.bold "Agent", line '=',
    "Name:                 " ++ p.paint "36" v.name,
    "State:                " ++ p.state v.state,
    "UID:                  " ++ v.uid.getD "-",
    "Generation:           " ++ numberText v.generation,
    "Pod CIDR:             " ++ v.podCidr,
    "", p.bold "Liveness", line '-',
    "Lease Version:        " ++ numberText v.leaseVersion,
    "Last Renewal:         " ++ timeText v.renewedAt,
    "Last Status Publish:  " ++ timeText v.publishedAt,
    "Failures:             heartbeat " ++ Numeral.text v.heartbeatFailures ++ ", status " ++
      Numeral.text v.statusFailures,
    "", p.bold "Resources", line '-',
    "CPU:                  " ++ v.cpuShare,
    "Memory:               " ++ v.memoryShare,
    "GPU:                  " ++ shareText (Numeral.text v.used.gpuCount)
      (Numeral.text (v.amount "nvidia.com/gpu")),
    "Pods:                 " ++ shareText (Numeral.text v.used.pods)
      (Numeral.text (v.amount "pods"))]

end AgentView

/-- The line below the table of agents. -/
def totalLine (agents : List AgentView) : String :=
  "Total: " ++ Numeral.text agents.length ++ " agents (" ++
    Numeral.text (agents.countP AgentView.isServing) ++ " serving)"

def placementRow (r : PlacementView) : List String :=
  [r.workload, cpuText r.requested.cpuMillis, memoryText r.requested.memoryBytes,
    Numeral.text r.requested.gpuCount, r.admittedAt.tableText]

def placementTable (p : Palette) (records : List PlacementView) : String :=
  tableOrNote p ["Workload", "CPU", "Memory", "GPU", "Admitted"] (records.map placementRow)

end NodeFleet.Cli
