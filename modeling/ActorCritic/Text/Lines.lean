/-!
Text as lines, and lines as comma-separated cells.
-/

namespace ActorCritic
namespace Text

/-- The parts of a text between the places of a character. -/
def partsAt (c : Char) (s : String) : List String := (s.split c).toList.map String.Slice.copy

/-- A line without the carriage return at its end. -/
def withoutReturn (line : String) : String :=
  match line.toList.reverse with
  | '\r' :: cs => String.ofList cs.reverse
  | _ => line

/-- The lines of a text. A line break at its end starts no further line, and a carriage return
before a line break belongs to the break. -/
def lines (s : String) : List String :=
  let parts := partsAt '\n' s
  parts.dropLast.map withoutReturn ++ parts.getLast?.toList.filter (· ≠ "")

def cells (line : String) : List String := partsAt ',' line

/-- A line without its last cell; a line of one cell stays. -/
def withoutLastCell (line : String) : String :=
  let cs := cells line
  if cs.length ≤ 1 then line else ",".intercalate cs.dropLast

def ofCells (cells : List String) : String := ",".intercalate cells

end Text
end ActorCritic
