import Iocost.Sample.Table
import Iocost.Sample.RecordText

/-!
The text of a sample: lines of a table or records, each ended by a line feed.
-/

namespace Iocost

/-- How samples are written. -/
inductive OutputFormat where
  | table
  | json
deriving DecidableEq

namespace Sample

/-- The pieces that are written one after the other: each line of the table and its line feed, or
those of the records. -/
def pieces (format : OutputFormat) (s : Sample) : List String :=
  match format with
  | .table => (Table.lines s).flatMap fun line => [String.ofList line, "\n"]
  | .json => s.records.flatMap Record.pieces

/-- The whole text of a sample. -/
def text (format : OutputFormat) (s : Sample) : String := String.join (s.pieces format)

end Sample

end Iocost
