import Bookpress.Conversion.Basic
import Bookpress.Decimal.Fixed
import Bookpress.Json

/-!
# Summaries

What is told about a conversion: a record in JSON, whose fields stand in the order of their names,
or a line in words.
-/

namespace Bookpress
namespace CommandLine

/-- the counts of the pictures. -/
def ofCounts (c : Counts) : Json :=
  .record [("failed", .number c.failed), ("fetched", .number c.fetched),
    ("figures", .number c.figures), ("reused", .number c.reused)]

/-- the statistics of a conversion that took some milliseconds. -/
def ofStats (s : Stats) (elapsed : Nat) : Json :=
  .record [("elements", .number s.elements), ("empty_subsections", .number s.emptySubsections),
    ("images", ofCounts s.pictures), ("references", .number s.references),
    ("total_duration_ms", .number elapsed), ("unsupported_elements", .number s.unsupported),
    ("unused_worksheets", .number s.unusedWorksheets), ("worksheets", .number s.worksheets)]

/-- what is told about a document. -/
def ofMetadata (m : Metadata) : Json :=
  .record [("author", .string m.author), ("date", .string m.date),
    ("layout", .string m.layout.label.toList), ("sections", .number m.sections),
    ("subsections", .number m.subsections), ("title", .string m.title)]

/-- a line of the bibliography. -/
def ofEntry (e : Citation.Entry) : Json :=
  .record [("caption", .string e.caption), ("number", .number e.number),
    ("target", .string e.target)]

/-- the summary of a conversion. -/
def summary (c : Conversion) (elapsed : Nat) : Json :=
  .record [("metadata", ofMetadata c.metadata), ("references", .list (c.references.map ofEntry)),
    ("stats", ofStats c.stats elapsed)]

/-- the summary of a conversion in words; seconds have one place. -/
def summaryLine (s : Stats) (elapsed : Nat) : Text :=
  Text.ofNat s.worksheets ++ " worksheet(s), ".toList
    ++ Text.ofNat s.pictures.figures ++ " figure(s), ".toList
    ++ Text.ofNat s.references ++ " reference(s), ".toList
    ++ Text.ofNat s.pictures.failed ++ " image failure(s) in ".toList
    ++ Decimal.fixed 1 (Float.ofNat elapsed / 1000.0) ++ ['s']

end CommandLine
end Bookpress
