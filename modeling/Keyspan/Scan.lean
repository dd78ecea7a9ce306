import Keyspan.Partition

/-!
# Scans and their fragments

A scan asks for the rows of a table in a range of row keys, with an opaque filter that is passed
on as it is. A `Fragment` is the part of a scan that one partition answers: it carries the host
that answers it and the range of the partition, cut at each bound of the scan that lies inside
the partition.
-/

namespace Keyspan

/-- A requested scan (`ScanSpec`). The empty filter is a filter; no filter is `none`. -/
structure Scan where
  table : String
  range : KeyRange
  filter : Option Bytes
  deriving DecidableEq

/-- The part of a scan that one partition answers (`SubScanSpec`). -/
structure Fragment where
  table : String
  host : String
  range : KeyRange
  filter : Option Bytes
  deriving DecidableEq

/-- A filter as the value it is. -/
def filterShown : Option Bytes → String
  | none => "None"
  | some b => Text.quotedBytes b

def Fragment.shown (f : Fragment) : String :=
  "SubScanSpec(table_name=" ++ Text.quoted f.table ++ ", region_server=" ++ Text.quoted f.host ++
    ", start_row=" ++ Text.quotedBytes f.range.start ++
    ", stop_row=" ++ Text.quotedBytes f.range.stop ++
    ", serialized_filter=" ++ filterShown f.filter ++ ")"

namespace Scan

/-- Whether the scan has a filter (`has_filter`). -/
def hasFilter (s : Scan) : Bool := s.filter.isSome

def shown (s : Scan) : String :=
  "ScanSpec(table_name=" ++ Text.quoted s.table ++
    ", start_row=" ++ Text.quotedBytes s.range.start ++
    ", stop_row=" ++ Text.quotedBytes s.range.stop ++
    ", serialized_filter=" ++ filterShown s.filter ++ ")"

/-- The bound of a scan if it lies inside a range, and the range's own bound otherwise. -/
def cut (bound : Bytes) (range : KeyRange) (own : Bytes) : Bytes :=
  if !bound.isEmpty && range.contains bound then bound else own

/-- **The part of the scan that a hosted partition answers (`to_sub_scan_spec`).** -/
def fragment (s : Scan) (h : Hosted) : Fragment :=
  let own := h.partition.range
  { table := s.table
    host := h.host
    range := ⟨cut s.range.start own own.start, cut s.range.stop own own.stop⟩
    filter := s.filter }

end Scan

end Keyspan
