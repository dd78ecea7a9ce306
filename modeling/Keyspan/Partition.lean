import Keyspan.KeyRange
import Keyspan.Text.Quoted

/-!
# Partitions and where they live

A table is cut into partitions by ranges of row keys. Every partition is hosted by a server, and
scans run on the slots of endpoints; a partition is *local* to an endpoint when the host of its
server is the endpoint's address. `Hosted.sort` puts partitions into the one order that all of
planning uses: by start key, then by id.

Results: `Hosted.sort_perm`: sorting neither loses nor invents a partition.
-/

namespace Keyspan

/-- A storage server (`ServerName`). -/
structure Server where
  host : String
  port : Int
  deriving DecidableEq

/-- A worker that runs scans (`WorkerEndpoint`). -/
structure Endpoint where
  address : String
  port : Int
  deriving DecidableEq

/-- A name with its port, if the port is not zero. -/
def withPort (name : String) (port : Int) : String :=
  if port = 0 then name else name ++ ":" ++ toString port

/-- A server by its host and port. -/
def Server.text (s : Server) : String := withPort s.host s.port

def Endpoint.text (e : Endpoint) : String := withPort e.address e.port

/-- A server as the value it is. -/
def Server.shown (s : Server) : String :=
  "ServerName(host_name=" ++ Text.quoted s.host ++ ", port=" ++ toString s.port ++ ")"

def Endpoint.shown (e : Endpoint) : String :=
  "WorkerEndpoint(address=" ++ Text.quoted e.address ++ ", port=" ++ toString e.port ++ ")"

def Endpoint.listed (endpoints : List Endpoint) : String :=
  Text.bracketed (endpoints.map Endpoint.shown)

/-- A range of the rows of a table, under an id. -/
structure Partition where
  id : String
  table : String
  range : KeyRange
  deriving DecidableEq

def Partition.shown (p : Partition) : String :=
  "Partition(partition_id=" ++ Text.quoted p.id ++ ", table_name=" ++ Text.quoted p.table ++
    ", start_key=" ++ Text.quotedBytes p.range.start ++
    ", stop_key=" ++ Text.quotedBytes p.range.stop ++ ")"

/-- A partition and the server that hosts it (`PartitionLocation`). -/
structure Hosted where
  partition : Partition
  server : Server
  deriving DecidableEq

namespace Hosted

def id (h : Hosted) : String := h.partition.id

/-- The host of the server (`host_name`). -/
def host (h : Hosted) : String := h.server.host

/-- Whether a partition comes strictly before another (`sort_key`): by start key, then by id. -/
def before (a b : Hosted) : Bool :=
  Bytes.lt a.partition.range.start b.partition.range.start ||
    (a.partition.range.start == b.partition.range.start && identLT a.id b.id)

/-- Whether a partition may stand in front of another. -/
def atMost (a b : Hosted) : Bool := !before b a

/-- **The partitions by start key, then by id** (`sort_locations`); partitions that agree in both
keep their order. -/
def sort (hs : List Hosted) : List Hosted := hs.mergeSort atMost

/-- **Sorting neither loses nor invents a partition.** -/
theorem sort_perm (hs : List Hosted) : (sort hs).Perm hs := List.mergeSort_perm hs atMost

theorem length_sort (hs : List Hosted) : (sort hs).length = hs.length := (sort_perm hs).length_eq

end Hosted

end Keyspan
