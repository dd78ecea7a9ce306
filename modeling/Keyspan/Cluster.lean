import Keyspan.OrderedMap
import Keyspan.Partition

/-!
# The status of the cluster

Every server of the cluster reports the load of the partitions it hosts: what they take in memory
and what they take in storage, in mebibytes. A report names servers in an order, and a server that
is named again keeps its place and takes the later list (`PartitionLoad`, `ClusterStatus`).
-/

namespace Keyspan

/-- What one partition takes on its server, in mebibytes. -/
structure PartitionLoad where
  id : String
  memory : Int
  storage : Int
  deriving DecidableEq

/-- The size of a partition, in mebibytes (`size_mb`). -/
def PartitionLoad.size (l : PartitionLoad) : Int := l.memory + l.storage

abbrev ClusterStatus := OrderedMap Server (List PartitionLoad)

namespace ClusterStatus

/-- The servers that reported, in order (`servers`). -/
def servers (s : ClusterStatus) : List Server := s.keys

/-- The loads that a server reported (`get_load`); none if it did not report. -/
def loadsOf (s : ClusterStatus) (server : Server) : List PartitionLoad :=
  (s.lookup server).getD []

/-- All loads with their servers, in the order of the report. -/
def reports (s : ClusterStatus) : List (Server × PartitionLoad) :=
  s.servers.flatMap fun server => (s.loadsOf server).map fun load => (server, load)

end ClusterStatus

end Keyspan
