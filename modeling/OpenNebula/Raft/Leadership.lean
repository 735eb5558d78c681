import OpenNebula.Raft.Safety

namespace OpenNebula.Raft

open Library Library.Consensus Sql

/-! # Terms and the log of a leader -/

variable {zone : Zone} {before after : Cluster} {id other : Int} {index : Nat} {row : LogRow}

section Run

variable (reached : (Cluster.system zone).Reachable System.anyStep before)
  (path : (Cluster.system zone).Path System.anyStep before after)
include reached path

end Run

end OpenNebula.Raft
