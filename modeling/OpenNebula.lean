import OpenNebula.Acl.Agreement
import OpenNebula.Acl.WellFormed
import OpenNebula.Cognit.EnergyCurves
import OpenNebula.Cognit.Requirements
import OpenNebula.Cognit.ScalingCycles
import OpenNebula.Common.Encryption
import OpenNebula.Common.RestrictedAttributes
import OpenNebula.Federation.Progress
import OpenNebula.Host.CorePersistence
import OpenNebula.Host.NumaOwnership
import OpenNebula.Host.PciAddresses
import OpenNebula.Host.PciOwnership
import OpenNebula.Host.PciRevert
import OpenNebula.Images.BackupIncrements
import OpenNebula.Images.UseCounts
import OpenNebula.Network.AddressText
import OpenNebula.Network.FreeSearch
import OpenNebula.Network.VlanUniqueness
import OpenNebula.OneDrs.DatastoreAgreement
import OpenNebula.OneFlow.DeploymentProgress
import OpenNebula.OneFlow.NoLeak
import OpenNebula.OneFlow.StraightOrder
import OpenNebula.OneFlow.WatchDog
import OpenNebula.Pyoneai.ByTime
import OpenNebula.Quota.Inverse
import OpenNebula.Quota.Ownership
import OpenNebula.Raft.CommitCount
import OpenNebula.Raft.CommitOrder
import OpenNebula.Raft.Integrity
import OpenNebula.Raft.Leadership
import OpenNebula.Raft.VoteUniqueness
import OpenNebula.Sam.Calendar
import OpenNebula.Sam.DueTimes
import OpenNebula.Schedm.Affinity
import OpenNebula.Schedm.PlanManager
import OpenNebula.Schedm.ReducedRules
import OpenNebula.Secgroup.UpdateSafety
import OpenNebula.Sql.Indexes
import OpenNebula.Sql.PurgeSafety
import OpenNebula.Users.DriverGroups
import OpenNebula.Users.LoginScope
import OpenNebula.Vdcs.Rights
import OpenNebula.Vm.BackupLinks
import OpenNebula.Vm.BackupPartition
import OpenNebula.Vm.CloningDisks
import OpenNebula.Vm.DiskAccounting
import OpenNebula.Vm.PlacementAccounting
import OpenNebula.Vm.RunningQuotaConservation
import OpenNebula.Vm.SnapshotForest
import OpenNebula.Vmgroup.RoleIds
import OpenNebula.Vnm.NicIndependence
import OpenNebula.Vnm.ToNets
