import MissionBase.Main
import MissionBase.Proofs.Coherence
import MissionBase.Proofs.Telemetry.Expansion
import MissionBase.Proofs.Telemetry.Leftovers
import MissionBase.Proofs.Commanding.Blocks
import MissionBase.Proofs.Commanding.FixedPatterns
import MissionBase.Proofs.Commanding.FreshTypes
import MissionBase.Proofs.CompatibleTypes
import MissionBase.Proofs.Curves.Inversion
import MissionBase.Proofs.Echo
import MissionBase.Proofs.FreshNames
import MissionBase.Proofs.Identifiers
import MissionBase.Proofs.Leniency.Compilation
import MissionBase.Proofs.Lines
import MissionBase.Proofs.Linkage
import MissionBase.Proofs.Policy.Compilation
import MissionBase.Proofs.Rearrangement.Compilation
import MissionBase.Proofs.RejectedRows
import MissionBase.Proofs.Telemetry.BitLayout
import MissionBase.Proofs.Telemetry.CalibratedValues
import MissionBase.Proofs.Telemetry.Faithfulness
import MissionBase.Proofs.Telemetry.HiddenErrors
import MissionBase.Proofs.Telemetry.Identification
import MissionBase.Proofs.Telemetry.NameCosts
import MissionBase.Proofs.Telemetry.OwnTypes
import MissionBase.Proofs.Telemetry.SharedTypes
import MissionBase.Proofs.Telemetry.TypeSharing
import MissionBase.Proofs.Commanding.Verification
import MissionBase.Proofs.Telemetry.AlarmLabels
import MissionBase.Proofs.Telemetry.ContextSelection
import MissionBase.Proofs.Telemetry.LimitGroups
import MissionBase.Proofs.Commanding.RecordMembers
import MissionBase.Proofs.Refusals.Compilation
