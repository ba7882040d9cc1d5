import RaucUpdate.Library.OrderedTable
import RaucUpdate.Library.TextFields
import RaucUpdate.Library.Decimals
import RaucUpdate.Library.SemanticVersions
import RaucUpdate.Library.KeyFile
import RaucUpdate.Library.Programs
import RaucUpdate.Model.Slot
import RaucUpdate.Model.Barebox
import RaucUpdate.Proofs.Barebox
import RaucUpdate.Model.UBoot
import RaucUpdate.Model.Bootchooser
import RaucUpdate.Proofs.UBoot
import RaucUpdate.Model.SlotConfig
import RaucUpdate.Model.Utils
import RaucUpdate.Proofs.SlotConfig
import RaucUpdate.Model.SlotStates
import RaucUpdate.Model.StatusFile
import RaucUpdate.Model.UpdateHandler
import RaucUpdate.Model.Manifest
import RaucUpdate.Proofs.SlotStates
import RaucUpdate.Proofs.StatusFile
import RaucUpdate.Proofs.StatusRuns
import RaucUpdate.Proofs.Consume
import RaucUpdate.Proofs.ManifestAccepted
import RaucUpdate.Proofs.ManifestSections
import RaucUpdate.Proofs.ManifestRoundTrip
import RaucUpdate.Model.Artifacts
import RaucUpdate.Model.InstallPlans
import RaucUpdate.Model.SlotUpdate
import RaucUpdate.Model.Install
import RaucUpdate.Library.Traces
import RaucUpdate.Proofs.InstallPlans
import RaucUpdate.Proofs.InstallMarks
import RaucUpdate.Proofs.InstallStatus
import RaucUpdate.Model.ManifestChecks
import RaucUpdate.Proofs.InstallSkips
import RaucUpdate.Model.Grub
import RaucUpdate.Proofs.Grub
import RaucUpdate.Model.Efi
import RaucUpdate.Proofs.Efi
import RaucUpdate.Model.Boot
import RaucUpdate.Proofs.BootGood
import RaucUpdate.Model.Mark
import RaucUpdate.Proofs.BootErrors
import RaucUpdate.Model.Service
import RaucUpdate.Proofs.Service
import RaucUpdate.Library.CachedDevice
import RaucUpdate.Model.BootRawFallback
import RaucUpdate.Proofs.BootRawFallback
import RaucUpdate.Library.SortedSearch
import RaucUpdate.Model.HashIndex
import RaucUpdate.Proofs.HashIndex
import RaucUpdate.Proofs.HashSearch
import RaucUpdate.Model.CopyArithmetic
import RaucUpdate.Proofs.CopyArithmetic
import RaucUpdate.Model.DeviceLoops
import RaucUpdate.Proofs.DeviceLoops
import RaucUpdate.Proofs.HeaderLast
import RaucUpdate.Model.BootSwitch
import RaucUpdate.Proofs.AdaptiveCopy
import RaucUpdate.Proofs.ArtifactNames
import RaucUpdate.Proofs.ArtifactRepos
import RaucUpdate.Proofs.ArtifactPrune
import RaucUpdate.Proofs.ArtifactCommit
import RaucUpdate.Proofs.ArtifactInstall
import RaucUpdate.Proofs.TargetGroup
import RaucUpdate.Proofs.SlotPlans
import RaucUpdate.Library.FileBytes
import RaucUpdate.Model.BundleTrailer
import RaucUpdate.Proofs.BundleTrailer
import RaucUpdate.Library.HashTree
import RaucUpdate.Model.VerityHash
import RaucUpdate.Proofs.VerityHash
import RaucUpdate.Model.BundlePayload
import RaucUpdate.Proofs.BundlePayload
import RaucUpdate.Model.Nbd
import RaucUpdate.Proofs.Nbd
import RaucUpdate.Model.Progress
import RaucUpdate.Proofs.Progress
import RaucUpdate.Library.SurePrograms
import RaucUpdate.Proofs.ArtifactCodec
import RaucUpdate.Model.InstallBundle
import RaucUpdate.Library.MirroredPrograms
import RaucUpdate.Proofs.InstallSteps
import RaucUpdate.Library.StillPrograms
import RaucUpdate.Proofs.InstallGates
import RaucUpdate.Proofs.InstallProgress
import RaucUpdate.Proofs.BootSwitch
import RaucUpdate.Proofs.BootToggle
import RaucUpdate.Model.Composefs
import RaucUpdate.Proofs.ArtifactData
import RaucUpdate.Proofs.Composefs
import RaucUpdate.Proofs.SemVer
import RaucUpdate.Proofs.SlotOrder
import RaucUpdate.Library.ParentLinks
import RaucUpdate.Proofs.ParentLinks
import RaucUpdate.Proofs.PayloadAlignment
import RaucUpdate.Model.Shell
import RaucUpdate.Proofs.Shell
import RaucUpdate.Model.DataDirectory
import RaucUpdate.Proofs.DataDirectory
import RaucUpdate.Model.Casync
import RaucUpdate.Proofs.Casync
import RaucUpdate.Proofs.MarkRun
import RaucUpdate.Model.BundleFormats
import RaucUpdate.Proofs.ConfigValues
import RaucUpdate.Model.EventLog
import RaucUpdate.Proofs.EventLog
import RaucUpdate.Library.WeakestPreconditions
import RaucUpdate.Model.EfiText
import RaucUpdate.Proofs.EfiText
import RaucUpdate.Library.Ciphers
import RaucUpdate.Library.Aes
import RaucUpdate.Model.Crypt
import RaucUpdate.Model.CreateBundle
import RaucUpdate.Proofs.Crypt
import RaucUpdate.Proofs.CreateBundle
import RaucUpdate.Model.BootScripts
import RaucUpdate.Model.UpdateCycle
import RaucUpdate.Proofs.UpdateCycle
import RaucUpdate.Proofs.BootScripts
import RaucUpdate.Proofs.BootAttempts
import RaucUpdate.Model.Emmc
import RaucUpdate.Proofs.Emmc
import RaucUpdate.Proofs.CreatedTree
import RaucUpdate.Proofs.BundleCycle
import RaucUpdate.Model.OpenedBundle
import RaucUpdate.Proofs.OpenedBundle
import RaucUpdate.Proofs.BundleDirectory
import RaucUpdate.Proofs.ExtractedBundle
import RaucUpdate.Model.ArtifactRuns
import RaucUpdate.Proofs.SparedArtifacts
import RaucUpdate.Proofs.ArtifactPlans
import RaucUpdate.Proofs.ArtifactRuns
import RaucUpdate.Proofs.ArtifactVariants
