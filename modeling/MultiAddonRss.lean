import MultiAddonRss.Foundations.Runs
import MultiAddonRss.Foundations.PastTime
import MultiAddonRss.Foundations.StepCounts
import MultiAddonRss.Foundations.WriteThrough
import MultiAddonRss.Foundations.FirstOccurrences
import MultiAddonRss.Foundations.SwapRemove
import MultiAddonRss.Foundations.StagedDelivery
import MultiAddonRss.Foundations.CommaObject
import MultiAddonRss.Foundations.Numeral
import MultiAddonRss.Foundations.Lines
import MultiAddonRss.Foundations.InputStream
import MultiAddonRss.Foundations.WindowSearch
import MultiAddonRss.Foundations.LittleEndian
import MultiAddonRss.Foundations.MirroredList
import MultiAddonRss.Foundations.ReplaceFile
import MultiAddonRss.Foundations.Purge
import MultiAddonRss.Foundations.Stuttering
import MultiAddonRss.Foundations.ProofOutline
import MultiAddonRss.Strings
import MultiAddonRss.CommaLists
import MultiAddonRss.Preferences.Scanner
import MultiAddonRss.Preferences.Decimal
import MultiAddonRss.Preferences.Parser
import MultiAddonRss.Preferences.Trivia
import MultiAddonRss.Preferences.Grammar
import MultiAddonRss.Preferences.Writer
import MultiAddonRss.Preferences.Truncation
import MultiAddonRss.Utils.SignatureIterator
import MultiAddonRss.Utils.VirtualTables
import MultiAddonRss.Utils.WindowsTables
import MultiAddonRss.Utils.PeSections
import MultiAddonRss.Utils.ElfSections
import MultiAddonRss.Manager.State
import MultiAddonRss.Manager.ClientLists
import MultiAddonRss.Manager.Mounting
import MultiAddonRss.Manager.HostState
import MultiAddonRss.Manager.Connections
import MultiAddonRss.Manager.Preferences
import MultiAddonRss.Manager.LegacyMigration
import MultiAddonRss.Manager.PreferenceRuns
import MultiAddonRss.Manager.Restart
import MultiAddonRss.Manager.LastWrite
import MultiAddonRss.Manager.CrashSafety
import MultiAddonRss.Manager.DurableWrites
import MultiAddonRss.Manager.Downloads
import MultiAddonRss.Manager.MountEffects
import MultiAddonRss.Manager.MountSpecs
import MultiAddonRss.Manager.ReloadCycle
import MultiAddonRss.Manager.ImportantRequests
import MultiAddonRss.Manager.MountedReload
import MultiAddonRss.Manager.System
import MultiAddonRss.Manager.HookSpecs
import MultiAddonRss.Manager.ReplyList
import MultiAddonRss.Manager.Refresh
import MultiAddonRss.Manager.Frames
import MultiAddonRss.Manager.Independence
import MultiAddonRss.Manager.Isolation
import MultiAddonRss.Manager.Progress
import MultiAddonRss.Manager.Offers
import MultiAddonRss.Manager.GlobalRefresh
import MultiAddonRss.Manager.SingleAddon
import MultiAddonRss.Manager.ConVarMirror
import MultiAddonRss.Manager.SearchPaths
import MultiAddonRss.Manager.MountOrder
import MultiAddonRss.Manager.RequestedAddons
import MultiAddonRss.Manager.MapChange
import MultiAddonRss.Manager.Reconnect
import MultiAddonRss.Manager.NoDuplicates
import MultiAddonRss.Manager.Restaging
import MultiAddonRss.Manager.Attempts
import MultiAddonRss.Manager.ZeroList
import MultiAddonRss.Manager.CurrentMap
import MultiAddonRss.Manager.Rounds
import MultiAddonRss.Manager.Staged
import MultiAddonRss.Manager.Gate
import MultiAddonRss.Manager.StagedRuns
import MultiAddonRss.Manager.CachedClients
import MultiAddonRss.Manager.Credits
import MultiAddonRss.Manager.DownloadAccounts
import MultiAddonRss.Manager.CfgFile
import MultiAddonRss.Manager.PreferenceFrames
import MultiAddonRss.Manager.Lifecycle
