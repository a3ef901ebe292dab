import TreeShell.Main
import TreeShell.Proofs.FlatMap
import TreeShell.Proofs.Paths
import TreeShell.Proofs.WellFormed
import TreeShell.Proofs.Operations
import TreeShell.Proofs.Session
import TreeShell.Proofs.Json.Values
import TreeShell.Proofs.Records
import TreeShell.Proofs.Volumes
import TreeShell.Proofs.CurrentPath
import TreeShell.Proofs.Refinement
import TreeShell.Proofs.Digits
import TreeShell.Proofs.Json.Scalars
import TreeShell.Proofs.Json.RoundTrip
import TreeShell.Proofs.Calendar
import TreeShell.Proofs.Instants
import TreeShell.Proofs.Snapshots
import TreeShell.Proofs.Restart
import TreeShell.Proofs.Quoting
import TreeShell.Proofs.SpacedWords
import TreeShell.Proofs.Addresses
import TreeShell.Proofs.Failures
import TreeShell.Proofs.Imports
import TreeShell.Proofs.FolderStores
import TreeShell.Proofs.Pipelines
import TreeShell.Proofs.Looking
import TreeShell.Proofs.StoreBlindness
import TreeShell.Proofs.SideBySide
import TreeShell.Proofs.CarefulCommands
import TreeShell.Proofs.Prompts
import TreeShell.Proofs.WriteThrough
import TreeShell.Proofs.LineFilters
import TreeShell.Proofs.LineOrders
import TreeShell.Proofs.Rounding
import TreeShell.Proofs.LeadingNumbers
import TreeShell.Proofs.Moves
import TreeShell.Proofs.Landings
import TreeShell.Proofs.Copies
import TreeShell.Proofs.Removals
import TreeShell.Proofs.Batches
import TreeShell.Proofs.FoundFiles
import TreeShell.Proofs.CuttingBack
import TreeShell.Proofs.PathLaws
import TreeShell.Proofs.Redirections
import TreeShell.Proofs.LineRecall
import TreeShell.Proofs.EntryCompletion
import TreeShell.Proofs.CompletedLines
import TreeShell.Proofs.Seeding
import TreeShell.Proofs.ImportReports
import TreeShell.Proofs.RunLengths
import TreeShell.Proofs.ShownPaths
import TreeShell.Proofs.ShownSizes
