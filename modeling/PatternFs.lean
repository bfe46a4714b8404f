import PatternFs.Table
import PatternFs.Text.Blank
import PatternFs.Text.Hex
import PatternFs.Text.LowerCase
import PatternFs.Text.Quoted
import PatternFs.Failure
import PatternFs.PathClass
import PatternFs.Pattern
import PatternFs.Attributes
import PatternFs.Fallback
import PatternFs.LogLevel
import PatternFs.MountRequest
import PatternFs.Mock.Creation
import PatternFs.Backing.Session
import PatternFs.Store.Outside
import PatternFs.Filesystem.Operation
import PatternFs.Kernel.Session
import PatternFs.CommandLine.Run
import PatternFs.Main
import PatternFs.Proofs.Catalog.Rules
import PatternFs.Proofs.Store.Outcomes
import PatternFs.Proofs.Filesystem.Access
import PatternFs.Proofs.Filesystem.Transition
import PatternFs.Proofs.Filesystem.Reachable
import PatternFs.Proofs.Filesystem.Entries
import PatternFs.Proofs.Filesystem.Failures
import PatternFs.Proofs.Kernel.Failures
import PatternFs.Proofs.Content.Text
import PatternFs.Proofs.Filesystem.Owned
import PatternFs.Proofs.Store.Plain
import PatternFs.Proofs.Filesystem.Linked
import PatternFs.Proofs.Filesystem.Texts
import PatternFs.Proofs.Filesystem.Refinement
import PatternFs.Proofs.Filesystem.Sizes
import PatternFs.Proofs.Filesystem.History
import PatternFs.Proofs.Filesystem.Clients
import PatternFs.Proofs.Filesystem.Descriptors
import PatternFs.Proofs.Filesystem.Emptied
import PatternFs.Proofs.Filesystem.Recreation
import PatternFs.Proofs.Kernel.Replacement
import PatternFs.Proofs.Filesystem.Identities
import PatternFs.Proofs.InodeTable.Coherent
import PatternFs.Proofs.Kernel.Steps
import PatternFs.Proofs.Kernel.Numbers
import PatternFs.Proofs.Kernel.Identity
import PatternFs.Proofs.Kernel.Undo
import PatternFs.Proofs.Kernel.Balance
import PatternFs.Proofs.Kernel.Scan
import PatternFs.Proofs.Kernel.Clearing
import PatternFs.Proofs.Filesystem.Births
import PatternFs.Proofs.Filesystem.Commutation
import PatternFs.Proofs.Filesystem.Payloads
import PatternFs.Proofs.Filesystem.Growth
import PatternFs.Proofs.Synthetic.Reads
import PatternFs.Proofs.Json.Layout
import PatternFs.Proofs.Json.Reading
import PatternFs.Proofs.Host.Lookup
import PatternFs.Proofs.Backing.Location
import PatternFs.Proofs.Config.Decoding
import PatternFs.Proofs.Path.Canonical
import PatternFs.Proofs.Size.Shortest
import PatternFs.Proofs.Mock.Names
import PatternFs.Proofs.Mock.Draws
import PatternFs.Proofs.CommandLine.Words
import PatternFs.Proofs.Reading.Schedules
import PatternFs.Proofs.Backing.References
