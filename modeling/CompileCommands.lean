import CompileCommands.Main
import CompileCommands.Proofs.Database.HeaderSearch
import CompileCommands.Proofs.Macro.Expansion
import CompileCommands.Toolchain.Provider
import CompileCommands.Proofs.Toolchain.Turn
import CompileCommands.Proofs.Toolchain.Gather
import CompileCommands.Proofs.Computation
import CompileCommands.Proofs.Path.Below
import CompileCommands.Proofs.Path.Enclosing
import CompileCommands.Proofs.Path.Lowest
import CompileCommands.Proofs.World.Files
import CompileCommands.Proofs.Snapshot.Access
import CompileCommands.Proofs.Snapshot.Run
import CompileCommands.Proofs.Workspace.Root
import CompileCommands.Proofs.Snapshot.Atomic
import CompileCommands.Proofs.Database.Resolution
import CompileCommands.Proofs.Toolchain.Bootstrap
import CompileCommands.Proofs.Cli.Origin
import CompileCommands.Proofs.Database.Agreement
import CompileCommands.Proofs.Toolchain.Ledger
import CompileCommands.Proofs.Database.DefaultLayout
import CompileCommands.Proofs.Path.Spelling
import CompileCommands.Proofs.Database.Spelling
import CompileCommands.Proofs.Database.Resolved
import CompileCommands.Proofs.Toolchain.Capture
import CompileCommands.Proofs.Toolchain.Separation
import CompileCommands.Proofs.Cli.Locate
import CompileCommands.Proofs.Workspace.Agreement
import CompileCommands.Proofs.Toolchain.Clear
import CompileCommands.Proofs.Decimal.Rounding
import CompileCommands.Proofs.Snapshot.Trouble
import CompileCommands.Proofs.Cli.Trouble
import CompileCommands.Proofs.Cli.Reuse
import CompileCommands.Proofs.Macro.Span
import CompileCommands.Proofs.Macro.Concat
import CompileCommands.Proofs.Workspace.Topmost
import CompileCommands.Proofs.Cli.End
import CompileCommands.Proofs.Snapshot.Unreadable
import CompileCommands.Proofs.Snapshot.Cleanup
import CompileCommands.Proofs.Snapshot.Expiry
import CompileCommands.Proofs.Toolchain.Noise
import CompileCommands.Proofs.Toolchain.Retry
import CompileCommands.Proofs.Macro.Root
import CompileCommands.Proofs.Database.Candidates
import CompileCommands.Proofs.Database.RootSpelling
import CompileCommands.Proofs.Digest.Identifier
import CompileCommands.Proofs.Toolchain.CommandLine
import CompileCommands.Proofs.Toolchain.Fetch
import CompileCommands.Proofs.Cli.Color
import CompileCommands.Proofs.Package.Checks
import CompileCommands.Proofs.Database.RoundTrip
import CompileCommands.Proofs.Path.Capitalized
import CompileCommands.Proofs.Path.Drive
import CompileCommands.Proofs.Path.Rooted
