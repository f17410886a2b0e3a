import Permit.Host
import Permit.Json.Reader
import Permit.Json.Writer
import Permit.Main
import Permit.Proofs.Shared.Linearization
import Permit.Proofs.Store.History
import Permit.Proofs.Store.Loose
import Permit.Proofs.Store.Refinement
import Permit.Proofs.Check.Below
import Permit.Proofs.Store.Telling
import Permit.Proofs.Shared.Breaking
import Permit.Proofs.Shared.Telling
import Permit.Proofs.Shared.Poison
import Permit.Proofs.Shared.PoisonThreads
import Permit.Proofs.Check.Nest
import Permit.Proofs.Shared.Nested
import Permit.Proofs.Tour
import Permit.Proofs.Table.Same
import Permit.Proofs.Store.Denial
import Permit.Proofs.Store.Purge
import Permit.Proofs.Store.Discretion
import Permit.Proofs.Store.Forks
import Permit.Proofs.Store.Building
import Permit.Proofs.Log.Louder
import Permit.Proofs.Log.Install
import Permit.Proofs.Host
import Permit.Proofs.Check.Levels
import Permit.Proofs.Check.Passing
import Permit.Proofs.Shared.Outermost
import Permit.Proofs.Check.Nesting
import Permit.Proofs.Shared.Ending
import Permit.Proofs.Store.Batches
import Permit.Proofs.Store.Commuting
import Permit.Proofs.Decoding
import Permit.Proofs.Log.Severed
import Permit.Proofs.Log.Padding
import Permit.Proofs.Json.Path
import Permit.Proofs.Blog
import Permit.Proofs.Log.Document
import Permit.Proofs.Table.Collecting
import Permit.Proofs.Store.Consistent
