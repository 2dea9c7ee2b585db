import Masking.Deployment
import Masking.Http.Service
import Masking.Settings.Load
import Masking.Settings.Yaml
import Masking.Version
import Masking.Proofs.Store.Execution
import Masking.Proofs.Store.Interruption
import Masking.Proofs.Store.Notes
import Masking.Proofs.Store.Keys
import Masking.Proofs.TokenStore.Calls
import Masking.Proofs.Engine.Run
import Masking.Proofs.Engine.Isolation
import Masking.Proofs.Engine.Interruption
import Masking.Proofs.Store.Entries
import Masking.Proofs.TokenStore.Lawful
import Masking.Proofs.Engine.Storeless
import Masking.Proofs.TokenStore.Coherence
import Masking.Proofs.TokenStore.Simulation
import Masking.Proofs.Store.Keeping
import Masking.Proofs.TokenStore.Recall
import Masking.Proofs.TokenStore.Namespaces
import Masking.Proofs.TokenStore.Lifetimes
import Masking.Proofs.TokenStore.Lookups
import Masking.Proofs.Engine.Replay
import Masking.Proofs.TokenStore.Sessions
import Masking.Proofs.TokenStore.Accounts
import Masking.Proofs.Engine.Passes
import Masking.Proofs.Engine.Discretion
import Masking.Proofs.Engine.Refusal
import Masking.Proofs.Http.Requests
import Masking.Proofs.Http.Outcomes
import Masking.Proofs.Text.Percent
import Masking.Proofs.Text.Digits
import Masking.Proofs.Json.Strings
import Masking.Proofs.Http.Spellings
import Masking.Proofs.Http.RoundTrip
import Masking.Proofs.Text.Replacement
import Masking.Proofs.Regex.Segments
import Masking.Proofs.Engine.Bodies
import Masking.Proofs.Http.Discretion
import Masking.Proofs.Synthesizer.Collisions
import Masking.Proofs.Pattern.Compilation
import Masking.Proofs.Engine.Startup
import Masking.Proofs.Store.Tokens
import Masking.Proofs.Store.Races
import Masking.Proofs.Text.Growth
import Masking.Proofs.Engine.Growth
import Masking.Proofs.Store.LastWrites
import Masking.Proofs.Store.Builder
import Masking.Proofs.Settings.Validation
import Masking.Proofs.Number.Spelling
import Masking.Proofs.Settings.Passwords
import Masking.Proofs.Json.Members
import Masking.Proofs.Json.Numbers
import Masking.Proofs.Json.Values
import Masking.Proofs.Json.Skipping
import Masking.Proofs.Json.Structures
import Masking.Proofs.Engine.Texts
import Masking.Proofs.Http.Texts
import Masking.Http.Layers
import Masking.Proofs.Http.Names
import Masking.Proofs.Settings.Texts
import Masking.Proofs.Pattern.Prefixes
