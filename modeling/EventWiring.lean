import EventWiring.Scenario.Perform
import EventWiring.Scenario.Query
import EventWiring.Scenario.Declarations
import EventWiring.Proofs.Bus.Client
import EventWiring.Proofs.Bus.Effects
import EventWiring.Proofs.Bus.FlatBus
import EventWiring.Proofs.Bus.Table
import EventWiring.Proofs.Bus.Twin
import EventWiring.Proofs.Bus.Matching
import EventWiring.Proofs.Bus.Refinement
import EventWiring.Proofs.Bus.Bindings
import EventWiring.Proofs.Handler.Delivery
import EventWiring.Proofs.Handler.Overriding
import EventWiring.Proofs.Handler.Faults
import EventWiring.Proofs.Bus.Alike
import EventWiring.Proofs.Bus.Unbinding
import EventWiring.Proofs.Bus.Reentrancy
import EventWiring.Proofs.Bus.Soundness
import EventWiring.Proofs.Bus.Removal
import EventWiring.Proofs.Handler.Projection
import EventWiring.Proofs.Declaration.Unmarking
import EventWiring.Proofs.Declaration.Acceptance
import EventWiring.Proofs.Handler.Sharing
import EventWiring.Proofs.Bus.Silence
import EventWiring.Proofs.Bus.Configuration
import EventWiring.Proofs.Declaration.Stripping
import EventWiring.Proofs.Handler.Naming
import EventWiring.Proofs.Handler.Spelling
import EventWiring.Proofs.Handler.Repetition
import EventWiring.Proofs.Declaration.Items
import EventWiring.Proofs.Declaration.OptionGrammar
import EventWiring.Proofs.Declaration.Unnamed
import EventWiring.Proofs.Event.PathName
import EventWiring.Proofs.Handler.BareName
import EventWiring.Proofs.Bus.CallTree
import EventWiring.Proofs.Bus.Nesting
import EventWiring.Proofs.Json.Entries
import EventWiring.Proofs.Event.Metadata
import EventWiring.Proofs.Bus.Keys
