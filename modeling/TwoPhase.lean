import TwoPhase.Main
import TwoPhase.Provider.Catalogue
import TwoPhase.Proofs.Provider.Faithful
import TwoPhase.Proofs.Resolver.Step
import TwoPhase.Proofs.Resolver.Coherence
import TwoPhase.Proofs.Resolver.Answer
import TwoPhase.Proofs.Resolver.Closure
import TwoPhase.Proofs.Resolver.Trace
import TwoPhase.Proofs.Resolver.Finality
import TwoPhase.Proofs.Ir.Check
import TwoPhase.Proofs.Ir.Building
import TwoPhase.Proofs.Ir.Additions
import TwoPhase.Proofs.Lowering.Filling
import TwoPhase.Proofs.Lowering.Lineage
import TwoPhase.Proofs.Lowering.Layout
import TwoPhase.Proofs.Machine.Eval
import TwoPhase.Proofs.Machine.Session
import TwoPhase.Proofs.Machine.Control
import TwoPhase.Proofs.Machine.Fields
import TwoPhase.Proofs.Machine.Construction
import TwoPhase.Proofs.Machine.Moment
import TwoPhase.Proofs.Machine.Region
import TwoPhase.Proofs.Machine.Footprint
import TwoPhase.Proofs.Machine.Integrity
import TwoPhase.Proofs.Machine.Overloads
import TwoPhase.Proofs.Machine.Lookup
import TwoPhase.Proofs.Greeter.Declarations
import TwoPhase.Proofs.Greeter.Halves
import TwoPhase.Proofs.Plugin.Attachment
import TwoPhase.Proofs.Plugin.Refusal
import TwoPhase.Proofs.Resolver.Determinism
import TwoPhase.Proofs.Provider.Tabular
import TwoPhase.Proofs.Resolver.Confluence
import TwoPhase.Proofs.Resolver.Members
import TwoPhase.Proofs.Resolver.Filing
import TwoPhase.Proofs.Resolver.Precedence
import TwoPhase.Proofs.Machine.Renumbering
import TwoPhase.Proofs.Machine.Fuel
import TwoPhase.Proofs.Machine.Termination
import TwoPhase.Proofs.Machine.Dispatch
import TwoPhase.Proofs.Types.Numbering
import TwoPhase.Proofs.Symbol.History
import TwoPhase.Proofs.Greeter.Queries
import TwoPhase.Proofs.Greeter.Bodies
import TwoPhase.Proofs.CommandLine.Compile
import TwoPhase.Proofs.Machine.Reordering
import TwoPhase.Proofs.Plugin.Argument
import TwoPhase.Proofs.Plugin.Isolation
import TwoPhase.Proofs.Plugin.Rewording
import TwoPhase.Proofs.Plugin.Repetition
import TwoPhase.Proofs.Path.Reading
import TwoPhase.Proofs.Path.Enclosure
import TwoPhase.Proofs.Machine.Entrances
import TwoPhase.Proofs.Build.Requests
