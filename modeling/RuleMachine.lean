import RuleMachine.Outcome
import RuleMachine.Store
import RuleMachine.Template
import RuleMachine.Value.Json
import RuleMachine.Regex.Compile
import RuleMachine.Yaml.Settings
import RuleMachine.Proofs.Closure
import RuleMachine.Proofs.Selection
import RuleMachine.Proofs.Overwriting
import RuleMachine.Proofs.Nesting
import RuleMachine.Proofs.Subscriptions
import RuleMachine.Proofs.Grammar.Soundness
import RuleMachine.Proofs.Grammar.Refusals
import RuleMachine.Proofs.Grammar.LineBreaks
import RuleMachine.Proofs.Terms.RoundTrip
import RuleMachine.Proofs.Terms.Guards
import RuleMachine.Proofs.Source.Tiling
import RuleMachine.Proofs.Source.Blanks
import RuleMachine.Proofs.Source.Comments
import RuleMachine.Proofs.Source.Injections
import RuleMachine.Proofs.Source.Assembling
import RuleMachine.Proofs.Source.Arenas
import RuleMachine.Proofs.Source.Commenting
import RuleMachine.Proofs.Source.Numerals
import RuleMachine.Proofs.Source.Quotes
import RuleMachine.Proofs.Sharing
import RuleMachine.Proofs.Json
import RuleMachine.Proofs.Operands
import RuleMachine.Proofs.Awaiting
import RuleMachine.Proofs.Executing
import RuleMachine.Proofs.Acting
import RuleMachine.Proofs.Construction
import RuleMachine.Proofs.Hierarchy
import RuleMachine.Proofs.Terms.Alternatives
import RuleMachine.Proofs.Terms.Parentheses
import RuleMachine.Proofs.Configuration
import RuleMachine.Proofs.Memberships
import RuleMachine.Proofs.Declarations
import RuleMachine.Proofs.Grammar.Walking
