import Equilibrium.Config.Named
import Equilibrium.Decimal.Rounded
import Equilibrium.Flow.Adaptive
import Equilibrium.Flow.Replay
import Equilibrium.Formula.Field
import Equilibrium.Formula.Reader
import Equilibrium.Inner.Routine
import Equilibrium.LogText
import Equilibrium.Residual.EntryKind
import Equilibrium.Session
import Equilibrium.Proofs.Config
import Equilibrium.Proofs.Config.Merge
import Equilibrium.Proofs.Config.Sane
import Equilibrium.Proofs.Flow.Budget
import Equilibrium.Proofs.Residual.Distance
import Equilibrium.Proofs.Residual.Euclidean
import Equilibrium.Proofs.Residual.Euler
import Equilibrium.Proofs.Residual.Implicit
import Equilibrium.Proofs.Residual.Linearization
import Equilibrium.Proofs.Residual.Magnitude
import Equilibrium.Proofs.Residual.Marking
import Equilibrium.Proofs.Residual.SupNorm
import Equilibrium.Proofs.Scalar.Double
import Equilibrium.Proofs.Scalar.Exact
import Equilibrium.Proofs.Scalar.Extended
import Equilibrium.Proofs.Scalar.Spacing
import Equilibrium.Proofs.Scalar.Special
import Equilibrium.Proofs.Search.Backend
import Equilibrium.Proofs.Search.Breakdown
import Equilibrium.Proofs.Search.Calls
import Equilibrium.Proofs.Search.Ceiling
import Equilibrium.Proofs.Search.Chain
import Equilibrium.Proofs.Search.Conservation
import Equilibrium.Proofs.Search.Decay
import Equilibrium.Proofs.Search.Direct
import Equilibrium.Proofs.Search.Ending
import Equilibrium.Proofs.Search.Extension
import Equilibrium.Proofs.Search.Futile
import Equilibrium.Proofs.Search.Guards
import Equilibrium.Proofs.Search.Honoured
import Equilibrium.Proofs.Search.Lockstep
import Equilibrium.Proofs.Search.Path
import Equilibrium.Proofs.Search.Positive
import Equilibrium.Proofs.Search.Proposals
import Equilibrium.Proofs.Search.Replay
import Equilibrium.Proofs.Search.Retreat
import Equilibrium.Proofs.Search.Single
import Equilibrium.Proofs.Search.Singular
import Equilibrium.Proofs.Search.Stages
import Equilibrium.Proofs.Search.Stalling
import Equilibrium.Proofs.Search.SteadyEvent
import Equilibrium.Proofs.Search.Totality
import Equilibrium.Proofs.Session
import Equilibrium.Proofs.Session.Creation
import Equilibrium.Proofs.Session.Failure
import Equilibrium.Proofs.Session.FixedPoint
import Equilibrium.Proofs.Session.Hooks
import Equilibrium.Proofs.Session.Length
import Equilibrium.Proofs.Session.Memory
import Equilibrium.Proofs.Session.Routes
import Equilibrium.Proofs.Session.Unused
import Equilibrium.Proofs.Soundness
import Equilibrium.Proofs.StepLaw
