import SceneFlow.Main
import SceneFlow.Proofs.Binding.Faults
import SceneFlow.Proofs.Binding.Order
import SceneFlow.Proofs.Binding.References
import SceneFlow.Proofs.Binding.Respelling
import SceneFlow.Proofs.Machine.Conservation
import SceneFlow.Proofs.Machine.Decision
import SceneFlow.Proofs.Machine.Declared
import SceneFlow.Proofs.Machine.Excursion
import SceneFlow.Proofs.Machine.History
import SceneFlow.Proofs.Machine.Overlay
import SceneFlow.Proofs.Machine.Return
import SceneFlow.Proofs.Machine.Stall
import SceneFlow.Proofs.Machine.Switches
import SceneFlow.Proofs.Machine.Table
import SceneFlow.Proofs.Machine.Timer
import SceneFlow.Proofs.Machine.Variant
import SceneFlow.Proofs.Machine.Visit
import SceneFlow.Proofs.Program.Layout
import SceneFlow.Proofs.Program.Listing
import SceneFlow.Proofs.Runner.Accounts
import SceneFlow.Proofs.Session.Clockwork
import SceneFlow.Proofs.Statement.Pieces
import SceneFlow.Proofs.Statement.Place
import SceneFlow.Proofs.Statement.Printing
import SceneFlow.Proofs.Token.Span
import SceneFlow.Proofs.Session.Refusal
import SceneFlow.Proofs.Binding.Tables
