import Modelsmith.Main
import Modelsmith.Proofs.Config.Overrides
import Modelsmith.Proofs.Model.Members
import Modelsmith.Proofs.Model.RoundTrip
import Modelsmith.Proofs.Network.Forward
import Modelsmith.Proofs.Prediction
import Modelsmith.Proofs.Program.Numbers
import Modelsmith.Proofs.Program.Saving
import Modelsmith.Proofs.Program.Slots
import Modelsmith.Proofs.Run.Commands
import Modelsmith.Proofs.Run.Pool
import Modelsmith.Proofs.Run.Retrying
import Modelsmith.Proofs.Run.Strictness
import Modelsmith.Proofs.Run.Traceless
import Modelsmith.Proofs.Shell.Quoting
import Modelsmith.Proofs.Tree.Evaluation
import Modelsmith.Proofs.Tree.Likeness
import Modelsmith.Proofs.Tree.Search
import Modelsmith.Shell.Scripted
