import ClassScript.Command.Folder
import ClassScript.Json.Reader
import ClassScript.Main
import ClassScript.Proofs.Command.Reports
import ClassScript.Proofs.Syntax.Run
import ClassScript.Proofs.Token.Tiling
import ClassScript.Proofs.Token.Rescan
import ClassScript.Proofs.Program.RoundTrip
import ClassScript.Proofs.Syntax.Recovery
import ClassScript.Proofs.Program.Coordinates
import ClassScript.Proofs.Syntax.Viable
import ClassScript.Proofs.Program.Verdict
import ClassScript.Proofs.Syntax.Relabel
import ClassScript.Proofs.Token.Line
import ClassScript.Proofs.Program.Append
import ClassScript.Proofs.Program.WellFormed
import ClassScript.Proofs.Syntax.Balance
import ClassScript.Proofs.Command.Agreement
import ClassScript.Proofs.Program.Diagnosis
import ClassScript.Proofs.Program.OnePass
import ClassScript.Proofs.Token.Pieces
import ClassScript.Proofs.Token.Relayout
import ClassScript.Proofs.Token.Longest
import ClassScript.Proofs.Token.StrayRun
import ClassScript.Proofs.Command.Listing
import ClassScript.Proofs.Command.Quiet
import ClassScript.Proofs.Syntax.Loop
