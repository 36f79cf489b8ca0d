import FlowScript.Main
import FlowScript.Chart.Write
import FlowScript.Proofs.Text.Basic
import FlowScript.Proofs.Text.Line
import FlowScript.Proofs.Number.SquareRoot
import FlowScript.Proofs.Script.AnyLabel
import FlowScript.Proofs.Script.Groups
import FlowScript.Proofs.Script.Layout
import FlowScript.Proofs.Script.LostLabel
import FlowScript.Proofs.Script.Note
import FlowScript.Proofs.Script.NoteLines
import FlowScript.Proofs.Script.NumberedMeaning
import FlowScript.Proofs.Script.Spelled
import FlowScript.Proofs.Chart.Accepted
import FlowScript.Proofs.Chart.Build
import FlowScript.Proofs.Chart.Grid
import FlowScript.Proofs.Chart.Lookup
import FlowScript.Proofs.Chart.Payload
import FlowScript.Proofs.Chart.Stored
import FlowScript.Proofs.Chart.WholeGrid
import FlowScript.Proofs.Chart.Write
import FlowScript.Proofs.Document.AddNode
import FlowScript.Proofs.Document.Build
import FlowScript.Proofs.Document.Cells
import FlowScript.Proofs.Document.Invariant
import FlowScript.Proofs.Document.Lockstep
import FlowScript.Proofs.Document.NextNumber
import FlowScript.Proofs.Document.Raw
import FlowScript.Proofs.Document.Reached
import FlowScript.Proofs.Document.Rendered
import FlowScript.Proofs.Export.ChainLines
import FlowScript.Proofs.Export.DotEdge
import FlowScript.Proofs.Export.MermaidLines
import FlowScript.Proofs.Export.Tokens
import FlowScript.Proofs.Registry.Effect
import FlowScript.Proofs.RoundTrip.AnyLabel
import FlowScript.Proofs.RoundTrip.Chain
import FlowScript.Proofs.RoundTrip.Numbered
import FlowScript.Proofs.Command.Disk
import FlowScript.Proofs.Command.Run
