import DiagramScript.Program.CommandLine
import DiagramScript.Proofs.Grammar.Basic
import DiagramScript.Proofs.Grammar.Soundness
import DiagramScript.Proofs.Grammar.Completeness
import DiagramScript.Proofs.Expression.Layout
import DiagramScript.Proofs.Text.Trim
import DiagramScript.Proofs.Expression.Characters
import DiagramScript.Proofs.Script.Comment
import DiagramScript.Proofs.Script.Pieces
import DiagramScript.Proofs.Script.Words
import DiagramScript.Proofs.Script.Lines
import DiagramScript.Proofs.Script.Commands
import DiagramScript.Proofs.Script.OneLine
import DiagramScript.Proofs.Script.Records
import DiagramScript.Proofs.Script.Names
import DiagramScript.Proofs.Script.FailFast
import DiagramScript.Proofs.Text.Lowercase
import DiagramScript.Proofs.Script.Colors
import DiagramScript.Proofs.Script.Escapes
import DiagramScript.Proofs.Script.Labels
import DiagramScript.Proofs.Grammar.Height
import DiagramScript.Proofs.Script.Columns
import DiagramScript.Proofs.Script.CommandWord
import DiagramScript.Proofs.Script.Contents
import DiagramScript.Proofs.Script.Noise
import DiagramScript.Proofs.Script.Lookups
import DiagramScript.Proofs.Script.Exchange
import DiagramScript.Proofs.Script.Palette
import DiagramScript.Proofs.Number.Numerals
import DiagramScript.Proofs.Expression.Tiling
import DiagramScript.Proofs.Grammar.Balance
import DiagramScript.Proofs.Script.Brackets
import DiagramScript.Proofs.Number.Rounding
import DiagramScript.Proofs.Number.Display
import DiagramScript.Proofs.Text.Quoted
import DiagramScript.Proofs.Diagram.Listing
import DiagramScript.Proofs.Program.Effects
import DiagramScript.Proofs.Grammar.Limit
import DiagramScript.Proofs.Grammar.Lookahead
import DiagramScript.Proofs.Grammar.Prefixes
import DiagramScript.Proofs.Expression.Nodes
import DiagramScript.Proofs.Script.Parts
import DiagramScript.Proofs.Number.Finiteness
import DiagramScript.Proofs.Complex.Power
import DiagramScript.Proofs.Complex.Exact
import DiagramScript.Proofs.Number.Zero
import DiagramScript.Proofs.Expression.Power
import DiagramScript.Proofs.Expression.Display
import DiagramScript.Proofs.Number.Range
import DiagramScript.Proofs.Expression.Division
import DiagramScript.Proofs.Expression.Reciprocal
import DiagramScript.Proofs.Expression.Relaid
import DiagramScript.Proofs.Script.Readers
import DiagramScript.Proofs.Script.Components
import DiagramScript.Proofs.Grammar.Progress
