import NavScript.Text.Blank
import NavScript.Text.Utf8
import NavScript.Text.Lines
import NavScript.Decimal.Binary64
import NavScript.Decimal.Fixed
import NavScript.Decimal.Shortest
import NavScript.Decimal.Numeral
import NavScript.Geometry.Transform
import NavScript.Geometry.Trajectory
import NavScript.Geometry.ArcLength
import NavScript.Geometry.WellKnownText
import NavScript.PathData.Points
import NavScript.Error
import NavScript.Markup.Prolog
import NavScript.Markup.Event
import NavScript.Markup.Document
import NavScript.Drawing.Lookup
import NavScript.Options
import NavScript.Command
import NavScript.Directive
import NavScript.Run
import NavScript.Shell.Toolbox
import NavScript.CommandLine.StandardInput
import NavScript.CommandLine.Buffer
import NavScript.CommandLine.Outcome
import NavScript.Main
import NavScript.Proofs.PathData.Pen
import NavScript.Proofs.PathData.Grammar
import NavScript.Proofs.PathData.Limits
import NavScript.Proofs.PathData.Scale
import NavScript.Proofs.PathData.Separators
import NavScript.Proofs.PathData.Layout
import NavScript.Proofs.PathData.Concatenation
import NavScript.Proofs.PathData.WholePoints
import NavScript.Proofs.Binary64.Word
import NavScript.Proofs.Binary64.Order
import NavScript.Proofs.Binary64.Rounding
import NavScript.Proofs.Binary64.Nearest
import NavScript.Proofs.Binary64.Arithmetic
import NavScript.Proofs.Binary64.SquareRoot
import NavScript.Proofs.Binary64.Whole
import NavScript.Proofs.Decimal.Whole
import NavScript.Proofs.Geometry.ArcLength
import NavScript.Proofs.Geometry.Offset
import NavScript.Proofs.Geometry.Position
import NavScript.Proofs.Geometry.Sampling
import NavScript.Proofs.Geometry.FullLength
import NavScript.Proofs.Geometry.ExactStart
import NavScript.Proofs.Geometry.Generic
import NavScript.Proofs.Geometry.Precise
import NavScript.Proofs.Geometry.WellKnownText
import NavScript.Proofs.Text.Words
import NavScript.Proofs.Text.Token
import NavScript.Proofs.Text.Spaced
import NavScript.Proofs.Text.Lines
import NavScript.Proofs.Text.Utf8
import NavScript.Proofs.Text.LineEnds
import NavScript.Proofs.Directive
import NavScript.Proofs.Places
import NavScript.Proofs.Markup.Order
import NavScript.Proofs.Session.Step
import NavScript.Proofs.Session.Transcript
import NavScript.Proofs.Session.Run
import NavScript.Proofs.Session.Room
import NavScript.Proofs.Session.Output
import NavScript.Proofs.Session.FixedPoint
import NavScript.Proofs.Session.Breakdown
import NavScript.Proofs.Session.Finite
import NavScript.Proofs.Session.OnDrawing
import NavScript.Proofs.Session.Perimeter
import NavScript.Proofs.Session.Start
import NavScript.Proofs.Session.Arena
import NavScript.Proofs.Session.Checks
import NavScript.Proofs.Session.Refusal
import NavScript.Proofs.Session.Ending
import NavScript.Proofs.Session.Setting
import NavScript.Proofs.Session.History
import NavScript.Proofs.Session.Position
import NavScript.Proofs.Session.Crash
import NavScript.Proofs.Session.Correspondence
import NavScript.Proofs.Session.Agreement
import NavScript.Proofs.Session.SameWords
import NavScript.Proofs.Session.Unread
import NavScript.Proofs.Drawing.Identifiers
import NavScript.Proofs.Drawing.Layer
import NavScript.Proofs.Drawing.Unshown
import NavScript.Proofs.Files
import NavScript.Proofs.Buffer
import NavScript.Proofs.StandardInput
import NavScript.Proofs.CommandLine
import NavScript.Proofs.Regex
import NavScript.Proofs.Tool.Search
import NavScript.Proofs.Tool.Copy
import NavScript.Proofs.Tool.Files
import NavScript.Proofs.Shell.Pattern
import NavScript.Proofs.Toolbox
