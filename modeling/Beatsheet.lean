import Beatsheet.Continuity.Overlap
import Beatsheet.Continuity.Reuse
import Beatsheet.Diagnostic
import Beatsheet.Draft
import Beatsheet.Draft.Event
import Beatsheet.Draft.Level
import Beatsheet.Extract
import Beatsheet.Forest.Basic
import Beatsheet.Forest.Dump
import Beatsheet.Forest.Json
import Beatsheet.Identity.Keystream
import Beatsheet.Identity.Source
import Beatsheet.Json.Fault
import Beatsheet.Json.Printer
import Beatsheet.Json.Reader
import Beatsheet.Json.Record
import Beatsheet.Json.Scanner
import Beatsheet.Json.Value
import Beatsheet.Line.Brace
import Beatsheet.Line.Clause
import Beatsheet.Line.Flow
import Beatsheet.Line.Header
import Beatsheet.Line.Kind
import Beatsheet.Line.Remark
import Beatsheet.Line.Shape
import Beatsheet.Number.Decimal
import Beatsheet.Number.Share
import Beatsheet.Options
import Beatsheet.Options.Reader
import Beatsheet.Origin
import Beatsheet.Proofs.Continuity.Best
import Beatsheet.Proofs.Continuity.Distinct
import Beatsheet.Proofs.Continuity.History
import Beatsheet.Proofs.Continuity.Overlap
import Beatsheet.Proofs.Continuity.Reuse
import Beatsheet.Proofs.Continuity.Taken
import Beatsheet.Proofs.Draft.Active
import Beatsheet.Proofs.Draft.Basic
import Beatsheet.Proofs.Draft.Beat
import Beatsheet.Proofs.Draft.Behind
import Beatsheet.Proofs.Draft.Carry
import Beatsheet.Proofs.Draft.Clear
import Beatsheet.Proofs.Draft.Cut
import Beatsheet.Proofs.Draft.Early
import Beatsheet.Proofs.Draft.Filled
import Beatsheet.Proofs.Draft.Frame
import Beatsheet.Proofs.Draft.Gain
import Beatsheet.Proofs.Draft.Group
import Beatsheet.Proofs.Draft.Growth
import Beatsheet.Proofs.Draft.Header
import Beatsheet.Proofs.Draft.Idle
import Beatsheet.Proofs.Draft.Ledger
import Beatsheet.Proofs.Draft.Level
import Beatsheet.Proofs.Draft.Move
import Beatsheet.Proofs.Draft.Numbered
import Beatsheet.Proofs.Draft.Outline
import Beatsheet.Proofs.Draft.Parted
import Beatsheet.Proofs.Draft.Pending
import Beatsheet.Proofs.Draft.Prose
import Beatsheet.Proofs.Draft.Remark
import Beatsheet.Proofs.Draft.Report
import Beatsheet.Proofs.Draft.Seat
import Beatsheet.Proofs.Draft.Silent
import Beatsheet.Proofs.Draft.Site
import Beatsheet.Proofs.Draft.Speech
import Beatsheet.Proofs.Draft.Turned
import Beatsheet.Proofs.Draft.Whole
import Beatsheet.Proofs.Extract.Activation
import Beatsheet.Proofs.Extract.Balance
import Beatsheet.Proofs.Extract.Boundary
import Beatsheet.Proofs.Extract.Brace
import Beatsheet.Proofs.Extract.Carry
import Beatsheet.Proofs.Extract.Comments
import Beatsheet.Proofs.Extract.Drawn
import Beatsheet.Proofs.Extract.Group
import Beatsheet.Proofs.Extract.Growth
import Beatsheet.Proofs.Extract.Names
import Beatsheet.Proofs.Extract.Opaque
import Beatsheet.Proofs.Extract.Placement
import Beatsheet.Proofs.Extract.Report
import Beatsheet.Proofs.Extract.Scene
import Beatsheet.Proofs.Extract.Silent
import Beatsheet.Proofs.Extract.Speech
import Beatsheet.Proofs.Extract.Trailing
import Beatsheet.Proofs.Extract.Unbroken
import Beatsheet.Proofs.Forest.Dump
import Beatsheet.Proofs.Forest.Gain
import Beatsheet.Proofs.Forest.Growth
import Beatsheet.Proofs.Forest.Json
import Beatsheet.Proofs.Forest.Placement
import Beatsheet.Proofs.Forest.Seat
import Beatsheet.Proofs.Forest.Spelling
import Beatsheet.Proofs.Group.Ledger
import Beatsheet.Proofs.Identity.Fresh
import Beatsheet.Proofs.Identity.Issue
import Beatsheet.Proofs.Json.Number
import Beatsheet.Proofs.Json.Parse
import Beatsheet.Proofs.Json.Record
import Beatsheet.Proofs.Json.Scalar
import Beatsheet.Proofs.Json.Spelling
import Beatsheet.Proofs.Json.Value
import Beatsheet.Proofs.Line.Action
import Beatsheet.Proofs.Line.Capture
import Beatsheet.Proofs.Line.Choice
import Beatsheet.Proofs.Line.Label
import Beatsheet.Proofs.Line.LabelForm
import Beatsheet.Proofs.Line.Speech
import Beatsheet.Proofs.Line.Tagged
import Beatsheet.Proofs.Line.Trailing
import Beatsheet.Proofs.Line.Within
import Beatsheet.Proofs.Line.Written
import Beatsheet.Proofs.Number.Half
import Beatsheet.Proofs.Number.Order
import Beatsheet.Proofs.Source.BlockComment
import Beatsheet.Proofs.Source.Cut
import Beatsheet.Proofs.Source.LineEnd
import Beatsheet.Proofs.Source.Numbering
import Beatsheet.Proofs.Source.Scan
import Beatsheet.Proofs.Tag.History
import Beatsheet.Proofs.Tag.Inherit
import Beatsheet.Proofs.Tag.Line
import Beatsheet.Proofs.Tag.Run
import Beatsheet.Proofs.Text.Bytes
import Beatsheet.Proofs.Text.Language
import Beatsheet.Proofs.Text.Pattern
import Beatsheet.Proofs.Text.Replace
import Beatsheet.Proofs.Text.Trim
import Beatsheet.Proofs.Text.Unbroken
import Beatsheet.Proofs.Text.Words
import Beatsheet.Source.BlockComment
import Beatsheet.Source.Line
import Beatsheet.Source.Scan
import Beatsheet.Tag.Basic
import Beatsheet.Tag.Cascade
import Beatsheet.Text.Basic
import Beatsheet.Text.LowerCase
import Beatsheet.Text.Quoted
import Beatsheet.Text.WordChar
