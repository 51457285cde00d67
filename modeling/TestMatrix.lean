import TestMatrix.Axis
import TestMatrix.CommandLine
import TestMatrix.Constraint
import TestMatrix.Decimal.Basic
import TestMatrix.Decimal.Layout
import TestMatrix.Decimal.Reader
import TestMatrix.Decimal.Scaled
import TestMatrix.Decimal.Shortest
import TestMatrix.Delivery
import TestMatrix.Dictionary
import TestMatrix.Document
import TestMatrix.Environment
import TestMatrix.Files
import TestMatrix.Job
import TestMatrix.Json.Literal
import TestMatrix.Json.Number
import TestMatrix.Json.Token
import TestMatrix.Json.Value
import TestMatrix.Json.Writer
import TestMatrix.Main
import TestMatrix.OutputBlock
import TestMatrix.Plan.Basic
import TestMatrix.Plan.Generation
import TestMatrix.Profile
import TestMatrix.Random.ChaCha
import TestMatrix.Random.Stream
import TestMatrix.Record
import TestMatrix.Row
import TestMatrix.Run
import TestMatrix.Search
import TestMatrix.Seed
import TestMatrix.Selector
import TestMatrix.Text.Blank
import TestMatrix.Text.Case
import TestMatrix.Text.CaseTable
import TestMatrix.Text.CodeRange
import TestMatrix.Text.Line
import TestMatrix.Text.Natural
import TestMatrix.Text.Numeral
import TestMatrix.Text.Quoted
import TestMatrix.Text.Replace
import TestMatrix.Text.Unprintable
import TestMatrix.Text.Utf8
import TestMatrix.Text.Version
import TestMatrix.Proofs.Delivery.Agreement
import TestMatrix.Proofs.Delivery.Channels
import TestMatrix.Proofs.Delivery.Command
import TestMatrix.Proofs.Delivery.Failure
import TestMatrix.Proofs.Delivery.InMemory
import TestMatrix.Proofs.Delivery.Reproduction
import TestMatrix.Proofs.Delivery.Writing
import TestMatrix.Proofs.Dictionary
import TestMatrix.Proofs.Json.Data
import TestMatrix.Proofs.Json.Numerals
import TestMatrix.Proofs.Json.OneLine
import TestMatrix.Proofs.Json.Reading
import TestMatrix.Proofs.Json.Records
import TestMatrix.Proofs.Json.Tokens
import TestMatrix.Proofs.Output.EarlyEnd
import TestMatrix.Proofs.Output.Reading
import TestMatrix.Proofs.Plan.Added
import TestMatrix.Proofs.Plan.Branches
import TestMatrix.Proofs.Plan.Budget
import TestMatrix.Proofs.Plan.Decision
import TestMatrix.Proofs.Plan.Draws
import TestMatrix.Proofs.Plan.Emission
import TestMatrix.Proofs.Plan.FlatRows
import TestMatrix.Proofs.Plan.Forcing
import TestMatrix.Proofs.Plan.Framing
import TestMatrix.Proofs.Plan.History
import TestMatrix.Proofs.Plan.LateConstraints
import TestMatrix.Proofs.Plan.Leaves
import TestMatrix.Proofs.Plan.LiveConstraints
import TestMatrix.Proofs.Plan.Picks
import TestMatrix.Proofs.Plan.Refusal
import TestMatrix.Proofs.Plan.Shape
import TestMatrix.Proofs.Plan.Validity
import TestMatrix.Proofs.Profile.Laying
import TestMatrix.Proofs.Records
import TestMatrix.Proofs.Request.Accounting
import TestMatrix.Proofs.Request.Distinct
import TestMatrix.Proofs.Request.Fields
import TestMatrix.Proofs.Request.Goals
import TestMatrix.Proofs.Request.Growth
import TestMatrix.Proofs.Request.Jobs
import TestMatrix.Proofs.Request.Leniency
import TestMatrix.Proofs.Request.Order
import TestMatrix.Proofs.Request.Rows
import TestMatrix.Proofs.Request.Stress
import TestMatrix.Proofs.Request.Sufficiency
import TestMatrix.Proofs.Search.Budget
import TestMatrix.Proofs.Search.Choice
import TestMatrix.Proofs.Search.Congruence
import TestMatrix.Proofs.Search.Cost
import TestMatrix.Proofs.Search.Coverage
import TestMatrix.Proofs.Search.Visits
import TestMatrix.Proofs.Seed
import TestMatrix.Proofs.SelectorMap
import TestMatrix.Proofs.Text.LowerCase
import TestMatrix.Proofs.Text.NaturalOrder
import TestMatrix.Proofs.Text.NumberOrder
import TestMatrix.Proofs.Text.Numeral
import TestMatrix.Proofs.Text.Runs
import TestMatrix.Proofs.Text.Spans
import TestMatrix.Proofs.Text.UpperCase
import TestMatrix.Proofs.Text.Utf8
import TestMatrix.Proofs.Text.VersionOrder
import TestMatrix.Proofs.Verdict
