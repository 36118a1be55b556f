import IntentPolicy.Audit
import IntentPolicy.Character.CombiningClass
import IntentPolicy.Character.Composition
import IntentPolicy.Character.Direction
import IntentPolicy.Character.Joining
import IntentPolicy.Character.Mark
import IntentPolicy.Character.Printable
import IntentPolicy.Character.Range
import IntentPolicy.Command.Line
import IntentPolicy.Command.Parse
import IntentPolicy.Command.Result
import IntentPolicy.Command.Run
import IntentPolicy.Configuration.Environment
import IntentPolicy.Configuration.FileTree
import IntentPolicy.Configuration.Loading
import IntentPolicy.Configuration.MarkedMoment
import IntentPolicy.Configuration.Patch
import IntentPolicy.Configuration.Settings
import IntentPolicy.Configuration.Toml
import IntentPolicy.Configuration.TomlReading
import IntentPolicy.Configuration.TomlScalar
import IntentPolicy.DecisionPoint.Answer
import IntentPolicy.DecisionPoint.Client
import IntentPolicy.DecisionPoint.Payload
import IntentPolicy.Failure
import IntentPolicy.Intent.Basic
import IntentPolicy.Intent.Rendering
import IntentPolicy.Intent.Vocabulary
import IntentPolicy.Intent.WordSet
import IntentPolicy.Main
import IntentPolicy.Number.Decimal
import IntentPolicy.Number.DecimalDouble
import IntentPolicy.Number.DecimalReading
import IntentPolicy.Number.Digits
import IntentPolicy.Number.Double
import IntentPolicy.Number.Extended
import IntentPolicy.Number.Literal
import IntentPolicy.Number.NearLiteral
import IntentPolicy.Number.Shortest
import IntentPolicy.Payload.Intent
import IntentPolicy.Payload.Policy
import IntentPolicy.Payload.Reading
import IntentPolicy.Policy.Basic
import IntentPolicy.Policy.Rate
import IntentPolicy.Policy.Record
import IntentPolicy.Policy.Refinement
import IntentPolicy.Policy.TimeWindows
import IntentPolicy.Policy.Translation
import IntentPolicy.Proofs.Number.DecimalReading
import IntentPolicy.Proofs.Number.DoubleRange
import IntentPolicy.Proofs.Number.LiteralDouble
import IntentPolicy.Proofs.Number.LiteralShape
import IntentPolicy.Proofs.Number.ScientificReading
import IntentPolicy.Proofs.Number.NonzeroReading
import IntentPolicy.Proofs.Number.PositionalText
import IntentPolicy.Proofs.Policy.Refining
import IntentPolicy.Proofs.Policy.Refusal
import IntentPolicy.Proofs.Reconciliation.Action
import IntentPolicy.Proofs.Reconciliation.Alignment
import IntentPolicy.Proofs.Reconciliation.Carrying
import IntentPolicy.Proofs.Reconciliation.Order
import IntentPolicy.Proofs.Reconciliation.Recording
import IntentPolicy.Proofs.Reconciliation.Resumption
import IntentPolicy.Proofs.Reconciliation.Standing
import IntentPolicy.Proofs.Sentence.Acceptance
import IntentPolicy.Proofs.Sentence.Canonical
import IntentPolicy.Proofs.Sentence.Completion
import IntentPolicy.Proofs.Sentence.Derivation
import IntentPolicy.Proofs.Sentence.Feeding
import IntentPolicy.Proofs.Sentence.Grammar
import IntentPolicy.Proofs.Sentence.Meaning
import IntentPolicy.Proofs.Sentence.Parsing
import IntentPolicy.Proofs.Sentence.Release
import IntentPolicy.Proofs.Sentence.Rendering
import IntentPolicy.Proofs.Sentence.Suggesting
import IntentPolicy.Proofs.Sentence.Threshold
import IntentPolicy.Proofs.Sentence.ThresholdText
import IntentPolicy.Proofs.Sentence.Tokens
import IntentPolicy.Proofs.Sentence.Words
import IntentPolicy.Proofs.Service.Deployment
import IntentPolicy.Proofs.Service.Explanation
import IntentPolicy.Proofs.Service.Keeping
import IntentPolicy.Proofs.Service.Mirror
import IntentPolicy.Proofs.Service.Mirroring
import IntentPolicy.Proofs.Service.Operations
import IntentPolicy.Proofs.Service.Shelf
import IntentPolicy.Proofs.Service.Soundness
import IntentPolicy.Proofs.Service.Tally
import IntentPolicy.Proofs.Text.LowerCase
import IntentPolicy.Proofs.Time.InstantOrder
import IntentPolicy.Reconciliation.Enforcement
import IntentPolicy.Reconciliation.Execution
import IntentPolicy.Reconciliation.Plan
import IntentPolicy.Sentence.Parser
import IntentPolicy.Sentence.State
import IntentPolicy.Sentence.Suggestion
import IntentPolicy.Sentence.Token
import IntentPolicy.Sentence.Validation
import IntentPolicy.Service
import IntentPolicy.Store.Cell
import IntentPolicy.Store.Database
import IntentPolicy.Store.FileName
import IntentPolicy.Store.Image
import IntentPolicy.Store.Interference
import IntentPolicy.Store.Memory
import IntentPolicy.Store.OpenMode
import IntentPolicy.Store.Place
import IntentPolicy.Store.Repositories
import IntentPolicy.Store.Row
import IntentPolicy.Store.Table
import IntentPolicy.Text.Blank
import IntentPolicy.Text.Composed
import IntentPolicy.Text.Identifier
import IntentPolicy.Text.Json
import IntentPolicy.Text.JsonReading
import IntentPolicy.Text.JsonSkipping
import IntentPolicy.Text.LowerCase
import IntentPolicy.Text.Quoted
import IntentPolicy.Text.Sorted
import IntentPolicy.Text.Split
import IntentPolicy.Text.Utf8
import IntentPolicy.Time.Calendar
import IntentPolicy.Time.Clock
import IntentPolicy.Time.Field
import IntentPolicy.Time.Instant
import IntentPolicy.Web.Domain
import IntentPolicy.Web.DomainAlphabet
import IntentPolicy.Web.DomainMapping
import IntentPolicy.Web.Host
import IntentPolicy.Web.Http
import IntentPolicy.Web.Label
import IntentPolicy.Web.Path
import IntentPolicy.Web.Percent
import IntentPolicy.Web.Punycode
import IntentPolicy.Web.Url
import IntentPolicy.Web.UrlReading
import IntentPolicy.Proofs.Service.Belonging
import IntentPolicy.Proofs.Time.DayNumbers
import IntentPolicy.Proofs.Number.DigitOrder
import IntentPolicy.Proofs.Time.WrittenInstants
import IntentPolicy.Proofs.Text.JsonWords
import IntentPolicy.Proofs.Store.RowReading
import IntentPolicy.Proofs.Service.Enrolling
import IntentPolicy.Proofs.Store.Holding
import IntentPolicy.Proofs.Reconciliation.Following
import IntentPolicy.Proofs.Reconciliation.Likeness
import IntentPolicy.Proofs.Service.Storing
import IntentPolicy.Proofs.Service.DatabaseDeployment
import IntentPolicy.Proofs.Service.Tracking
import IntentPolicy.Proofs.Service.DatabaseOperations
import IntentPolicy.Proofs.Service.Viewing
import IntentPolicy.Proofs.Service.Interchange
import IntentPolicy.Proofs.Service.Showing
import IntentPolicy.Proofs.Service.Concluding
import IntentPolicy.Proofs.Service.AuditTrail
import IntentPolicy.Proofs.Policy.Sanity
import IntentPolicy.Proofs.Service.Refusing
import IntentPolicy.Proofs.Service.Registration
import IntentPolicy.Proofs.Service.Isolation
import IntentPolicy.Proofs.Configuration.Precedence
import IntentPolicy.Proofs.Configuration.Attribution
import IntentPolicy.Proofs.Number.NearestReading
import IntentPolicy.Proofs.Number.PointShift
import IntentPolicy.Proofs.Number.LiteralReading
import IntentPolicy.Proofs.Sentence.ThresholdValue
import IntentPolicy.Proofs.Number.DoubleBoundary
import IntentPolicy.Proofs.Number.DoubleDecimal
import IntentPolicy.Proofs.Sentence.ThresholdVerdict
import IntentPolicy.Proofs.Reconciliation.EditScript
import IntentPolicy.Proofs.Reconciliation.Transcript
import IntentPolicy.Proofs.Reconciliation.Seniority
import IntentPolicy.Proofs.Web.PercentDecoding
import IntentPolicy.Proofs.Web.Appending
import IntentPolicy.Proofs.DecisionPoint.Addressing
import IntentPolicy.Proofs.Sentence.Absorption
import IntentPolicy.Proofs.DecisionPoint.PolicyDocument
import IntentPolicy.Proofs.DecisionPoint.LookupProtocol
import IntentPolicy.Proofs.DecisionPoint.Remembering
import IntentPolicy.Proofs.Store.ReadBack
import IntentPolicy.Proofs.Sentence.Outline
import IntentPolicy.Proofs.Sentence.Spelling
import IntentPolicy.Proofs.Sentence.Tokenization
import IntentPolicy.Proofs.Number.ScaleFree
import IntentPolicy.Proofs.Policy.FanOut
import IntentPolicy.Proofs.Policy.Tightening
import IntentPolicy.Proofs.Configuration.Interpolation
