import KeyedQuery.AccessPath
import KeyedQuery.Arguments
import KeyedQuery.BoundQuery
import KeyedQuery.Config
import KeyedQuery.Config.Text
import KeyedQuery.Counters
import KeyedQuery.Criteria
import KeyedQuery.Decimal.Integer
import KeyedQuery.Decimal.Shortest
import KeyedQuery.Dictionary
import KeyedQuery.EvaluationContext
import KeyedQuery.Explanation
import KeyedQuery.Intent
import KeyedQuery.Invocation
import KeyedQuery.Json.Basic
import KeyedQuery.Json.Document
import KeyedQuery.Json.Lexical
import KeyedQuery.Json.Number
import KeyedQuery.Json.Printer
import KeyedQuery.Json.Quoted
import KeyedQuery.Json.ReadError
import KeyedQuery.Json.Record
import KeyedQuery.KeyArgument
import KeyedQuery.KeyRead
import KeyedQuery.Log.Entry
import KeyedQuery.Log.Event
import KeyedQuery.Method
import KeyedQuery.Observed
import KeyedQuery.Operand
import KeyedQuery.Operator
import KeyedQuery.OrderBy
import KeyedQuery.Pageable
import KeyedQuery.ParameterContext
import KeyedQuery.Plan
import KeyedQuery.Qualifier
import KeyedQuery.QueryError
import KeyedQuery.Registration
import KeyedQuery.Request
import KeyedQuery.Session
import KeyedQuery.Store
import KeyedQuery.Text.Blank
import KeyedQuery.Text.Shown
import KeyedQuery.Wire.Config
import KeyedQuery.Wire.Method
import KeyedQuery.Wire.Plan
import KeyedQuery.Wire.Qualifier
import KeyedQuery.Word
import KeyedQuery.Proofs.KeySplit
import KeyedQuery.Proofs.StoreCalls
import KeyedQuery.Proofs.KeyMeaning
import KeyedQuery.Proofs.Binding
import KeyedQuery.Proofs.NamedKey
import KeyedQuery.Proofs.ArgumentBlocks
import KeyedQuery.Proofs.IntentMeaning
import KeyedQuery.Proofs.Leaves
import KeyedQuery.Proofs.Deferral
import KeyedQuery.Proofs.ResultBound
import KeyedQuery.Proofs.ArgumentRecovery
import KeyedQuery.Proofs.ExplainedPath
import KeyedQuery.Proofs.Accounts
import KeyedQuery.Proofs.PlanContract
import KeyedQuery.Proofs.UnsetMarkers
import KeyedQuery.Proofs.GroupHeads
import KeyedQuery.Proofs.LoggingAndHistory
import KeyedQuery.Proofs.VariableSource
import KeyedQuery.Proofs.LogTrace
import KeyedQuery.Proofs.PathChoice
import KeyedQuery.Proofs.RecordFields
import KeyedQuery.Proofs.RecordEdits
import KeyedQuery.Proofs.Spelling
import KeyedQuery.Proofs.WireForm
import KeyedQuery.Proofs.KnownMembers
import KeyedQuery.Proofs.StringText
import KeyedQuery.Proofs.NumeralText
import KeyedQuery.Proofs.ValueText
import KeyedQuery.Proofs.CompactText
import KeyedQuery.Proofs.WireText
import KeyedQuery.Proofs.VariableBinding
import KeyedQuery.Proofs.PositionalReference
import KeyedQuery.Proofs.LogLine
import KeyedQuery.Proofs.ConfigGate
import KeyedQuery.Proofs.NormalForm
import KeyedQuery.Proofs.FullText
import KeyedQuery.Proofs.ValueBoundary
import KeyedQuery.Proofs.UniqueReading
import KeyedQuery.Proofs.PageWindows
import KeyedQuery.Proofs.ReferenceForm
import KeyedQuery.Proofs.KeyInspection
import KeyedQuery.Proofs.KeyRead
