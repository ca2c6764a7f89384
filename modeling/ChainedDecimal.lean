import ChainedDecimal.Decimal.Basic
import ChainedDecimal.Decimal.Text
import ChainedDecimal.Decimal.Numeral
import ChainedDecimal.Operator.Basic
import ChainedDecimal.Fault
import ChainedDecimal.Argument
import ChainedDecimal.Decimal.Limits
import ChainedDecimal.Decimal.Reading
import ChainedDecimal.Decimal.Arithmetic
import ChainedDecimal.Decimal.Extended
import ChainedDecimal.Operator.Apply
import ChainedDecimal.Formula.Text
import ChainedDecimal.Formula.Trace
import ChainedDecimal.Pool
import ChainedDecimal.Event
import ChainedDecimal.Text.Range
import ChainedDecimal.Text.Digit
import ChainedDecimal.Text.LowerCase
import ChainedDecimal.Settings
import ChainedDecimal.Calculator
import ChainedDecimal.Bracket.Chain
import ChainedDecimal.Bracket.View
import ChainedDecimal.Closure.Group
import ChainedDecimal.Closure.Script
import ChainedDecimal.Closure.Chain
import ChainedDecimal.Session.Command
import ChainedDecimal.Session.Reply
import ChainedDecimal.Session.State
import ChainedDecimal.Session.Brackets
import ChainedDecimal.Session.Closures
import ChainedDecimal.Session.Pools
import ChainedDecimal.Session.Traces
import ChainedDecimal.Session.Step
import ChainedDecimal.Bracket.Node
import ChainedDecimal.Bracket.Action
import ChainedDecimal.Session.Stored
import ChainedDecimal.Proofs.Outcome
import ChainedDecimal.Proofs.Decimal.Fitting
import ChainedDecimal.Proofs.Decimal.Number
import ChainedDecimal.Proofs.Decimal.Order
import ChainedDecimal.Proofs.Decimal.Rounding
import ChainedDecimal.Proofs.Decimal.Quotient
import ChainedDecimal.Proofs.Decimal.Nearest
import ChainedDecimal.Proofs.Decimal.Spelling
import ChainedDecimal.Proofs.Operator.Exact
import ChainedDecimal.Proofs.Operator.Scaled
import ChainedDecimal.Proofs.Operator.Laws
import ChainedDecimal.Proofs.Operator.Projection
import ChainedDecimal.Proofs.Operator.LostDigits
import ChainedDecimal.Proofs.Pool
import ChainedDecimal.Proofs.Pool.Requests
import ChainedDecimal.Proofs.Decimal.Representable
import ChainedDecimal.Proofs.Pool.Representable
import ChainedDecimal.Proofs.Pool.Contents
import ChainedDecimal.Proofs.Pool.Answers
import ChainedDecimal.Proofs.Alike.Basic
import ChainedDecimal.Proofs.Alike.Bracket
import ChainedDecimal.Proofs.Alike.Closure
import ChainedDecimal.Proofs.Alike.Chain
import ChainedDecimal.Proofs.Malformed
import ChainedDecimal.Proofs.Bracket.Move
import ChainedDecimal.Proofs.Bracket.Scopes
import ChainedDecimal.Proofs.Bracket.Values
import ChainedDecimal.Proofs.Bracket.Views
import ChainedDecimal.Proofs.Bracket.Faults
import ChainedDecimal.Proofs.Bracket.Nesting
import ChainedDecimal.Proofs.Bracket.Walk
import ChainedDecimal.Proofs.Bracket.Meaning
import ChainedDecimal.Proofs.Shared.Formula
import ChainedDecimal.Proofs.Shared.Script
import ChainedDecimal.Proofs.Spelled.Phrase
import ChainedDecimal.Proofs.Spelled.Reading
import ChainedDecimal.Proofs.Spelled.Spells
import ChainedDecimal.Proofs.Spelled.Infix
import ChainedDecimal.Proofs.Spelled.Bracket
import ChainedDecimal.Proofs.Spelled.Parentheses
import ChainedDecimal.Proofs.Spelled.Apart
import ChainedDecimal.Proofs.Spelled.InPlace
import ChainedDecimal.Proofs.Closure.Deeds
import ChainedDecimal.Proofs.Closure.Failures
import ChainedDecimal.Proofs.Closure.Values
import ChainedDecimal.Proofs.Closure.Confined
import ChainedDecimal.Proofs.Spelled.Closure
import ChainedDecimal.Proofs.Closure.Caught
import ChainedDecimal.Proofs.Session.Names
import ChainedDecimal.Proofs.Session.Frame
import ChainedDecimal.Proofs.Session.Scopes
import ChainedDecimal.Proofs.Session.Steps
import ChainedDecimal.Proofs.Session.Links
import ChainedDecimal.Proofs.Session.Calls
import ChainedDecimal.Proofs.Session.Failures
import ChainedDecimal.Proofs.Session.Nesting
import ChainedDecimal.Proofs.Alike.Session
import ChainedDecimal.Proofs.Alike.Step
import ChainedDecimal.Proofs.Alike.Run
import ChainedDecimal.Proofs.Session.Influence
import ChainedDecimal.Proofs.Session.Spelled
import ChainedDecimal.Proofs.Session.Apart
import ChainedDecimal.Proofs.Session.Infix
import ChainedDecimal.Proofs.Session.Attempts
import ChainedDecimal.Proofs.Session.Answers
import ChainedDecimal.Proofs.Session.Walks
import ChainedDecimal.Proofs.Session.Meaning
import ChainedDecimal.Proofs.Session.Callables
import ChainedDecimal.Proofs.Session.Parity
import ChainedDecimal.Proofs.Session.Pools
import ChainedDecimal.Proofs.Session.Calculator
import ChainedDecimal.Proofs.Session.Beginnings
import ChainedDecimal.Proofs.Session.Values
import ChainedDecimal.Proofs.Session.Reports
import ChainedDecimal.Proofs.Session.Renaming
import ChainedDecimal.Proofs.Session.Alone
import ChainedDecimal.Proofs.Session.Independence
import ChainedDecimal.Proofs.Stored.Actions
import ChainedDecimal.Proofs.Stored.Calls
import ChainedDecimal.Proofs.Stored.Results
import ChainedDecimal.Proofs.Stored.Steps
import ChainedDecimal.Proofs.Stored.Depth
import ChainedDecimal.Proofs.Stored.Links
import ChainedDecimal.Proofs.Stored.History
import ChainedDecimal.Proofs.Stored.Failures
import ChainedDecimal.Proofs.Stored.Layout
import ChainedDecimal.Proofs.Stored.Simulation
import ChainedDecimal.Proofs.Stored.Others
import ChainedDecimal.Proofs.Stored.Refinement
