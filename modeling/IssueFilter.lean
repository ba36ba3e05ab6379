import IssueFilter.Main
import IssueFilter.Proofs.Service.Confidentiality
import IssueFilter.Proofs.Query.FixedPoint
import IssueFilter.Proofs.Search.Regrouping
import IssueFilter.Proofs.Runner.SharedText
import IssueFilter.Proofs.Runner.SubQuery
import IssueFilter.Proofs.Message.Channels
import IssueFilter.Proofs.Query.Evaluable
import IssueFilter.Proofs.Query.Refilling
import IssueFilter.Proofs.Runner.OneFunction
import IssueFilter.Proofs.Runner.Recording
import IssueFilter.Proofs.Function.Transparency
import IssueFilter.Proofs.Runner.Transparency
import IssueFilter.Proofs.Parser.Agreeing
import IssueFilter.Proofs.Parser.Extending
import IssueFilter.Proofs.Query.Closing
import IssueFilter.Proofs.Query.Enclosing
import IssueFilter.Proofs.Query.Arguments
import IssueFilter.Proofs.Query.Negating
import IssueFilter.Proofs.Query.Nesting
import IssueFilter.Proofs.Query.Composition
import IssueFilter.Proofs.Index.Grants
import IssueFilter.Proofs.Search.Restricting
import IssueFilter.Proofs.Query.Filling
import IssueFilter.Proofs.Search.Failing
import IssueFilter.Proofs.Service.Agreement
import IssueFilter.Proofs.Service.SharedThread
import IssueFilter.Proofs.Search.Arrangement
import IssueFilter.Proofs.Query.Comparison
import IssueFilter.Proofs.Search.Comparing
import IssueFilter.Proofs.Search.Dates
import IssueFilter.Proofs.Text.Numerals
import IssueFilter.Proofs.Search.Quoting
import IssueFilter.Proofs.Search.Membership
import IssueFilter.Proofs.Search.BooleanLaws
import IssueFilter.Proofs.Search.Unevaluable
import IssueFilter.Proofs.Runner.Resolving
import IssueFilter.Proofs.Message.Filling
import IssueFilter.Proofs.Message.Distinct
import IssueFilter.Proofs.Function.Policy
import IssueFilter.Proofs.Function.Evaluation
import IssueFilter.Proofs.Search.Paging
import IssueFilter.Proofs.Service.Paging
import IssueFilter.Proofs.Index.Seeding
import IssueFilter.Proofs.Search.Emptiness
import IssueFilter.Proofs.Runner.Messages
import IssueFilter.Proofs.Query.Failing
import IssueFilter.Proofs.Query.Visiting
