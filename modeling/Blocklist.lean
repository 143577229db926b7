import Blocklist.Filter.Json
import Blocklist.Main
import Blocklist.Proofs.Batch.Coverage
import Blocklist.Proofs.Batch.Independence
import Blocklist.Proofs.Batch.Order
import Blocklist.Proofs.Batch.WellFormed
import Blocklist.Proofs.Filter.UrlRule
import Blocklist.Proofs.Batch.Exceptions
import Blocklist.Proofs.Content.DomainScope
import Blocklist.Proofs.Filter.CosmeticRule
import Blocklist.Proofs.Text.Blank
import Blocklist.Proofs.Filter.RuleOption
import Blocklist.Proofs.Content.Restriction
import Blocklist.Proofs.Batch.ReadAhead
import Blocklist.Proofs.Filter.RequestType
import Blocklist.Proofs.Content.TypeRestriction
import Blocklist.Proofs.Content.UrlFilter
import Blocklist.Proofs.Filter.OptionMark
import Blocklist.Proofs.Content.BoundedRepetition
import Blocklist.Proofs.Content.PinnedDomain
import Blocklist.Proofs.Content.LetterCase
import Blocklist.Proofs.Batch.Recompaction
import Blocklist.Proofs.Content.Exception
import Blocklist.Proofs.Filter.CosmeticLine
import Blocklist.Proofs.Filter.ProceduralSelector
import Blocklist.Proofs.Filter.OptionOrder
import Blocklist.Proofs.Filter.HostnamePort
import Blocklist.Proofs.Batch.DomainSource
import Blocklist.Proofs.Filter.RegexBody
import Blocklist.Proofs.Offset.Line
import Blocklist.Proofs.Batch.Log
import Blocklist.Proofs.Filter.PatternEncoding
