import QueryAssist.Cache.Registry
import QueryAssist.Catalog.InMemory
import QueryAssist.Editor.Protocol
import QueryAssist.Encoding.Catalog
import QueryAssist.Encoding.Context
import QueryAssist.Encoding.Dialect
import QueryAssist.Encoding.Settings
import QueryAssist.Main
import QueryAssist.Settings.Reader
import QueryAssist.Proofs.Cache.Continuity
import QueryAssist.Proofs.Cache.Disposal
import QueryAssist.Proofs.Cache.FetchCourse
import QueryAssist.Proofs.Cache.Freshness
import QueryAssist.Proofs.Cache.Invalidation
import QueryAssist.Proofs.Cache.RegistryEffect
import QueryAssist.Proofs.Cache.RegistryRun
import QueryAssist.Proofs.Cache.SingleFlight
import QueryAssist.Proofs.Cache.Stability
import QueryAssist.Proofs.CommandLine.Cursor
import QueryAssist.Proofs.Data.Record
import QueryAssist.Proofs.Dialect.KeywordMerge
import QueryAssist.Proofs.Editor.Place
import QueryAssist.Proofs.Encoding.RoundTrip
import QueryAssist.Proofs.Query.ClampedCursor
import QueryAssist.Proofs.Query.CurrentWord
import QueryAssist.Proofs.Query.CursorOrder
import QueryAssist.Proofs.Query.FormattedPath
import QueryAssist.Proofs.Query.JoinChain
import QueryAssist.Proofs.Query.LastKeyword
import QueryAssist.Proofs.Query.LetterCase
import QueryAssist.Proofs.Query.OpenCall
import QueryAssist.Proofs.Query.RetypedIdentifier
import QueryAssist.Proofs.Query.Scope
import QueryAssist.Proofs.Query.TypedTable
import QueryAssist.Proofs.Settings.Section
import QueryAssist.Proofs.Suggestion.AliasColumn
import QueryAssist.Proofs.Suggestion.BareName
import QueryAssist.Proofs.Suggestion.ColumnList
import QueryAssist.Proofs.Suggestion.EmptySchema
import QueryAssist.Proofs.Suggestion.ListOrder
import QueryAssist.Proofs.Suggestion.Selection
import QueryAssist.Proofs.Suggestion.TableEntry
import QueryAssist.Proofs.Suggestion.TableList
import QueryAssist.Proofs.Suggestion.TypedWord
import QueryAssist.Proofs.Text.Bytes
