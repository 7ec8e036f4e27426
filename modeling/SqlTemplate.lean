import SqlTemplate.Batch
import SqlTemplate.Finder.Computed
import SqlTemplate.Record.OrderBook
import SqlTemplate.Proofs.LexerStep
import SqlTemplate.Proofs.Lossless
import SqlTemplate.Proofs.TokenClasses
import SqlTemplate.Proofs.TokenSequences
import SqlTemplate.Proofs.QueryFold
import SqlTemplate.Proofs.OpaqueRegions
import SqlTemplate.Proofs.ReadBack
import SqlTemplate.Proofs.Encoding
import SqlTemplate.Proofs.AttributeScan
import SqlTemplate.Proofs.AttributeEdits
import SqlTemplate.Proofs.AttributeRegions
import SqlTemplate.Proofs.MismatchReport
import SqlTemplate.Proofs.ResolvedArguments
import SqlTemplate.Proofs.AssociationLists
import SqlTemplate.Proofs.CacheTransparency
import SqlTemplate.Proofs.CacheRecency
import SqlTemplate.Proofs.StatementRun
import SqlTemplate.Proofs.BatchRows
import SqlTemplate.Proofs.Concatenation
import SqlTemplate.Proofs.JoinedTexts
import SqlTemplate.Proofs.ListParameters
import SqlTemplate.Proofs.BindingEdits
import SqlTemplate.Proofs.ListTemplate
import SqlTemplate.Proofs.ListStatement
import SqlTemplate.Proofs.Composition
import SqlTemplate.Proofs.Renaming
import SqlTemplate.Proofs.PreparedTypes
import SqlTemplate.Proofs.StyleExchange
import SqlTemplate.Proofs.SupplierCalls
import SqlTemplate.Proofs.CanonicalEntries
import SqlTemplate.Proofs.AttributeCuts
import SqlTemplate.Proofs.ListRebinding
import SqlTemplate.Proofs.FinderEntries
import SqlTemplate.Proofs.FinderTrees
import SqlTemplate.Proofs.StyledNames
import SqlTemplate.Proofs.FieldRules
import SqlTemplate.Proofs.DerivedFinders
import SqlTemplate.Proofs.ExactNumbers
import SqlTemplate.Proofs.RowDelivery
import SqlTemplate.Proofs.RowSegments
import SqlTemplate.Proofs.NativeReadings
import SqlTemplate.Proofs.ListMarkers
import SqlTemplate.Proofs.CallsInPlace
import SqlTemplate.Proofs.ListKeys
import SqlTemplate.Proofs.DisplayedValues
import SqlTemplate.Proofs.ValueEquality
import SqlTemplate.Proofs.TextCuts
