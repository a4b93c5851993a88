import PortableSql.Call
import PortableSql.Main
import PortableSql.Proofs.Rendering
import PortableSql.Proofs.Tree
import PortableSql.Proofs.SafeRendering
import PortableSql.Proofs.SafeStatement
import PortableSql.Proofs.SafeTree
import PortableSql.Proofs.PlaceholderAgreement
import PortableSql.Proofs.Agreement
import PortableSql.Proofs.AgreeingTrees
import PortableSql.Proofs.ReadAgreement
import PortableSql.Proofs.ValueAgreement
import PortableSql.Proofs.SimilarBuilders
import PortableSql.Proofs.Invariants
import PortableSql.Proofs.SimilarCalls
import PortableSql.Proofs.ValueIndependence
import PortableSql.Proofs.Adoption
import PortableSql.Proofs.FaultLog
import PortableSql.Proofs.CallFaults
import PortableSql.Proofs.Shape
import PortableSql.Proofs.BuiltShape
import PortableSql.Proofs.LateBinding
import PortableSql.Proofs.ClauseOrder
import PortableSql.Proofs.Described
import PortableSql.Proofs.LiteralAgreement
import PortableSql.Proofs.NameReading
import PortableSql.Proofs.InsertedRows
import PortableSql.Proofs.InsertAgreement
import PortableSql.Proofs.InsertLayout
import PortableSql.Proofs.SettledTrees
import PortableSql.Proofs.Compiled
import PortableSql.Proofs.PaginatedUnions
import PortableSql.Proofs.Returning
import PortableSql.Proofs.BlockRows
import PortableSql.Proofs.RowWindow
import PortableSql.Proofs.NamedTemplates
import PortableSql.Proofs.LiteralNames
import PortableSql.Proofs.ConditionCalls
import PortableSql.Proofs.OperatorDispatch
import PortableSql.Proofs.ObjectConditions
import PortableSql.Proofs.RowLocks
import PortableSql.Proofs.DocumentValues
import PortableSql.Proofs.MergedUpdates
import PortableSql.Proofs.JoinedDeletes
import PortableSql.Proofs.PushedText
import PortableSql.Proofs.StringLiterals
import PortableSql.Proofs.LiteralComposition
import PortableSql.Proofs.OperatorText
