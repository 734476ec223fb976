import CostView.FieldTable.Yaml
import CostView.Main
import CostView.Proofs.Compilation
import CostView.Proofs.AdditiveRuns
import CostView.Proofs.KeySearch
import CostView.Proofs.QuotedText
import CostView.Proofs.KeyList
import CostView.Proofs.MapText
import CostView.Proofs.DefinitionText
import CostView.Proofs.BuiltInTable
import CostView.Proofs.Resolutions
import CostView.Proofs.RenderedText
import CostView.Proofs.RegisteredView
import CostView.Proofs.Releases
import CostView.Proofs.KeySurvival
import CostView.Proofs.GrammarReading
import CostView.Proofs.Requirements
import CostView.Proofs.RowValues
import CostView.Proofs.TwoViews
import CostView.Proofs.CatalogCalls
import CostView.Proofs.UnitedRequests
import CostView.Proofs.Redeployment
import CostView.Proofs.References
import CostView.Proofs.Recompilation
import CostView.Proofs.JsonText
import CostView.Proofs.SnapshotText
import CostView.Proofs.PersistedRuns
import CostView.Proofs.DeclaredColumns
import CostView.Proofs.LayoutFields
import CostView.Proofs.UnderivableColumns
import CostView.Proofs.SettingsOverride
import CostView.Proofs.SelectList
import CostView.Proofs.PrintedExpressions
import CostView.Proofs.AssembledMap
import CostView.Proofs.FlatKeys
import CostView.Proofs.RequiredColumns
import CostView.Proofs.TableIndex
import CostView.Proofs.ReferenceText
import CostView.Proofs.Reformatting
import CostView.Proofs.ViewPlacement
import CostView.Proofs.Warnings
import CostView.Proofs.EnvironmentSettings
import CostView.Proofs.LoadedTables
import CostView.Proofs.DefaultFields
import CostView.Proofs.StateOrder
