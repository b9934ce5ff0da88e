import ChangeCoupling.Band.Report
import ChangeCoupling.CommandLine.Run
import ChangeCoupling.Commit
import ChangeCoupling.Curve
import ChangeCoupling.Failure
import ChangeCoupling.History.Repository
import ChangeCoupling.Main
import ChangeCoupling.Mining.Miner
import ChangeCoupling.Number.Cell
import ChangeCoupling.Settings
import ChangeCoupling.SizeGroup
import ChangeCoupling.StatsTable.Csv
import ChangeCoupling.Text.LetterCase
import ChangeCoupling.Text.Row
import ChangeCoupling.Transaction
import ChangeCoupling.Warning
import ChangeCoupling.Proofs.Gathering
import ChangeCoupling.Proofs.FileCounting
import ChangeCoupling.Proofs.FileRanking
import ChangeCoupling.Proofs.CandidateJoin
import ChangeCoupling.Proofs.Combinations
import ChangeCoupling.Proofs.BinomialSaturation
import ChangeCoupling.Proofs.Numbering
import ChangeCoupling.Proofs.CandidateCounting
import ChangeCoupling.Proofs.LevelSearch
import ChangeCoupling.Proofs.MinedItemsets
import ChangeCoupling.Proofs.MiningExactness
import ChangeCoupling.Proofs.SearchRuns
import ChangeCoupling.Proofs.MiningIndependence
import ChangeCoupling.Proofs.MiningOrder
import ChangeCoupling.Proofs.LinesAndWords
import ChangeCoupling.Proofs.LogRoundTrip
import ChangeCoupling.Proofs.SizeGroupRules
import ChangeCoupling.Proofs.SubsetClosure
import ChangeCoupling.Proofs.HistoryAgreement
import ChangeCoupling.Proofs.CommandInputs
import ChangeCoupling.Proofs.RowQuoting
import ChangeCoupling.Proofs.NearestDouble
import ChangeCoupling.Proofs.NumberText
import ChangeCoupling.Proofs.ExponentBounds
import ChangeCoupling.Proofs.StatsInsertion
import ChangeCoupling.Proofs.CommitTallies
import ChangeCoupling.Proofs.StatsRoundTrip
import ChangeCoupling.Proofs.Shares
import ChangeCoupling.Proofs.SubsetEnumeration
import ChangeCoupling.Proofs.SubsetWalks
import ChangeCoupling.Proofs.PairSearch
import ChangeCoupling.Proofs.OverlapShortcut
import ChangeCoupling.Proofs.RuleScore
import ChangeCoupling.Proofs.FailedCommands
import ChangeCoupling.Proofs.PathLeads
import ChangeCoupling.Proofs.FileLocations
import ChangeCoupling.Proofs.FileEffects
import ChangeCoupling.Proofs.MineOutputs
import ChangeCoupling.Proofs.ColumnLayout
import ChangeCoupling.Proofs.BandRoundTrip
import ChangeCoupling.Proofs.RowAccounting
import ChangeCoupling.Proofs.ChangeTotals
import ChangeCoupling.Proofs.TruthIndex
import ChangeCoupling.Proofs.EvaluationAccounting
import ChangeCoupling.Proofs.DoubleOrder
import ChangeCoupling.Proofs.ScoreBounds
import ChangeCoupling.Proofs.CurveOrder
import ChangeCoupling.Proofs.LineAttribution
import ChangeCoupling.Proofs.FirstRecords
import ChangeCoupling.Proofs.KeywordMatching
