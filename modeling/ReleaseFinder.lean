import ReleaseFinder.Text.Blank
import ReleaseFinder.Text.LowerCase
import ReleaseFinder.Decimal.Fixed
import ReleaseFinder.Decimal.Shortest
import ReleaseFinder.Decimal.Numeral
import ReleaseFinder.Decimal.Logarithm
import ReleaseFinder.Quality.Points
import ReleaseFinder.Dictionary
import ReleaseFinder.Width
import ReleaseFinder.Json.Reader
import ReleaseFinder.Json.Writer
import ReleaseFinder.Release.Record
import ReleaseFinder.Ranking.Record
import ReleaseFinder.Pool
import ReleaseFinder.Tally
import ReleaseFinder.Engine
import ReleaseFinder.Yaml.Token
import ReleaseFinder.Yaml.Document
import ReleaseFinder.Definition.Validation
import ReleaseFinder.Definition.Record
import ReleaseFinder.Definition.Catalog
import ReleaseFinder.Toml.Document
import ReleaseFinder.Settings.Record
import ReleaseFinder.CommandLine.Run
import ReleaseFinder.Main
import ReleaseFinder.Proofs.RankingOrder
import ReleaseFinder.Proofs.Preferences
import ReleaseFinder.Proofs.RankingViews
import ReleaseFinder.Proofs.RankingParts
import ReleaseFinder.Proofs.PoolOutcomes
import ReleaseFinder.Proofs.Reports
import ReleaseFinder.Proofs.CatalogOrder
import ReleaseFinder.Proofs.CatalogContents
import ReleaseFinder.Proofs.CatalogIsolation
import ReleaseFinder.Proofs.PoolOccupancy
import ReleaseFinder.Proofs.DocumentGrammar
import ReleaseFinder.Proofs.DefinitionForms
import ReleaseFinder.Proofs.DefinitionValidity
import ReleaseFinder.Proofs.SelectorForms
import ReleaseFinder.Proofs.StricterCriteria
import ReleaseFinder.Proofs.TitleLabels
import ReleaseFinder.Proofs.Recasing
import ReleaseFinder.Proofs.NullEntries
import ReleaseFinder.Proofs.RequestMethods
import ReleaseFinder.Proofs.BlockedTags
import ReleaseFinder.Proofs.Separators
import ReleaseFinder.Proofs.JoinedTitles
import ReleaseFinder.Proofs.SettingsValidity
import ReleaseFinder.Proofs.ReleaseTokens
import ReleaseFinder.Proofs.ScoreBounds
import ReleaseFinder.Proofs.Underscores
import ReleaseFinder.Proofs.LabelPoints
import ReleaseFinder.Proofs.LoweredTexts
import ReleaseFinder.Proofs.TokenForms
import ReleaseFinder.Proofs.ExactRelevance
import ReleaseFinder.Proofs.FullRelevance
import ReleaseFinder.Proofs.AddedWords
import ReleaseFinder.Proofs.ProfileScores
import ReleaseFinder.Proofs.ScoreGrowth
import ReleaseFinder.Proofs.Classification
import ReleaseFinder.Proofs.EngineCounts
import ReleaseFinder.Proofs.DictionaryPairs
import ReleaseFinder.Proofs.ReportHistories
import ReleaseFinder.Proofs.PoolTimes
import ReleaseFinder.Proofs.SelectorTags
import ReleaseFinder.Proofs.MappingNames
import ReleaseFinder.Proofs.LabelSpellings
