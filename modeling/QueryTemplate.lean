import QueryTemplate.Main
import QueryTemplate.Proofs.Diagnosis
import QueryTemplate.Proofs.Substitution
import QueryTemplate.Proofs.Noninterference
import QueryTemplate.Proofs.Composition
import QueryTemplate.Proofs.BlockGrammar
import QueryTemplate.Proofs.LiteralReader
import QueryTemplate.Proofs.NearestDouble
import QueryTemplate.Proofs.NumeralReader
import QueryTemplate.Proofs.ListReader
import QueryTemplate.Proofs.Inspection
import QueryTemplate.Proofs.OptionValues
import QueryTemplate.Proofs.StrictPolicy
import QueryTemplate.Proofs.Spelling
import QueryTemplate.Proofs.Rebuilding
import QueryTemplate.Proofs.RequestFields
import QueryTemplate.Proofs.SkipPositions
import QueryTemplate.Proofs.Stages
import QueryTemplate.Proofs.SkipSources
import QueryTemplate.Proofs.NearestRank
import QueryTemplate.Proofs.DecimalLiterals
import QueryTemplate.Proofs.TextIntegers
import QueryTemplate.Proofs.FloatLiterals
import QueryTemplate.Proofs.SettledNumbers
import QueryTemplate.Proofs.ShortestDecimal
import QueryTemplate.Proofs.IntegersAsFloats
import QueryTemplate.Proofs.PlaceholderPositions
import QueryTemplate.Proofs.BuildLog
import QueryTemplate.Proofs.ByteBoundaries
import QueryTemplate.Proofs.LogClipping
import QueryTemplate.Proofs.ReportReading
import QueryTemplate.Proofs.TomlLines
import QueryTemplate.Proofs.WrittenConfig
import QueryTemplate.Proofs.PlaceholderLoops
