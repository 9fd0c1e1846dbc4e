import TextClassifier.Export
import TextClassifier.Main
import TextClassifier.Proofs.SequenceLayout
import TextClassifier.Proofs.VocabularyIds
import TextClassifier.Proofs.VocabularyTables
import TextClassifier.Proofs.InputAcceptance
import TextClassifier.Proofs.Construction
import TextClassifier.Proofs.EngineOperations
import TextClassifier.Proofs.Feeding
import TextClassifier.Proofs.Reuse
import TextClassifier.Proofs.GraphInputs
import TextClassifier.Proofs.MarkerPlaces
import TextClassifier.Proofs.EngineHistory
import TextClassifier.Proofs.Declarations
import TextClassifier.Proofs.ExportedPackage
import TextClassifier.Proofs.LengthRegimes
import TextClassifier.Proofs.Utf8Texts
import TextClassifier.Proofs.FileLines
import TextClassifier.Proofs.Tables
import TextClassifier.Proofs.JsonScalars
import TextClassifier.Proofs.JsonStrings
import TextClassifier.Proofs.JsonRoundTrip
import TextClassifier.Proofs.JsonFiles
import TextClassifier.Proofs.JsonReadValues
import TextClassifier.Proofs.MetadataRoundTrip
import TextClassifier.Proofs.ArchiveEntries
import TextClassifier.Proofs.PackageRoundTrip
import TextClassifier.Proofs.VocabularyLines
import TextClassifier.Proofs.ExportAcceptance
import TextClassifier.Proofs.BrokenLines
import TextClassifier.Proofs.Traversals
import TextClassifier.Proofs.Reports
import TextClassifier.Proofs.FileRuns
import TextClassifier.Proofs.FailureClasses
import TextClassifier.Proofs.EscapingErrors
import TextClassifier.Proofs.MatchOrder
import TextClassifier.Proofs.Openings
import TextClassifier.Proofs.DelimiterSearch
import TextClassifier.Proofs.TextPartition
import TextClassifier.Proofs.WordRuns
import TextClassifier.Proofs.IntegerFloats
import TextClassifier.Proofs.ExactInputs
import TextClassifier.Proofs.ExportedVocabularies
import TextClassifier.Proofs.ResizeRules
import TextClassifier.Proofs.FillRules
import TextClassifier.Proofs.UntypedFaults
import TextClassifier.Proofs.GraphDescriptions
import TextClassifier.Proofs.RunResults
import TextClassifier.Proofs.Renumbering
import TextClassifier.Proofs.PartReading
import TextClassifier.Proofs.PartGrammar
import TextClassifier.Proofs.GroupedPatterns
import TextClassifier.Proofs.CountLimits
import TextClassifier.Proofs.ReadingDefects
import TextClassifier.Proofs.WholePatterns
import TextClassifier.Proofs.TokenizerCreation
import TextClassifier.Proofs.MetadataShapes
import TextClassifier.Proofs.PackageReading
import TextClassifier.Proofs.UnitDescriptions
import TextClassifier.Proofs.FiniteFloats
import TextClassifier.Proofs.RowMajorOrder
import TextClassifier.Proofs.ScoreNames
import TextClassifier.Proofs.SessionRuns
import TextClassifier.Proofs.ExportedLoading
import TextClassifier.Proofs.RunEndings
import TextClassifier.Proofs.NormalDeclarations
