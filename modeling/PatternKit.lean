import PatternKit.Draft.Session
import PatternKit.Document.Forms
import PatternKit.Proofs.CompileOutcome
import PatternKit.Proofs.Failure
import PatternKit.Proofs.Independence
import PatternKit.Proofs.Passage
import PatternKit.Proofs.LeftmostSearch
import PatternKit.Proofs.StickyChain
import PatternKit.Proofs.SetReading
import PatternKit.Proofs.Token
import PatternKit.Proofs.TokenReading
import PatternKit.Proofs.RecipeTokens
import PatternKit.Proofs.PlainStructure
import PatternKit.Proofs.Acceptance
import PatternKit.Proofs.TreeStructure
import PatternKit.Proofs.Sheet
import PatternKit.Proofs.Unescaped
import PatternKit.Proofs.Authored
import PatternKit.Proofs.Neutrality
import PatternKit.Proofs.MatchOrder
import PatternKit.Proofs.EngineBounds
import PatternKit.Proofs.Replacement
import PatternKit.Proofs.RepetitionMarkers
import PatternKit.Proofs.PolicyOrder
import PatternKit.Proofs.NestedRepetition
import PatternKit.Proofs.NestedPolicy
import PatternKit.Proofs.LastingRisk
import PatternKit.Proofs.CodeBlocks
import PatternKit.Proofs.AnchoredRun
import PatternKit.Proofs.AnchoredExpression
import PatternKit.Proofs.BareStructure
import PatternKit.Proofs.EnclosedReader
import PatternKit.Proofs.EnclosedSet
import PatternKit.Proofs.EnclosedText
import PatternKit.Proofs.StickyAnchor
import PatternKit.Proofs.CodeMeaning
import PatternKit.Proofs.RunMeaning
import PatternKit.Proofs.NormalForm
import PatternKit.Proofs.WholeMatch
import PatternKit.Proofs.QuantifiedOperand
import PatternKit.Proofs.SearchMeaning
import PatternKit.Proofs.Occurrences
import PatternKit.Proofs.PickedTexts
import PatternKit.Proofs.PlainText
import PatternKit.Proofs.TextBytes
import PatternKit.Proofs.MarkerSpans
import PatternKit.Proofs.CharSetMembers
import PatternKit.Proofs.SetMembers
import PatternKit.Proofs.SequentialMarkers
import PatternKit.Proofs.NestedLexemes
import PatternKit.Proofs.NestedBytes
import PatternKit.Proofs.EscapedPlaces
import PatternKit.Proofs.BalanceMeaning
import PatternKit.Proofs.MarkerCount
import PatternKit.Proofs.GaplessHead
import PatternKit.Proofs.Division
import PatternKit.Proofs.CallLog
import PatternKit.Proofs.CaseVariants
import PatternKit.Proofs.RefusalLog
import PatternKit.Proofs.DottedQuad
import PatternKit.Proofs.ColourTexts
import PatternKit.Proofs.EscapeRoundTrip
import PatternKit.Proofs.WrittenCounts
