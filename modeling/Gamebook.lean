import Gamebook.Bookmark
import Gamebook.Dice.Roll
import Gamebook.Expr.Value
import Gamebook.Main
import Gamebook.Markup.Printer
import Gamebook.Markup.Report
import Gamebook.Play.Session
import Gamebook.Proofs.ActionText
import Gamebook.Proofs.AnyOrder
import Gamebook.Proofs.BlockOrder
import Gamebook.Proofs.Brackets
import Gamebook.Proofs.Chance
import Gamebook.Proofs.Connected
import Gamebook.Proofs.Evaluators
import Gamebook.Proofs.Faults
import Gamebook.Proofs.Filing
import Gamebook.Proofs.FiniteNumbers
import Gamebook.Proofs.InPlace
import Gamebook.Proofs.LastWrite
import Gamebook.Proofs.LiteralEmphasis
import Gamebook.Proofs.MarkerText
import Gamebook.Proofs.MaximalMunch
import Gamebook.Proofs.Nesting
import Gamebook.Proofs.Pasting
import Gamebook.Proofs.ReachedDice
import Gamebook.Proofs.Rebuilding
import Gamebook.Proofs.RejectedBlocks
import Gamebook.Proofs.Resume
import Gamebook.Proofs.Revisits
import Gamebook.Proofs.RoundTrip
import Gamebook.Proofs.Settings
import Gamebook.Proofs.Shape
import Gamebook.Proofs.StoryDocument
import Gamebook.Proofs.TextApart
import Gamebook.Proofs.UntakenBranch
import Gamebook.Proofs.Untouched
import Gamebook.Proofs.WaysIn
import Gamebook.Proofs.WaysOn
import Gamebook.Proofs.Words
import Gamebook.Rules.Assignment
import Gamebook.Rules.Decision
import Gamebook.Story.Document
