import Lexicon.Assoc
import Lexicon.Classify
import Lexicon.CommandLine.Argument
import Lexicon.CommandLine.Command
import Lexicon.CommandLine.Help
import Lexicon.CommandLine.Parse
import Lexicon.Failure
import Lexicon.FileTree
import Lexicon.FileTree.Disk
import Lexicon.FileTree.Path
import Lexicon.Keyword
import Lexicon.Kind
import Lexicon.Log
import Lexicon.Main
import Lexicon.Mode
import Lexicon.Program
import Lexicon.Proofs.Concatenation
import Lexicon.Proofs.Description
import Lexicon.Proofs.Display
import Lexicon.Proofs.Lines
import Lexicon.Proofs.LongestSymbol
import Lexicon.Proofs.Lookup
import Lexicon.Proofs.Quoting
import Lexicon.Proofs.Scan
import Lexicon.Proofs.Sections
import Lexicon.Proofs.Separation
import Lexicon.Proofs.TableCells
import Lexicon.Proofs.Vocabulary
import Lexicon.Proofs.VocabularyReference
import Lexicon.Reference
import Lexicon.Reference.Layout
import Lexicon.Scan
import Lexicon.Symbol
import Lexicon.Tag
import Lexicon.Text.Basic
import Lexicon.Text.Quoted
import Lexicon.Token
import Lexicon.Version
import Lexicon.Proofs.PathComponents
import Lexicon.Proofs.TreeWalk
import Lexicon.Proofs.StoreFrame
import Lexicon.Proofs.NamedKinds
import Lexicon.Proofs.ProgramRun
import Lexicon.Proofs.PositionalWords
import Lexicon.Proofs.SymbolGrowth
import Lexicon.Proofs.DisjointVocabularies
import Lexicon.Proofs.SpellingSorts
import Lexicon.Proofs.CharacterBoundaries
import Lexicon.Proofs.SymbolRows
import Lexicon.Proofs.FaithfulRendering
import Lexicon.Proofs.KindClasses
import Lexicon.Proofs.NamedRendering
import Lexicon.Proofs.OutputOption
import Lexicon.Proofs.LogLevels
import Lexicon.Proofs.LastEntry
import Lexicon.Proofs.SectionLayout
import Lexicon.Proofs.DebugForm
import Lexicon.Proofs.RepeatedRun
import Lexicon.Proofs.ByteComparison
