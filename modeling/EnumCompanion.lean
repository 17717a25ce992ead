import EnumCompanion.Attribute
import EnumCompanion.Build
import EnumCompanion.Build.Directory
import EnumCompanion.Build.Locate
import EnumCompanion.Build.Recorder
import EnumCompanion.Build.Report
import EnumCompanion.Build.Visit
import EnumCompanion.Build.World
import EnumCompanion.Companion.Code
import EnumCompanion.Companion.Text
import EnumCompanion.Declaration
import EnumCompanion.Declaration.Companion
import EnumCompanion.Defect
import EnumCompanion.Expansion
import EnumCompanion.Expansion.Fault
import EnumCompanion.Expansion.Options
import EnumCompanion.FilePath
import EnumCompanion.FileTree
import EnumCompanion.FileTree.Change
import EnumCompanion.Grammar
import EnumCompanion.Grammar.Ahead
import EnumCompanion.Grammar.Attribute
import EnumCompanion.Grammar.Expression
import EnumCompanion.Grammar.Function
import EnumCompanion.Grammar.Generics
import EnumCompanion.Grammar.Item
import EnumCompanion.Grammar.Member
import EnumCompanion.Grammar.Operator
import EnumCompanion.Grammar.Parameter
import EnumCompanion.Grammar.Path
import EnumCompanion.Grammar.Pattern
import EnumCompanion.Grammar.Rule
import EnumCompanion.Grammar.Statement
import EnumCompanion.Grammar.Tree
import EnumCompanion.Grammar.Type
import EnumCompanion.Ident
import EnumCompanion.Item
import EnumCompanion.ModulePath
import EnumCompanion.Name
import EnumCompanion.Page
import EnumCompanion.Path
import EnumCompanion.Proofs.Build.Preorder
import EnumCompanion.Roster
import EnumCompanion.Roster.Planet
import EnumCompanion.Roster.Shift
import EnumCompanion.Roster.Weekday
import EnumCompanion.Scan
import EnumCompanion.SourceText
import EnumCompanion.Summary
import EnumCompanion.Summary.Document
import EnumCompanion.Text.Blank
import EnumCompanion.Text.Canonical
import EnumCompanion.Text.CodeSet
import EnumCompanion.Text.Cut
import EnumCompanion.Text.LetterCase
import EnumCompanion.Text.Letters
import EnumCompanion.Text.Occurs
import EnumCompanion.Text.Printable
import EnumCompanion.Text.Quoted
import EnumCompanion.Token
import EnumCompanion.Token.Lexer
import EnumCompanion.Token.Literal
import EnumCompanion.Token.Number
import EnumCompanion.Token.Spelled
import EnumCompanion.Companion.Meaning
import EnumCompanion.Proofs.Name.Fresh
import EnumCompanion.Proofs.Text.Canonical
import EnumCompanion.Proofs.Name.Letters
import EnumCompanion.Proofs.Name.Identifiers
import EnumCompanion.Proofs.Summary.Defect
import EnumCompanion.Proofs.Companion.Meaning
import EnumCompanion.Proofs.Companion.Layout
import EnumCompanion.Proofs.Companion.Readback
import EnumCompanion.Proofs.Token.LiteralEnd
import EnumCompanion.Proofs.Token.NumberEnd
import EnumCompanion.Proofs.Token.Clean
import EnumCompanion.Proofs.Token.Lexeme
import EnumCompanion.Proofs.Token.Respaced
import EnumCompanion.Proofs.Grammar.Sound
import EnumCompanion.Proofs.Grammar.Types
import EnumCompanion.Proofs.Grammar.Expressions
import EnumCompanion.Proofs.Grammar.Items
import EnumCompanion.Proofs.Text.Escape
import EnumCompanion.Proofs.Token.Lexed
import EnumCompanion.Proofs.SourceText
import EnumCompanion.Proofs.Build.Account
import EnumCompanion.Proofs.Build.ModuleGraph
import EnumCompanion.Proofs.Build.Cycles
import EnumCompanion.Proofs.Build.Placement
import EnumCompanion.Proofs.Item
import EnumCompanion.Proofs.Expansion.Scanned
import EnumCompanion.Proofs.FileTree.Growth
import EnumCompanion.Proofs.FileTree.Directories
import EnumCompanion.Proofs.FileTree.Shape
import EnumCompanion.Proofs.Build.Confinement
import EnumCompanion.Proofs.Companion.Locals
import EnumCompanion.Proofs.Declaration.Complete
import EnumCompanion.Proofs.Declaration.Respelled
import EnumCompanion.Proofs.Companion.Members
import EnumCompanion.Proofs.Build.Lockstep
import EnumCompanion.Proofs.Build.Isolation
import EnumCompanion.Proofs.Build.Rerun
import EnumCompanion.Proofs.Token.Whole
import EnumCompanion.Proofs.Name.Visible
import EnumCompanion.Proofs.Companion.Whole
import EnumCompanion.Proofs.Grammar.Running
import EnumCompanion.Proofs.Companion.Items
import EnumCompanion.Proofs.Expansion.Settled
import EnumCompanion.Proofs.Declaration.Moved
import EnumCompanion.Proofs.Scan.Places
import EnumCompanion.Proofs.Scan.Stacks
import EnumCompanion.Proofs.Declaration.Exact
import EnumCompanion.Proofs.Companion.Compose
import EnumCompanion.Proofs.Summary.Validation
import EnumCompanion.Proofs.Text.Lines
import EnumCompanion.Proofs.Text.Nesting
import EnumCompanion.Proofs.Text.Groups
import EnumCompanion.Proofs.Companion.Lines
import EnumCompanion.Proofs.Companion.Tidy
import EnumCompanion.Proofs.Companion.Constants
import EnumCompanion.Proofs.Companion.LaidOut
import EnumCompanion.Proofs.Token.Symbols
import EnumCompanion.Proofs.Summary.Forms
import EnumCompanion.Proofs.Build.Emission
import EnumCompanion.Proofs.Expansion.Arguments
import EnumCompanion.Proofs.Companion.Repeated
import EnumCompanion.Proofs.Page.History
import EnumCompanion.Proofs.Name.Search
