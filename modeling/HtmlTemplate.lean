import HtmlTemplate.Engine
import HtmlTemplate.Error.Details
import HtmlTemplate.Number.Arithmetic
import HtmlTemplate.Proofs.Lexing.Order
import HtmlTemplate.Source.Region
import HtmlTemplate.Proofs.Lexing.Words
import HtmlTemplate.Proofs.Grammar.Basic
import HtmlTemplate.Proofs.Grammar.Readers
import HtmlTemplate.Proofs.Grammar.Soundness
import HtmlTemplate.Proofs.Grammar.Completeness
import HtmlTemplate.Proofs.Grammar.Exact
import HtmlTemplate.Proofs.Rendering.Scopes
import HtmlTemplate.Proofs.Rendering.Escaping
import HtmlTemplate.Proofs.Rendering.ReadBack
import HtmlTemplate.Proofs.Rendering.Tags
import HtmlTemplate.Proofs.Rendering.Injection
import HtmlTemplate.Proofs.Printing.Basic
import HtmlTemplate.Proofs.Trees.Relocation
import HtmlTemplate.Proofs.Printing.Spelling
import HtmlTemplate.Proofs.Printing.Expressions
import HtmlTemplate.Proofs.Printing.Blocks
import HtmlTemplate.Proofs.Printing.TextLines
import HtmlTemplate.Proofs.Printing.Statements
import HtmlTemplate.Proofs.Printing.RoundTrip
import HtmlTemplate.Proofs.Rendering.Names
import HtmlTemplate.Proofs.Rendering.Blame
import HtmlTemplate.Proofs.Lexing.Places
import HtmlTemplate.Proofs.Grammar.Faults
import HtmlTemplate.Proofs.Grammar.Errors
import HtmlTemplate.Proofs.Lexing.Indents
import HtmlTemplate.Proofs.Lexing.Within
import HtmlTemplate.Proofs.Lexing.Concatenation
import HtmlTemplate.Proofs.Grammar.Relocation
import HtmlTemplate.Proofs.Rendering.Relocation
import HtmlTemplate.Proofs.Rendering.Concatenation
import HtmlTemplate.Proofs.Hosting.Frames
import HtmlTemplate.Proofs.Hosting.Engines
import HtmlTemplate.Proofs.Lexing.Offsets
import HtmlTemplate.Proofs.Lexing.LineEnds
import HtmlTemplate.Proofs.Lexing.Respacing
import HtmlTemplate.Proofs.Rendering.Respacing
import HtmlTemplate.Proofs.Numbers.Exactness
import HtmlTemplate.Proofs.Rendering.Loops
import HtmlTemplate.Proofs.Printing.UsableMarkers
import HtmlTemplate.Proofs.Grammar.Levels
import HtmlTemplate.Proofs.Lexing.Levels
import HtmlTemplate.Proofs.Chains.Blocks
import HtmlTemplate.Proofs.Chains.Openers
import HtmlTemplate.Proofs.Chains.Hosts
import HtmlTemplate.Proofs.Chains.Branches
import HtmlTemplate.Proofs.Chains.Chains
import HtmlTemplate.Proofs.Chains.FirstMatch
import HtmlTemplate.Proofs.Rendering.Entities
import HtmlTemplate.Proofs.Lexing.Escapes
import HtmlTemplate.Proofs.Lexing.States
import HtmlTemplate.Proofs.Lexing.Coverage
import HtmlTemplate.Proofs.Lexing.Layout
import HtmlTemplate.Proofs.Lexing.Structure
import HtmlTemplate.Proofs.Rendering.TextLines
import HtmlTemplate.Proofs.Lexing.Progress
import HtmlTemplate.Proofs.Grammar.Calls
import HtmlTemplate.Proofs.Grammar.Strings
import HtmlTemplate.Proofs.Rendering.Dictionaries
import HtmlTemplate.Proofs.Sources.Pointers
import HtmlTemplate.Proofs.Rendering.Renaming
import HtmlTemplate.Proofs.Sources.Regions
