import GLDispatch.Main
import GLDispatch.Proofs.Excerpts
import GLDispatch.Proofs.Regions
import GLDispatch.Proofs.Text
import GLDispatch.Proofs.Extent
import GLDispatch.Proofs.Grammar
import GLDispatch.Proofs.Declarator
import GLDispatch.Proofs.EntryLine
import GLDispatch.Proofs.Case
import GLDispatch.Proofs.Layout
import GLDispatch.Proofs.Outline
import GLDispatch.Proofs.Pruning
import GLDispatch.Proofs.Merge
import GLDispatch.Proofs.Versions
import GLDispatch.Proofs.Parts
import GLDispatch.Proofs.Multiplicity
import GLDispatch.Proofs.LineStructure
import GLDispatch.Proofs.TrailingBlanks
import GLDispatch.Proofs.Utf8
import GLDispatch.Proofs.HeaderFile
import GLDispatch.Proofs.Captures
import GLDispatch.Proofs.FileSystem
import GLDispatch.Proofs.Spelling
import GLDispatch.Proofs.Output
import GLDispatch.Proofs.Verbosity
import GLDispatch.Proofs.Decomposition
import GLDispatch.Proofs.PointerDecomposition
import GLDispatch.Proofs.Rendering
import GLDispatch.Proofs.Enclosure
import GLDispatch.Proofs.Precedence
import GLDispatch.Proofs.Openings
import GLDispatch.Proofs.Semicolon
import GLDispatch.Proofs.Growth
import GLDispatch.Proofs.Nesting
import GLDispatch.Proofs.DerivedNames
import GLDispatch.Proofs.Repetition
import GLDispatch.Proofs.ArgumentList
import GLDispatch.Proofs.Forwarding
import GLDispatch.Proofs.Indentation
import GLDispatch.Proofs.Identifier
import GLDispatch.Proofs.ResultVariable
