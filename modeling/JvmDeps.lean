import JvmDeps.Archive.Bzip2
import JvmDeps.Archive.Bzip2.Scrambling
import JvmDeps.Archive.Crc32
import JvmDeps.Archive.Deflate
import JvmDeps.Archive.Directory
import JvmDeps.Archive.Lzma
import JvmDeps.Archive.PrefixCode
import JvmDeps.Bytes.ModifiedUtf8
import JvmDeps.Bytes.Parser
import JvmDeps.ClassDecl
import JvmDeps.ClassFile.Annotations
import JvmDeps.ClassFile.Constant
import JvmDeps.ClassFile.Declaration
import JvmDeps.ClassFile.Layout
import JvmDeps.ClassFile.Pool
import JvmDeps.Data.Binary64
import JvmDeps.Data.OrderedMap
import JvmDeps.Data.RawValue
import JvmDeps.Data.Rounding
import JvmDeps.Data.SortedSet
import JvmDeps.Dependency.Analysis
import JvmDeps.Dependency.Batch
import JvmDeps.Dependency.Category
import JvmDeps.Dependency.Extraction
import JvmDeps.Dependency.Table
import JvmDeps.Descriptor.Basic
import JvmDeps.Descriptor.Parser
import JvmDeps.Fault
import JvmDeps.Files.Path
import JvmDeps.Files.Tree
import JvmDeps.Lease.Script
import JvmDeps.Lease.Table
import JvmDeps.Name
import JvmDeps.Printing.CellTable
import JvmDeps.Printing.Cells
import JvmDeps.Printing.Emoji
import JvmDeps.Printing.EmojiTable
import JvmDeps.Printing.Layout
import JvmDeps.Printing.Literal
import JvmDeps.Printing.Literal.Token
import JvmDeps.Printing.Markup
import JvmDeps.Printing.Palette
import JvmDeps.Printing.Standard
import JvmDeps.Printing.Style
import JvmDeps.Printing.StyledText
import JvmDeps.Printing.Theme
import JvmDeps.Printing.Wrapping
import JvmDeps.Report.Json
import JvmDeps.Report.Printer
import JvmDeps.Report.Reporter
import JvmDeps.Report.Terminal
import JvmDeps.Repository.Basic
import JvmDeps.Repository.Extraction
import JvmDeps.SearchPath
import JvmDeps.Session
import JvmDeps.Settings
import JvmDeps.Text.Blank
import JvmDeps.Text.Cased
import JvmDeps.Text.LowerCase
import JvmDeps.Text.Printable
import JvmDeps.Text.Quoted
import JvmDeps.Text.Ranges
import JvmDeps.Text.Split
import JvmDeps.Text.WordChar
import JvmDeps.Proofs.Bytes.Accepting
import JvmDeps.Proofs.Bytes.LenientUtf8
import JvmDeps.Proofs.Bytes.ModifiedUtf8
import JvmDeps.Proofs.Bytes.Passes
import JvmDeps.Proofs.Bytes.Reading
import JvmDeps.Proofs.Bytes.TextUnits
import JvmDeps.Proofs.ClassFile.Acceptance
import JvmDeps.Proofs.ClassFile.Annotations
import JvmDeps.Proofs.ClassFile.Blueprint
import JvmDeps.Proofs.ClassFile.Cursor
import JvmDeps.Proofs.ClassFile.ErrorClosure
import JvmDeps.Proofs.ClassFile.Indexing
import JvmDeps.Proofs.ClassFile.Nesting
import JvmDeps.Proofs.ClassFile.Pool
import JvmDeps.Proofs.ClassFile.PrefixFree
import JvmDeps.Proofs.ClassFile.RoundTrip
import JvmDeps.Proofs.ClassFile.Skipping
import JvmDeps.Proofs.ClassFile.Tables
import JvmDeps.Proofs.ClassFile.Writing
import JvmDeps.Proofs.Data.OrderedMap
import JvmDeps.Proofs.Data.Outcome
import JvmDeps.Proofs.Data.Paired
import JvmDeps.Proofs.Dependency.EndToEnd
import JvmDeps.Proofs.Dependency.Extraction
import JvmDeps.Proofs.Dependency.Failures
import JvmDeps.Proofs.Dependency.Members
import JvmDeps.Proofs.Dependency.References
import JvmDeps.Proofs.Dependency.Semilattice
import JvmDeps.Proofs.Dependency.Survey
import JvmDeps.Proofs.Dependency.Union
import JvmDeps.Proofs.Descriptor.Diagnostics
import JvmDeps.Proofs.Descriptor.Grammar
import JvmDeps.Proofs.Lease.Freshness
import JvmDeps.Proofs.Lease.Interleaving
import JvmDeps.Proofs.Lease.Restoring
import JvmDeps.Proofs.Lease.Script
import JvmDeps.Proofs.Printing.Breaking
import JvmDeps.Proofs.Printing.Cells
import JvmDeps.Proofs.Printing.Columns
import JvmDeps.Proofs.Printing.PlainMarkup
import JvmDeps.Proofs.Printing.Standard
import JvmDeps.Proofs.Printing.Tags
import JvmDeps.Proofs.Report.JsonText
import JvmDeps.Proofs.Report.Laws
import JvmDeps.Proofs.Report.Listing
import JvmDeps.Proofs.Repository.Agreement
import JvmDeps.Proofs.Repository.Confinement
import JvmDeps.Proofs.Repository.Edges
import JvmDeps.Proofs.Repository.Entries
import JvmDeps.Proofs.Repository.Finding
import JvmDeps.Proofs.Repository.FirstPlace
import JvmDeps.Proofs.Repository.History
import JvmDeps.Proofs.Repository.Interchange
import JvmDeps.Proofs.Repository.Isolation
import JvmDeps.Proofs.Repository.Leasing
import JvmDeps.Proofs.Repository.Programs
import JvmDeps.Proofs.Repository.Schedule
import JvmDeps.Proofs.Repository.Sharing
import JvmDeps.Proofs.Text.Ink
