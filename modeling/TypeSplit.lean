import TypeSplit.CommandLine.Terminal
import TypeSplit.Main
import TypeSplit.Run.Journal
import TypeSplit.Proofs.Block
import TypeSplit.Proofs.Grammar
import TypeSplit.Proofs.Carving
import TypeSplit.Proofs.Ownership
import TypeSplit.Proofs.Coverage
import TypeSplit.Proofs.FileName
import TypeSplit.Proofs.Grouping
import TypeSplit.Proofs.Overwriting
import TypeSplit.Proofs.RoundTrip
import TypeSplit.Proofs.Warning
import TypeSplit.Proofs.Exclusion
import TypeSplit.Proofs.Delivery
import TypeSplit.Proofs.DryRun
import TypeSplit.Proofs.Accounting
import TypeSplit.Proofs.LineExtent
import TypeSplit.Proofs.Exposure
import TypeSplit.Proofs.LineEnding
import TypeSplit.Proofs.Appending
import TypeSplit.Proofs.Reopening
import TypeSplit.Proofs.Filling
import TypeSplit.Proofs.Refusal
import TypeSplit.Proofs.PartSeparation
import TypeSplit.Proofs.Usable
import TypeSplit.Proofs.Trial
import TypeSplit.Proofs.Selection
import TypeSplit.Proofs.Decoding
import TypeSplit.Proofs.Inspection
import TypeSplit.Proofs.Succession
import TypeSplit.Proofs.Excerpt
import TypeSplit.Proofs.Balance
import TypeSplit.Proofs.Rereading
import TypeSplit.Proofs.Closing
import TypeSplit.Proofs.Dealing
import TypeSplit.Proofs.Collision
import TypeSplit.Proofs.MemberGrammar
import TypeSplit.Proofs.Indentation
import TypeSplit.Proofs.TypeGrammar
import TypeSplit.Proofs.PlainScan
import TypeSplit.Proofs.Retrieval
import TypeSplit.Proofs.LeadingLines
import TypeSplit.Proofs.LineTable
