import BytePattern.CommandLine.Run
import BytePattern.HandleTable
import BytePattern.Main
import BytePattern.Pattern.Occurrence
import BytePattern.Proofs.Pattern.Searching
import BytePattern.Proofs.Scan.Ascending
import BytePattern.Proofs.Scan.MatchAddress
import BytePattern.Proofs.Scan.Chunking
import BytePattern.Proofs.Scan.Cutting
import BytePattern.Proofs.Scan.Disjoint
import BytePattern.Proofs.Scan.Scanning
import BytePattern.Proofs.Scan.Total
import BytePattern.Proofs.Signature.Resolving
import BytePattern.Proofs.Region.Holding
import BytePattern.Proofs.Scan.FirstMatch
import BytePattern.Proofs.Signature.Generating
import BytePattern.Proofs.Expression.Reading
import BytePattern.Proofs.Pattern.Driving
import BytePattern.Proofs.Pattern.Halting
import BytePattern.Proofs.Pattern.Words
import BytePattern.Proofs.Pattern.Compiling
import BytePattern.Proofs.Pattern.Canonical
import BytePattern.Proofs.Signature.Generated
import BytePattern.Proofs.Signature.Reordering
import BytePattern.Proofs.Handle.History
import BytePattern.Proofs.Image.Loading
import BytePattern.Proofs.Pattern.Shifting
import BytePattern.Proofs.Pattern.Equality
import BytePattern.Proofs.Pattern.Masking
import BytePattern.Proofs.Pattern.Underlining
import BytePattern.Proofs.Report.Listing
import BytePattern.Proofs.Text.Address
import BytePattern.Proofs.Expression.Ending
import BytePattern.Proofs.Expression.Padding
import BytePattern.Proofs.Expression.Meaning
import BytePattern.Proofs.Expression.Faults
import BytePattern.Proofs.Json.Restoring
