import SourceAtlas.Main
import SourceAtlas.Proofs.Architecture.Dominance
import SourceAtlas.Proofs.Comment.Alignment
import SourceAtlas.Proofs.Comment.Moves
import SourceAtlas.Proofs.Comment.Seam
import SourceAtlas.Proofs.Comment.Segments
import SourceAtlas.Proofs.Comment.Stripping
import SourceAtlas.Proofs.Comment.Strokes
import SourceAtlas.Proofs.Comment.Termination
import SourceAtlas.Proofs.Extract.Braces
import SourceAtlas.Proofs.Extract.Concatenation
import SourceAtlas.Proofs.Extract.Contributions
import SourceAtlas.Proofs.Extract.Imports
import SourceAtlas.Proofs.Extract.Matching
import SourceAtlas.Proofs.Extract.Reader
import SourceAtlas.Proofs.Files.Filter
import SourceAtlas.Proofs.Files.Name
import SourceAtlas.Proofs.Files.Walk
import SourceAtlas.Proofs.Graph.Queries
import SourceAtlas.Proofs.Graph.Reachability
import SourceAtlas.Proofs.Ignore.Additions
import SourceAtlas.Proofs.Language.Detection
import SourceAtlas.Proofs.Model.Aggregates
import SourceAtlas.Proofs.Model.Dependencies
import SourceAtlas.Proofs.Model.Packages
import SourceAtlas.Proofs.Model.Records
import SourceAtlas.Proofs.Path.Joining
import SourceAtlas.Proofs.Path.Segments
import SourceAtlas.Proofs.Pattern.Known
import SourceAtlas.Proofs.Pattern.Reach
import SourceAtlas.Proofs.Purpose.Directories
import SourceAtlas.Proofs.Purpose.Signals
import SourceAtlas.Proofs.Purpose.Words
import SourceAtlas.Proofs.Resolve.Crate
import SourceAtlas.Proofs.Resolve.Directive
import SourceAtlas.Proofs.Resolve.Membership
import SourceAtlas.Proofs.Resolve.Namespace
import SourceAtlas.Proofs.Resolve.Package
import SourceAtlas.Proofs.Resolve.Relative
import SourceAtlas.Proofs.Resolve.Sources
import SourceAtlas.Proofs.Resolve.Variation
import SourceAtlas.Proofs.Scan.Account
import SourceAtlas.Proofs.Scan.Interleaving
import SourceAtlas.Proofs.Scan.Workers
import SourceAtlas.Proofs.Sorting
import SourceAtlas.Proofs.Summary.Endpoint
import SourceAtlas.Proofs.Summary.Fallback
import SourceAtlas.Proofs.Summary.Quotation
import SourceAtlas.Proofs.Summary.Reply
import SourceAtlas.Proofs.Text.Blank
import SourceAtlas.Proofs.Text.Boundary
import SourceAtlas.Proofs.Text.Cut
import SourceAtlas.Proofs.Text.Letters
import SourceAtlas.Proofs.Text.Utf8
