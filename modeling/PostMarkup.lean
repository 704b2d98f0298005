import PostMarkup.Files.Tree
import PostMarkup.Main
import PostMarkup.Proofs.Content.Grammar
import PostMarkup.Proofs.Content.Balance
import PostMarkup.Proofs.Content.Reading
import PostMarkup.Proofs.Content.Joining
import PostMarkup.Proofs.Expansion.Lexical
import PostMarkup.Proofs.Expansion.Termination
import PostMarkup.Proofs.Expansion.Limit
import PostMarkup.Proofs.Expansion.Placing
import PostMarkup.Proofs.Expansion.Runs
import PostMarkup.Proofs.Scan.Cuts
import PostMarkup.Proofs.Scan.Printing
import PostMarkup.Proofs.Scan.Repeated
import PostMarkup.Proofs.Page.Replacing
import PostMarkup.Proofs.Page.References
import PostMarkup.Proofs.Page.Keys
import PostMarkup.Proofs.Sections.Merging
import PostMarkup.Proofs.Sections.Validity
import PostMarkup.Proofs.Document.BlockOrder
import PostMarkup.Proofs.Sections.Batches
import PostMarkup.Proofs.Document.Strictness
import PostMarkup.Proofs.Slug.Naming
import PostMarkup.Proofs.Files.Growth
import PostMarkup.Proofs.Files.Following
import PostMarkup.Proofs.Command.Posting
import PostMarkup.Proofs.Expansion.MissingBinding
import PostMarkup.Proofs.Expansion.FaultPlaces
import PostMarkup.Proofs.Expansion.TooDeep
import PostMarkup.Proofs.Sections.Filling
import PostMarkup.Proofs.Assignments.Printing
import PostMarkup.Proofs.Expansion.Unused
import PostMarkup.Proofs.Expansion.Pieces
import PostMarkup.Proofs.Command.Switches
import PostMarkup.Proofs.Command.Delivery
import PostMarkup.Proofs.Slug.Stability
import PostMarkup.Proofs.Text.Collapsing
import PostMarkup.Proofs.Cursor.Replacing
