import LidarSieve.Command.FileTree
import LidarSieve.Interchange
import LidarSieve.Main
import LidarSieve.Proofs.Bounds
import LidarSieve.Proofs.History
import LidarSieve.Proofs.Interleaving
import LidarSieve.Proofs.Separation
import LidarSieve.Proofs.Packing
import LidarSieve.Proofs.Motion
import LidarSieve.Proofs.Representation
import LidarSieve.Proofs.Influence
import LidarSieve.Proofs.Segmentation
import LidarSieve.Proofs.Access
import LidarSieve.Proofs.Documents
import LidarSieve.Proofs.Precedence
import LidarSieve.Proofs.Decimals
import LidarSieve.Proofs.Numerals
import LidarSieve.Proofs.Spelling
import LidarSieve.Proofs.Quoting
import LidarSieve.Proofs.Blocks
import LidarSieve.Proofs.Keeping
import LidarSieve.Proofs.Trees
import LidarSieve.Proofs.Course
import LidarSieve.Proofs.Publication
import LidarSieve.Proofs.Order
import LidarSieve.Proofs.Cells
import LidarSieve.Proofs.Neighbours
import LidarSieve.Proofs.Opening
import LidarSieve.Proofs.Overriding
import LidarSieve.Proofs.Occupancy
import LidarSieve.Proofs.Unplaced
import LidarSieve.Proofs.Collecting
import LidarSieve.Proofs.Fields
import LidarSieve.Proofs.Loosening
import LidarSieve.Proofs.Coarsening
import LidarSieve.Proofs.Turning
import LidarSieve.Proofs.Boxes
import LidarSieve.Proofs.Dumps
import LidarSieve.Proofs.Spacing
import LidarSieve.Proofs.Sectors
import LidarSieve.Proofs.Shown
import LidarSieve.Proofs.Validity
import LidarSieve.Proofs.Differences
import LidarSieve.Proofs.Reporting
import LidarSieve.Proofs.Accuracy
import LidarSieve.Proofs.Columns
import LidarSieve.Proofs.Shares
import LidarSieve.Proofs.Lengths
import LidarSieve.Proofs.Rotations
import LidarSieve.Proofs.ClosedWalks
import LidarSieve.Proofs.Images
