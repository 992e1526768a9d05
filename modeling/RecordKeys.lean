import RecordKeys.Declaration.Expansion
import RecordKeys.Proofs.Declaration.Fields
import RecordKeys.Proofs.Declaration.Joining
import RecordKeys.Proofs.Declaration.Markers
import RecordKeys.Proofs.Declaration.Report
import RecordKeys.Proofs.Declaration.Respelling
import RecordKeys.Proofs.Declaration.Types
import RecordKeys.Proofs.Declaration.Variants
import RecordKeys.Proofs.KeyMap.Agreement
import RecordKeys.Proofs.KeyMap.Ascii
import RecordKeys.Proofs.KeyMap.Bases
import RecordKeys.Proofs.KeyMap.Casings
import RecordKeys.Proofs.KeyMap.Faults
import RecordKeys.Proofs.KeyMap.Flattening
import RecordKeys.Proofs.KeyMap.Places
import RecordKeys.Proofs.KeyMap.Spelling
import RecordKeys.Proofs.KeyMap.Uniform
import RecordKeys.Proofs.Layout.Listing
import RecordKeys.Proofs.Name.Normal
import RecordKeys.Proofs.Name.Order
import RecordKeys.Proofs.Registry.Chronicle
import RecordKeys.Proofs.Registry.Convergence
import RecordKeys.Proofs.Registry.Growth
import RecordKeys.Proofs.Registry.Reached
import RecordKeys.Proofs.Registry.Transparency
import RecordKeys.Proofs.View.Enumerating
import RecordKeys.Proofs.View.History
import RecordKeys.Proofs.View.Keeping
import RecordKeys.Proofs.View.Kinds
import RecordKeys.Proofs.View.Naming
import RecordKeys.Proofs.View.Offering
import RecordKeys.Proofs.View.Opening
import RecordKeys.Proofs.View.Sides
import RecordKeys.Proofs.View.Writing
import RecordKeys.View.Overflow
import RecordKeys.View.Variant
