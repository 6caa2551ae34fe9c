import PatchTrail.Main
import PatchTrail.Proofs.Command.Reporting
import PatchTrail.Proofs.Diff.Contexts
import PatchTrail.Proofs.Patcher.Asserting
import PatchTrail.Proofs.Patcher.Nesting
import PatchTrail.Proofs.Patcher.Replacing
import PatchTrail.Proofs.Resource.Denoting
import PatchTrail.Proofs.Resource.Documents
import PatchTrail.Proofs.Resource.Existing
import PatchTrail.Proofs.Resource.Extending
import PatchTrail.Proofs.Resource.ReadingBack
import PatchTrail.Proofs.Resource.Successor
import PatchTrail.Proofs.Run.Commutation
import PatchTrail.Proofs.Run.Containment
import PatchTrail.Proofs.Run.Defining
import PatchTrail.Proofs.Run.Editing
import PatchTrail.Proofs.Run.Flattening
import PatchTrail.Proofs.Run.Normalizing
import PatchTrail.Proofs.Run.Separation
import PatchTrail.Proofs.Run.Skipping
import PatchTrail.Proofs.Run.Telling
import PatchTrail.Proofs.Smali.Assigning
import PatchTrail.Proofs.Smali.Interleaving
import PatchTrail.Proofs.Template.Looping
import PatchTrail.Proofs.Text.Indenting
import PatchTrail.Proofs.Text.Leveling
