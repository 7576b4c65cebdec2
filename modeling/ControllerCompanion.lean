import ControllerCompanion.Declaration.Decoding
import ControllerCompanion.Main
import ControllerCompanion.Proofs.Configuration
import ControllerCompanion.Proofs.Controller.Faults
import ControllerCompanion.Proofs.FirstCome
import ControllerCompanion.Proofs.Generator.Actions
import ControllerCompanion.Proofs.Generator.Capture
import ControllerCompanion.Proofs.Generator.ClassNames
import ControllerCompanion.Proofs.Generator.DeclaredNames
import ControllerCompanion.Proofs.Generator.Documents
import ControllerCompanion.Proofs.Generator.Metadata
import ControllerCompanion.Proofs.Generator.Passes
import ControllerCompanion.Proofs.Generator.Redeclared
import ControllerCompanion.Proofs.Generator.Rescans
import ControllerCompanion.Proofs.Locator.Scan
import ControllerCompanion.Proofs.Project.Containment
import ControllerCompanion.Proofs.Sanitizing
import ControllerCompanion.Proofs.TypeRef.RoundTrip
import ControllerCompanion.Proofs.TypeRef.Stops
import ControllerCompanion.Proofs.TypeRef.Wrappers
import ControllerCompanion.Proofs.ViewTree
import ControllerCompanion.Proofs.ViewsClass.Accounting
import ControllerCompanion.Proofs.ViewsClass.Collisions
import ControllerCompanion.Proofs.ViewsClass.Interleaving
import ControllerCompanion.Proofs.ViewsClass.Listing
import ControllerCompanion.Proofs.ViewsClass.WellFormed
