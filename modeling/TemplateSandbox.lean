import TemplateSandbox.Session
import TemplateSandbox.Proofs.Migration
import TemplateSandbox.Proofs.CaseSymmetry
import TemplateSandbox.Proofs.Representation
import TemplateSandbox.Proofs.RuleSet
import TemplateSandbox.Proofs.Routes
import TemplateSandbox.Proofs.FaultKinds
import TemplateSandbox.Proofs.Locality
import TemplateSandbox.Proofs.Resolution
import TemplateSandbox.Proofs.Offenders
import TemplateSandbox.Proofs.Declaration
import TemplateSandbox.Proofs.StartUp
import TemplateSandbox.Proofs.Json.BlockedByType
import TemplateSandbox.Proofs.TypeNames
import TemplateSandbox.Proofs.Lineage
import TemplateSandbox.Proofs.Json.Names
