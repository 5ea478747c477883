import NativeBuild.Main
import NativeBuild.Plan.Json
import NativeBuild.Proofs.Conservation
import NativeBuild.Proofs.Escalation
import NativeBuild.Proofs.Failure
import NativeBuild.Proofs.Namespace
import NativeBuild.Proofs.Changes
import NativeBuild.Proofs.Objects
import NativeBuild.Proofs.Window
import NativeBuild.Proofs.Dependencies
import NativeBuild.Proofs.Values
import NativeBuild.Proofs.ReadBack
import NativeBuild.Proofs.Retracing
import NativeBuild.Proofs.Emission
import NativeBuild.Proofs.Rescanning
import NativeBuild.Proofs.Regeneration
import NativeBuild.Proofs.Reporting
import NativeBuild.Proofs.Lossless
import NativeBuild.Proofs.Independence
import NativeBuild.Proofs.Framing
import NativeBuild.Proofs.Containment
import NativeBuild.Proofs.Choices
import NativeBuild.Proofs.Eligible
import NativeBuild.Proofs.Resolution
import NativeBuild.Proofs.Asking
import NativeBuild.Proofs.Layout
import NativeBuild.Proofs.Respacing
import NativeBuild.Proofs.Remainder
import NativeBuild.Proofs.Tokens
import NativeBuild.Proofs.Absorbing
import NativeBuild.Proofs.Insertions
import NativeBuild.Proofs.Ending
