import KernelLink.Device.Hardware
import KernelLink.Main
import KernelLink.Proofs.Catalog.Behaviour
import KernelLink.Proofs.Catalog.Ends
import KernelLink.Proofs.CommandLine.Layers
import KernelLink.Proofs.Device.Intrinsics
import KernelLink.Proofs.Device.Layout
import KernelLink.Proofs.Device.Names
import KernelLink.Proofs.Device.Order
import KernelLink.Proofs.Device.Prototypes
import KernelLink.Proofs.Exec.Copies
import KernelLink.Proofs.LanguageVersion
import KernelLink.Proofs.Launch.Reference
import KernelLink.Proofs.Registry.History
import KernelLink.Proofs.Report.Saved
import KernelLink.Proofs.Scenario.Independence
import KernelLink.Proofs.Scenario.Records
import KernelLink.Proofs.Source.Arrangement
import KernelLink.Proofs.Source.Composition
import KernelLink.Proofs.Source.Lines
import KernelLink.Proofs.Source.Matching
import KernelLink.Proofs.Source.TypeSpelling
import KernelLink.Proofs.Source.WellFormed
import KernelLink.Proofs.Toolchain.Artifact
import KernelLink.Proofs.Toolchain.Template
import KernelLink.Proofs.Verify.Reference
