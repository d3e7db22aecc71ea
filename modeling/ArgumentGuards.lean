import ArgumentGuards.Main
import ArgumentGuards.Proofs.LoweredTwice
import ArgumentGuards.Proofs.Transitions
import ArgumentGuards.Proofs.WorkerResults
import ArgumentGuards.Proofs.WriteOnce
import ArgumentGuards.Proofs.Scoping
import ArgumentGuards.Proofs.FirstAbsent
import ArgumentGuards.Proofs.StringHash
import ArgumentGuards.Proofs.WorkersStop
import ArgumentGuards.Proofs.TransitionRuns
import ArgumentGuards.Proofs.Shown
import ArgumentGuards.Proofs.Reading
import ArgumentGuards.Proofs.Layouts
import ArgumentGuards.Proofs.Scanning
import ArgumentGuards.Proofs.ReadBack
import ArgumentGuards.Proofs.FirstAndLast
import ArgumentGuards.Proofs.Extensions
import ArgumentGuards.Proofs.Overwriting
import ArgumentGuards.Proofs.Triggered
import ArgumentGuards.Proofs.Erasure
import ArgumentGuards.Proofs.Conversion
import ArgumentGuards.Proofs.Words
import ArgumentGuards.Proofs.Unambiguous
import ArgumentGuards.Proofs.Declarations
import ArgumentGuards.Proofs.Rejected
import ArgumentGuards.Proofs.Plans
