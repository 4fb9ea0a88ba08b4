import AbiProbe.Main
import AbiProbe.Probe.WorkDir
import AbiProbe.Proofs.Bindings.Insertion
import AbiProbe.Proofs.Bindings.Generation
import AbiProbe.Proofs.Bindings.Reading
import AbiProbe.Proofs.Bindings.Scope
import AbiProbe.Proofs.Bindings.Agreement
import AbiProbe.Proofs.Probe.Inclusion
import AbiProbe.Proofs.Probe.Layout
import AbiProbe.Proofs.Probe.Operation
import AbiProbe.Proofs.Probe.Trial
import AbiProbe.Proofs.Probe.FailStop
import AbiProbe.Proofs.Config.Layers
import AbiProbe.Proofs.Probe.Scratch
import AbiProbe.Proofs.FileTree
import AbiProbe.Proofs.Text.Line
import AbiProbe.Proofs.FirstOccurrence
import AbiProbe.Proofs.Header
import AbiProbe.Proofs.CommandLine.Grammar
import AbiProbe.Proofs.CommandLine.Settling
import AbiProbe.Proofs.CommandLine.Scan
import AbiProbe.Proofs.CommandLine.Requests
import AbiProbe.Proofs.CommandLine.Writing
import AbiProbe.Proofs.CommandLine.RoundTrip
import AbiProbe.Proofs.CommandLine.Run
import AbiProbe.Proofs.CommandLine.Logging
import AbiProbe.Proofs.Json.Written
import AbiProbe.Proofs.Json.Token
import AbiProbe.Proofs.Json.Spelling
import AbiProbe.Proofs.Json.Reading
import AbiProbe.Proofs.TypeLayout.Json
import AbiProbe.Proofs.Probe.Refusal
import AbiProbe.Proofs.CommandLine.Layouts
import AbiProbe.Proofs.CommandLine.Delivery
import AbiProbe.Proofs.Text.Numeral
import AbiProbe.Proofs.Text.Blank
import AbiProbe.Proofs.Text.Utf8
import AbiProbe.Proofs.Probe.Printed
import AbiProbe.Proofs.Json.Refusal
import AbiProbe.Proofs.Config.Json
import AbiProbe.Proofs.Json.Document
import AbiProbe.Proofs.Bindings.Json
import AbiProbe.Proofs.Probe.Source
import AbiProbe.Proofs.Probe.Verdict
import AbiProbe.Proofs.Probe.Tolerance
import AbiProbe.Proofs.Bindings.Lines
import AbiProbe.Proofs.Bindings.History
import AbiProbe.Proofs.Config.Settings
import AbiProbe.Proofs.Text.Quoted
import AbiProbe.Proofs.Toolchain.Output
import AbiProbe.Proofs.Probe.Diagnostic
import AbiProbe.Proofs.Bindings.Naming
import AbiProbe.Proofs.TypeLayout.Table
