import ProcessIntegrity.Verdict
import ProcessIntegrity.Binary64
import ProcessIntegrity.Text.Blank
import ProcessIntegrity.Text.Decimal
import ProcessIntegrity.Text.Lines
import ProcessIntegrity.Text.Quoted
import ProcessIntegrity.Duration.Spans
import ProcessIntegrity.Toml.Number
import ProcessIntegrity.Toml.DateTime
import ProcessIntegrity.Toml.Quoted
import ProcessIntegrity.Toml.Document
import ProcessIntegrity.IoFailure
import ProcessIntegrity.Log
import ProcessIntegrity.Settings.Load
import ProcessIntegrity.Settings.Override
import ProcessIntegrity.Probe.Enforcement
import ProcessIntegrity.Host.Scripted
import ProcessIntegrity.Host.Linux
import ProcessIntegrity.Host.Win32.Scripted
import ProcessIntegrity.Console.Run
import ProcessIntegrity.Console.Shown
import ProcessIntegrity.Console.Folder
import ProcessIntegrity.Main
import ProcessIntegrity.Proofs.Probe.FirstMatch
import ProcessIntegrity.Proofs.Probe.Wording
import ProcessIntegrity.Proofs.Probe.Boundary
import ProcessIntegrity.Proofs.Probe.Safe
import ProcessIntegrity.Proofs.Probe.FailOpen
import ProcessIntegrity.Proofs.Probe.Threshold
import ProcessIntegrity.Proofs.Probe.Precision
import ProcessIntegrity.Proofs.Probe.Ending
import ProcessIntegrity.Proofs.Host.WindowsAnswers
import ProcessIntegrity.Proofs.Host.LinuxSight
import ProcessIntegrity.Proofs.Settings.ExactThreshold
import ProcessIntegrity.Proofs.Probe.Enforcement
import ProcessIntegrity.Proofs.Probe.Chronicle
import ProcessIntegrity.Proofs.Host.ExceptionProbe
import ProcessIntegrity.Proofs.Duration.Spelling
import ProcessIntegrity.Proofs.Toml.Sound
import ProcessIntegrity.Proofs.Settings.Reachable
import ProcessIntegrity.Proofs.Settings.Crash
import ProcessIntegrity.Proofs.Toml.Limits
import ProcessIntegrity.Proofs.Settings.Agreement
import ProcessIntegrity.Proofs.Settings.Form
import ProcessIntegrity.Proofs.Settings.Contents
import ProcessIntegrity.Proofs.Settings.Parse
import ProcessIntegrity.Proofs.Settings.Overriding
import ProcessIntegrity.Proofs.Settings.Layers
import ProcessIntegrity.Proofs.Duration.Rendered
import ProcessIntegrity.Proofs.Console.OneLine
import ProcessIntegrity.Proofs.Console.ExitStatus
import ProcessIntegrity.Proofs.Settings.LoggedThreshold
import ProcessIntegrity.Proofs.Toml.Written
import ProcessIntegrity.Proofs.Toml.Layout
import ProcessIntegrity.Proofs.Settings.RoundTrip
import ProcessIntegrity.Proofs.Text.Lines
import ProcessIntegrity.Proofs.Text.Unsigned
import ProcessIntegrity.Proofs.Host.TracerLine
import ProcessIntegrity.Proofs.Settings.BuildThreshold
import ProcessIntegrity.Proofs.Settings.Respelled
