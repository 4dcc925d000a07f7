import AnalyzerBoot.Address
import AnalyzerBoot.Arguments.Grammar
import AnalyzerBoot.Arguments.Help
import AnalyzerBoot.Arguments.Reader
import AnalyzerBoot.Chip
import AnalyzerBoot.Config
import AnalyzerBoot.Config.File
import AnalyzerBoot.Discovery
import AnalyzerBoot.Driver
import AnalyzerBoot.Error
import AnalyzerBoot.Event.Basic
import AnalyzerBoot.Event.Log
import AnalyzerBoot.ExitStatus
import AnalyzerBoot.Files.Tree
import AnalyzerBoot.Firmware.Directories
import AnalyzerBoot.Firmware.Memory
import AnalyzerBoot.Host
import AnalyzerBoot.Image.Reader
import AnalyzerBoot.Image.Segment
import AnalyzerBoot.Image.Summary
import AnalyzerBoot.Instant
import AnalyzerBoot.Inventory
import AnalyzerBoot.Main
import AnalyzerBoot.Profile
import AnalyzerBoot.ProjectTask
import AnalyzerBoot.Proofs.Discovery.Firmware
import AnalyzerBoot.Proofs.Discovery.Isolation
import AnalyzerBoot.Proofs.Driver.Session
import AnalyzerBoot.Proofs.Host.Contract
import AnalyzerBoot.Proofs.Image.Grammar
import AnalyzerBoot.Proofs.Record.Soundness
import AnalyzerBoot.Proofs.Setting.Acceptance
import AnalyzerBoot.Proofs.Upload.Carrying
import AnalyzerBoot.Proofs.Upload.Slicing
import AnalyzerBoot.Proofs.Upload.Streaming
import AnalyzerBoot.Proofs.Usb.Conduct
import AnalyzerBoot.Proofs.Usb.Delivery
import AnalyzerBoot.Proofs.Usb.Handles
import AnalyzerBoot.Proofs.Usb.Opening
import AnalyzerBoot.Record
import AnalyzerBoot.Renumeration
import AnalyzerBoot.Retry
import AnalyzerBoot.Setting.Device
import AnalyzerBoot.Setting.Key
import AnalyzerBoot.Setting.Value
import AnalyzerBoot.Text.Digits
import AnalyzerBoot.Text.Layout
import AnalyzerBoot.Text.Quoted
import AnalyzerBoot.Text.Utf8
import AnalyzerBoot.Text.Visible
import AnalyzerBoot.Toml.Quoting
import AnalyzerBoot.Toml.Reader
import AnalyzerBoot.Toml.Scalar
import AnalyzerBoot.Toml.Scalar.Lemmas
import AnalyzerBoot.Toml.Space
import AnalyzerBoot.Toml.Value
import AnalyzerBoot.Toml.Writer
import AnalyzerBoot.Tool.Report
import AnalyzerBoot.Tool.Request
import AnalyzerBoot.Tool.Response
import AnalyzerBoot.Upload.Chunk
import AnalyzerBoot.Upload.Plan
import AnalyzerBoot.Upload.Slice
import AnalyzerBoot.Upload.Transmission
import AnalyzerBoot.Usb.Bus
import AnalyzerBoot.Usb.Candidate
import AnalyzerBoot.Usb.Error
import AnalyzerBoot.Usb.Faulty
import AnalyzerBoot.Usb.Filter
import AnalyzerBoot.Usb.Simulated
import AnalyzerBoot.Word
import AnalyzerBoot.Proofs.Driver.Lifecycle
import AnalyzerBoot.Proofs.Discovery.Decision
import AnalyzerBoot.Proofs.Driver.Acquiring
import AnalyzerBoot.Proofs.Driver.Renumeration
import AnalyzerBoot.Proofs.Image.Truncation
import AnalyzerBoot.Proofs.Upload.Planning
import AnalyzerBoot.Upload.Memory
import AnalyzerBoot.Proofs.Upload.Loading
import AnalyzerBoot.Proofs.Upload.Forecast
import AnalyzerBoot.Proofs.Config.Saving
import AnalyzerBoot.Proofs.Steps
import AnalyzerBoot.Proofs.Image.Accounting
import AnalyzerBoot.Proofs.Image.Checksum
import AnalyzerBoot.Proofs.Upload.Tiling
import AnalyzerBoot.Proofs.Driver.Attempts
import AnalyzerBoot.Proofs.Driver.Claiming
import AnalyzerBoot.Proofs.Retry.Rounds
import AnalyzerBoot.Proofs.Retry.Waiting
import AnalyzerBoot.Proofs.Driver.Stages
import AnalyzerBoot.Proofs.Driver.Frames
import AnalyzerBoot.Proofs.Text.Numerals
import AnalyzerBoot.Proofs.Usb.Filtering
import AnalyzerBoot.Proofs.Firmware.Lookup
import AnalyzerBoot.Proofs.Setting.Cells
import AnalyzerBoot.Proofs.Discovery.PlainImages
import AnalyzerBoot.Proofs.Discovery.PlainUploads
import AnalyzerBoot.Proofs.Toml.Integers
import AnalyzerBoot.Proofs.Arguments.Options
import AnalyzerBoot.Proofs.Config.Loading
import AnalyzerBoot.Proofs.Tool.Saving
import AnalyzerBoot.Proofs.Address.Splitting
import AnalyzerBoot.Proofs.Usb.Operations
import AnalyzerBoot.Proofs.Usb.Arrivals
