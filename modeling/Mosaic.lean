import Mosaic.Basic
import Mosaic.Command
import Mosaic.CommandLine.Arguments
import Mosaic.CommandLine.Program
import Mosaic.Double
import Mosaic.Failure
import Mosaic.Gallery
import Mosaic.Grammar
import Mosaic.Grid
import Mosaic.Machine
import Mosaic.Main
import Mosaic.Picture
import Mosaic.Proofs.Command.Description
import Mosaic.Proofs.Command.ReadError
import Mosaic.Proofs.Command.WireFormat
import Mosaic.Proofs.CommandLine.ColorStyle
import Mosaic.Proofs.CommandLine.Configuration
import Mosaic.Proofs.CommandLine.Delivery
import Mosaic.Proofs.CommandLine.Display
import Mosaic.Proofs.CommandLine.Listing
import Mosaic.Proofs.CommandLine.Prompts
import Mosaic.Proofs.CommandLine.Unreported
import Mosaic.Proofs.Conservation
import Mosaic.Proofs.Dialogue
import Mosaic.Proofs.Failure
import Mosaic.Proofs.Gallery
import Mosaic.Proofs.Grid.Arrays
import Mosaic.Proofs.Grid.Store
import Mosaic.Proofs.Machine.ColorCheck
import Mosaic.Proofs.Machine.Effect
import Mosaic.Proofs.Machine.History
import Mosaic.Proofs.Machine.LastPaint
import Mosaic.Proofs.Machine.LastWrite
import Mosaic.Proofs.Machine.Simulation
import Mosaic.Proofs.Machine.Streams
import Mosaic.Proofs.Numeral
import Mosaic.Proofs.Picture
import Mosaic.Proofs.Pipeline
import Mosaic.Proofs.Report
import Mosaic.Proofs.Session
import Mosaic.Proofs.Settings.EnvFile
import Mosaic.Proofs.Settings.Layer
import Mosaic.Proofs.Terminal.Table
import Mosaic.Proofs.Terminal.Typed
import Mosaic.Proofs.Terminal.Wrap
import Mosaic.Proofs.Text.Cluster
import Mosaic.Proofs.Text.Line
import Mosaic.Proofs.Text.Words
import Mosaic.Report
import Mosaic.Session
import Mosaic.Settings.Basic
import Mosaic.Settings.EnvFile
import Mosaic.Settings.Layer
import Mosaic.Terminal.Box
import Mosaic.Terminal.Wrap
import Mosaic.Text.Basic
import Mosaic.Text.Cluster
import Mosaic.Text.Utf8
import Mosaic.Value
