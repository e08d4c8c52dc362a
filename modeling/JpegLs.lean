import JpegLs.Bytes
import JpegLs.Codec.Basic
import JpegLs.Codec.Loopback
import JpegLs.Command.Arguments
import JpegLs.Command.FileStore
import JpegLs.Command.Run
import JpegLs.Container
import JpegLs.Error
import JpegLs.Frame
import JpegLs.Host.Color
import JpegLs.Host.Error
import JpegLs.Host.Format
import JpegLs.Host.Open
import JpegLs.Host.Reader
import JpegLs.Host.Writer
import JpegLs.Interleave
import JpegLs.Main
import JpegLs.Metadata
import JpegLs.Native.Export
import JpegLs.Native.Library
import JpegLs.Native.Locate
import JpegLs.Native.Script
import JpegLs.Native.Trace
import JpegLs.Pixels.Buffer
import JpegLs.Pixels.Scan
import JpegLs.Pixels.Transpose
import JpegLs.Pnm.Fault
import JpegLs.Pnm.Header
import JpegLs.Pnm.Library
import JpegLs.Pnm.Raster
import JpegLs.Session.Allocation
import JpegLs.Session.Command
import JpegLs.Session.Decode
import JpegLs.Session.Encode
import JpegLs.Session.Run
import JpegLs.Spiff.Fields
import JpegLs.Spiff.Header
import JpegLs.Status
import JpegLs.Text.Decimal
import JpegLs.Text.Quoted
import JpegLs.Text.Unseen
import JpegLs.Text.Utf8
import JpegLs.Proofs.Codec.Recorded
import JpegLs.Proofs.Session.Basic
import JpegLs.Proofs.Session.Rules
import JpegLs.Proofs.Session.EncodeOrder
import JpegLs.Proofs.Metadata
import JpegLs.Proofs.Pixels.Scan
import JpegLs.Proofs.Pixels.Orders
import JpegLs.Proofs.Pixels.Width
import JpegLs.Proofs.Pixels.Columns
import JpegLs.Proofs.Pixels.PartialPixel
import JpegLs.Proofs.Session.DecodeOrder
import JpegLs.Proofs.Session.DecodeReference
import JpegLs.Proofs.Bytes
import JpegLs.Proofs.Pixels.Buffer
import JpegLs.Proofs.Loopback.Stream
import JpegLs.Proofs.Loopback.Answers
import JpegLs.Proofs.Loopback.Calls
import JpegLs.Proofs.Loopback.Decode
import JpegLs.Proofs.Loopback.Encode
import JpegLs.Proofs.Loopback.RoundTrip
import JpegLs.Proofs.Loopback.Outcome
import JpegLs.Proofs.Session.EncodeReference
import JpegLs.Proofs.Session.Decoded
import JpegLs.Proofs.Host.Reader
import JpegLs.Proofs.Host.Writer
import JpegLs.Proofs.Host.RoundTrip
import JpegLs.Proofs.Command.Arguments
import JpegLs.Proofs.Command.FileStore
import JpegLs.Proofs.Text.Split
import JpegLs.Proofs.Command.Output
import JpegLs.Proofs.Command.RawInput
import JpegLs.Proofs.Command.RawRoundTrip
import JpegLs.Proofs.Validity
import JpegLs.Proofs.Container.Recognition
import JpegLs.Proofs.Container.Implied
import JpegLs.Proofs.Shared.Accounting
import JpegLs.Proofs.Shared.Independence
import JpegLs.Proofs.Codec.Failures
import JpegLs.Proofs.Native.Export
import JpegLs.Proofs.Session.DecodeSteps
import JpegLs.Proofs.Native.Calls
import JpegLs.Proofs.Native.Row
import JpegLs.Proofs.Loopback.Frames
import JpegLs.Proofs.Loopback.Failing
import JpegLs.Proofs.Loopback.FixedPoint
import JpegLs.Proofs.Session.Refinement
import JpegLs.Proofs.Session.Handed
import JpegLs.Proofs.Host.Sink
import JpegLs.Proofs.Loopback.Trailing
import JpegLs.Proofs.Loopback.OverReport
import JpegLs.Proofs.Session.Allocation
