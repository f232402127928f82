import GstIceoryx2.Foundations.Utf8
import GstIceoryx2.Foundations.LengthPrefixed
import GstIceoryx2.Foundations.SignedSlice
import GstIceoryx2.Foundations.StridedPlane
import GstIceoryx2.Foundations.StridedView
import GstIceoryx2.Foundations.Runs
import GstIceoryx2.Foundations.Ledger
import GstIceoryx2.Foundations.Machine
import GstIceoryx2.Foundations.Traces
import GstIceoryx2.Foundations.Lanes
import GstIceoryx2.Foundations.Simulation
import GstIceoryx2.Foundations.LockOrder
import GstIceoryx2.Foundations.RecordLayout
import GstIceoryx2.Video.Header
import GstIceoryx2.Video.FormatField
import GstIceoryx2.Video.WireLayout
import GstIceoryx2.Video.Validate
import GstIceoryx2.Video.AuxBlob
import GstIceoryx2.Video.AuxReads
import GstIceoryx2.Video.Frame
import GstIceoryx2.Video.PackedView
import GstIceoryx2.Video.WordSizes
import GstIceoryx2.Video.Publish
import GstIceoryx2.Python.Validate
import GstIceoryx2.Python.Codec
import GstIceoryx2.Python.AuxBuilder
import GstIceoryx2.Python.Frame
import GstIceoryx2.Python.PackedView
import GstIceoryx2.Python.Publish
import GstIceoryx2.Transport.Channel
import GstIceoryx2.Transport.Wakeup
import GstIceoryx2.Transport.ReceiveBlocking
import GstIceoryx2.Transport.HandOver
import GstIceoryx2.Transport.Delivery
import GstIceoryx2.Transport.Progress
import GstIceoryx2.Transport.SourceLoop
import GstIceoryx2.Element.Gst
import GstIceoryx2.Element.Sink
import GstIceoryx2.Element.RenderPaths
import GstIceoryx2.Element.Source
import GstIceoryx2.Element.CapsAgreement
import GstIceoryx2.Element.OwnCaps
import GstIceoryx2.Element.WireSamples
import GstIceoryx2.Element.RoundTrip
import GstIceoryx2.Element.ProducerLayout
import GstIceoryx2.Element.Receivers
import GstIceoryx2.Element.Pool
import GstIceoryx2.Element.LoanOwnership
import GstIceoryx2.Element.PublishedPixels
import GstIceoryx2.Element.FrozenSamples
import GstIceoryx2.Element.AuxSwitch
import GstIceoryx2.Element.LoanWaits
import GstIceoryx2.Element.PoolLimit
import GstIceoryx2.Element.Publishing
import GstIceoryx2.Element.Clients
import GstIceoryx2.Element.Connections
import GstIceoryx2.Element.Lossless
import GstIceoryx2.Element.Borrowing
import GstIceoryx2.Element.Pipeline
import GstIceoryx2.Element.SourceSessions
import GstIceoryx2.Element.SinkSessions
import GstIceoryx2.Element.Services
import GstIceoryx2.Element.Renegotiation
import GstIceoryx2.Element.Locks
import GstIceoryx2.Element.Interop
