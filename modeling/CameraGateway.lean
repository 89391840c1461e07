import CameraGateway.Library.TransitionSystem
import CameraGateway.Library.RingBuffer
import CameraGateway.Library.Simulation
import CameraGateway.Library.Monitor
import CameraGateway.Library.Framing
import CameraGateway.Library.Binning
import CameraGateway.Library.Episodes
import CameraGateway.Library.Custody
import CameraGateway.Library.Ledger
import CameraGateway.Library.Bands
import CameraGateway.Library.Raster
import CameraGateway.Library.Updates
import CameraGateway.Library.Extent
import CameraGateway.Library.LittleEndian
import CameraGateway.Library.BitFields
import CameraGateway.Library.BlockReader
import CameraGateway.Library.Assignments
import CameraGateway.Library.BufferedStream
import CameraGateway.Library.Heap
import CameraGateway.Library.KeyValueLines
import CameraGateway.Library.Enumeration
import CameraGateway.Library.Execution
import CameraGateway.Core.Frame
import CameraGateway.Core.FrameQueue
import CameraGateway.Core.Text
import CameraGateway.Core.StreamHttpMjpeg
import CameraGateway.Core.HttpRequest
import CameraGateway.Core.MotionDetect
import CameraGateway.Core.HttpService
import CameraGateway.Core.Gateway
import CameraGateway.Core.LcdFrame
import CameraGateway.Core.Yuyv
import CameraGateway.Core.CaptureLoops
import CameraGateway.Core.Lifetime
import CameraGateway.Core.Framebuffer
import CameraGateway.Core.JpegDecoder
import CameraGateway.Core.BufferTable
import CameraGateway.Core.ParseArgs
import CameraGateway.Core.Stdio
import CameraGateway.Core.ServiceResources
import CameraGateway.Core.CameraDevice
import CameraGateway.Core.TestPattern
import CameraGateway.Core.Main
import CameraGateway.Core.Screen
import CameraGateway.Core.Snapshot
import CameraGateway.Metatheory.FrameQueueRefinement
import CameraGateway.Metatheory.FrameQueueWakeups
import CameraGateway.Metatheory.StreamFraming
import CameraGateway.Metatheory.RequestSegmentation
import CameraGateway.Metatheory.GatewaySteps
import CameraGateway.Metatheory.Publication
import CameraGateway.Metatheory.StreamDelivery
import CameraGateway.Metatheory.AcceptLoop
import CameraGateway.Metatheory.Teardown
import CameraGateway.Metatheory.DeadCapture
import CameraGateway.Metatheory.MotionArithmetic
import CameraGateway.Metatheory.MetricsCoherence
import CameraGateway.Metatheory.ClientAccounting
import CameraGateway.Metatheory.WaitingClients
import CameraGateway.Metatheory.MotionIndependence
import CameraGateway.Metatheory.MotionSensitivity
import CameraGateway.Metatheory.DrawingRuns
import CameraGateway.Metatheory.MotionEvents
import CameraGateway.Metatheory.FrameAccounting
import CameraGateway.Metatheory.BufferOwnership
import CameraGateway.Metatheory.FileRecording
import CameraGateway.Metatheory.FrameOwnership
import CameraGateway.Metatheory.CaptureCleanup
import CameraGateway.Metatheory.ResourceRelease
import CameraGateway.Metatheory.FailedPush
import CameraGateway.Metatheory.MotionGeometry
import CameraGateway.Metatheory.MotionBox
import CameraGateway.Metatheory.MotionMask
import CameraGateway.Metatheory.MotionCoverage
import CameraGateway.Metatheory.MotionMarks
import CameraGateway.Metatheory.MotionBaseline
import CameraGateway.Metatheory.MotionExactness
import CameraGateway.Metatheory.FramebufferDrawing
import CameraGateway.Metatheory.ColorPacking
import CameraGateway.Metatheory.YuyvConversion
import CameraGateway.Metatheory.PreviewConversion
import CameraGateway.Metatheory.DecodedPictures
import CameraGateway.Metatheory.SourceManager
import CameraGateway.Metatheory.BufferTable
import CameraGateway.Metatheory.HttpResponses
import CameraGateway.Metatheory.NumericOptions
import CameraGateway.Metatheory.StreamExits
import CameraGateway.Metatheory.StoredData
import CameraGateway.Metatheory.StdioStreams
import CameraGateway.Metatheory.ClientResponses
import CameraGateway.Metatheory.ResourceSteps
import CameraGateway.Metatheory.ServiceResources
import CameraGateway.Metatheory.Shutdown
import CameraGateway.Metatheory.CounterSizes
import CameraGateway.Metatheory.DrawingTotals
import CameraGateway.Metatheory.MetricsHistory
import CameraGateway.Metatheory.MetricsReport
import CameraGateway.Metatheory.FormatListing
import CameraGateway.Metatheory.NextFrames
import CameraGateway.Metatheory.TestPattern
import CameraGateway.Metatheory.LcdScreen
import CameraGateway.Metatheory.PreviewScreen
import CameraGateway.Metatheory.Program
import CameraGateway.Metatheory.TextSizes
import CameraGateway.Metatheory.RequestOrder
