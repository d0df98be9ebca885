import FlutterEngine.Fml.WakeUps
import FlutterEngine.Fml.TaskLedger
import FlutterEngine.Fml.ThreadMerger
import FlutterEngine.Ohos.Termination
import FlutterEngine.DisplayList.RTreeSearch
import FlutterEngine.DisplayList.CulledPainting
import FlutterEngine.DisplayList.TrackerUpgrade
import FlutterEngine.DisplayList.ClippedTracker
import FlutterEngine.DisplayList.BuilderReuse
import FlutterEngine.DisplayList.LayerRecords
import FlutterEngine.DisplayList.CompareOps
import FlutterEngine.Ohos.OffsetAfter
import FlutterEngine.Ohos.TextEditingDeltas
import FlutterEngine.Ohos.SemanticsPointerGraph
import FlutterEngine.Window.PointerContinuity
import FlutterEngine.WebPointer.PointerRuns
import FlutterEngine.Shell.Pipeline
import FlutterEngine.Ui.ChannelBuffers
import FlutterEngine.Fml.Base32
import FlutterEngine.Fml.AsciiTrie
import FlutterEngine.Fml.CommandLine
import FlutterEngine.Ohos.SendableStandardMessageCodec
import FlutterEngine.Ohos.StandardMethodCodec
import FlutterEngine.Impeller.EntityPassClipStack
import FlutterEngine.Impeller.HostBuffer
import FlutterEngine.Impeller.ReactorNames
import FlutterEngine.Ohos.NativeImages
import FlutterEngine.DisplayList.Geometry.BuiltRegions
import FlutterEngine.Messages.SameMessages
import FlutterEngine.Fml.ConcurrentMessageLoop
import FlutterEngine.Shell.VsyncWaiter
import FlutterEngine.Shell.Animator
import FlutterEngine.Accessibility.CommitUpdates
import FlutterEngine.Flow.LayerOperations
import FlutterEngine.Embedder.LayerBuilder
import FlutterEngine.Windows.SequentialIdGenerator
import FlutterEngine.Linux.MessageSizes
import FlutterEngine.Ohos.TaskPoolQueue
import FlutterEngine.Ohos.EventChannel
import FlutterEngine.Linux.KeyTaps
import FlutterEngine.WebText.LayoutLines
import FlutterEngine.Ohos.ImageLru
import FlutterEngine.TextInput.DeleteSurrounding
import FlutterEngine.CanvasKit.OverlaySceneOptimizer
import FlutterEngine.Navigation.SerialCounts
import FlutterEngine.WebServices.CodecRoundTrip
import FlutterEngine.WebText.LineEnds
import FlutterEngine.TextInput.RefusedCalls
import FlutterEngine.Flow.ContainerLayer
import FlutterEngine.Window.PointerButtons
import FlutterEngine.Impeller.SkylineTiling
import FlutterEngine.Impeller.TRect
import FlutterEngine.Flow.ClippedDamage
import FlutterEngine.Shell.Base64Reads
import FlutterEngine.Ohos.NextFocus
import FlutterEngine.WebServices.MessageViews
