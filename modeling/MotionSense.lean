import MotionSense.Agent.ListingOrder
import MotionSense.Agent.LocalTime
import MotionSense.Agent.MotionMarks
import MotionSense.Agent.Paths
import MotionSense.Agent.Pending
import MotionSense.Capture.Divisors
import MotionSense.Capture.MediaLife
import MotionSense.Capture.MediaReturns
import MotionSense.Capture.MediaTime
import MotionSense.Capture.MotionFlag
import MotionSense.Capture.Overlay
import MotionSense.Capture.Scale
import MotionSense.Foundations.Daemon
import MotionSense.Foundations.FileSystem
import MotionSense.FrameQueue.Dropping
import MotionSense.Process.Shutdown
import MotionSense.Storage.Segments
import MotionSense.Pages.Live
import MotionSense.Pages.Playback
import MotionSense.Pages.Status
import MotionSense.Storage.AtomicFile
import MotionSense.Storage.MuxerRefinement
import MotionSense.Storage.Rollup
import MotionSense.Storage.DayRows
import MotionSense.Storage.KeyframeSpacing
import MotionSense.Storage.Feeds
import MotionSense.Storage.FiledDays
import MotionSense.Storage.FreshFolder
import MotionSense.Storage.Marks
import MotionSense.Storage.Muxer
import MotionSense.Storage.OpenDay
import MotionSense.Storage.PendingDays
import MotionSense.Storage.Playlist
import MotionSense.Storage.Recording
import MotionSense.Storage.SpaceChecks
import MotionSense.Stream.Intact
import MotionSense.Stream.Isolation
