import MotionSense.FrameQueue.Threads

/-!
# The process from start to exit

`main`, with what `storage_init`, `media_init` and their counterparts do to threads
and to the frame queue, between the steps of `h264_thread` and `writer_thread`.  The
three share the queue; the other producers do not, so that the start and the end of
theirs are choices of `main`.  The handshake of the writer's start is one step.
-/

namespace MotionSense

/-- The threads that use the queue. -/
inductive Party
  | main
  | h264
  | writer
  deriving DecidableEq

instance : Fintype Party where
  elems := {.main, .h264, .writer}
  complete := fun party => by cases party <;> decide

/-- Where `main` is. -/
inductive MainAt
  /-- In `storage_init`: at `pthread_create`, in the handshake, and in the join of a
  writer that has refused. -/
  | createWriter
  | awaitBoot
  | joinRefused
  /-- In `media_init`: before its threads, at the creation of `h264_thread` and at
  those of the others, and at `fail_threads`. -/
  | initMedia
  | createH264
  | createOthers
  | failThreads
  /-- In the loop that waits for a signal. -/
  | serve
  /-- In `media_stop`, or the rest of `fail_threads`. -/
  | stopMedia
  | joinH264
  /-- In `storage_stop`. -/
  | closeQueue
  | closing
  | joinWriter
  /-- In `app_ctx_deinit`. -/
  | destroyQueue
  | returned
  deriving DecidableEq

/-- Where `h264_thread` is. -/
inductive ProducerAt
  | absent
  | starting
  | loop
  /-- In the loop, after its test. -/
  | frame
  | pushing
  | ended
  deriving DecidableEq

/-- Where `writer_thread` is. -/
inductive WriterAt
  | absent
  | booting
  /-- After a boot that has failed. -/
  | refused
  | loop
  | popping
  /-- After the loop. -/
  | drained
  /-- In `fq_dropped`, for the last message. -/
  | reporting
  | ended
  deriving DecidableEq

/-- The process. -/
structure Process where
  queue : Monitor.Threads QueueRun FqCall FqResult Party
  /-- `fq_destroy` has been called. -/
  destroyed : Bool := false
  /-- `ctx->is_running`. -/
  isRunning : Bool := true
  /-- `s_producers_run`. -/
  producersRun : Bool := false
  /-- `s_writer_boot_ok`, once `s_writer_boot_done`. -/
  boot : Option Bool := none
  main : MainAt := .createWriter
  h264 : ProducerAt := .absent
  writer : WriterAt := .absent

namespace Process

/-- What happens. -/
inductive Event
  /-- Within a call of the queue. -/
  | queue (action : Monitor.Action FqCall Party)
  /-- `SIGINT` or `SIGTERM`. -/
  | signal
  | party (party : Party)

/-- The process goes on of itself. -/
def Event.proceeds : Event → Bool
  | .queue action => action.proceeds
  | .signal => false
  | .party _ => true

/-- After `app_ctx_init`. -/
def start (queue : FrameQueue) : Process where
  queue := { object := QueueRun.start queue }

/-- The steps of the process.  Every call of the hardware returns, and may fail where
the source tests it. -/
inductive Step (process : Process) : Event → Process → Prop
  | queue {action : Monitor.Action FqCall Party}
      {next : Monitor.Threads QueueRun FqCall FqResult Party}
      (within : action.calls = false)
      (step : fqMonitor.Step process.queue action next) :
      Step process (.queue action) { process with queue := next }
  | signal : Step process .signal { process with isRunning := false }
  -- `storage_init`
  | createWriter (at_ : process.main = .createWriter) :
      Step process (.party .main)
        { process with main := .awaitBoot, writer := .booting }
  | noWriter (at_ : process.main = .createWriter) :
      Step process (.party .main) { process with main := .destroyQueue }
  | booted (at_ : process.main = .awaitBoot)
      (boot : process.boot = some true) :
      Step process (.party .main) { process with main := .initMedia }
  | notBooted (at_ : process.main = .awaitBoot)
      (boot : process.boot = some false) :
      Step process (.party .main) { process with main := .joinRefused }
  | joinRefused (at_ : process.main = .joinRefused)
      (ended : process.writer = .ended) :
      Step process (.party .main) { process with main := .destroyQueue }
  -- `media_init`
  | noMedia (at_ : process.main = .initMedia) :
      Step process (.party .main) { process with main := .closeQueue }
  | initMedia (at_ : process.main = .initMedia) :
      Step process (.party .main)
        { process with main := .createH264, producersRun := true }
  | createH264 (at_ : process.main = .createH264) :
      Step process (.party .main)
        { process with main := .createOthers, h264 := .starting }
  | noH264 (at_ : process.main = .createH264) :
      Step process (.party .main) { process with main := .failThreads }
  | createOthers (at_ : process.main = .createOthers) :
      Step process (.party .main) { process with main := .serve }
  | noOthers (at_ : process.main = .createOthers) :
      Step process (.party .main) { process with main := .failThreads }
  | failThreads (at_ : process.main = .failThreads) :
      Step process (.party .main)
        { process with main := .joinH264, producersRun := false }
  -- `main`
  | leave (at_ : process.main = .serve)
      (signalled : process.isRunning = false) :
      Step process (.party .main) { process with main := .stopMedia }
  | stopMedia (at_ : process.main = .stopMedia) :
      Step process (.party .main)
        { process with main := .joinH264, producersRun := false }
  | joinH264 (at_ : process.main = .joinH264)
      (ended : process.h264 = .absent ∨ process.h264 = .ended) :
      Step process (.party .main) { process with main := .closeQueue }
  | closeQueue {next : Monitor.Threads QueueRun FqCall FqResult Party}
      (at_ : process.main = .closeQueue)
      (step : fqMonitor.Step process.queue (.call .main .close) next) :
      Step process (.party .main)
        { process with main := .closing, queue := next }
  | closed (at_ : process.main = .closing)
      (idle : process.queue.phase .main = .idle) :
      Step process (.party .main) { process with main := .joinWriter }
  | joinWriter (at_ : process.main = .joinWriter)
      (ended : process.writer = .ended) :
      Step process (.party .main) { process with main := .destroyQueue }
  | destroyQueue (at_ : process.main = .destroyQueue) :
      Step process (.party .main)
        { process with main := .returned, destroyed := true }
  -- `h264_thread`
  | noMemory (at_ : process.h264 = .starting) :
      Step process (.party .h264) { process with h264 := .ended }
  | allocated (at_ : process.h264 = .starting) :
      Step process (.party .h264) { process with h264 := .loop }
  | again (at_ : process.h264 = .loop) (run : process.producersRun = true) :
      Step process (.party .h264) { process with h264 := .frame }
  | finish (at_ : process.h264 = .loop) (run : process.producersRun = false) :
      Step process (.party .h264) { process with h264 := .ended }
  | noFrame (at_ : process.h264 = .frame) :
      Step process (.party .h264) { process with h264 := .loop }
  | push {next : Monitor.Threads QueueRun FqCall FqResult Party}
      (unit : AccessUnit) (at_ : process.h264 = .frame)
      (step : fqMonitor.Step process.queue (.call .h264 (.push unit)) next) :
      Step process (.party .h264)
        { process with h264 := .pushing, queue := next }
  | pushed (at_ : process.h264 = .pushing)
      (idle : process.queue.phase .h264 = .idle) :
      Step process (.party .h264) { process with h264 := .loop }
  -- `writer_thread`
  | refuse (at_ : process.writer = .booting) :
      Step process (.party .writer)
        { process with writer := .refused, boot := some false }
  | refused (at_ : process.writer = .refused) :
      Step process (.party .writer) { process with writer := .ended }
  | boot (at_ : process.writer = .booting) :
      Step process (.party .writer)
        { process with writer := .loop, boot := some true }
  | pop {next : Monitor.Threads QueueRun FqCall FqResult Party}
      (at_ : process.writer = .loop)
      (step : fqMonitor.Step process.queue (.call .writer .pop) next) :
      Step process (.party .writer)
        { process with writer := .popping, queue := next }
  | popped (out : FqFrame) (at_ : process.writer = .popping)
      (idle : process.queue.phase .writer = .idle)
      (result : process.queue.result .writer = some (.frame out)) :
      Step process (.party .writer) { process with writer := .loop }
  | drained (at_ : process.writer = .popping)
      (idle : process.queue.phase .writer = .idle)
      (result : process.queue.result .writer = some (.status (-1))) :
      Step process (.party .writer) { process with writer := .drained }
  | report {next : Monitor.Threads QueueRun FqCall FqResult Party}
      (at_ : process.writer = .drained)
      (step : fqMonitor.Step process.queue (.call .writer .dropped) next) :
      Step process (.party .writer)
        { process with writer := .reporting, queue := next }
  | reported (at_ : process.writer = .reporting)
      (idle : process.queue.phase .writer = .idle) :
      Step process (.party .writer) { process with writer := .ended }

end Process
end MotionSense
