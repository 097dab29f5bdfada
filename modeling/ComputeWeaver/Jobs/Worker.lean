/-
Jobs.Worker — the worker loop's single round
(`apps/worker/main.py`, `Worker.run_once`).

The queue answers each of the worker's calls once; what it answers depends on
everybody else's calls as well, so the answers are an input (`Replies`). The
handlers are parameters. Logging is left out.
-/
import ComputeWeaver.Jobs.Queue

namespace ComputeWeaver.Jobs

open Lib

abbrev Handler := DurableJob → Except PyError Document

/-- What the queue answers to the calls of one round. -/
abbrev Replies := JobCall → Except PyError JobReply

structure Worker where
  workerId : String
  handlers : Dict String Handler
  /-- `str(error)` -/
  text : PyError → String

namespace Worker

variable (worker : Worker) (reply : Replies)

/-- `self.handlers[job.kind]` applied to the job. -/
def handle (job : DurableJob) : Except PyError Document := do
  let handler ← worker.handlers.getItem job.kind job.kind
  handler job

/-- The body of the `try`. -/
def attempt (job : DurableJob) : Except PyError Unit := do
  let result ← worker.handle job
  let _ ← reply (.succeed job worker.workerId result)
  pure ()

/-- The call that reports an exception. -/
def failure (job : DurableJob) (error : PyError) : JobCall :=
  .fail job worker.workerId (error.className ++ ": " ++ worker.text error)

/-- `run_once`, with the default lease. -/
def runOnce : Except PyError Bool :=
  match reply (.claim worker.workerId 60) with
  | .error e => .error e
  | .ok (.claimed (some job)) =>
      match worker.attempt reply job with
      | .ok _ => .ok true
      | .error e => do
          let _ ← reply (worker.failure job e)
          pure true
  | .ok _ => .ok false

end Worker

end ComputeWeaver.Jobs
