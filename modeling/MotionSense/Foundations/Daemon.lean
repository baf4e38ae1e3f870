import MotionSense.Foundations.Program

/-!
# Daemons: boot, serve, stop, lose power, boot again

A daemon is a boot program, a program run for each request and a program run at
an orderly stop.  Between two boots only what `restart` keeps survives.  The
reachable states are those of every history of boots, requests, orderly stops
and stops in the middle of any of these programs.
-/

namespace MotionSense

/-- A daemon serving requests `ι` on states `σ`. -/
structure Daemon (χ σ ι : Type) where
  restart : σ → σ
  boot : Program χ σ Bool
  serve : ι → Program χ σ Unit
  stop : Program χ σ Unit

namespace Daemon

/-- Where a daemon is: waiting for a request, or anywhere else (never started,
stopped, or cut off in the middle of a program). -/
inductive Phase
  | off
  | ready
  deriving DecidableEq

/-- One condition for the waiting states, one for all the others. -/
def Phase.holds (anywhere ready : σ → Prop) : Phase → σ → Prop
  | .off => anywhere
  | .ready => ready

/-- States of all histories of a daemon. -/
inductive Reach (daemon : Daemon χ σ ι) (initial : σ → Prop) :
    Phase → σ → Prop
  | initial {state : σ} (starts : initial state) :
      Reach daemon initial .off state
  | boot {before : σ} {script : List χ}
      (earlier : Reach daemon initial .off before)
      {after : σ} {rest : List χ}
      (ran : daemon.boot.run (daemon.restart before) script =
        .done true after rest) :
      Reach daemon initial .ready after
  | refuse {before : σ} {script : List χ}
      (earlier : Reach daemon initial .off before)
      {after : σ} {rest : List χ}
      (ran : daemon.boot.run (daemon.restart before) script =
        .done false after rest) :
      Reach daemon initial .off after
  | bootHalts {before : σ} {script : List χ}
      (earlier : Reach daemon initial .off before)
      {after : σ}
      (ran : daemon.boot.run (daemon.restart before) script =
        .halted after) :
      Reach daemon initial .off after
  | serve {before : σ} {script : List χ} {request : ι}
      (earlier : Reach daemon initial .ready before)
      {after : σ} {rest : List χ}
      (ran : (daemon.serve request).run before script =
        .done () after rest) :
      Reach daemon initial .ready after
  | serveHalts {before : σ} {script : List χ} {request : ι}
      (earlier : Reach daemon initial .ready before)
      {after : σ}
      (ran : (daemon.serve request).run before script = .halted after) :
      Reach daemon initial .off after
  | stop {before : σ} (script : List χ)
      (earlier : Reach daemon initial .ready before) :
      Reach daemon initial .off (daemon.stop.run before script).state

/-- An invariant of the waiting states together with a weaker one of all
states, kept by the three programs, hold on every history. -/
theorem Reach.invariant
    {daemon : Daemon χ σ ι}
    {initial anywhere ready : σ → Prop}
    (starts : ∀ state, initial state → anywhere state)
    (boots : ∀ state, anywhere state →
      daemon.boot.wp
        (fun succeeded after =>
          if succeeded then ready after else anywhere after)
        anywhere (daemon.restart state))
    (serves : ∀ request state, ready state →
      (daemon.serve request).wp (fun _ => ready) anywhere state)
    (stops : ∀ state, ready state →
      daemon.stop.wp (fun _ => anywhere) anywhere state)
    {phase : Phase}
    {state : σ}
    (reached : daemon.Reach initial phase state) :
    phase.holds anywhere ready state := by
  induction reached with
  | initial start => exact starts _ start
  | @boot before script earlier after rest ran inductionHypothesis =>
      have met := (Program.wp_iff_run _ _ _ _).mp
        (boots before inductionHypothesis) script
      rw [ran] at met
      simpa [Program.Outcome.Meets, Phase.holds] using met
  | @refuse before script earlier after rest ran inductionHypothesis =>
      have met := (Program.wp_iff_run _ _ _ _).mp
        (boots before inductionHypothesis) script
      rw [ran] at met
      simpa [Program.Outcome.Meets, Phase.holds] using met
  | @bootHalts before script earlier after ran inductionHypothesis =>
      have met := (Program.wp_iff_run _ _ _ _).mp
        (boots before inductionHypothesis) script
      rw [ran] at met
      exact met
  | @serve before script request earlier after rest ran inductionHypothesis =>
      have met := (Program.wp_iff_run _ _ _ _).mp
        (serves request before inductionHypothesis) script
      rw [ran] at met
      exact met
  | @serveHalts before script request earlier after ran inductionHypothesis =>
      have met := (Program.wp_iff_run _ _ _ _).mp
        (serves request before inductionHypothesis) script
      rw [ran] at met
      exact met
  | @stop before script earlier inductionHypothesis =>
      exact Program.Outcome.Meets.state
        ((Program.wp_iff_run _ _ _ _).mp
          (stops before inductionHypothesis) script)

/-- The form used when the waiting states also satisfy the weaker
invariant. -/
theorem Reach.everywhere
    {daemon : Daemon χ σ ι}
    {initial anywhere ready : σ → Prop}
    (weaker : ∀ state, ready state → anywhere state)
    (starts : ∀ state, initial state → anywhere state)
    (boots : ∀ state, anywhere state →
      daemon.boot.wp
        (fun succeeded after =>
          if succeeded then ready after else anywhere after)
        anywhere (daemon.restart state))
    (serves : ∀ request state, ready state →
      (daemon.serve request).wp (fun _ => ready) anywhere state)
    (stops : ∀ state, ready state →
      daemon.stop.wp (fun _ => anywhere) anywhere state)
    {phase : Phase}
    {state : σ}
    (reached : daemon.Reach initial phase state) :
    anywhere state := by
  have held := Reach.invariant starts boots serves stops reached
  cases phase with
  | off => exact held
  | ready => exact weaker _ held

/-- One whole life of the process: boot, serve the requests in order, stop. -/
def life (daemon : Daemon χ σ ι) (requests : List ι) : Program χ σ Unit := do
  let succeeded ← daemon.boot
  if succeeded then
    Program.forEach daemon.serve requests
    daemon.stop
  else
    pure ()

theorem Reach.wp_boot
    {daemon : Daemon χ σ ι}
    {initial : σ → Prop}
    {before : σ}
    (earlier : daemon.Reach initial .off before) :
    daemon.boot.wp
      (fun succeeded after =>
        daemon.Reach initial (if succeeded then .ready else .off) after)
      (daemon.Reach initial .off) (daemon.restart before) := by
  rw [Program.wp_iff_run]
  intro script
  cases ran : daemon.boot.run (daemon.restart before) script with
  | done succeeded after rest =>
      cases succeeded with
      | true => exact .boot earlier ran
      | false => exact .refuse earlier ran
  | halted after => exact .bootHalts earlier ran

/-- A boot that succeeds leaves the daemon waiting. -/
theorem Reach.booted
    {daemon : Daemon χ σ ι}
    {initial : σ → Prop}
    {before : σ}
    (earlier : daemon.Reach initial .off before)
    {script : List χ}
    (succeeded : (daemon.boot.run (daemon.restart before) script).value =
      some true) :
    daemon.Reach initial .ready
      (daemon.boot.run (daemon.restart before) script).state := by
  cases ran : daemon.boot.run (daemon.restart before) script with
  | done value after rest =>
      rw [ran] at succeeded
      obtain rfl := Option.some.inj succeeded
      exact .boot earlier ran
  | halted after =>
      rw [ran] at succeeded
      exact nomatch succeeded

theorem Reach.wp_serve
    {daemon : Daemon χ σ ι}
    {initial : σ → Prop}
    (request : ι)
    (before : σ)
    (earlier : daemon.Reach initial .ready before) :
    (daemon.serve request).wp (fun _ => daemon.Reach initial .ready)
      (daemon.Reach initial .off) before := by
  rw [Program.wp_iff_run]
  intro script
  cases ran : (daemon.serve request).run before script with
  | done _ after rest => exact .serve earlier ran
  | halted after => exact .serveHalts earlier ran

/-- A request that is served to its end leaves the daemon waiting. -/
theorem Reach.served
    {daemon : Daemon χ σ ι}
    {initial : σ → Prop}
    {before : σ}
    (earlier : daemon.Reach initial .ready before)
    {request : ι}
    {script : List χ}
    (returned : ((daemon.serve request).run before script).value = some ()) :
    daemon.Reach initial .ready
      ((daemon.serve request).run before script).state := by
  cases ran : (daemon.serve request).run before script with
  | done value after rest => exact .serve earlier ran
  | halted after =>
      rw [ran] at returned
      exact nomatch returned

theorem Reach.wp_stop
    {daemon : Daemon χ σ ι}
    {initial : σ → Prop}
    (before : σ)
    (earlier : daemon.Reach initial .ready before) :
    daemon.stop.wp (fun _ => daemon.Reach initial .off)
      (daemon.Reach initial .off) before := by
  rw [Program.wp_iff_run]
  intro script
  have ended := Reach.stop script earlier
  revert ended
  cases daemon.stop.run before script <;> exact id

/-- A life begun in a reachable state passes through reachable states only. -/
theorem Reach.wp_life
    {daemon : Daemon χ σ ι}
    {initial : σ → Prop}
    {before : σ}
    (earlier : daemon.Reach initial .off before)
    (requests : List ι) :
    (daemon.life requests).wp (fun _ => daemon.Reach initial .off)
      (daemon.Reach initial .off) (daemon.restart before) := by
  rw [life, Program.wp_bind]
  refine Program.wp_mono earlier.wp_boot ?_ fun _ stops => stops
  intro succeeded booted reached
  cases succeeded with
  | false => exact reached
  | true =>
      simp only [if_true, Program.wp_bind] at reached ⊢
      refine Program.wp_mono
        (Program.wp_forEach Reach.wp_serve requests booted reached)
        ?_ fun _ stops => stops
      exact fun _ served ready => Reach.wp_stop served ready

/-- The end of a life begun in a reachable state, however it ended. -/
theorem Reach.life
    {daemon : Daemon χ σ ι}
    {initial : σ → Prop}
    {before : σ}
    (earlier : daemon.Reach initial .off before)
    (requests : List ι)
    (script : List χ) :
    daemon.Reach initial .off
      ((daemon.life requests).run (daemon.restart before) script).state :=
  Program.Outcome.Meets.state
    ((Program.wp_iff_run _ _ _ _).mp (earlier.wp_life requests) script)

end Daemon
end MotionSense
