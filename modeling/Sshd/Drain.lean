import Mathlib.Logic.Relation
import Sshd.InFlight

/-!
# The drain barrier

What `s.wg` is for. The server admits handlers only while it loops on `Accept`; once it has left
the loop it admits none, and `wg.Wait()` lets it close only when every handler it admitted has
called `Done`. `Barrier` keeps only where the server stands and how many handlers are in flight.
Every step of the interleaving either leaves that pair as it is or is one of the barrier's steps,
so what the barrier guarantees holds of every run of the server.
-/

namespace Sshd

/-- Where the server stands towards its handlers. -/
inductive Phase
  /-- Before the accept loop. -/
  | starting
  /-- In the accept loop. -/
  | accepting
  /-- Out of the loop, in `wg.Wait()`. -/
  | draining
  /-- Past `wg.Wait()`, or `ListenAndServe` returned the error of `listen`. -/
  | closed
  deriving DecidableEq, Repr

/-- The server admits no more handlers. -/
def Phase.stopped : Phase → Prop
  | .draining | .closed => True
  | _ => False

structure Barrier where
  phase : Phase
  inFlight : Nat
  deriving DecidableEq, Repr

/-- A drain barrier: it opens empty, admits only while accepting, lets a handler leave at any
time, and closes only when it is empty. -/
inductive Barrier.Step : Barrier → Barrier → Prop
  | start : Step ⟨.starting, 0⟩ ⟨.accepting, 0⟩
  | fail : Step ⟨.starting, 0⟩ ⟨.closed, 0⟩
  | enter (n : Nat) : Step ⟨.accepting, n⟩ ⟨.accepting, n + 1⟩
  | leave (p : Phase) (n : Nat) : Step ⟨p, n + 1⟩ ⟨p, n⟩
  | stop (n : Nat) : Step ⟨.accepting, n⟩ ⟨.draining, n⟩
  | close : Step ⟨.draining, 0⟩ ⟨.closed, 0⟩

/-- Once stopped, the barrier stays stopped and its count never grows. -/
theorem Barrier.Step.stopped {b b' : Barrier} (h : Barrier.Step b b') (hb : b.phase.stopped) :
    b'.phase.stopped ∧ b'.inFlight ≤ b.inFlight := by
  cases h <;> simp_all [Phase.stopped]

theorem Barrier.stopped_of_steps {b b' : Barrier} (h : Relation.ReflTransGen Barrier.Step b b')
    (hb : b.phase.stopped) : b'.phase.stopped ∧ b'.inFlight ≤ b.inFlight := by
  induction h with
  | refl => exact ⟨hb, Nat.le_refl _⟩
  | tail _ hstep ih =>
    obtain ⟨hp, hn⟩ := hstep.stopped ih.1
    exact ⟨hp, Nat.le_trans hn ih.2⟩

/-! ## The server implements the barrier -/

/-- Where `ListenAndServe` stands towards the handlers. -/
def ServePc.phase : ServePc → Phase
  | .listen | .changeStatusReady => .starting
  | .accept | .getStatus => .accepting
  | .wait => .draining
  | .changeStatusClosed | .closeListener | .returned | .listenFailed => .closed

/-- The barrier a server state implements. -/
def Server.barrier (s : Server) : Barrier := ⟨s.serve.phase, s.inFlight⟩

/-- Before the accept loop no handler has been started. -/
def StartingIdle (s : Server) : Prop := s.serve.phase = .starting → s.handlers = []

variable {s s' : Server} {a : Action} {as : List Action}

theorem StartingIdle.step (h : StartingIdle s) (hs : s.step a = some s') : StartingIdle s' := by
  cases a with
  | serve ok =>
    rcases Server.serveStep_cases hs with ⟨hpc, rfl⟩ | ⟨hpc, rfl⟩ | ⟨hpc, rfl⟩ | ⟨hpc, rfl⟩ |
      ⟨hpc, -, rfl⟩ | ⟨hpc, rfl⟩ | ⟨hpc, rfl⟩
    · have h0 := h (by simp [hpc, ServePc.phase])
      split <;> exact fun _ => h0
    all_goals (try split) <;> simp [StartingIdle, ServePc.phase, hpc]
  | callShutdown =>
    simp only [Server.step, Option.some.injEq] at hs
    exact hs ▸ h
  | shutdown i => rcases Server.shutdownStep_cases hs with ⟨-, rfl⟩ | ⟨-, rfl⟩ | ⟨-, rfl⟩ <;> exact h
  | handler i o =>
    obtain ⟨g, -, -, hget, -, rfl⟩ := Server.handlerStep_cases hs
    intro hp
    simp [h hp] at hget

theorem Reachable.startingIdle (hs : Reachable s) : StartingIdle s := by
  induction hs with
  | init => exact fun _ => rfl
  | step _ _ h ih => exact ih.step h

theorem Server.barrier_def (s : Server) :
    s.barrier = ⟨s.serve.phase, s.handlers.countP Handler.inFlight⟩ := rfl

/-- The barrier step each statement of `ListenAndServe` takes: `listen` fails or
`changeStatus(StatusReady)` starts an empty barrier, `Accept` lets a handler enter, the loop's
break stops and `wg.Wait()` closes; every other statement leaves the barrier as it is. -/
theorem Server.serveStep_refines {ok : Bool} (hi : InFlightInv s) (hidle : StartingIdle s)
    (h : s.serveStep ok = some s') : s'.barrier = s.barrier ∨ Barrier.Step s.barrier s'.barrier := by
  rcases Server.serveStep_cases h with ⟨hpc, rfl⟩ | ⟨hpc, rfl⟩ | ⟨hpc, rfl⟩ | ⟨hpc, rfl⟩ |
    ⟨hpc, hwg, rfl⟩ | ⟨hpc, rfl⟩ | ⟨hpc, rfl⟩ <;>
    (try split) <;> simp only [Server.barrier_def, hpc, ServePc.phase]
  · exact .inl trivial
  · -- `listen` fails before anything is in flight
    rw [hidle (by simp [hpc, ServePc.phase])]
    exact .inr .fail
  · -- `serve` starts, with nothing in flight yet
    rw [hidle (by simp [hpc, ServePc.phase])]
    exact .inr .start
  · -- `Accept` succeeds and `go s.handleConn` starts one more handler
    simpa using .inr (Barrier.Step.enter _)
  · exact .inl trivial
  · exact .inr (.stop _)
  · exact .inl trivial
  · -- `wg.Wait()` returns only once the counter, hence the count, is zero
    have hz : s.handlers.countP Handler.inFlight = 0 := by
      have := hi.wg_eq
      simp only [Server.inFlight] at this
      omega
    exact .inr (hz ▸ .close)
  all_goals exact .inl trivial

/-- One step of any goroutine leaves the barrier as it is or takes one of its steps. -/
theorem Server.step_refines (hi : Inv s) (hidle : StartingIdle s) (h : s.step a = some s') :
    s'.barrier = s.barrier ∨ Barrier.Step s.barrier s'.barrier := by
  cases a with
  | serve ok => exact Server.serveStep_refines hi.toInFlightInv hidle h
  | callShutdown =>
    simp only [Server.step, Option.some.injEq] at h
    exact .inl (h ▸ rfl)
  | shutdown i => rcases Server.shutdownStep_cases h with ⟨-, rfl⟩ | ⟨-, rfl⟩ | ⟨-, rfl⟩ <;> exact .inl rfl
  | handler i o =>
    -- `s.wg.Done()` lets the handler leave; every other step of it leaves the barrier as it is
    have hv : s'.serve = s.serve := (Server.handlerStep_frame h).2.2.1
    rcases (Server.handlerStep_spec hi.handlers_wf h).2 with ⟨-, hn⟩ | ⟨-, hn⟩
    · have hb : s.barrier = ⟨s'.serve.phase, s'.inFlight + 1⟩ := by simp [Server.barrier, hv, hn]
      exact .inr (hb ▸ Barrier.Step.leave _ _)
    · exact .inl (by simp [Server.barrier, hv, hn])

/-- Every step of a reachable state stutters on the barrier or is one of its steps. -/
theorem step_refines_drain_barrier (hs : Reachable s) (h : s.step a = some s') :
    s'.barrier = s.barrier ∨ Barrier.Step s.barrier s'.barrier :=
  Server.step_refines hs.inv hs.startingIdle h

theorem Reachable.run_refines (hs : Reachable s) (h : s.run as = some s') :
    Relation.ReflTransGen Barrier.Step s.barrier s'.barrier := by
  induction as generalizing s with
  | nil =>
    simp only [Server.run_nil, Option.some.injEq] at h
    exact h ▸ .refl
  | cons a as ih =>
    obtain ⟨s₁, h₁, h₂⟩ := Option.bind_eq_some.1 h
    have hrest := ih (hs.step a h₁) h₂
    rcases Server.step_refines hs.inv hs.startingIdle h₁ with hb | hb
    · exact hb ▸ hrest
    · exact .head hb hrest

/-- Once `ListenAndServe` has left its accept loop, no handler is started again: along any run it
stays out of the loop and the number of handlers in flight never grows. -/
theorem listenAndServe_starts_no_handler_after_loop (hs : Reachable s) (hp : s.serve.phase.stopped)
    (h : s.run as = some s') : s'.serve.phase.stopped ∧ s'.inFlight ≤ s.inFlight :=
  Barrier.stopped_of_steps (hs.run_refines h) hp

/-- A `Shutdown` has closed the listener while a connection is in flight, and the failed `Accept`
is about to read the status. -/
def breakingWithHandler : Server :=
  ⟨.onShutdown, .closed, 1, .getStatus, [.returned .nil], [Handler.init]⟩

/-- The loop has broken to `wg.Wait()` with the connection still in flight. -/
def drainingWithHandler : Server := { breakingWithHandler with serve := .wait }

theorem breakingWithHandler_reachable : Reachable breakingWithHandler :=
  Reachable.init.run (by
    decide : Server.init.run [.serve true, .serve true, .serve true, .callShutdown, .shutdown 0,
      .shutdown 0, .shutdown 0, .serve true] = some breakingWithHandler)

theorem breakingWithHandler_step :
    breakingWithHandler.step (.serve true) = some drainingWithHandler := by
  decide

theorem loop_break_refines_stop :
    Reachable breakingWithHandler ∧
      breakingWithHandler.step (.serve true) = some drainingWithHandler ∧
      (drainingWithHandler.barrier = breakingWithHandler.barrier ∨
        Barrier.Step breakingWithHandler.barrier drainingWithHandler.barrier) :=
  ⟨breakingWithHandler_reachable, breakingWithHandler_step,
    step_refines_drain_barrier breakingWithHandler_reachable breakingWithHandler_step⟩

/-- The handler fails its handshake and exits while `serve` waits, then `ListenAndServe` returns. -/
def drainThenReturn : List Action :=
  [.handler 0 .ok, .handler 0 .ok, .handler 0 .ok, .handler 0 .ok, .handler 0 .fail,
    .handler 0 .ok, .handler 0 .ok, .handler 0 .ok, .handler 0 .ok, .serve true, .serve true,
    .serve true]

theorem handler_drains_after_loop :
    Reachable drainingWithHandler ∧ drainingWithHandler.run drainThenReturn = some drainedServer ∧
      drainedServer.serve.phase.stopped ∧ drainedServer.inFlight ≤ drainingWithHandler.inFlight :=
  have hs : Reachable drainingWithHandler :=
    breakingWithHandler_reachable.step _ breakingWithHandler_step
  have hrun : drainingWithHandler.run drainThenReturn = some drainedServer := by decide
  ⟨hs, hrun, listenAndServe_starts_no_handler_after_loop hs trivial hrun⟩

end Sshd
