import Sshd.Invariant

/-!
# The order of the status values

Three statements write `s.status`: `serve` sets `StatusReady` once when it starts and
`StatusClosed` once after `wg.Wait()`, and every `Shutdown` that finds `s.listener` set writes
`StatusOnShutdown`. Nothing orders a `Shutdown` against the first two, and `s.listener` is never
reset to `nil`, so the status does not only move forward: a `Shutdown` made after `serve` has set
`StatusClosed` moves it back to `StatusOnShutdown`, and `serve`'s `StatusReady` write lands on
whatever a `Shutdown` made between `listen` and `serve` wrote. Every other write moves it forward,
and once `serve` has made its `StatusReady` write a status that has left `StatusReady` never
returns to it.
-/

namespace Sshd

/-- `serve` has made its `changeStatus(StatusReady)` write. -/
def ServePc.afterReady : ServePc → Prop
  | .listen | .changeStatusReady | .listenFailed => False
  | _ => True

/-- What one step can write to the status: `serve`'s `StatusReady` and `StatusClosed`, or
`Shutdown`'s `StatusOnShutdown`. -/
theorem Server.step_status {s s' : Server} {a : Action} (h : s.step a = some s') :
    s'.status = s.status ∨
    (∃ ok, a = .serve ok) ∧ s.serve = .changeStatusReady ∧ s'.status = .ready ∨
    s'.status = .closed ∨
    (∃ i, a = .shutdown i) ∧ s'.status = .onShutdown := by
  cases a with
  | serve ok =>
    rcases Server.serveStep_cases h with ⟨hpc, rfl⟩ | ⟨hpc, rfl⟩ | ⟨hpc, rfl⟩ | ⟨hpc, rfl⟩ |
      ⟨hpc, -, rfl⟩ | ⟨hpc, rfl⟩ | ⟨hpc, rfl⟩
    all_goals first | (split <;> simp) | simp [hpc]
  | callShutdown =>
    simp only [Server.step, Option.some.injEq] at h
    exact .inl (h ▸ rfl)
  | shutdown i =>
    rcases Server.shutdownStep_cases h with ⟨-, rfl⟩ | ⟨-, rfl⟩ | ⟨-, rfl⟩ <;> simp
  | handler i o =>
    obtain ⟨-, -, -, -, -, rfl⟩ := Server.handlerStep_cases h
    exact .inl rfl

/-- `serve` never goes back before its `StatusReady` write. -/
theorem Server.step_afterReady {s s' : Server} {a : Action} (h : s.step a = some s')
    (hr : s.serve.afterReady) : s'.serve.afterReady := by
  cases a with
  | serve ok =>
    rcases Server.serveStep_cases h with ⟨hpc, rfl⟩ | ⟨hpc, rfl⟩ | ⟨hpc, rfl⟩ | ⟨hpc, rfl⟩ |
      ⟨hpc, -, rfl⟩ | ⟨hpc, rfl⟩ | ⟨hpc, rfl⟩
    · simp [hpc, ServePc.afterReady] at hr
    · simp [hpc, ServePc.afterReady] at hr
    all_goals (try split) <;> simp [hpc, ServePc.afterReady]
  | callShutdown =>
    simp only [Server.step, Option.some.injEq] at h
    exact h ▸ hr
  | shutdown i =>
    rcases Server.shutdownStep_cases h with ⟨-, rfl⟩ | ⟨-, rfl⟩ | ⟨-, rfl⟩ <;> exact hr
  | handler i o =>
    obtain ⟨-, -, -, -, -, rfl⟩ := Server.handlerStep_cases h
    exact hr

/-- How a step may change the status: forward in `StatusStarting < StatusReady <
StatusOnShutdown < StatusClosed`, or by one of the two writes that move it back. -/
def StatusStepAllowed (s : Server) (a : Action) (s' : Server) : Prop :=
  s.status ≤ s'.status ∨
  (∃ i, a = .shutdown i) ∧ s.status = .closed ∧ s'.status = .onShutdown ∨
  (∃ ok, a = .serve ok) ∧ s.serve = .changeStatusReady ∧ s.status = .onShutdown ∧
    s'.status = .ready

theorem Inv.step_status_allowed {s s' : Server} {a : Action} (hi : Inv s)
    (h : s.step a = some s') : StatusStepAllowed s a s' := by
  rcases Server.step_status h with heq | ⟨ha, hpc, hst⟩ | hst | ⟨ha, hst⟩
  · exact .inl (heq ▸ Nat.le_refl _)
  · have hnc : s.status ≠ .closed := fun hc => by
      rcases hi.closed_serve hc with h | h <;> simp [h] at hpc
    cases hs : s.status <;> simp_all [StatusStepAllowed, Status.le_iff, Status.toNat]
  · exact .inl (hst ▸ s.status.le_closed)
  · cases hs : s.status <;> simp_all [StatusStepAllowed, Status.le_iff, Status.toNat]

/-- After `serve`'s `StatusReady` write, a status other than `StatusReady` stays so. -/
theorem Server.step_not_ready {s s' : Server} {a : Action} (h : s.step a = some s')
    (hr : s.serve.afterReady) (hst : s.status ≠ .ready) : s'.status ≠ .ready := by
  rcases Server.step_status h with heq | ⟨-, hpc, -⟩ | hst' | ⟨-, hst'⟩
  · rwa [heq]
  · simp [hpc, ServePc.afterReady] at hr
  all_goals simp [hst']

theorem Server.run_not_ready {s s' : Server} {as : List Action} (h : s.run as = some s')
    (hr : s.serve.afterReady) (hst : s.status ≠ .ready) : s'.status ≠ .ready :=
  (runSteps_invariant (P := fun s => s.serve.afterReady ∧ s.status ≠ .ready)
    (fun ⟨hr, hst⟩ h => ⟨Server.step_afterReady h hr, Server.step_not_ready h hr hst⟩)
    ⟨hr, hst⟩ h).2

/-- The order the status keeps from a state on: each step moves it forward or is one of the two
writes that move it back; and once `serve` has set `StatusReady` and the status has left it, the
readiness handler answers 503 for the rest of the run. -/
structure StatusOrder (s : Server) : Prop where
  step_allowed : ∀ a s', s.step a = some s' → StatusStepAllowed s a s'
  never_ready_again : s.serve.afterReady → s.status ≠ .ready →
    ∀ as s', s.run as = some s' → readinessHandler s'.status = 503

theorem status_forward_except_two_writes {s : Server} (hs : Reachable s) : StatusOrder s where
  step_allowed _ _ h := hs.inv.step_status_allowed h
  never_ready_again hr hst _ _ h := by
    simp [readinessHandler, Server.run_not_ready h hr hst]

/-- `ListenAndServe` has started serving and a `Shutdown` has run to completion. -/
def shutdownWhileServing : Server := ⟨.onShutdown, .closed, 0, .accept, [.returned .nil], []⟩

theorem shutdownWhileServing_run :
    Server.init.run [.serve true, .serve true, .callShutdown, .shutdown 0, .shutdown 0,
      .shutdown 0] = some shutdownWhileServing := by
  decide

theorem status_order_after_shutdown :
    Reachable shutdownWhileServing ∧ StatusOrder shutdownWhileServing :=
  have hs : Reachable shutdownWhileServing := Reachable.init.run shutdownWhileServing_run
  ⟨hs, status_forward_except_two_writes hs⟩

/-- A `Shutdown` ends `ListenAndServe`, then a second `Shutdown` finds `s.listener` still set and
passes its `nil` check after `serve` has set `StatusClosed`. -/
def lateShutdown : List Action :=
  [.serve true, .serve true, .callShutdown, .shutdown 0, .shutdown 0, .shutdown 0,
    .serve true, .serve true, .serve true, .serve true, .serve true, .callShutdown, .shutdown 1]

def afterListenAndServe : Server :=
  ⟨.closed, .closed, 0, .returned, [.returned .nil, .changeStatus], []⟩

/-- The second `Shutdown`'s `changeStatus(StatusOnShutdown)` moves the status from
`StatusClosed` back to `StatusOnShutdown`. -/
theorem status_can_move_back :
    ¬ ∀ s a s', Reachable s → s.step a = some s' → s.status ≤ s'.status := by
  intro h
  have hle := h afterListenAndServe (.shutdown 1)
    ⟨.onShutdown, .closed, 0, .returned, [.returned .nil, .close], []⟩
    (Reachable.init.run (by decide : Server.init.run lateShutdown = some afterListenAndServe))
    (by decide)
  exact absurd hle (by decide)

end Sshd
