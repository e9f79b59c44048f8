import Sshd.Lifecycle

/-!
# The accept loop and `Shutdown`

`Shutdown` writes `StatusOnShutdown` before it closes the listener, so that the `Accept` error the
close causes is read as the signal to leave the loop. That works when the write comes after
`serve`'s `changeStatus(StatusReady)`: every `Accept` failure after the close then reads
`StatusOnShutdown` and the loop breaks at the first one. But `listen` publishes `s.listener`
before `serve` sets `StatusReady`, and a `Shutdown` that runs in between has its write overwritten:
the loop then reads `StatusReady` at every failure and spins on the closed listener.
-/

namespace Sshd

/-- `serve` is in its accept loop. -/
def ServePc.inLoop (pc : ServePc) : Prop := pc = .accept ∨ pc = .getStatus

/-- While `serve` loops, a `Shutdown` that has written its status, and a closed listener, both
come with `StatusOnShutdown`. -/
def ShutdownSeen (s : Server) : Prop :=
  s.serve.inLoop →
    (.close ∈ s.shutdowns → s.status = .onShutdown) ∧ (s.listener = .closed → s.status = .onShutdown)

theorem ShutdownSeen.serveStep {s s' : Server} {ok : Bool} (h : ShutdownSeen s)
    (hr : s.serve.afterReady) (hs : s.serveStep ok = some s') : ShutdownSeen s' := by
  rcases Server.serveStep_cases hs with ⟨hpc, -⟩ | ⟨hpc, -⟩ | ⟨hpc, rfl⟩ | ⟨hpc, rfl⟩ |
    ⟨hpc, -, rfl⟩ | ⟨hpc, rfl⟩ | ⟨hpc, rfl⟩
  · simp [hpc, ServePc.afterReady] at hr
  · simp [hpc, ServePc.afterReady] at hr
  · have := h (.inl hpc)
    split <;> exact fun _ => this
  · by_cases hst : s.status = .onShutdown
    · simp [ShutdownSeen, ServePc.inLoop, hst]
    · exact fun _ => h (.inr hpc)
  all_goals simp [ShutdownSeen, ServePc.inLoop]

theorem ShutdownSeen.shutdownStep {s s' : Server} {i : Nat} (h : ShutdownSeen s)
    (hs : s.shutdownStep i = some s') : ShutdownSeen s' := by
  rcases Server.shutdownStep_cases hs with ⟨hi, rfl⟩ | ⟨hi, rfl⟩ | ⟨hi, rfl⟩ <;> intro hl <;>
    have hold := h hl
  · refine ⟨fun hc => hold.1 ?_, hold.2⟩
    rcases List.mem_or_eq_of_mem_set hc with hc | hc
    · exact hc
    · split at hc <;> cases hc
  · simp
  · have hst := hold.1 (List.getElem?_mem hi)
    exact ⟨fun _ => hst, fun _ => hst⟩

theorem ShutdownSeen.step {s s' : Server} {a : Action} (h : ShutdownSeen s)
    (hr : s.serve.afterReady) (hs : s.step a = some s') : ShutdownSeen s' := by
  cases a with
  | serve ok => exact h.serveStep hr hs
  | callShutdown =>
    simp only [Server.step, Option.some.injEq] at hs
    subst hs
    intro hl
    exact ⟨fun hc => (h hl).1 (by simpa using hc), (h hl).2⟩
  | shutdown i => exact h.shutdownStep hs
  | handler i o =>
    obtain ⟨-, -, -, -, -, rfl⟩ := Server.handlerStep_cases hs
    exact h

theorem ShutdownSeen.run {s s' : Server} {as : List Action} (h : ShutdownSeen s)
    (hr : s.serve.afterReady) (hs : s.run as = some s') : ShutdownSeen s' :=
  (runSteps_invariant (P := fun s => ShutdownSeen s ∧ s.serve.afterReady)
    (fun ⟨h, hr⟩ h₁ => ⟨h.step hr h₁, Server.step_afterReady h₁ hr⟩) ⟨h, hr⟩ hs).1

/-- A `Shutdown` whose status write comes after `serve`'s `StatusReady` write ends the loop: from
a state where `serve` has made that write, the listener is open and no `Shutdown` sits between its
write and its `Close`, every `Accept` failure observed after the listener is closed reads
`StatusOnShutdown`, and the loop breaks there to `wg.Wait()`. -/
theorem accept_loop_breaks_after_shutdown {s s' : Server} {as : List Action}
    (hr : s.serve.afterReady) (hl : s.listener = .open) (hc : .close ∉ s.shutdowns)
    (h : s.run as = some s') (hg : s'.serve = .getStatus) (hcl : s'.listener = .closed) :
    s'.status = .onShutdown ∧ ∀ ok, s'.step (.serve ok) = some { s' with serve := .wait } := by
  have hseen : ShutdownSeen s := fun _ => ⟨fun h => absurd h hc, fun h => by simp [hl] at h⟩
  have hst := ((hseen.run hr h) (.inr hg)).2 hcl
  exact ⟨hst, fun _ => by simp [Server.step, Server.serveStep, hg, hst]⟩

/-- `serve` is serving on an open listener. -/
def serving : Server := ⟨.ready, .open, 0, .accept, [], []⟩

/-- A `Shutdown` has run to completion and the `Accept` it interrupted has failed. -/
def acceptFailedAfterShutdown : Server := ⟨.onShutdown, .closed, 0, .getStatus, [.returned .nil], []⟩

theorem accept_loop_breaks_while_serving :
    serving.run [.callShutdown, .shutdown 0, .shutdown 0, .shutdown 0, .serve true] =
      some acceptFailedAfterShutdown ∧
    acceptFailedAfterShutdown.status = .onShutdown ∧
    ∀ ok, acceptFailedAfterShutdown.step (.serve ok) =
      some { acceptFailedAfterShutdown with serve := .wait } :=
  have hrun : serving.run [.callShutdown, .shutdown 0, .shutdown 0, .shutdown 0, .serve true] =
      some acceptFailedAfterShutdown := by decide
  ⟨hrun, accept_loop_breaks_after_shutdown (s := serving) trivial rfl (by decide) hrun rfl rfl⟩

/-! ## A `Shutdown` between `listen` and `serve` -/

/-- `listen` publishes the listener; a `Shutdown` finds it set, writes `StatusOnShutdown`, closes
it and returns `nil`; only then does `serve` make its `StatusReady` write. -/
def shutdownBeforeReady : List Action :=
  [.serve true, .callShutdown, .shutdown 0, .shutdown 0, .shutdown 0, .serve true]

def readyOnClosedListener : Server := ⟨.ready, .closed, 0, .accept, [.returned .nil], []⟩

/-- In the loop, reading `StatusReady`, on a closed listener. -/
def Spinning (s : Server) : Prop :=
  s.status = .ready ∧ s.listener = .closed ∧ s.serve.inLoop

theorem Spinning.serveStep {s : Server} (h : Spinning s) (ok : Bool) :
    ∃ s', s.serveStep ok = some s' ∧ Spinning s' := by
  obtain ⟨hst, hl, hpc | hpc⟩ := h
  · exact ⟨{ s with serve := .getStatus }, by simp [Server.serveStep, hpc, hl], hst, hl, .inr rfl⟩
  · exact ⟨{ s with serve := .accept }, by simp [Server.serveStep, hpc, hst], hst, hl, .inl rfl⟩

/-- After that schedule, every `Accept` fails on the closed listener, `getStatus()` reads
`StatusReady` and the loop continues: however many steps `serve` takes, it never reaches
`wg.Wait()`. -/
theorem accept_loop_spins_after_early_shutdown :
    Server.init.run shutdownBeforeReady = some readyOnClosedListener ∧
    ∀ oks : List Bool, ∃ s', readyOnClosedListener.run (oks.map .serve) = some s' ∧
      s'.serve ≠ .wait ∧ s'.status = .ready := by
  refine ⟨by decide, fun oks => ?_⟩
  suffices ∀ s, Spinning s → ∃ s', s.run (oks.map .serve) = some s' ∧ Spinning s' by
    obtain ⟨s', hs', hst, -, hpc | hpc⟩ := this readyOnClosedListener ⟨rfl, rfl, .inl rfl⟩ <;>
      exact ⟨s', hs', by simp [hpc], hst⟩
  induction oks with
  | nil => exact fun s h => ⟨s, rfl, h⟩
  | cons ok oks ih =>
    intro s h
    obtain ⟨s₁, h₁, hsp⟩ := h.serveStep ok
    obtain ⟨s', h', hsp'⟩ := ih s₁ hsp
    exact ⟨s', by simp [Server.run_cons, Server.step, h₁, h'], hsp'⟩

end Sshd
