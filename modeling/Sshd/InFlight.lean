import Sshd.Invariant

/-!
# In-flight handlers and the `WaitGroup`

`serve` adds one to `s.wg` for each connection it hands to `handleConn`, and each handler's
deferred `s.wg.Done()` takes it off again. Over every interleaving with `Shutdown` and with the
other handlers, and whichever way each handler's body ends, the counter is the number of handlers
that have not exited; each handler closes its connection and calls `Done` exactly once; no panic of
a handler reaches the runtime; and `StatusClosed` is only seen once the loop has exited and the
counter has drained.
-/

namespace Sshd

theorem Inv.wg_nonneg {s : Server} (hi : Inv s) : 0 ≤ s.wg := by
  rw [hi.wg_eq]
  omega

/-- Once the counter is zero, every handler has exited. -/
theorem Server.all_exited {s : Server} (h0 : s.inFlight = 0) :
    ∀ h ∈ s.handlers, h.pc = .exited := by
  intro h hh
  have := List.countP_eq_zero.1 h0 h hh
  simpa [Handler.inFlight] using this

/-- What the in-flight bookkeeping guarantees in a state: the counter of `s.wg` is the number of
handlers that have not exited and is never negative; every handler has closed its connection and
called `Done` at most once, and exactly once when it has exited; no handler has ended in an
unrecovered panic; a handler's step leaves the status and the accept loop as they are; and once the
status is `StatusClosed` the counter is zero, every handler has exited and the loop is over. -/
structure InFlightSafe (s : Server) : Prop where
  counter : s.wg = s.inFlight ∧ 0 ≤ s.wg
  close_done_once : ∀ h ∈ s.handlers, h.connCloses ≤ 1 ∧ h.dones ≤ 1 ∧
    (h.pc = .exited → h.connCloses = 1 ∧ h.dones = 1)
  no_crash : ∀ h ∈ s.handlers, h.pc ≠ .crashed
  handler_frame : ∀ i o s', s.step (.handler i o) = some s' →
    s'.status = s.status ∧ s'.serve = s.serve
  closed_drained : s.status = .closed → s.wg = 0 ∧ (∀ h ∈ s.handlers, h.pc = .exited) ∧
    (s.serve = .closeListener ∨ s.serve = .returned)

/-- A connection whose SSH handshake panics: the handler still cancels its context, recovers the
panic, closes the connection and calls `Done`, and the accept loop goes on. -/
def panicInHandshake : List Action :=
  [.serve true, .serve true, .serve true, .handler 0 .ok, .handler 0 .ok, .handler 0 .ok,
    .handler 0 .ok, .handler 0 .panic, .handler 0 .ok, .handler 0 .ok, .handler 0 .ok,
    .handler 0 .ok]

def afterHandshakePanic : Server :=
  ⟨.ready, .open, 0, .accept, [], [⟨.exited, [], false, 1, 1, true⟩]⟩

theorem panicInHandshake_run : Server.init.run panicInHandshake = some afterHandshakePanic := by
  decide

/-- A `Shutdown` call at `Close` or returned: past its `changeStatus(StatusOnShutdown)`, unless its
nil check returned. -/
def ShutdownPc.pastStatusWrite : ShutdownPc → Bool
  | .close | .returned _ => true
  | _ => false

def Server.ShutdownPast (s : Server) (i : Nat) : Prop := (s.shutdowns[i]?).any ShutdownPc.pastStatusWrite

theorem Server.shutdownPast_of_set {s s' : Server} {i j : Nat} {pc : ShutdownPc}
    (hsh : s'.shutdowns = s.shutdowns.set i pc) (hij : j ≠ i) : s'.ShutdownPast j ↔ s.ShutdownPast j := by
  rw [Server.ShutdownPast, hsh, List.getElem?_set_ne (Ne.symm hij), Server.ShutdownPast]

theorem Server.shutdownPast_of_set_self {s s' : Server} {i : Nat} {pc : ShutdownPc}
    (hsh : s'.shutdowns = s.shutdowns.set i pc) (hlen : i < s.shutdowns.length) :
    s'.ShutdownPast i ↔ pc.pastStatusWrite = true := by
  rw [Server.ShutdownPast, hsh, List.getElem?_set_self hlen, Option.any_some]

/-- Moving a call that is not past its `changeStatus` leaves every other call where it was. -/
theorem Server.shutdownPast_of_set_of_not {s s' : Server} {i j : Nat} {pc : ShutdownPc}
    (hsh : s'.shutdowns = s.shutdowns.set i pc) (hi : ¬ s.ShutdownPast i) (hj : s.ShutdownPast j) :
    s'.ShutdownPast j :=
  (Server.shutdownPast_of_set hsh fun he => hi (he ▸ hj)).2 hj

/-- Since `serve` wrote `StatusClosed` in `s₀`: `serve` is past that write, every call past its
`changeStatus` in `s₀` still is, and the status is `StatusClosed` unless a call has passed its
`changeStatus` since. -/
def ClosedSince (s₀ s : Server) : Prop :=
  (s.serve = .closeListener ∨ s.serve = .returned) ∧ (∀ i, s₀.ShutdownPast i → s.ShutdownPast i) ∧
    (s.status = .closed ∨ ∃ i, s.ShutdownPast i ∧ ¬ s₀.ShutdownPast i)

/-- A step that leaves `serve` and the status alone and keeps every call past its `changeStatus`
keeps `ClosedSince`. -/
theorem ClosedSince.frame {s₀ s s' : Server} (h : ClosedSince s₀ s) (hserve : s'.serve = s.serve)
    (hstatus : s'.status = s.status) (hkeep : ∀ j, s.ShutdownPast j → s'.ShutdownPast j) :
    ClosedSince s₀ s' := by
  obtain ⟨hpc, hmono, hst⟩ := h
  refine ⟨hserve ▸ hpc, fun j hj => hkeep j (hmono j hj), ?_⟩
  rcases hst with hst | ⟨j, hj, hj₀⟩
  · exact .inl (hstatus ▸ hst)
  · exact .inr ⟨j, hkeep j hj, hj₀⟩

theorem ClosedSince.step {s₀ s s' : Server} {a : Action} (h : ClosedSince s₀ s)
    (hs : s.step a = some s') : ClosedSince s₀ s' := by
  cases a with
  | serve ok =>
    -- only the deferred `Close` follows the write, and it writes no status
    rcases Server.serveStep_cases hs with ⟨hpc, rfl⟩ | ⟨hpc, rfl⟩ | ⟨hpc, rfl⟩ | ⟨hpc, rfl⟩ |
      ⟨hpc, -, rfl⟩ | ⟨hpc, rfl⟩ | ⟨hpc, rfl⟩
    all_goals first
      | exact ⟨.inr rfl, h.2⟩
      | (exfalso; rcases h.1 with h | h <;> simp [h] at hpc)
  | callShutdown =>
    simp only [Server.step, Option.some.injEq] at hs
    subst hs
    refine h.frame rfl rfl fun j hj => ?_
    have hlt : j < s.shutdowns.length := by
      by_contra hge
      simp [Server.ShutdownPast, List.getElem?_eq_none (Nat.le_of_not_lt hge)] at hj
    simpa [Server.ShutdownPast, List.getElem?_append_left hlt] using hj
  | shutdown i =>
    rcases Server.shutdownStep_cases hs with ⟨hpc, rfl⟩ | ⟨hpc, rfl⟩ | ⟨hpc, rfl⟩ <;>
      have hlen := (List.getElem?_eq_some_iff.1 hpc).1
    · -- the nil check: the call was not past its `changeStatus`, and writes no status
      have hi : ¬ s.ShutdownPast i := by simp [Server.ShutdownPast, hpc, ShutdownPc.pastStatusWrite]
      exact h.frame rfl rfl fun _ hj => Server.shutdownPast_of_set_of_not rfl hi hj
    · -- `changeStatus(StatusOnShutdown)`: this call passes it now
      have hi : ¬ s.ShutdownPast i := by simp [Server.ShutdownPast, hpc, ShutdownPc.pastStatusWrite]
      obtain ⟨hpc', hmono, -⟩ := h
      exact ⟨hpc', fun j hj => Server.shutdownPast_of_set_of_not rfl hi (hmono j hj),
        .inr ⟨i, (Server.shutdownPast_of_set_self rfl hlen).2 (by rfl), fun h₀ => hi (hmono i h₀)⟩⟩
    · -- `Close` writes no status, and the call stays past its `changeStatus`
      refine h.frame rfl rfl fun j hj => ?_
      by_cases hij : j = i
      · subst hij
        exact (Server.shutdownPast_of_set_self rfl hlen).2 (by rfl)
      · exact (Server.shutdownPast_of_set rfl hij).2 hj
  | handler i o =>
    obtain ⟨-, -, -, -, -, rfl⟩ := Server.handlerStep_cases hs
    exact h.frame rfl rfl fun _ hj => hj

/-- `ListenAndServe` returns `nil` only once the accept loop has exited, every handler has exited
and `s.wg` has drained, and its deferred `Close` has closed the listener. Its `StatusClosed` write
holds: from that write on, whatever the other goroutines do, the status stays `StatusClosed` unless
a `Shutdown` call passes its own `changeStatus(StatusOnShutdown)` afterwards. -/
theorem listenAndServe_returns_drained :
    (∀ s : Server, Reachable s → s.serve = .returned →
      s.wg = 0 ∧ (∀ h ∈ s.handlers, h.pc = .exited) ∧ s.listener = .closed ∧
        (s.status = .closed ∨ s.status = .onShutdown)) ∧
    ∀ (s s' : Server) (ok : Bool) (as : List Action), s.serve = .changeStatusClosed →
      s.run (.serve ok :: as) = some s' →
      s'.status = .closed ∨ ∃ i, s'.ShutdownPast i ∧ ¬ s.ShutdownPast i := by
  refine ⟨fun s hs hr => ?_, fun s s' ok as hpc h => ?_⟩
  · have hi := hs.inv
    have h0 : s.inFlight = 0 := hi.drained (by simp [hr, ServePc.pastWait])
    exact ⟨by rw [hi.wg_eq, h0]; rfl, Server.all_exited h0, hi.returned_closed hr,
      hi.closing_status (.inr hr)⟩
  · obtain ⟨s₁, h₁, h₂⟩ := Option.bind_eq_some.1 h
    have h0 : ClosedSince s s₁ := by
      simp only [Server.step, Server.serveStep, hpc, Option.some.injEq] at h₁
      subst h₁
      exact ⟨.inl rfl, fun _ hi => hi, .inl rfl⟩
    exact (runSteps_invariant (fun h hs => ClosedSince.step h hs) h0 h₂).2.2

/-- A connection whose SSH handshake fails, then a `Shutdown`, and `ListenAndServe` returns. -/
def handshakeFailThenShutdown : List Action :=
  [.serve true, .serve true, .serve true, .handler 0 .ok, .handler 0 .ok, .handler 0 .ok,
    .handler 0 .ok, .handler 0 .fail, .handler 0 .ok, .handler 0 .ok, .handler 0 .ok,
    .handler 0 .ok, .callShutdown, .shutdown 0, .shutdown 0, .shutdown 0, .serve true,
    .serve true, .serve true, .serve true, .serve true]

def drainedServer : Server :=
  ⟨.closed, .closed, 0, .returned, [.returned .nil], [⟨.exited, [], false, 1, 1, true⟩]⟩

/-- `serve` is about to write `StatusClosed` after the handler has exited. -/
def closingServer : Server := { drainedServer with status := .onShutdown, serve := .changeStatusClosed }

theorem listenAndServe_returns_after_handshake_failure :
    (Reachable drainedServer ∧ drainedServer.serve = .returned ∧
      drainedServer.wg = 0 ∧ (∀ h ∈ drainedServer.handlers, h.pc = .exited) ∧
      drainedServer.listener = .closed ∧
      (drainedServer.status = .closed ∨ drainedServer.status = .onShutdown)) ∧
    closingServer.serve = .changeStatusClosed ∧
    closingServer.run [.serve true, .serve true] = some drainedServer ∧
    (drainedServer.status = .closed ∨
      ∃ i, drainedServer.ShutdownPast i ∧ ¬ closingServer.ShutdownPast i) :=
  have hs : Reachable drainedServer :=
    Reachable.init.run (by decide : Server.init.run handshakeFailThenShutdown = some drainedServer)
  have hrun : closingServer.run [.serve true, .serve true] = some drainedServer := by decide
  ⟨⟨hs, rfl, listenAndServe_returns_drained.1 _ hs rfl⟩, rfl, hrun,
    listenAndServe_returns_drained.2 _ _ _ _ rfl hrun⟩

end Sshd
