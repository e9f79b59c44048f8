import Sshd.Invariant

/-!
# Repeated `Shutdown` calls

`Shutdown` returns `nil` without doing anything while `s.listener` is `nil`. Once `listen` has set
it, nothing resets it: every later call writes `StatusOnShutdown` and returns what `Close` returns,
and `Close` on a listener that is already closed returns an error. So after the listener has been
closed, by a `Shutdown` or by the deferred `Close` of `ListenAndServe`, it stays closed, and every
`Shutdown` call made from then on returns that error.
-/

namespace Sshd

/-- Where a `Shutdown` call made once the listener is closed can be: not yet returned, or
returned with the error of `Close`. -/
def ShutdownPc.afterClose : ShutdownPc → Prop
  | .returned e => e = .errClosed
  | _ => True

/-- The `Shutdown` calls from index `n` on are all in a position `afterClose` allows. -/
def LateShutdowns (n : Nat) (s : Server) : Prop :=
  s.listener = .closed ∧ ∀ k pc, n ≤ k → s.shutdowns[k]? = some pc → pc.afterClose

theorem afterClose_set {n i : Nat} {l : List ShutdownPc} {x : ShutdownPc} (hx : x.afterClose)
    (hl : ∀ k pc, n ≤ k → l[k]? = some pc → pc.afterClose) :
    ∀ k pc, n ≤ k → (l.set i x)[k]? = some pc → pc.afterClose := by
  intro k pc hnk hget
  rw [List.getElem?_set] at hget
  split at hget
  · split at hget <;> cases hget
    exact hx
  · exact hl k pc hnk hget

theorem LateShutdowns.step {n : Nat} {s s' : Server} {a : Action} (hi : Inv s)
    (h : LateShutdowns n s) (hs : s.step a = some s') : LateShutdowns n s' := by
  obtain ⟨hl, hk⟩ := h
  cases a with
  | serve ok =>
    rcases Server.serveStep_cases hs with ⟨hpc, rfl⟩ | ⟨hpc, rfl⟩ | ⟨hpc, rfl⟩ | ⟨hpc, rfl⟩ |
      ⟨hpc, -, rfl⟩ | ⟨hpc, rfl⟩ | ⟨hpc, rfl⟩
    · simp [hi.unset_iff.2 (.inl hpc)] at hl
    all_goals first | (split <;> exact ⟨hl, hk⟩) | exact ⟨by simp [hl], hk⟩
  | callShutdown =>
    simp only [Server.step, Option.some.injEq] at hs
    subst hs
    refine ⟨hl, fun k pc hnk hget => ?_⟩
    rw [List.getElem?_append] at hget
    split at hget
    · exact hk k pc hnk hget
    · cases List.mem_singleton.1 (List.getElem?_mem hget)
      trivial
  | shutdown i =>
    rcases Server.shutdownStep_cases hs with ⟨-, rfl⟩ | ⟨-, rfl⟩ | ⟨-, rfl⟩
    · exact ⟨hl, afterClose_set (by simp [hl, ShutdownPc.afterClose]) hk⟩
    · exact ⟨hl, afterClose_set trivial hk⟩
    · exact ⟨by simp [hl], afterClose_set (by simp [hl, ShutdownPc.afterClose]) hk⟩
  | handler i o =>
    obtain ⟨-, -, -, -, -, rfl⟩ := Server.handlerStep_cases hs
    exact ⟨hl, hk⟩

theorem LateShutdowns.run {n : Nat} {s s' : Server} {as : List Action} (hs : Reachable s)
    (h : LateShutdowns n s) (hr : s.run as = some s') : LateShutdowns n s' :=
  (runSteps_invariant (P := fun s => Reachable s ∧ LateShutdowns n s)
    (fun ⟨hs, h⟩ h₁ => ⟨hs.step _ h₁, h.step hs.inv h₁⟩) ⟨hs, h⟩ hr).2

/-- Once the listener is closed, every `Shutdown` call made from then on is a late one. -/
theorem LateShutdowns.of_closed {s : Server} (hl : s.listener = .closed) :
    LateShutdowns s.shutdowns.length s :=
  ⟨hl, fun k pc hnk hget => by simp [List.getElem?_eq_none hnk] at hget⟩

/-- A late `Shutdown` call is never blocked: wherever it is, at most three steps of its own make
it return the error of `Close`. -/
theorem LateShutdowns.returns_within_three_steps {n k : Nat} {s : Server} {pc : ShutdownPc}
    (h : LateShutdowns n s) (hk : n ≤ k) (hpc : s.shutdowns[k]? = some pc) :
    ∃ m ≤ 3, ∃ s', s.run (List.replicate m (.shutdown k)) = some s' ∧
      s'.shutdowns[k]? = some (.returned .errClosed) := by
  obtain ⟨hl, hafter⟩ := h
  have hlt : k < s.shutdowns.length := (List.getElem?_eq_some_iff.1 hpc).1
  cases pc with
  | returned e =>
    have he : e = .errClosed := hafter k _ hk hpc
    exact ⟨0, by omega, s, rfl, he ▸ hpc⟩
  | checkListener =>
    exact ⟨3, by omega, by
      simp [List.replicate, Server.run_cons, Server.step, Server.shutdownStep, hpc, hl, hlt]⟩
  | changeStatus =>
    exact ⟨2, by omega, by
      simp [List.replicate, Server.run_cons, Server.step, Server.shutdownStep, hpc, hl, hlt]⟩
  | close =>
    exact ⟨1, by omega, by
      simp [List.replicate, Server.run_cons, Server.step, Server.shutdownStep, hpc, hl, hlt]⟩

/-- `Shutdown` returns `nil` with no effect while `s.listener` is `nil`: a call whose check finds
it unset returns `nil` and changes nothing else. Once the listener is closed it stays closed, and
every `Shutdown` call made from then on returns the error of `Close` on a closed listener: whatever
the interleaving, a call that has returned returned that error, and one that has not is never
blocked, at most three steps of its own making it return. -/
theorem shutdown_after_close_returns_error :
    (∀ (s : Server) (i : Nat), s.shutdowns[i]? = some .checkListener → s.listener = .unset →
      s.step (.shutdown i) = some (s.setShutdown i (.returned .nil))) ∧
    ∀ (s s' : Server) (as : List Action), Reachable s → s.listener = .closed →
      s.run as = some s' →
      s'.listener = .closed ∧
        (∀ k e, s.shutdowns.length ≤ k → s'.shutdowns[k]? = some (.returned e) → e = .errClosed) ∧
        ∀ k pc, s.shutdowns.length ≤ k → s'.shutdowns[k]? = some pc →
          ∃ m ≤ 3, ∃ s₂, s'.run (List.replicate m (.shutdown k)) = some s₂ ∧
            s₂.shutdowns[k]? = some (.returned .errClosed) := by
  refine ⟨fun s i hpc hl => by simp [Server.step, Server.shutdownStep, hpc, hl], ?_⟩
  intro s s' as hs hl h
  have hlate := (LateShutdowns.of_closed hl).run hs h
  exact ⟨hlate.1, fun k _ hnk hget => hlate.2 k _ hnk hget,
    fun _ _ hnk hget => hlate.returns_within_three_steps hnk hget⟩

/-- A `Shutdown` call made before `ListenAndServe` has run `listen`. -/
def shutdownBeforeListen : Server := ⟨.starting, .unset, 0, .listen, [.checkListener], []⟩

/-- `ListenAndServe` serves, a `Shutdown` closes the listener and returns `nil`, and the server
drains and returns. -/
def shutdownThenReturn : List Action :=
  [.serve true, .serve true, .callShutdown, .shutdown 0, .shutdown 0, .shutdown 0,
    .serve true, .serve true, .serve true, .serve true, .serve true]

def listenAndServeReturned : Server := ⟨.closed, .closed, 0, .returned, [.returned .nil], []⟩

/-- A second `Shutdown` call, made after the first has returned `nil`. -/
def secondShutdown : List Action := [.callShutdown, .shutdown 1, .shutdown 1, .shutdown 1]

def afterSecondShutdown : Server :=
  ⟨.onShutdown, .closed, 0, .returned, [.returned .nil, .returned .errClosed], []⟩

theorem shutdownThenReturn_run : Server.init.run shutdownThenReturn = some listenAndServeReturned := by
  decide

/-- The second call returns the error of `Close` and moves the status from `StatusClosed` to
`StatusOnShutdown`, where the first returned `nil`. -/
theorem later_shutdown_not_idempotent :
    Server.init.run shutdownThenReturn = some listenAndServeReturned ∧
    listenAndServeReturned.shutdowns = [.returned .nil] ∧
    listenAndServeReturned.status = .closed ∧
    listenAndServeReturned.run secondShutdown = some afterSecondShutdown ∧
    afterSecondShutdown.shutdowns[1]? = some (.returned .errClosed) ∧
    afterSecondShutdown.status = .onShutdown :=
  ⟨shutdownThenReturn_run, rfl, rfl, by decide, rfl, rfl⟩

/-- The second call has been made and has not run yet. -/
def secondShutdownCalled : Server :=
  ⟨.closed, .closed, 0, .returned, [.returned .nil, .checkListener], []⟩

/-- A call made before `listen` returns `nil` and leaves the server as it was; a call made after
`ListenAndServe` has returned returns the error of `Close`. -/
theorem shutdown_before_listen_and_after_close :
    (Server.init.run [.callShutdown] = some shutdownBeforeListen ∧
      shutdownBeforeListen.shutdowns[0]? = some .checkListener ∧
      shutdownBeforeListen.listener = .unset ∧
      shutdownBeforeListen.step (.shutdown 0) =
        some (shutdownBeforeListen.setShutdown 0 (.returned .nil))) ∧
    Reachable listenAndServeReturned ∧ listenAndServeReturned.listener = .closed ∧
    listenAndServeReturned.run [.callShutdown] = some secondShutdownCalled ∧
    secondShutdownCalled.listener = .closed ∧
    (∀ k e, listenAndServeReturned.shutdowns.length ≤ k →
      secondShutdownCalled.shutdowns[k]? = some (.returned e) → e = .errClosed) ∧
    ∀ k pc, listenAndServeReturned.shutdowns.length ≤ k →
      secondShutdownCalled.shutdowns[k]? = some pc →
        ∃ m ≤ 3, ∃ s₂, secondShutdownCalled.run (List.replicate m (.shutdown k)) = some s₂ ∧
          s₂.shutdowns[k]? = some (.returned .errClosed) :=
  have hs : Reachable listenAndServeReturned := Reachable.init.run shutdownThenReturn_run
  have hrun : listenAndServeReturned.run [.callShutdown] = some secondShutdownCalled := rfl
  ⟨⟨rfl, rfl, rfl, shutdown_after_close_returns_error.1 _ 0 rfl rfl⟩, hs, rfl, hrun,
    shutdown_after_close_returns_error.2 _ _ _ hs rfl hrun⟩

end Sshd
