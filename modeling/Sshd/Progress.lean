import Sshd.AcceptLoop

/-!
# `ListenAndServe` can always return

No interleaving deadlocks the server. From every reachable state in which `listen` has not failed,
some continuation of the schedule, with some answers of the network and of the handlers' bodies,
makes `ListenAndServe` return `nil`. A `Shutdown` call run to completion breaks the accept loop;
this includes the loop that spins after an early `Shutdown`, once a second call is made. Each
handler can run to its deferred `s.wg.Done()`, so `wg.Wait()` returns, and `serve` then sets
`StatusClosed` and closes the listener.
-/

namespace Sshd

/-- How many steps a handler still takes when each of its steps fails: the deferred calls still to
register, the failed handshake, and the deferred calls still to run. -/
def Handler.remaining (h : Handler) : Nat :=
  match h.pc with
  | .deferDone => 9
  | .deferClose => 8
  | .deferRecover => 7
  | .withCancel => 6
  | .newServerConn | .handle => 5
  | .unwinding => h.defers.length
  | .exited | .crashed => 0

/-- A handler that has not exited can always take a step, and a failing one brings it closer to
its exit. -/
theorem Handler.step_fail {h : Handler} (hw : h.Wf) (he : h.pc ≠ .exited) :
    ∃ h' d, h.step .fail = some (h', d) ∧ h'.remaining < h.remaining := by
  rcases h with ⟨pc, defers, panicking, closes, dones, canceled⟩
  cases pc
  case unwinding =>
    obtain ⟨d, rest, rfl⟩ := List.exists_cons_of_ne_nil (hw.defers_ne_nil rfl)
    obtain ⟨-, hpc', -⟩ := Handler.unwind_spec hw rfl rfl
    refine ⟨_, _, rfl, ?_⟩
    by_cases hr : rest = []
    · subst hr
      simp [Handler.remaining, hpc']
    · simp [Handler.remaining, hpc', hr]
  case exited => exact absurd rfl he
  case crashed => exact absurd rfl hw.pc_ne_crashed
  all_goals
    simp only [Handler.Wf, HandlerPc.registered] at hw
    simp [Handler.step, Handler.remaining, Handler.leave, hw.1]

/-- `s'` agrees with `s` on everything but the handlers and the counter of `s.wg`. -/
def Server.SameControl (s s' : Server) : Prop :=
  s'.status = s.status ∧ s'.listener = s.listener ∧ s'.serve = s.serve ∧ s'.shutdowns = s.shutdowns

theorem Server.SameControl.refl (s : Server) : s.SameControl s := ⟨rfl, rfl, rfl, rfl⟩

theorem Server.SameControl.trans {s₁ s₂ s₃ : Server} (h₁ : s₁.SameControl s₂)
    (h₂ : s₂.SameControl s₃) : s₁.SameControl s₃ :=
  ⟨h₂.1.trans h₁.1, h₂.2.1.trans h₁.2.1, h₂.2.2.1.trans h₁.2.2.1, h₂.2.2.2.trans h₁.2.2.2⟩

variable {s s₁ s' : Server} {as : List Action}

theorem Server.run_append_some {bs : List Action} (h : s.run as = some s₁)
    (h₁ : s₁.run bs = some s') : s.run (as ++ bs) = some s' := by
  simp [Server.run_append, h, h₁]

/-- Some continuation of the schedule makes `ListenAndServe` return `nil`. -/
def Server.CanReturn (s : Server) : Prop := ∃ as s', s.run as = some s' ∧ s'.serve = .returned

theorem Server.CanReturn.of_run (h : s.run as = some s₁) (h₁ : s₁.CanReturn) : s.CanReturn := by
  obtain ⟨bs, s', h', hr⟩ := h₁
  exact ⟨as ++ bs, s', Server.run_append_some h h', hr⟩

/-- A handler in flight can always be run to its exit, failing at each step; nothing but the
handlers and the counter moves meanwhile. -/
theorem Reachable.drive_handler {s : Server} {i : Nat} {h : Handler} (hs : Reachable s)
    (hget : s.handlers[i]? = some h) (he : h.pc ≠ .exited) :
    ∃ as s' h', s.run as = some s' ∧ s'.handlers = s.handlers.set i h' ∧ h'.pc = .exited ∧
      s.SameControl s' := by
  obtain ⟨h₁, d, hstep, hlt⟩ :=
    Handler.step_fail (hs.inv.handlers_wf h (List.getElem?_mem hget)) he
  have hs₁ : s.step (.handler i .fail) =
      some { s with handlers := s.handlers.set i h₁, wg := if d then s.wg - 1 else s.wg } := by
    simp [Server.step, Server.handlerStep, hget, hstep]
  have hc₁ : s.SameControl _ := Server.handlerStep_frame hs₁
  by_cases he₁ : h₁.pc = .exited
  · exact ⟨[.handler i .fail], _, h₁, by simp [Server.run_cons, hs₁], rfl, he₁, hc₁⟩
  · obtain ⟨hi, -⟩ := List.getElem?_eq_some_iff.1 hget
    obtain ⟨as, s', h', hrun, hh, he', hc⟩ :=
      (hs.step _ hs₁).drive_handler (List.getElem?_set_self hi) he₁
    exact ⟨.handler i .fail :: as, s', h', by simp [Server.run_cons, hs₁, hrun],
      hh.trans (List.set_set _ _ _ _), he', hc₁.trans hc⟩
termination_by h.remaining

/-- The handlers can always be run until none is in flight. -/
theorem Reachable.drain (hs : Reachable s) :
    ∃ as s', s.run as = some s' ∧ s'.inFlight = 0 ∧ s.SameControl s' := by
  obtain ⟨n, hn⟩ : ∃ n, s.inFlight = n := ⟨_, rfl⟩
  induction n generalizing s with
  | zero => exact ⟨[], s, rfl, hn, Server.SameControl.refl s⟩
  | succ n ih =>
    obtain ⟨h, hmem, hfl⟩ := List.countP_pos_iff.1 (show 0 < s.inFlight by omega)
    obtain ⟨i, hget⟩ := List.mem_iff_getElem?.1 hmem
    have he : h.pc ≠ .exited := by simpa [Handler.inFlight] using hfl
    obtain ⟨as, s₁, h', hrun, hh, he', hc⟩ := hs.drive_handler hget he
    have hn₁ : s₁.inFlight = n := by
      obtain ⟨hi, rfl⟩ := List.getElem?_eq_some_iff.1 hget
      have hcount := List.countP_set Handler.inFlight s.handlers i h' hi
      simp only [Server.inFlight] at hn ⊢
      rw [hh, hcount, hn]
      simp [Handler.inFlight, he, he']
    obtain ⟨bs, s', hrun', h0, hc'⟩ := ih (hs.run hrun) hn₁
    exact ⟨as ++ bs, s', Server.run_append_some hrun hrun', h0, hc.trans hc'⟩

/-- In `wg.Wait()`, the handlers can drain, and then `ListenAndServe` returns. -/
theorem Reachable.canReturn_of_wait (hs : Reachable s) (hpc : s.serve = .wait) : s.CanReturn := by
  obtain ⟨as, s₁, hrun, h0, hc⟩ := hs.drain
  have hwg : s₁.wg = 0 := by rw [(hs.run hrun).inv.wg_eq, h0]; rfl
  refine Server.CanReturn.of_run hrun ⟨[.serve true, .serve true, .serve true], ?_⟩
  simp [Server.run_cons, Server.step, Server.serveStep, hc.2.2.1, hpc, hwg]

/-- In the accept loop, a `Shutdown` call run to completion and the `Accept` it makes fail bring
`serve` to `wg.Wait()`, and then `ListenAndServe` can return. -/
theorem Reachable.canReturn_of_inLoop (hs : Reachable s) (hloop : s.serve.inLoop) :
    s.CanReturn := by
  have hl : s.listener ≠ .unset := by
    rw [Ne, hs.inv.unset_iff]
    rcases hloop with h | h <;> simp [h]
  obtain ⟨s₁, hrun, hst, hcl, hserve⟩ : ∃ s₁, s.run [.callShutdown, .shutdown s.shutdowns.length,
      .shutdown s.shutdowns.length, .shutdown s.shutdowns.length] = some s₁ ∧
      s₁.status = .onShutdown ∧ s₁.listener = .closed ∧ s₁.serve = s.serve := by
    simp [Server.run_cons, Server.step, Server.shutdownStep, Server.setShutdown,
      List.getElem?_concat_length, hl, Listener.close_fst_of_ne_unset hl]
  obtain ⟨bs, s₂, hrun₂, hpc₂⟩ : ∃ bs s₂, s₁.run bs = some s₂ ∧ s₂.serve = .wait := by
    rcases hloop with h | h
    · exact ⟨[.serve true, .serve true],
        by simp [Server.run_cons, Server.step, Server.serveStep, hserve, h, hst, hcl]⟩
    · exact ⟨[.serve true], by simp [Server.run_cons, Server.step, Server.serveStep, hserve, h, hst]⟩
  have hrun' := Server.run_append_some hrun hrun₂
  exact Server.CanReturn.of_run hrun' ((hs.run hrun').canReturn_of_wait hpc₂)

/-- From every reachable state in which `listen` has not failed, some continuation of the
schedule makes `ListenAndServe` return `nil`: no interleaving of the accept loop, the handlers and
the `Shutdown` calls deadlocks the server, and a further `Shutdown` call ends even the loop that
spins after an early one. -/
theorem listenAndServe_can_always_return (hs : Reachable s) (hf : s.serve ≠ .listenFailed) :
    ∃ as s', s.run as = some s' ∧ s'.serve = .returned := by
  cases hpc : s.serve
  case listen =>
    obtain ⟨s₁, hrun, hpc₁⟩ : ∃ s₁, s.run [.serve true, .serve true] = some s₁ ∧
        s₁.serve = .accept := by
      simp [Server.run_cons, Server.step, Server.serveStep, hpc]
    exact Server.CanReturn.of_run hrun ((hs.run hrun).canReturn_of_inLoop (.inl hpc₁))
  case changeStatusReady =>
    obtain ⟨s₁, hrun, hpc₁⟩ : ∃ s₁, s.run [.serve true] = some s₁ ∧ s₁.serve = .accept := by
      simp [Server.run_cons, Server.step, Server.serveStep, hpc]
    exact Server.CanReturn.of_run hrun ((hs.run hrun).canReturn_of_inLoop (.inl hpc₁))
  case accept => exact hs.canReturn_of_inLoop (.inl hpc)
  case getStatus => exact hs.canReturn_of_inLoop (.inr hpc)
  case wait => exact hs.canReturn_of_wait hpc
  case changeStatusClosed =>
    exact ⟨[.serve true, .serve true], by simp [Server.run_cons, Server.step, Server.serveStep, hpc]⟩
  case closeListener =>
    exact ⟨[.serve true], by simp [Server.run_cons, Server.step, Server.serveStep, hpc]⟩
  case returned => exact ⟨[], s, rfl, hpc⟩
  case listenFailed => exact absurd hpc hf

/-- The loop spinning after an early `Shutdown` ends once a second `Shutdown` writes
`StatusOnShutdown` again. -/
theorem spinning_loop_can_still_return :
    Reachable readyOnClosedListener ∧ readyOnClosedListener.serve ≠ .listenFailed ∧
      ∃ as s', readyOnClosedListener.run as = some s' ∧ s'.serve = .returned :=
  have hs : Reachable readyOnClosedListener :=
    Reachable.init.run (by decide : Server.init.run shutdownBeforeReady = some readyOnClosedListener)
  ⟨hs, by decide, listenAndServe_can_always_return hs (by decide)⟩

example : (readyOnClosedListener.run [.callShutdown, .shutdown 1, .shutdown 1, .shutdown 1,
    .serve true, .serve true, .serve true, .serve true, .serve true]).map Server.serve =
      some .returned := by
  decide

end Sshd
