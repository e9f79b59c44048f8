import Sshd.Server

/-!
# The invariant of every reachable state

What holds after any interleaving of `ListenAndServe`, the `Shutdown` calls and the handlers:
every handler keeps its bookkeeping, the counter of `s.wg` is the number of handlers that have not
exited, it is zero once `serve` is past `wg.Wait()`, `StatusClosed` is only ever seen after that,
and the listener is `nil` while `listen` has not run. `inv_step` proves each goroutine's step keeps
it; `Reachable.inv` gives it for every reachable state.
-/

namespace Sshd

/-- `serve` has returned from `s.wg.Wait()`. -/
def ServePc.pastWait : ServePc → Prop
  | .changeStatusClosed | .closeListener | .returned => True
  | _ => False

/-- The number of handlers `s.wg` still counts. -/
def Server.inFlight (s : Server) : Nat := s.handlers.countP Handler.inFlight

/-- The handlers' bookkeeping: each handler's own, and the counter of `s.wg` against them. -/
structure InFlightInv (s : Server) : Prop where
  handlers_wf : ∀ h ∈ s.handlers, h.Wf
  wg_eq : s.wg = s.inFlight
  drained : s.serve.pastWait → s.inFlight = 0

/-- Where `ListenAndServe` is, against the status and the listener. -/
structure LifecycleInv (s : Server) : Prop where
  closed_serve : s.status = .closed → s.serve = .closeListener ∨ s.serve = .returned
  unset_iff : s.listener = .unset ↔ s.serve = .listen ∨ s.serve = .listenFailed
  returned_closed : s.serve = .returned → s.listener = .closed
  closing_status : s.serve = .closeListener ∨ s.serve = .returned →
    s.status = .closed ∨ s.status = .onShutdown

structure Inv (s : Server) extends InFlightInv s, LifecycleInv s : Prop

theorem inv_init : Inv Server.init where
  handlers_wf := by simp [Server.init]
  wg_eq := rfl
  drained := by simp [Server.init, ServePc.pastWait]
  closed_serve := by simp [Server.init]
  unset_iff := by simp [Server.init]
  returned_closed := by simp [Server.init]
  closing_status := by simp [Server.init]

/-! ## Each goroutine's step keeps the invariant -/

theorem LifecycleInv.serveStep {s s' : Server} {ok : Bool} (hi : LifecycleInv s)
    (hs : s.serveStep ok = some s') : LifecycleInv s' := by
  obtain ⟨hcl, hun, hret, hcs⟩ := hi
  rcases Server.serveStep_cases hs with ⟨hpc, rfl⟩ | ⟨hpc, rfl⟩ | ⟨hpc, rfl⟩ | ⟨hpc, rfl⟩ |
    ⟨hpc, -, rfl⟩ | ⟨hpc, rfl⟩ | ⟨hpc, rfl⟩
  all_goals clear hs; (try split) <;> constructor <;> simp_all [Listener.close_fst_of_ne_unset]

theorem InFlightInv.serveStep {s s' : Server} {ok : Bool} (hi : InFlightInv s)
    (hs : s.serveStep ok = some s') : InFlightInv s' := by
  obtain ⟨hwf, hwg, hdr⟩ := hi
  rcases Server.serveStep_cases hs with ⟨hpc, rfl⟩ | ⟨hpc, rfl⟩ | ⟨hpc, rfl⟩ | ⟨hpc, rfl⟩ |
    ⟨hpc, h0, rfl⟩ | ⟨hpc, rfl⟩ | ⟨hpc, rfl⟩
  · split <;> exact ⟨hwf, hwg, by simp [ServePc.pastWait]⟩
  · exact ⟨hwf, hwg, by simp [ServePc.pastWait]⟩
  · split
    · refine ⟨?_, ?_, by simp [ServePc.pastWait, hpc]⟩
      · simpa using fun h hh => by rcases hh with hh | rfl; exacts [hwf h hh, Handler.init_wf]
      · simp [Server.inFlight, hwg, Handler.inFlight, Handler.init]
    · exact ⟨hwf, hwg, by simp [ServePc.pastWait]⟩
  · exact ⟨hwf, hwg, by split <;> simp [ServePc.pastWait]⟩
  · exact ⟨hwf, hwg, fun _ => show s.inFlight = 0 by omega⟩
  all_goals exact ⟨hwf, hwg, fun _ => hdr (by simp [hpc, ServePc.pastWait])⟩

/-- The handlers' bookkeeping reads only the handlers, the counter and where `serve` is. -/
theorem InFlightInv.frame {s s' : Server} (hi : InFlightInv s) (hh : s'.handlers = s.handlers)
    (hw : s'.wg = s.wg) (hv : s'.serve = s.serve) : InFlightInv s' := by
  have hc : s'.inFlight = s.inFlight := by simp [Server.inFlight, hh]
  exact ⟨hh ▸ hi.handlers_wf, by rw [hw, hc]; exact hi.wg_eq, by rw [hv, hc]; exact hi.drained⟩

/-- The lifecycle part reads only the status, the listener and where `serve` is. -/
theorem LifecycleInv.frame {s s' : Server} (hi : LifecycleInv s) (hst : s'.status = s.status)
    (hl : s'.listener = s.listener) (hv : s'.serve = s.serve) : LifecycleInv s' := by
  obtain ⟨h1, h2, h3, h4⟩ := hi
  exact ⟨by simpa only [hst, hv] using h1, by simpa only [hl, hv] using h2,
    by simpa only [hl, hv] using h3, by simpa only [hst, hv] using h4⟩

theorem LifecycleInv.shutdownStep {s s' : Server} {i : Nat} (hi : LifecycleInv s)
    (hs : s.shutdownStep i = some s') : LifecycleInv s' := by
  obtain ⟨hcl, hun, hret, hcs⟩ := hi
  rcases Server.shutdownStep_cases hs with ⟨-, rfl⟩ | ⟨-, rfl⟩ | ⟨-, rfl⟩
  · exact ⟨hcl, hun, hret, hcs⟩
  · exact ⟨by simp, hun, hret, by simp⟩
  · by_cases hl : s.listener = .unset
    · exact ⟨hcl, by simpa [hl] using hun, by simpa [hl] using hret, hcs⟩
    · refine ⟨hcl, ?_, fun _ => Listener.close_fst_of_ne_unset hl, hcs⟩
      simp only [Server.setShutdown_serve, Listener.close_fst_of_ne_unset hl, reduceCtorEq,
        false_iff]
      exact fun h => hl (hun.2 h)

/-- A handler's step keeps every handler well formed, and either runs `s.wg.Done()` as the handler
exits, taking one off both the counter and the handlers in flight, or changes neither. -/
theorem Server.handlerStep_spec {s s' : Server} {i : Nat} {o : Outcome}
    (hwf : ∀ h ∈ s.handlers, h.Wf) (hs : s.handlerStep i o = some s') :
    (∀ h ∈ s'.handlers, h.Wf) ∧
      (s'.wg = s.wg - 1 ∧ s'.inFlight + 1 = s.inFlight ∨ s'.wg = s.wg ∧ s'.inFlight = s.inFlight) := by
  obtain ⟨h, h', d, hget, hstep, rfl⟩ := Server.handlerStep_cases hs
  have hmem := List.getElem?_mem hget
  obtain ⟨hwf', hd, hne⟩ := Handler.step_spec (hwf h hmem) hstep
  obtain ⟨hlt, rfl⟩ := List.getElem?_eq_some_iff.1 hget
  refine ⟨fun g hg => (List.mem_or_eq_of_mem_set hg).elim (hwf g) (· ▸ hwf'), ?_⟩
  have hold : s.handlers[i].inFlight = true := by simpa [Handler.inFlight] using hne
  have hpos : 0 < s.inFlight := List.countP_pos_iff.2 ⟨_, hmem, hold⟩
  have hcount := List.countP_set Handler.inFlight _ _ h' hlt
  simp only [hold, if_true] at hcount
  simp only [Server.inFlight] at hpos ⊢
  cases d
  · have hnew : h'.inFlight = true := by simpa [Handler.inFlight] using hd
    simp only [hnew, if_true] at hcount
    exact .inr ⟨by simp, by omega⟩
  · have hnew : h'.inFlight = false := by simpa [Handler.inFlight] using hd
    simp only [hnew] at hcount
    exact .inl ⟨by simp, by simp at hcount; omega⟩

theorem InFlightInv.handlerStep {s s' : Server} {i : Nat} {o : Outcome} (hi : InFlightInv s)
    (hs : s.handlerStep i o = some s') : InFlightInv s' := by
  obtain ⟨hwf, hwg, hdr⟩ := hi
  obtain ⟨hwf', hc⟩ := Server.handlerStep_spec hwf hs
  have hv : s'.serve = s.serve := (Server.handlerStep_frame hs).2.2.1
  refine ⟨hwf', by omega, fun hp => ?_⟩
  have := hdr (hv ▸ hp)
  omega

theorem inv_step {s s' : Server} {a : Action} (hi : Inv s) (hs : s.step a = some s') : Inv s' := by
  cases a with
  | serve ok => exact ⟨hi.toInFlightInv.serveStep hs, hi.toLifecycleInv.serveStep hs⟩
  | callShutdown =>
    simp only [Server.step, Option.some.injEq] at hs
    subst hs
    exact ⟨hi.toInFlightInv.frame rfl rfl rfl, hi.toLifecycleInv.frame rfl rfl rfl⟩
  | shutdown i =>
    have hf : s'.handlers = s.handlers ∧ s'.wg = s.wg ∧ s'.serve = s.serve := by
      rcases Server.shutdownStep_cases hs with ⟨-, rfl⟩ | ⟨-, rfl⟩ | ⟨-, rfl⟩ <;> simp
    exact ⟨hi.toInFlightInv.frame hf.1 hf.2.1 hf.2.2, hi.toLifecycleInv.shutdownStep hs⟩
  | handler i o =>
    obtain ⟨h1, h2, h3, -⟩ := Server.handlerStep_frame hs
    exact ⟨hi.toInFlightInv.handlerStep hs, hi.toLifecycleInv.frame h1 h2 h3⟩

theorem Reachable.inv {s : Server} (h : Reachable s) : Inv s := by
  induction h with
  | init => exact inv_init
  | step a _ hs ih => exact inv_step ih hs

end Sshd
