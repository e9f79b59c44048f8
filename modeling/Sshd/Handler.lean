import Sshd.Basic

/-!
# The `handleConn` goroutine

`handleConn` registers three deferred calls before anything in it can fail: `s.wg.Done()`,
`nconn.Close()` and the closure that recovers a panic; it then derives the connection context and
defers its `cancel`. The body then returns (the SSH handshake failed, or `conn.handle` returned) or
panics: in `ssh.NewServerConn`, the public-key callback included, or in `conn.handle` on this
goroutine. Go then runs the deferred calls last in, first out, and `recover` in the third one stops
a panic before `Close` and `Done` run. This module models that stack discipline and proves the
bookkeeping every handler keeps, whichever way its body ends.
-/

namespace Sshd

/-- How one step of a handler's body ends, as the network, the SSH peer and the code it calls
decide: normally, by returning an error, or by a panic. -/
inductive Outcome
  | ok
  | fail
  | panic
  deriving DecidableEq, Repr

/-- The calls `handleConn` defers. -/
inductive Deferred
  | wgDone
  | connClose
  | recoverPanic
  | cancel
  deriving DecidableEq, Repr

/-- Where a `handleConn` goroutine is. The first three steps register the deferred calls and do
not panic: they only evaluate method values of the server and of the accepted connection. -/
inductive HandlerPc
  /-- `remoteAddr := nconn.RemoteAddr().String()` and `defer s.wg.Done()`. -/
  | deferDone
  /-- `defer nconn.Close()`. -/
  | deferClose
  /-- `defer func() { if err := recover(); err != nil { ... } }()`. -/
  | deferRecover
  /-- `ctx, cancel := context.WithCancel(...)` and `defer cancel()`. -/
  | withCancel
  /-- `ssh.NewServerConn(nconn, s.serverConfig(ctx))`. -/
  | newServerConn
  /-- `go ssh.DiscardRequests(reqs)`, `newConnection(...)` and `conn.handle(ctx, chans, ...)`. -/
  | handle
  /-- The body has returned or panicked; the deferred calls run. -/
  | unwinding
  | exited
  /-- The goroutine ended with a panic nobody recovered, which ends the whole process. -/
  | crashed
  deriving DecidableEq, Repr

/-- How a goroutine ends once its deferred calls have run. -/
def HandlerPc.finish (panicking : Bool) : HandlerPc :=
  if panicking then .crashed else .exited

structure Handler where
  pc : HandlerPc
  /-- Deferred calls not yet run, the most recent first. -/
  defers : List Deferred
  panicking : Bool
  /-- How many times `nconn.Close()` has run. -/
  connCloses : Nat
  /-- How many times `s.wg.Done()` has run. -/
  dones : Nat
  /-- Whether `cancel` of the connection context has run. -/
  canceled : Bool
  deriving DecidableEq, Repr

/-- A goroutine started by `go s.handleConn(ctx, nconn)`. -/
def Handler.init : Handler := ⟨.deferDone, [], false, 0, 0, false⟩

/-- Run one deferred call. -/
def Deferred.run : Deferred → Handler → Handler
  | .wgDone, h => { h with dones := h.dones + 1 }
  | .connClose, h => { h with connCloses := h.connCloses + 1 }
  | .recoverPanic, h => { h with panicking := false }
  | .cancel, h => { h with canceled := true }

/-- The body has stopped, by a return or by a panic: the deferred calls run next, or the goroutine
ends at once when there are none. -/
def Handler.leave (h : Handler) (panicking : Bool) : Handler :=
  { h with pc := if h.defers = [] then .finish panicking else .unwinding, panicking }

/-- Pop and run the deferred call `d`; the goroutine ends when it was the last one. -/
def Handler.unwind (h : Handler) (d : Deferred) (rest : List Deferred) : Handler :=
  let h' := d.run { h with defers := rest }
  { h' with pc := if rest = [] then .finish h'.panicking else .unwinding }

@[simp] theorem Deferred.run_pc (d : Deferred) (h : Handler) : (d.run h).pc = h.pc := by
  cases d <;> rfl

@[simp] theorem Deferred.run_defers (d : Deferred) (h : Handler) : (d.run h).defers = h.defers := by
  cases d <;> rfl

@[simp] theorem Handler.unwind_defers (h : Handler) (d : Deferred) (rest : List Deferred) :
    (h.unwind d rest).defers = rest := by
  simp [Handler.unwind]

/-- One step of a `handleConn` goroutine, and whether that step was `s.wg.Done()` (the server's
`WaitGroup` is shared, so the server applies it). `none` when the goroutine has ended. -/
def Handler.step (h : Handler) (o : Outcome) : Option (Handler × Bool) :=
  match h.pc, o with
  | .deferDone, _ => some ({ h with pc := .deferClose, defers := .wgDone :: h.defers }, false)
  | .deferClose, _ => some ({ h with pc := .deferRecover, defers := .connClose :: h.defers }, false)
  | .deferRecover, _ =>
      some ({ h with pc := .withCancel, defers := .recoverPanic :: h.defers }, false)
  | .withCancel, .panic => some (h.leave true, false)
  | .withCancel, _ => some ({ h with pc := .newServerConn, defers := .cancel :: h.defers }, false)
  | .newServerConn, .ok => some ({ h with pc := .handle }, false)
  | .newServerConn, .fail => some (h.leave false, false)
  | .newServerConn, .panic => some (h.leave true, false)
  | .handle, .panic => some (h.leave true, false)
  | .handle, _ => some (h.leave false, false)
  | .unwinding, _ =>
      match h.defers with
      | [] => none
      | d :: rest => some (h.unwind d rest, d = .wgDone)
  | .exited, _ => none
  | .crashed, _ => none

/-! ## The bookkeeping of a handler -/

/-- The deferred calls registered on reaching `pc` in the body, the most recent first. -/
def HandlerPc.registered : HandlerPc → List Deferred
  | .deferDone => []
  | .deferClose => [.wgDone]
  | .deferRecover => [.connClose, .wgDone]
  | .withCancel => [.recoverPanic, .connClose, .wgDone]
  | _ => [.cancel, .recoverPanic, .connClose, .wgDone]

/-- What is left of the registered calls while a goroutine unwinds: `cancel` is missing when the
panic came before `defer cancel()`. -/
def unwindStacks : List (List Deferred) :=
  [[.cancel, .recoverPanic, .connClose, .wgDone], [.recoverPanic, .connClose, .wgDone],
    [.connClose, .wgDone], [.wgDone]]

/-- The bookkeeping that holds of every `handleConn` goroutine: in its body it has run none of
its deferred calls; while unwinding, a panic is still pending only if `recover` has not run yet,
and `Close` has run once `connClose` left the stack; once it has exited, `Close` and `Done` have
each run once and no panic is left. It never crashes. -/
def Handler.Wf (h : Handler) : Prop :=
  match h.pc with
  | .unwinding =>
      h.defers ∈ unwindStacks ∧ (h.panicking → .recoverPanic ∈ h.defers) ∧
        h.connCloses = (if .connClose ∈ h.defers then 0 else 1) ∧ h.dones = 0
  | .exited => h.defers = [] ∧ h.panicking = false ∧ h.connCloses = 1 ∧ h.dones = 1
  | .crashed => False
  | pc => h.defers = pc.registered ∧ h.panicking = false ∧ h.connCloses = 0 ∧ h.dones = 0

instance (h : Handler) : Decidable h.Wf := by
  unfold Handler.Wf; split <;> infer_instance

theorem Handler.init_wf : Handler.init.Wf := by
  simp [Handler.Wf, Handler.init, HandlerPc.registered]

/-- Popping a deferred call keeps the bookkeeping; the goroutine ends, with no panic left, when
the stack empties, which is exactly when the call was `s.wg.Done()`. -/
theorem Handler.unwind_spec {h : Handler} {d : Deferred} {rest : List Deferred}
    (hw : h.Wf) (hpc : h.pc = .unwinding) (hd : h.defers = d :: rest) :
    (h.unwind d rest).Wf ∧ (h.unwind d rest).pc = (if rest = [] then .exited else .unwinding) ∧
      (rest = [] ↔ d = .wgDone) := by
  simp only [Handler.Wf, hpc] at hw
  obtain ⟨hs, hp, hc, hn⟩ := hw
  simp only [unwindStacks, List.mem_cons, List.mem_singleton, hd] at hs
  rcases hs with ⟨rfl, rfl⟩ | ⟨rfl, rfl⟩ | ⟨rfl, rfl⟩ | ⟨rfl, rfl⟩ | h0 <;>
    simp_all [Handler.Wf, Handler.unwind, Deferred.run, unwindStacks, HandlerPc.finish]

/-- Everything one step of a well-formed handler does to its bookkeeping: it stays well formed,
and the step runs `s.wg.Done()` exactly when it ends the goroutine. -/
theorem Handler.step_spec {h h' : Handler} {o : Outcome} {d : Bool} (hw : h.Wf)
    (hs : h.step o = some (h', d)) :
    h'.Wf ∧ (d = true ↔ h'.pc = .exited) ∧ h.pc ≠ .exited := by
  rcases h with ⟨pc, defers, panicking, closes, dones, canceled⟩
  cases pc
  case unwinding =>
    cases defers with
    | nil => simp [Handler.step] at hs
    | cons x rest =>
      simp only [Handler.step, Option.some.injEq, Prod.mk.injEq] at hs
      obtain ⟨rfl, rfl⟩ := hs
      obtain ⟨hw', hpc', hr⟩ := Handler.unwind_spec hw rfl rfl
      refine ⟨hw', ?_, by simp⟩
      rw [hpc']
      by_cases h0 : rest = [] <;> simp [h0, ← hr]
  case exited | crashed => simp [Handler.step] at hs
  all_goals
    simp only [Handler.Wf, HandlerPc.registered] at hw
    obtain ⟨rfl, rfl, rfl, rfl⟩ := hw
    cases o <;> simp only [Handler.step, Option.some.injEq, Prod.mk.injEq] at hs <;>
      obtain ⟨rfl, rfl⟩ := hs
  all_goals simp [Handler.Wf, Handler.leave, HandlerPc.registered, unwindStacks]

theorem Handler.Wf.pc_ne_crashed {h : Handler} (hw : h.Wf) : h.pc ≠ .crashed := by
  intro hc
  simp [Handler.Wf, hc] at hw

/-- A well-formed handler has closed its connection at most once, and has called `s.wg.Done()`
once if it has exited and never otherwise. -/
theorem Handler.Wf.counts {h : Handler} (hw : h.Wf) :
    h.connCloses ≤ 1 ∧ h.dones = if h.pc = .exited then 1 else 0 := by
  rcases h with ⟨pc, defers, panicking, closes, dones, canceled⟩
  cases pc <;> simp only [Handler.Wf] at hw <;> simp [hw]
  split <;> simp

theorem Handler.Wf.exited_counts {h : Handler} (hw : h.Wf) (he : h.pc = .exited) :
    h.connCloses = 1 ∧ h.dones = 1 := by
  simp only [Handler.Wf, he] at hw
  exact ⟨hw.2.2.1, hw.2.2.2⟩

/-- A handler the server still waits for: it has not exited. -/
def Handler.inFlight (h : Handler) : Bool := h.pc != .exited

theorem Handler.Wf.defers_ne_nil {h : Handler} (hw : h.Wf) (hpc : h.pc = .unwinding) :
    h.defers ≠ [] := by
  simp only [Handler.Wf, hpc] at hw
  intro h0
  simp [h0, unwindStacks] at hw

end Sshd
