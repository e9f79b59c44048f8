import Sshd.Handler

/-!
# The server and its goroutines

One `ListenAndServe` run interleaved with any number of `Shutdown` calls and of `handleConn`
goroutines. Each goroutine takes its steps in program order, and the scheduler picks which one
moves next. A step is one statement that touches shared state: `changeStatus` and `getStatus`
hold `statusMu`, and a call on the listener or on `s.wg` is atomic. The read of `s.listener` in
`Shutdown` is not synchronised with its write in `listen`; the model orders the two like every
other step.
-/

namespace Sshd

/-- Where the goroutine running `ListenAndServe` is. -/
inductive ServePc
  /-- `s.listen()`: `net.Listen`, then `s.listener = sshListener`. -/
  | listen
  /-- `s.changeStatus(StatusReady)`, the first statement of `serve`. -/
  | changeStatusReady
  /-- `nconn, err := s.listener.Accept()`; on success `s.wg.Add(1)` and `go s.handleConn`. -/
  | accept
  /-- After an `Accept` error: `if s.getStatus() == StatusOnShutdown { break }`, else `continue`. -/
  | getStatus
  /-- `s.wg.Wait()`. -/
  | wait
  /-- `s.changeStatus(StatusClosed)`. -/
  | changeStatusClosed
  /-- The deferred `s.listener.Close()` of `ListenAndServe`. -/
  | closeListener
  /-- `ListenAndServe` has returned `nil`. -/
  | returned
  /-- `ListenAndServe` has returned the error of `listen`. -/
  | listenFailed
  deriving DecidableEq, Repr

/-- Where a `Shutdown` call is. -/
inductive ShutdownPc
  /-- `if s.listener == nil { return nil }`. -/
  | checkListener
  /-- `s.changeStatus(StatusOnShutdown)`. -/
  | changeStatus
  /-- `return s.listener.Close()`. -/
  | close
  | returned (err : CloseError)
  deriving DecidableEq, Repr

structure Server where
  status : Status
  listener : Listener
  /-- The counter of `s.wg`. -/
  wg : Int
  serve : ServePc
  /-- The `Shutdown` calls made so far, in the order they were made. -/
  shutdowns : List ShutdownPc
  /-- The `handleConn` goroutines started so far, in the order they were started. -/
  handlers : List Handler
  deriving DecidableEq, Repr

/-- A fresh `Server` (its zero `status` is `StatusStarting`) about to run `ListenAndServe`. -/
def Server.init : Server := ⟨.starting, .unset, 0, .listen, [], []⟩

/-- The goroutine that moves next, and what the environment answers when its step asks. -/
inductive Action
  /-- `ListenAndServe` moves; `ok` is whether `net.Listen` or `Accept` succeeds. -/
  | serve (ok : Bool)
  /-- Another goroutine calls `Shutdown`. -/
  | callShutdown
  /-- The `i`-th `Shutdown` call moves. -/
  | shutdown (i : Nat)
  /-- The `i`-th handler moves; `o` is how its body's step ends. -/
  | handler (i : Nat) (o : Outcome)
  deriving DecidableEq, Repr

/-- One step of `ListenAndServe` and `serve`. `Accept` on a closed listener fails whatever the
network does; `wg.Wait()` blocks until the counter is zero. -/
def Server.serveStep (s : Server) (ok : Bool) : Option Server :=
  match s.serve with
  | .listen =>
      some (if ok then { s with listener := .open, serve := .changeStatusReady }
        else { s with serve := .listenFailed })
  | .changeStatusReady => some { s with status := .ready, serve := .accept }
  | .accept =>
      some (if s.listener.accept ok then
          { s with wg := s.wg + 1, handlers := s.handlers ++ [Handler.init] }
        else { s with serve := .getStatus })
  | .getStatus => some { s with serve := if s.status = .onShutdown then .wait else .accept }
  | .wait => if s.wg = 0 then some { s with serve := .changeStatusClosed } else none
  | .changeStatusClosed => some { s with status := .closed, serve := .closeListener }
  | .closeListener => some { s with listener := s.listener.close.1, serve := .returned }
  | .returned => none
  | .listenFailed => none

def Server.setShutdown (s : Server) (i : Nat) (pc : ShutdownPc) : Server :=
  { s with shutdowns := s.shutdowns.set i pc }

/-- One step of the `i`-th `Shutdown` call. -/
def Server.shutdownStep (s : Server) (i : Nat) : Option Server :=
  match s.shutdowns[i]? with
  | some .checkListener =>
      some (s.setShutdown i (if s.listener = .unset then .returned .nil else .changeStatus))
  | some .changeStatus => some { s.setShutdown i .close with status := .onShutdown }
  | some .close =>
      some { s.setShutdown i (.returned s.listener.close.2) with listener := s.listener.close.1 }
  | _ => none

/-- One step of the `i`-th handler; its `s.wg.Done()` decrements the shared counter. -/
def Server.handlerStep (s : Server) (i : Nat) (o : Outcome) : Option Server :=
  match s.handlers[i]? with
  | none => none
  | some h => (h.step o).map fun p =>
      { s with handlers := s.handlers.set i p.1, wg := if p.2 then s.wg - 1 else s.wg }

def Server.step (s : Server) : Action → Option Server
  | .serve ok => s.serveStep ok
  | .callShutdown => some { s with shutdowns := s.shutdowns ++ [.checkListener] }
  | .shutdown i => s.shutdownStep i
  | .handler i o => s.handlerStep i o

/-- A step function run along a schedule: its steps in order, `none` as soon as one of them
cannot be taken. -/
def runSteps {σ α : Type} (step : σ → α → Option σ) : σ → List α → Option σ
  | s, [] => some s
  | s, a :: as => (step s a).bind fun s' => runSteps step s' as

/-- A property that every step keeps is kept by every run. -/
theorem runSteps_invariant {σ α : Type} {step : σ → α → Option σ} {P : σ → Prop}
    (hstep : ∀ {s s' : σ} {a : α}, P s → step s a = some s' → P s') :
    ∀ {s s' : σ} {as : List α}, P s → runSteps step s as = some s' → P s'
  | _, _, [], hs, h => Option.some.inj h ▸ hs
  | _, _, _ :: _, hs, h => by
    obtain ⟨_, h₁, h₂⟩ := Option.bind_eq_some.1 h
    exact runSteps_invariant hstep (hstep hs h₁) h₂

/-- The steps of a schedule, in order; `none` if one of them cannot be taken. -/
def Server.run (s : Server) (as : List Action) : Option Server := runSteps Server.step s as

/-- The states some interleaving reaches from a fresh server. -/
inductive Reachable : Server → Prop
  | init : Reachable Server.init
  | step {s s' : Server} (a : Action) : Reachable s → s.step a = some s' → Reachable s'

@[simp] theorem Server.run_nil (s : Server) : s.run [] = some s := rfl

theorem Server.run_cons (s : Server) (a : Action) (as : List Action) :
    s.run (a :: as) = (s.step a).bind fun s' => s'.run as := rfl

theorem Server.run_append (s : Server) (as bs : List Action) :
    s.run (as ++ bs) = (s.run as).bind fun s' => s'.run bs := by
  induction as generalizing s with
  | nil => rfl
  | cons a as ih =>
    simp only [List.cons_append, Server.run_cons, ih, Option.bind_assoc]

theorem Reachable.run {s s' : Server} (hs : Reachable s) :
    ∀ {as : List Action}, s.run as = some s' → Reachable s' :=
  runSteps_invariant (fun hs h => hs.step _ h) hs

/-! ## What each goroutine's step does -/

/-- Everything one step of `ListenAndServe` can do, by where it is. -/
theorem Server.serveStep_cases {s s' : Server} {ok : Bool} (h : s.serveStep ok = some s') :
    s.serve = .listen ∧ s' = (if ok then { s with listener := .open, serve := .changeStatusReady }
      else { s with serve := .listenFailed }) ∨
    s.serve = .changeStatusReady ∧ s' = { s with status := .ready, serve := .accept } ∨
    s.serve = .accept ∧ s' = (if s.listener.accept ok then
      { s with wg := s.wg + 1, handlers := s.handlers ++ [Handler.init] }
      else { s with serve := .getStatus }) ∨
    s.serve = .getStatus ∧
      s' = { s with serve := if s.status = .onShutdown then .wait else .accept } ∨
    s.serve = .wait ∧ s.wg = 0 ∧ s' = { s with serve := .changeStatusClosed } ∨
    s.serve = .changeStatusClosed ∧ s' = { s with status := .closed, serve := .closeListener } ∨
    s.serve = .closeListener ∧
      s' = { s with listener := s.listener.close.1, serve := .returned } := by
  unfold Server.serveStep at h
  cases hpc : s.serve <;>
    simp only [hpc, Option.some.injEq, reduceCtorEq, Option.ite_none_right_eq_some] at h
  all_goals first | (subst h; simp) | (obtain ⟨h0, rfl⟩ := h; simp [h0])

/-- Everything one step of a `Shutdown` call can do, by where it is. -/
theorem Server.shutdownStep_cases {s s' : Server} {i : Nat} (h : s.shutdownStep i = some s') :
    s.shutdowns[i]? = some .checkListener ∧
      s' = s.setShutdown i (if s.listener = .unset then .returned .nil else .changeStatus) ∨
    s.shutdowns[i]? = some .changeStatus ∧ s' = { s.setShutdown i .close with status := .onShutdown } ∨
    s.shutdowns[i]? = some .close ∧
      s' = { s.setShutdown i (.returned s.listener.close.2) with listener := s.listener.close.1 } := by
  unfold Server.shutdownStep at h
  split at h <;> simp only [Option.some.injEq, reduceCtorEq] at h <;> simp_all

/-- A handler's step is its own step on its goroutine, and `s.wg.Done()` when it made one. -/
theorem Server.handlerStep_cases {s s' : Server} {i : Nat} {o : Outcome}
    (h : s.handlerStep i o = some s') :
    ∃ g g' d, s.handlers[i]? = some g ∧ g.step o = some (g', d) ∧
      s' = { s with handlers := s.handlers.set i g', wg := if d then s.wg - 1 else s.wg } := by
  unfold Server.handlerStep at h
  split at h
  · cases h
  · obtain ⟨⟨g', d⟩, hg, rfl⟩ := Option.map_eq_some'.1 h
    exact ⟨_, g', d, ‹_›, hg, rfl⟩

/-! ## Frame lemmas -/

/-- A handler's step, a panic included, touches neither the status, the listener, the `Shutdown`
calls nor the `ListenAndServe` goroutine. -/
theorem Server.handlerStep_frame {s s' : Server} {i : Nat} {o : Outcome}
    (h : s.handlerStep i o = some s') :
    s'.status = s.status ∧ s'.listener = s.listener ∧ s'.serve = s.serve ∧
      s'.shutdowns = s.shutdowns := by
  unfold Server.handlerStep at h
  split at h
  · cases h
  · obtain ⟨p, -, rfl⟩ := Option.map_eq_some'.1 h
    exact ⟨rfl, rfl, rfl, rfl⟩

@[simp] theorem Server.setShutdown_status (s : Server) (i : Nat) (pc : ShutdownPc) :
    (s.setShutdown i pc).status = s.status := rfl

@[simp] theorem Server.setShutdown_listener (s : Server) (i : Nat) (pc : ShutdownPc) :
    (s.setShutdown i pc).listener = s.listener := rfl

@[simp] theorem Server.setShutdown_wg (s : Server) (i : Nat) (pc : ShutdownPc) :
    (s.setShutdown i pc).wg = s.wg := rfl

@[simp] theorem Server.setShutdown_serve (s : Server) (i : Nat) (pc : ShutdownPc) :
    (s.setShutdown i pc).serve = s.serve := rfl

@[simp] theorem Server.setShutdown_handlers (s : Server) (i : Nat) (pc : ShutdownPc) :
    (s.setShutdown i pc).handlers = s.handlers := rfl

@[simp] theorem Server.setShutdown_shutdowns (s : Server) (i : Nat) (pc : ShutdownPc) :
    (s.setShutdown i pc).shutdowns = s.shutdowns.set i pc := rfl

end Sshd
