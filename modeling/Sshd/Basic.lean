import Mathlib.Order.Basic

/-!
# Server status and the listener

The `status` constants of `sshd.go` with the order of their `iota` values, the two monitoring
handlers that read the status, and the part of Go's `net.Listener` contract the server uses:
`Accept` on a closed listener fails, and `Close` succeeds only on the first call.
-/

namespace Sshd

/-- `type status int` with `StatusStarting = iota`, `StatusReady`, `StatusOnShutdown`,
`StatusClosed`. -/
inductive Status
  | starting
  | ready
  | onShutdown
  | closed
  deriving DecidableEq, Repr

/-- The `iota` value of each status constant. -/
def Status.toNat : Status → Nat
  | .starting => 0
  | .ready => 1
  | .onShutdown => 2
  | .closed => 3

instance : LE Status := ⟨fun a b => a.toNat ≤ b.toNat⟩

instance (a b : Status) : Decidable (a ≤ b) := inferInstanceAs (Decidable (a.toNat ≤ b.toNat))

theorem Status.le_iff {a b : Status} : a ≤ b ↔ a.toNat ≤ b.toNat := Iff.rfl

theorem Status.le_closed (a : Status) : a ≤ .closed := by
  cases a <;> decide

/-- The readiness handler of `MonitoringServeMux`: `http.StatusOK` while the server reports
`StatusReady`, `http.StatusServiceUnavailable` otherwise. -/
def readinessHandler (st : Status) : Nat :=
  if st = .ready then 200 else 503

/-- The liveness handler of `MonitoringServeMux` answers `http.StatusOK` whatever the status. -/
def livenessHandler (_st : Status) : Nat := 200

theorem readinessHandler_eq_ok_iff (st : Status) : readinessHandler st = 200 ↔ st = .ready := by
  cases st <;> decide

/-- The value of `s.listener`: `nil` until `listen` assigns it, then a listener that is open until
its first `Close`. -/
inductive Listener
  | unset
  | open
  | closed
  deriving DecidableEq, Repr

/-- What `Close` returns: `nil`, or the error of closing a listener that is already closed
(`net.ErrClosed`). -/
inductive CloseError
  | nil
  | errClosed
  deriving DecidableEq, Repr

/-- `Close` as Go's `net.Listener` does it: the first call closes the listener and returns `nil`,
every later call returns an error and changes nothing. No caller in `sshd.go` closes a `nil`
listener (`Shutdown` checks for it, `ListenAndServe` closes only after `listen` succeeded). -/
def Listener.close : Listener → Listener × CloseError
  | .open => (.closed, .nil)
  | l => (l, .errClosed)

/-- `Accept` yields a connection only on an open listener, and there only when the network does
(`ok`); otherwise it returns an error. -/
def Listener.accept (l : Listener) (ok : Bool) : Bool :=
  l = .open && ok

@[simp] theorem Listener.close_open : Listener.close .open = (.closed, .nil) := rfl

@[simp] theorem Listener.close_unset : Listener.close .unset = (.unset, .errClosed) := rfl

@[simp] theorem Listener.close_closed : Listener.close .closed = (.closed, .errClosed) := rfl

@[simp] theorem Listener.accept_closed (ok : Bool) : Listener.accept .closed ok = false := rfl

/-- A `Close` leaves the listener set and closed, whatever it returns. -/
theorem Listener.close_fst_of_ne_unset {l : Listener} (hl : l ≠ .unset) : l.close.1 = .closed := by
  cases l <;> simp_all [Listener.close]

end Sshd
