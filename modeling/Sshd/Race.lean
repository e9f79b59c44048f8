import Mathlib.Data.Nat.Defs
import Sshd.Lifecycle

/-!
# Races on `s.listener`

Go's memory model orders two accesses from different goroutines only through synchronisation:
the unlock of a mutex before its next lock, a `go` statement before the goroutine's first step,
and a `WaitGroup`'s `Done` before the `Wait` it releases. Two accesses to one variable, at least
one a write, that are not ordered either way race, and a racing read of an interface value such
as `s.listener` may see it half written.

`Traced` runs the interleavings of `Server.step` with a vector clock per goroutine, as Go's race
detector does, and records the accesses to `s.listener` that can race: the write in `listen` and
the two reads in `Shutdown`. A `Shutdown` call is made from a goroutine that has not synchronised
with the one running `ListenAndServe`, so it starts with an empty clock. The write is the first
step of `ListenAndServe`, and a call's nil check is its first step, so the two are never ordered.
The read for `Close` comes after the call has taken `statusMu`. It is ordered after the write
exactly when `serve` took `statusMu` for `changeStatus(StatusReady)` before the call did; a
`Shutdown` between `listen` and `serve` races on it too. `s.status`, by contrast, is only read and
written holding `statusMu`: each access is recorded by the step of the server that makes it, and no
two of them race.
-/

namespace Sshd

/-- The goroutines: the one running `ListenAndServe`, each `Shutdown` call's and each
`handleConn`'s, by their indices in `Server`. -/
inductive Gid
  | serve
  | shutdown (i : Nat)
  | handler (i : Nat)
  deriving DecidableEq, Repr

/-- The goroutine whose step reads or writes `s.status`, by the statement it runs: `changeStatus`
and `getStatus` in `ListenAndServe`, and `changeStatus` in `Shutdown`. -/
def Server.statusAccess (s : Server) : Action → Option Gid
  | .serve _ =>
    match s.serve with
    | .changeStatusReady | .getStatus | .changeStatusClosed => some .serve
    | _ => none
  | .shutdown i => if s.shutdowns[i]? = some .changeStatus then some (.shutdown i) else none
  | _ => none

/-- Every step that changes the status is recorded as an access. -/
theorem Server.statusAccess_of_status_ne {s s' : Server} {a : Action} (hs : s.step a = some s')
    (hne : s'.status ≠ s.status) : (s.statusAccess a).isSome := by
  cases a with
  | serve ok =>
    rcases Server.serveStep_cases hs with ⟨hpc, rfl⟩ | ⟨hpc, rfl⟩ | ⟨hpc, rfl⟩ | ⟨hpc, rfl⟩ |
      ⟨hpc, -, rfl⟩ | ⟨hpc, rfl⟩ | ⟨hpc, rfl⟩ <;>
      first | exact absurd rfl hne | exact absurd (by split <;> rfl) hne | simp [statusAccess, hpc]
  | callShutdown => simp [Server.step] at hs; subst hs; exact absurd rfl hne
  | shutdown i =>
    rcases Server.shutdownStep_cases hs with ⟨hpc, rfl⟩ | ⟨hpc, rfl⟩ | ⟨hpc, rfl⟩
    · exact absurd rfl hne
    · simp [statusAccess, hpc]
    · exact absurd rfl hne
  | handler i o => exact absurd (Server.handlerStep_frame hs).1 hne

/-- A vector clock: for each goroutine, how many of its steps are known to have happened. -/
abbrev Clock := Gid → Nat

namespace Clock

def zero : Clock := fun _ => 0

/-- One more step of `g`. -/
def tick (c : Clock) (g : Gid) : Clock := Function.update c g (c g + 1)

/-- What either clock knows: the clock after an acquire. -/
def join (c d : Clock) : Clock := fun g => max (c g) (d g)

@[simp] theorem zero_apply (g : Gid) : zero g = 0 := rfl

@[simp] theorem tick_self (c : Clock) (g : Gid) : c.tick g g = c g + 1 := by
  simp [tick]

@[simp] theorem tick_ne (c : Clock) {g g' : Gid} (h : g' ≠ g) : c.tick g g' = c g' := by
  simp [tick, h]

@[simp] theorem join_apply (c d : Clock) (g : Gid) : c.join d g = max (c g) (d g) := rfl

end Clock

/-- An access by `g` stamped `e` happens before a point stamped `c`: `c` knows the step of `g`
that made the access. -/
def HappensBefore (g : Gid) (e c : Clock) : Prop := e g ≤ c g

/-- Two accesses to one variable race when neither happens before the other. -/
def Races (g : Gid) (e : Clock) (g' : Gid) (e' : Clock) : Prop :=
  ¬ HappensBefore g e e' ∧ ¬ HappensBefore g' e' e

instance (g : Gid) (e c : Clock) : Decidable (HappensBefore g e c) :=
  inferInstanceAs (Decidable (e g ≤ c g))

instance (g : Gid) (e : Clock) (g' : Gid) (e' : Clock) : Decidable (Races g e g' e') :=
  inferInstanceAs (Decidable (¬ _ ∧ ¬ _))

/-- In the order in which goroutines took `statusMu`, `g` took it before `g'` first did. -/
def LockedBefore (order : List Gid) (g g' : Gid) : Prop := g ∈ order.takeWhile (· != g')

instance (order : List Gid) (g g' : Gid) : Decidable (LockedBefore order g g') :=
  inferInstanceAs (Decidable (g ∈ _))

theorem LockedBefore.append_of_mem {order l : List Gid} {g g' : Gid} (h : g' ∈ order) :
    LockedBefore (order ++ l) g g' ↔ LockedBefore order g g' := by
  induction order with
  | nil => cases h
  | cons x order ih =>
    by_cases hx : x = g'
    · simp [LockedBefore, List.takeWhile_cons, hx]
    · have h' : g' ∈ order := (List.mem_cons.1 h).resolve_left (Ne.symm hx)
      have := ih h'
      simp only [LockedBefore] at this
      simp [LockedBefore, List.takeWhile_cons, hx, this]

theorem LockedBefore.append_self {order : List Gid} {g g' : Gid} (h : g' ∉ order) :
    LockedBefore (order ++ [g']) g g' ↔ g ∈ order := by
  have hall : ∀ x ∈ order, (x != g') = true := fun x hx =>
    bne_iff_ne.2 fun he => h (he ▸ hx)
  simp [LockedBefore, List.takeWhile_append_of_pos hall]

/-- A server state with Go's memory model on top: each goroutine's clock, the clocks `statusMu`
and `s.wg` carry, and the accesses to `s.listener` so far. -/
structure Traced where
  srv : Server
  /-- Each goroutine's clock. -/
  vc : Gid → Clock
  /-- The clock the last `statusMu.Unlock()` released. -/
  statusMu : Clock
  /-- The clocks of the `s.wg.Done()` calls so far, joined. -/
  wg : Clock
  /-- The goroutines that took `statusMu`, in the order they took it. -/
  lockOrder : List Gid
  /-- Each access to `s.status`: who made it, and its clock. -/
  statusAccesses : List (Gid × Clock)
  /-- `s.listener = sshListener` in `listen`, stamped with `serve`'s clock. -/
  listenerWrite : Option Clock
  /-- Each `Shutdown` call's read of `s.listener` for `s.listener == nil`. -/
  nilCheck : Nat → Option Clock
  /-- Each `Shutdown` call's read of `s.listener` for `s.listener.Close()`. -/
  closeRead : Nat → Option Clock

def Traced.init : Traced :=
  ⟨Server.init, fun _ => Clock.zero, Clock.zero, Clock.zero, [], [], none, fun _ => none,
    fun _ => none⟩

namespace Traced

/-- `g` takes a step that synchronises with nothing. -/
def tick (t : Traced) (g : Gid) : Traced := { t with vc := Function.update t.vc g ((t.vc g).tick g) }

/-- `g` locks `statusMu`, reads or writes `s.status` and unlocks it. -/
def withStatusMu (t : Traced) (g : Gid) : Traced :=
  let c := ((t.vc g).join t.statusMu).tick g
  { t with
    vc := Function.update t.vc g c
    statusMu := c
    lockOrder := t.lockOrder ++ [g] }

/-- What a step does to the clocks and the record of accesses, read off the state before it. -/
def sync (t : Traced) : Action → Traced
  | .serve ok =>
    match t.srv.serve with
    | .listen =>
      if ok then { t.tick .serve with listenerWrite := some ((t.vc .serve).tick .serve) }
      else t.tick .serve
    | .changeStatusReady | .getStatus | .changeStatusClosed => t.withStatusMu .serve
    | .accept =>
      if t.srv.listener.accept ok then
        -- `go s.handleConn(ctx, nconn)`: the handler starts with `serve`'s clock
        let c := (t.vc .serve).tick .serve
        let vc := Function.update t.vc .serve c
        { t with vc := Function.update vc (.handler t.srv.handlers.length) c }
      else t.tick .serve
    | .wait =>
      -- `s.wg.Wait()` returns after every `Done` it waited for
      let c := ((t.vc .serve).join t.wg).tick .serve
      { t with vc := Function.update t.vc .serve c }
    | _ => t.tick .serve
  | .callShutdown =>
    -- the caller has not synchronised with the server: the call starts with an empty clock
    { t with vc := Function.update t.vc (.shutdown t.srv.shutdowns.length) Clock.zero }
  | .shutdown i =>
    match t.srv.shutdowns[i]? with
    | some .checkListener =>
      { t.tick (.shutdown i) with
        nilCheck := Function.update t.nilCheck i (some ((t.vc (.shutdown i)).tick (.shutdown i))) }
    | some .changeStatus => t.withStatusMu (.shutdown i)
    | some .close =>
      { t.tick (.shutdown i) with
        closeRead := Function.update t.closeRead i (some ((t.vc (.shutdown i)).tick (.shutdown i))) }
    | _ => t
  | .handler i o =>
    match (t.srv.handlers[i]?).bind (·.step o) with
    | some (_, true) =>
      -- `s.wg.Done()` releases the handler's clock to `Wait`
      let c := (t.vc (.handler i)).tick (.handler i)
      { t with vc := Function.update t.vc (.handler i) c, wg := t.wg.join c }
    | _ => t.tick (.handler i)

/-- The access to `s.status` a step made, if any, stamped with the clock of the goroutine that
made it. -/
def recordStatus (t : Traced) (o : Option Gid) : Traced :=
  { t with statusAccesses := t.statusAccesses ++ (o.map fun g => (g, t.vc g)).toList }

/-- One step: the server's, with its clocks and the access to `s.status` it made. -/
def step (t : Traced) (a : Action) : Option Traced :=
  (t.srv.step a).map fun srv' => ({ t.sync a with srv := srv' }).recordStatus (t.srv.statusAccess a)

def run (t : Traced) (as : List Action) : Option Traced := runSteps Traced.step t as

@[simp] theorem tick_srv (t : Traced) (g : Gid) : (t.tick g).srv = t.srv := rfl
@[simp] theorem tick_statusMu (t : Traced) (g : Gid) : (t.tick g).statusMu = t.statusMu := rfl
@[simp] theorem tick_lockOrder (t : Traced) (g : Gid) : (t.tick g).lockOrder = t.lockOrder := rfl
@[simp] theorem tick_listenerWrite (t : Traced) (g : Gid) :
    (t.tick g).listenerWrite = t.listenerWrite := rfl
@[simp] theorem tick_nilCheck (t : Traced) (g : Gid) : (t.tick g).nilCheck = t.nilCheck := rfl
@[simp] theorem tick_closeRead (t : Traced) (g : Gid) : (t.tick g).closeRead = t.closeRead := rfl
@[simp] theorem tick_vc (t : Traced) (g g' : Gid) :
    (t.tick g).vc g' = if g' = g then (t.vc g).tick g else t.vc g' := by
  simp [tick, Function.update_apply]

@[simp] theorem withStatusMu_srv (t : Traced) (g : Gid) : (t.withStatusMu g).srv = t.srv := rfl
@[simp] theorem withStatusMu_statusMu (t : Traced) (g : Gid) :
    (t.withStatusMu g).statusMu = ((t.vc g).join t.statusMu).tick g := rfl
@[simp] theorem withStatusMu_lockOrder (t : Traced) (g : Gid) :
    (t.withStatusMu g).lockOrder = t.lockOrder ++ [g] := rfl
@[simp] theorem withStatusMu_listenerWrite (t : Traced) (g : Gid) :
    (t.withStatusMu g).listenerWrite = t.listenerWrite := rfl
@[simp] theorem withStatusMu_nilCheck (t : Traced) (g : Gid) :
    (t.withStatusMu g).nilCheck = t.nilCheck := rfl
@[simp] theorem withStatusMu_closeRead (t : Traced) (g : Gid) :
    (t.withStatusMu g).closeRead = t.closeRead := rfl
@[simp] theorem withStatusMu_vc (t : Traced) (g g' : Gid) :
    (t.withStatusMu g).vc g' = if g' = g then ((t.vc g).join t.statusMu).tick g else t.vc g' := by
  simp [withStatusMu, Function.update_apply]

theorem run_cons (t : Traced) (a : Action) (as : List Action) :
    t.run (a :: as) = (t.step a).bind fun t' => t'.run as := rfl

/-- The server's side of a traced run is a run of the server. -/
theorem run_srv {t t' : Traced} {as : List Action} (h : t.run as = some t') :
    t.srv.run as = some t'.srv := by
  induction as generalizing t with
  | nil => rw [Option.some.inj h]; rfl
  | cons a as ih =>
    obtain ⟨t₁, h₁, h₂⟩ := Option.bind_eq_some.1 h
    obtain ⟨s₁, hs, rfl⟩ := Option.map_eq_some'.1 h₁
    simp only [Server.run_cons, hs, Option.some_bind]
    exact ih h₂

/-- Every schedule of the server can be traced: the clocks never block a step. -/
theorem run_of_srv {t : Traced} {as : List Action} {s' : Server} (h : t.srv.run as = some s') :
    ∃ t', t.run as = some t' ∧ t'.srv = s' := by
  induction as generalizing t with
  | nil => exact ⟨t, rfl, Option.some.inj h⟩
  | cons a as ih =>
    obtain ⟨s₁, h₁, h₂⟩ := Option.bind_eq_some.1 h
    obtain ⟨t', ht', hs'⟩ :=
      ih (t := ({ t.sync a with srv := s₁ } : Traced).recordStatus (t.srv.statusAccess a)) h₂
    exact ⟨t', by simp only [run_cons, step, h₁, Option.map_some', Option.some_bind, ht'], hs'⟩

theorem Listener.close_fst_eq_unset (l : Listener) : l.close.1 = .unset ↔ l = .unset := by
  cases l <;> simp

theorem getElem?_append_singleton_ne {l : List ShutdownPc} {x : ShutdownPc} {k : Nat}
    (hk : k ≠ l.length) : (l ++ [x])[k]? = l[k]? := by
  rcases Nat.lt_or_gt_of_ne hk with h | h
  · exact List.getElem?_append_left h
  · rw [List.getElem?_append_right (Nat.le_of_lt h), List.getElem?_eq_none (by simp; omega),
      List.getElem?_eq_none (by omega)]

/-! ## What every traced run keeps -/

/-- What holds of the `k`-th `Shutdown` call: what its clock knows and what its reads of
`s.listener` saw. -/
structure CallInv (t : Traced) (k : Nat) : Prop where
  /-- The call has not stepped before its nil check. -/
  fresh : t.srv.shutdowns[k]? = none ∨ t.srv.shutdowns[k]? = some .checkListener →
    t.vc (.shutdown k) = Clock.zero
  /-- The nil check is the call's first step. -/
  nil_check : ∀ r : Clock, t.nilCheck k = some r → r = Clock.zero.tick (.shutdown k)
  /-- The call knows the write once it took `statusMu` after `serve` did. -/
  knows : 1 ≤ t.vc (.shutdown k) .serve ↔
    .shutdown k ∈ t.lockOrder ∧ LockedBefore t.lockOrder .serve (.shutdown k)
  /-- The call takes `statusMu` once, for `changeStatus(StatusOnShutdown)`. -/
  locked : .shutdown k ∈ t.lockOrder →
    t.srv.shutdowns[k]? = some .close ∨ ∃ e : CloseError, t.srv.shutdowns[k]? = some (.returned e)
  close_locked : t.srv.shutdowns[k]? = some .close → .shutdown k ∈ t.lockOrder
  /-- Past its nil check, the call saw `s.listener` set. -/
  set : t.srv.shutdowns[k]? = some .changeStatus ∨ t.srv.shutdowns[k]? = some .close →
    t.srv.listener ≠ .unset
  close_read : ∀ r : Clock, t.closeRead k = some r → t.listenerWrite.isSome ∧
    .shutdown k ∈ t.lockOrder ∧ 1 ≤ r (.shutdown k) ∧
    (1 ≤ r .serve ↔ LockedBefore t.lockOrder .serve (.shutdown k))

/-- The write to `s.listener`, what `statusMu` carries, and what holds of each `Shutdown` call. -/
structure Inv (t : Traced) : Prop where
  /-- `ListenAndServe` has not stepped before `listen`. -/
  serve_fresh : t.srv.serve = .listen → t.vc .serve = Clock.zero
  /-- The write is `serve`'s first step. -/
  write : ∀ w : Clock, t.listenerWrite = some w → w = Clock.zero.tick .serve
  set_written : t.srv.listener ≠ .unset → t.listenerWrite.isSome
  /-- `statusMu` carries the write once `serve` has released it. -/
  mu_serve : 1 ≤ t.statusMu .serve ↔ .serve ∈ t.lockOrder
  /-- `serve` first takes `statusMu` for `changeStatus(StatusReady)`. -/
  serve_locked : .serve ∈ t.lockOrder ↔ t.srv.serve.afterReady
  calls : ∀ k : Nat, t.CallInv k

theorem inv_init : Traced.init.Inv where
  serve_fresh _ := rfl
  write _ h := by cases h
  set_written h := absurd rfl h
  mu_serve := by simp [Traced.init]
  serve_locked := by simp [Traced.init, Server.init, ServePc.afterReady]
  calls _ := {
    fresh := fun _ => rfl
    nil_check := fun _ h => by cases h
    knows := by simp [Traced.init]
    locked := fun h => by cases h
    close_locked := fun h => by simp [Traced.init, Server.init] at h
    set := fun h => by simp [Traced.init, Server.init] at h
    close_read := fun _ h => by cases h }

/-- A call before `Close` has not taken `statusMu`. -/
theorem CallInv.not_locked {t : Traced} {k : Nat} (h : t.CallInv k)
    (hpc : t.srv.shutdowns[k]? = none ∨ t.srv.shutdowns[k]? = some .checkListener ∨
      t.srv.shutdowns[k]? = some .changeStatus) : Gid.shutdown k ∉ t.lockOrder := fun hm => by
  rcases h.locked hm with h' | ⟨e, h'⟩ <;> rcases hpc with h | h | h <;> simp [h] at h'

/-- A step that moves neither the `k`-th call nor its clock keeps what holds of the call, as long
as it does not reset `s.listener` or forget the write, and takes `statusMu` only for others. -/
theorem CallInv.frame {t t' : Traced} {k : Nat} (h : t.CallInv k)
    (hsh : t'.srv.shutdowns[k]? = t.srv.shutdowns[k]?)
    (hvc : t'.vc (.shutdown k) = t.vc (.shutdown k))
    (hn : t'.nilCheck k = t.nilCheck k) (hc : t'.closeRead k = t.closeRead k)
    (hw : t.listenerWrite.isSome → t'.listenerWrite.isSome)
    (hl : t.srv.listener ≠ .unset → t'.srv.listener ≠ .unset)
    (hlo : ∃ l, t'.lockOrder = t.lockOrder ++ l ∧ .shutdown k ∉ l) : t'.CallInv k := by
  obtain ⟨l, hlo, hkl⟩ := hlo
  have hmem : Gid.shutdown k ∈ t'.lockOrder ↔ Gid.shutdown k ∈ t.lockOrder := by simp [hlo, hkl]
  have hlb (hm : Gid.shutdown k ∈ t.lockOrder) :
      LockedBefore t'.lockOrder .serve (.shutdown k) ↔ LockedBefore t.lockOrder .serve (.shutdown k) :=
    hlo ▸ LockedBefore.append_of_mem hm
  exact {
    fresh := fun h' => hvc ▸ h.fresh (hsh ▸ h')
    nil_check := fun r h' => h.nil_check r (hn ▸ h')
    knows := by rw [hvc, h.knows, hmem]; exact and_congr_right fun hm => (hlb hm).symm
    locked := fun hm => hsh ▸ h.locked (hmem.1 hm)
    close_locked := fun h' => hmem.2 (h.close_locked (hsh ▸ h'))
    set := fun h' => hl (h.set (hsh ▸ h'))
    close_read := fun r h' => by
      obtain ⟨hw', hm, h1, h2⟩ := h.close_read r (hc ▸ h')
      exact ⟨hw hw', hmem.2 hm, h1, h2.trans (hlb hm).symm⟩ }

/-- A step that neither writes `s.listener`, reads it in `Shutdown`, takes `statusMu` nor moves a
`Shutdown` call keeps the invariant, whatever it does to the other goroutines' clocks. -/
theorem Inv.frame {t t' : Traced} (hi : t.Inv) (hsh : t'.srv.shutdowns = t.srv.shutdowns)
    (hl : t'.srv.listener = .unset ↔ t.srv.listener = .unset)
    (hv : t'.srv.serve = .listen → t.srv.serve = .listen ∧ t'.vc .serve = t.vc .serve)
    (ha : t'.srv.serve.afterReady ↔ t.srv.serve.afterReady)
    (hk : ∀ k, t'.vc (.shutdown k) = t.vc (.shutdown k)) (hmu : t'.statusMu = t.statusMu)
    (hlo : t'.lockOrder = t.lockOrder) (hw : t'.listenerWrite = t.listenerWrite)
    (hn : t'.nilCheck = t.nilCheck) (hc : t'.closeRead = t.closeRead) : t'.Inv where
  serve_fresh h := (hv h).2.trans (hi.serve_fresh (hv h).1)
  write w h := hi.write w (hw ▸ h)
  set_written h := hw ▸ hi.set_written (fun h' => h (hl.2 h'))
  mu_serve := hmu ▸ hlo ▸ hi.mu_serve
  serve_locked := hlo ▸ hi.serve_locked.trans ha.symm
  calls k := (hi.calls k).frame (by rw [hsh]) (hk k) (by rw [hn]) (by rw [hc]) (hw ▸ id)
    (fun h h' => h (hl.1 h')) ⟨[], by simp [hlo], by simp⟩

/-- `listen` assigns `s.listener` as `serve`'s first step. -/
theorem Inv.listen {t : Traced} (hi : t.Inv) (hpc : t.srv.serve = .listen) :
    ({ t.tick .serve with
        listenerWrite := some ((t.vc .serve).tick .serve)
        srv := { t.srv with listener := .open, serve := .changeStatusReady } } : Traced).Inv where
  serve_fresh h := by cases h
  write w h := by
    simp only [Option.some.injEq] at h
    rw [← h, hi.serve_fresh hpc]
  set_written _ := rfl
  mu_serve := hi.mu_serve
  serve_locked := by simpa [hpc, ServePc.afterReady] using hi.serve_locked
  calls k := (hi.calls k).frame rfl (by simp) rfl rfl (fun _ => rfl) (fun _ => by simp)
    ⟨[], by simp, by simp⟩

/-- `serve` takes `statusMu` for `changeStatus` or `getStatus`. -/
theorem Inv.serveLock {t : Traced} {s' : Server} (hi : t.Inv)
    (hsh : s'.shutdowns = t.srv.shutdowns) (hl : s'.listener = t.srv.listener)
    (hv : s'.serve.afterReady) : ({ t.withStatusMu .serve with srv := s' } : Traced).Inv where
  serve_fresh h := by simp only at h; simp [h, ServePc.afterReady] at hv
  write := hi.write
  set_written h := hi.set_written (hl ▸ h)
  mu_serve := by simp
  serve_locked := by simpa using hv
  calls k := (hi.calls k).frame (by rw [hsh]) (by simp) rfl rfl id (hl ▸ id) ⟨[.serve], rfl, by simp⟩

/-- The statements of `serve` that hold `statusMu`. -/
theorem sync_serve_of_locking {t : Traced} {ok : Bool}
    (h : t.srv.serve = .changeStatusReady ∨ t.srv.serve = .getStatus ∨
      t.srv.serve = .changeStatusClosed) : t.sync (.serve ok) = t.withStatusMu .serve := by
  rcases h with h | h | h <;> simp [sync, h]

theorem Inv.serveStep {t : Traced} {ok : Bool} {s' : Server} (hi : t.Inv)
    (hs : t.srv.serveStep ok = some s') : ({ t.sync (.serve ok) with srv := s' } : Traced).Inv := by
  rcases Server.serveStep_cases hs with ⟨hpc, rfl⟩ | ⟨hpc, rfl⟩ | ⟨hpc, rfl⟩ | ⟨hpc, rfl⟩ |
    ⟨hpc, -, rfl⟩ | ⟨hpc, rfl⟩ | ⟨hpc, rfl⟩
  · cases ok
    · refine hi.frame ?_ ?_ ?_ ?_ ?_ ?_ ?_ ?_ ?_ ?_ <;> simp [sync, hpc, ServePc.afterReady]
    · rw [show t.sync (.serve true) = { t.tick .serve with
          listenerWrite := some ((t.vc .serve).tick .serve) } by simp [sync, hpc]]
      exact hi.listen hpc
  · rw [sync_serve_of_locking (.inl hpc)]
    exact hi.serveLock rfl rfl trivial
  · split <;> refine hi.frame ?_ ?_ ?_ ?_ ?_ ?_ ?_ ?_ ?_ ?_ <;>
      simp [sync, hpc, Function.update_apply, ServePc.afterReady, *]
  · rw [sync_serve_of_locking (.inr (.inl hpc))]
    exact hi.serveLock rfl rfl (by split <;> trivial)
  · refine hi.frame ?_ ?_ ?_ ?_ ?_ ?_ ?_ ?_ ?_ ?_ <;>
      simp [sync, hpc, Function.update_apply, ServePc.afterReady]
  · rw [sync_serve_of_locking (.inr (.inr hpc))]
    exact hi.serveLock rfl rfl trivial
  · refine hi.frame ?_ ?_ ?_ ?_ ?_ ?_ ?_ ?_ ?_ ?_ <;>
      simp [sync, hpc, Function.update_apply, Listener.close_fst_eq_unset, ServePc.afterReady]

/-- A step of the `i`-th `Shutdown` call keeps the invariant once it keeps what holds of that call:
the other calls, their clocks and their reads stay as they were, and `statusMu` is taken, if at
all, by the `i`-th call. -/
theorem Inv.callStep {t t' : Traced} {i : Nat} (hi : t.Inv)
    (hsh : ∀ k ≠ i, t'.srv.shutdowns[k]? = t.srv.shutdowns[k]?) (hserve : t'.srv.serve = t.srv.serve)
    (hl : t'.srv.listener = .unset ↔ t.srv.listener = .unset)
    (hvs : t'.vc .serve = t.vc .serve) (hvk : ∀ k ≠ i, t'.vc (.shutdown k) = t.vc (.shutdown k))
    (hn : ∀ k ≠ i, t'.nilCheck k = t.nilCheck k) (hc : ∀ k ≠ i, t'.closeRead k = t.closeRead k)
    (hw : t'.listenerWrite = t.listenerWrite) (hmu : t'.statusMu .serve = t.statusMu .serve)
    (hlo : t'.lockOrder = t.lockOrder ∨ t'.lockOrder = t.lockOrder ++ [.shutdown i])
    (hcall : t'.CallInv i) : t'.Inv where
  serve_fresh h := hvs.trans (hi.serve_fresh (hserve ▸ h))
  write w h := hi.write w (hw ▸ h)
  set_written h := hw ▸ hi.set_written (fun h' => h (hl.2 h'))
  mu_serve := by rw [hmu, hi.mu_serve]; rcases hlo with h | h <;> simp [h]
  serve_locked := by rw [hserve, ← hi.serve_locked]; rcases hlo with h | h <;> simp [h]
  calls k := by
    rcases eq_or_ne k i with rfl | hk
    · exact hcall
    · refine (hi.calls k).frame (hsh k hk) (hvk k hk) (hn k hk) (hc k hk) (hw ▸ id)
        (fun h h' => h (hl.1 h')) ?_
      rcases hlo with h | h
      · exact ⟨[], by simp [h], by simp⟩
      · exact ⟨[.shutdown i], h, by simp [hk]⟩

/-- A new `Shutdown` call starts with an empty clock and has read nothing yet. -/
theorem Inv.callShutdown {t : Traced} (hi : t.Inv) :
    ({ t.sync .callShutdown with
        srv := { t.srv with shutdowns := t.srv.shutdowns ++ [.checkListener] } } : Traced).Inv := by
  have hc := hi.calls t.srv.shutdowns.length
  have hnot := hc.not_locked (.inl (List.getElem?_eq_none (Nat.le_refl _)))
  refine hi.callStep (i := t.srv.shutdowns.length) (fun k hk => getElem?_append_singleton_ne hk)
    rfl Iff.rfl (by simp [sync]) (fun k hk => by simp [sync, hk]) (fun _ _ => rfl) (fun _ _ => rfl)
    rfl rfl (.inl rfl) {
      fresh := fun _ => by simp [sync]
      nil_check := hc.nil_check
      knows := by simp [sync, hnot]
      locked := fun hm => absurd hm hnot
      close_locked := fun h => by simp at h
      set := fun h => by simp at h
      close_read := fun r h => absurd (hc.close_read r h).2.1 hnot }

/-- A call's nil check, its first step: it reads `s.listener` knowing nothing of `serve`. -/
theorem Inv.checkListener {t : Traced} {i : Nat} {pc : ShutdownPc} (hi : t.Inv)
    (hpc : t.srv.shutdowns[i]? = some .checkListener)
    (hnext : pc = .returned .nil ∨ pc = .changeStatus ∧ t.srv.listener ≠ .unset) :
    ({ t.sync (.shutdown i) with srv := t.srv.setShutdown i pc } : Traced).Inv := by
  have hc := hi.calls i
  have hlen := (List.getElem?_eq_some_iff.1 hpc).1
  have hfresh := hc.fresh (.inr hpc)
  have hnot := hc.not_locked (.inr (.inl hpc))
  rw [show t.sync (.shutdown i) = { t.tick (.shutdown i) with
      nilCheck := Function.update t.nilCheck i (some (Clock.zero.tick (.shutdown i))) } by
    simp [sync, hpc, hfresh]]
  refine hi.callStep (fun k hk => List.getElem?_set_ne (Ne.symm hk)) rfl Iff.rfl (by simp)
    (fun k hk => by simp [hk]) (fun k hk => by simp [hk]) (fun _ _ => rfl) rfl rfl (.inl rfl) {
      fresh := fun h => by rcases hnext with rfl | ⟨rfl, -⟩ <;> simp [hlen] at h
      nil_check := fun r h => by simpa [eq_comm] using h
      knows := by simp [hfresh, hnot]
      locked := fun hm => absurd hm hnot
      close_locked := fun h => by rcases hnext with rfl | ⟨rfl, -⟩ <;> simp [hlen] at h
      set := fun h => by
        rcases hnext with rfl | ⟨rfl, hl⟩
        · simp [hlen] at h
        · exact hl
      close_read := fun r h => absurd (hc.close_read r h).2.1 hnot }

/-- A call's `changeStatus(StatusOnShutdown)`: it takes `statusMu`, and with it what `serve`
released there. -/
theorem Inv.changeStatus {t : Traced} {i : Nat} (hi : t.Inv)
    (hpc : t.srv.shutdowns[i]? = some .changeStatus) :
    ({ t.withStatusMu (.shutdown i) with
        srv := { t.srv.setShutdown i .close with status := .onShutdown } } : Traced).Inv := by
  have hc := hi.calls i
  have hlen := (List.getElem?_eq_some_iff.1 hpc).1
  have hnot := hc.not_locked (.inr (.inr hpc))
  have h0 : t.vc (.shutdown i) .serve = 0 := by
    have := hc.knows
    simp only [hnot, false_and, iff_false] at this
    omega
  refine hi.callStep (fun k hk => List.getElem?_set_ne (Ne.symm hk)) rfl Iff.rfl (by simp)
    (fun k hk => by simp [hk]) (fun _ _ => rfl) (fun _ _ => rfl) rfl (by simp [h0]) (.inr rfl) {
      fresh := fun h => by simp [hlen] at h
      nil_check := hc.nil_check
      knows := by simp [h0, hi.mu_serve, LockedBefore.append_self hnot]
      locked := fun _ => .inl (by simp [hlen])
      close_locked := fun _ => by simp
      set := fun _ => hc.set (.inl hpc)
      close_read := fun r h => absurd (hc.close_read r h).2.1 hnot }

/-- A call's `s.listener.Close()`: the read comes after the call took `statusMu`. -/
theorem Inv.close {t : Traced} {i : Nat} (hi : t.Inv) (hpc : t.srv.shutdowns[i]? = some .close) :
    ({ t.sync (.shutdown i) with srv := { t.srv.setShutdown i (.returned t.srv.listener.close.2) with
        listener := t.srv.listener.close.1 } } : Traced).Inv := by
  have hc := hi.calls i
  have hlen := (List.getElem?_eq_some_iff.1 hpc).1
  have hm := hc.close_locked hpc
  rw [show t.sync (.shutdown i) = { t.tick (.shutdown i) with
      closeRead := Function.update t.closeRead i (some ((t.vc (.shutdown i)).tick (.shutdown i))) } by
    simp [sync, hpc]]
  refine hi.callStep (fun k hk => List.getElem?_set_ne (Ne.symm hk)) rfl
    (Listener.close_fst_eq_unset _) (by simp) (fun k hk => by simp [hk]) (fun _ _ => rfl)
    (fun k hk => by simp [hk]) rfl rfl (.inl rfl) {
      fresh := fun h => by simp [hlen] at h
      nil_check := hc.nil_check
      knows := by simpa using hc.knows
      locked := fun _ => .inr ⟨t.srv.listener.close.2, by simp [hlen]⟩
      close_locked := fun h => by simp [hlen] at h
      set := fun h => by simp [hlen] at h
      close_read := fun r h => by
        simp only [Function.update_same, Option.some.injEq] at h
        subst h
        exact ⟨hi.set_written (hc.set (.inr hpc)), hm, by simp, by simpa [hm] using hc.knows⟩ }

theorem Inv.shutdownStep {t : Traced} {i : Nat} {s' : Server} (hi : t.Inv)
    (hs : t.srv.shutdownStep i = some s') :
    ({ t.sync (.shutdown i) with srv := s' } : Traced).Inv := by
  rcases Server.shutdownStep_cases hs with ⟨hpc, rfl⟩ | ⟨hpc, rfl⟩ | ⟨hpc, rfl⟩
  · exact hi.checkListener hpc (by split <;> simp [*])
  · rw [show t.sync (.shutdown i) = t.withStatusMu (.shutdown i) by simp [sync, hpc]]
    exact hi.changeStatus hpc
  · exact hi.close hpc

/-- Recording an access to `s.status` changes nothing the invariant reads. -/
theorem Inv.recordStatus {t : Traced} (hi : t.Inv) (o : Option Gid) : (t.recordStatus o).Inv :=
  hi.frame rfl Iff.rfl (fun h => ⟨h, rfl⟩) Iff.rfl (fun _ => rfl) rfl rfl rfl rfl rfl

/-- A handler's step touches only its own clock and the clock `s.wg` carries. -/
theorem Inv.handlerStep {t : Traced} {i : Nat} {o : Outcome} {s' : Server} (hi : t.Inv)
    (hs : t.srv.handlerStep i o = some s') :
    ({ t.sync (.handler i o) with srv := s' } : Traced).Inv := by
  obtain ⟨-, hl, hv, hsh⟩ := Server.handlerStep_frame hs
  refine hi.frame hsh (by rw [hl]) (fun h => ⟨hv ▸ h, ?_⟩) (by rw [hv]) (fun k => ?_) ?_ ?_ ?_ ?_ ?_ <;>
    simp only [sync] <;> split <;> simp [Function.update_apply]

theorem Inv.step {t t' : Traced} {a : Action} (hi : t.Inv) (h : t.step a = some t') : t'.Inv := by
  obtain ⟨s', hs, rfl⟩ := Option.map_eq_some'.1 h
  refine Inv.recordStatus ?_ _
  cases a with
  | serve ok => exact hi.serveStep hs
  | callShutdown =>
    simp only [Server.step, Option.some.injEq] at hs
    exact hs ▸ hi.callShutdown
  | shutdown i => exact hi.shutdownStep hs
  | handler i o => exact hi.handlerStep hs

theorem Inv.run {t t' : Traced} {as : List Action} (hi : t.Inv) (h : t.run as = some t') :
    t'.Inv :=
  runSteps_invariant (fun hi h => Inv.step hi h) hi h

/-- `statusMu` is only ever taken: the lock order of a run only grows. -/
theorem step_lockOrder {t t' : Traced} {a : Action} (h : t.step a = some t') :
    t.lockOrder <+: t'.lockOrder := by
  obtain ⟨s', -, rfl⟩ := Option.map_eq_some'.1 h
  show t.lockOrder <+: (t.sync a).lockOrder
  cases a <;> simp only [sync] <;> (repeat' split) <;> simp

theorem run_lockOrder {t t' : Traced} {as : List Action} (h : t.run as = some t') :
    t.lockOrder <+: t'.lockOrder :=
  runSteps_invariant (P := fun t' => t.lockOrder <+: t'.lockOrder)
    (fun hp h => hp.trans (step_lockOrder h)) (List.prefix_refl _) h

/-! ## The races on `s.listener` -/

/-- Every `Shutdown` call's `s.listener == nil` races with `s.listener = sshListener` in `listen`,
in every schedule that makes both: each is its goroutine's first step. -/
theorem nil_check_races_with_listen {as : List Action} {t : Traced} {k : Nat} {w r : Clock}
    (h : Traced.init.run as = some t) (hw : t.listenerWrite = some w)
    (hr : t.nilCheck k = some r) : Races .serve w (.shutdown k) r := by
  have hi := inv_init.run h
  rw [hi.write w hw, (hi.calls k).nil_check r hr]
  simp [Races, HappensBefore]

theorem nil_check_races_after_listen :
    ∃ t w r, Traced.init.run [.serve true, .callShutdown, .shutdown 0] = some t ∧
      t.listenerWrite = some w ∧ t.nilCheck 0 = some r ∧ Races .serve w (.shutdown 0) r :=
  have h : Traced.init.run [.serve true, .callShutdown, .shutdown 0] = some _ := rfl
  ⟨_, _, _, h, rfl, rfl, nil_check_races_with_listen h rfl rfl⟩

/-- The read for `Close` races with the write exactly when `serve` had not taken `statusMu` when
the call first took it. -/
theorem Inv.closeRead_races_iff {t : Traced} {k : Nat} {r : Clock} (hi : t.Inv)
    (hr : t.closeRead k = some r) : ∃ w, t.listenerWrite = some w ∧
      (Races .serve w (.shutdown k) r ↔ ¬ LockedBefore t.lockOrder .serve (.shutdown k)) := by
  obtain ⟨hw, -, h1, h2⟩ := (hi.calls k).close_read r hr
  obtain ⟨w, hw⟩ := Option.isSome_iff_exists.1 hw
  refine ⟨w, hw, ?_⟩
  rw [hi.write w hw, ← h2]
  simp [Races, HappensBefore]
  omega

/-- A `Shutdown` call's `s.listener.Close()` reads `s.listener` racing with the write in `listen`
exactly when the call ran `changeStatus(StatusOnShutdown)` before `serve` ran
`changeStatus(StatusReady)`: whatever happens later in the schedule, a call made between `listen`
and `serve` races on `s.listener`, and a call that takes `statusMu` after `serve` does not. -/
theorem shutdown_close_races_iff_before_ready {as bs : List Action} {t t' : Traced} {k : Nat}
    {r : Clock} (h : Traced.init.run as = some t) (hpc : t.srv.shutdowns[k]? = some .changeStatus)
    (h' : t.run (.shutdown k :: bs) = some t') (hr : t'.closeRead k = some r) :
    ∃ w, t'.listenerWrite = some w ∧ (Races .serve w (.shutdown k) r ↔ ¬ t.srv.serve.afterReady) := by
  have hi := inv_init.run h
  obtain ⟨t₁, h₁, h₂⟩ := Option.bind_eq_some.1 h'
  have hnot := (hi.calls k).not_locked (.inr (.inr hpc))
  have ho₁ : t₁.lockOrder = t.lockOrder ++ [.shutdown k] := by
    obtain ⟨s₁, -, rfl⟩ := Option.map_eq_some'.1 h₁
    show (t.sync _).lockOrder = _
    simp [sync, hpc]
  obtain ⟨l, ho⟩ := run_lockOrder h₂
  obtain ⟨w, hw, hrace⟩ := ((hi.step h₁).run h₂).closeRead_races_iff hr
  refine ⟨w, hw, hrace.trans (not_congr ?_)⟩
  calc LockedBefore t'.lockOrder .serve (.shutdown k)
      ↔ LockedBefore t₁.lockOrder .serve (.shutdown k) := by
        rw [← ho]; exact LockedBefore.append_of_mem (by simp [ho₁])
    _ ↔ .serve ∈ t.lockOrder := by rw [ho₁]; exact LockedBefore.append_self hnot
    _ ↔ t.srv.serve.afterReady := hi.serve_locked

/-- `listen` has assigned `s.listener`, and a `Shutdown` call has passed its nil check before
`serve` took `statusMu` for `changeStatus(StatusReady)`. -/
def shutdownAfterListen : Traced :=
  (Traced.init.run [.serve true, .callShutdown, .shutdown 0]).getD Traced.init

theorem shutdown_between_listen_and_serve_races :
    ∃ t' r, Traced.init.run [.serve true, .callShutdown, .shutdown 0] = some shutdownAfterListen ∧
      shutdownAfterListen.srv.shutdowns[0]? = some .changeStatus ∧
      shutdownAfterListen.run [.shutdown 0, .shutdown 0] = some t' ∧ t'.closeRead 0 = some r ∧
      ¬ shutdownAfterListen.srv.serve.afterReady ∧ ∃ w, t'.listenerWrite = some w ∧
        (Races .serve w (.shutdown 0) r ↔ ¬ shutdownAfterListen.srv.serve.afterReady) :=
  have h : Traced.init.run [.serve true, .callShutdown, .shutdown 0] = some shutdownAfterListen :=
    rfl
  have h' : shutdownAfterListen.run [.shutdown 0, .shutdown 0] = some _ := rfl
  ⟨_, _, h, rfl, h', rfl, id, shutdown_close_races_iff_before_ready h rfl h' rfl⟩

/-- A `Shutdown` made once `serve` is ready reads `s.listener` for `Close` ordered after the write. -/
example : ((Traced.init.run [.serve true, .serve true, .callShutdown, .shutdown 0, .shutdown 0,
    .shutdown 0]).bind fun t => t.listenerWrite.bind fun w =>
      (t.closeRead 0).map fun r => decide (Races .serve w (.shutdown 0) r)) = some false := rfl

/-! ## `s.status` never races -/

/-- A step either takes `statusMu` for one goroutine or leaves the lock alone. -/
theorem sync_statusMu (t : Traced) (a : Action) :
    (t.sync a).statusMu = t.statusMu ∨ ∃ g, t.sync a = t.withStatusMu g := by
  cases a <;> simp only [sync] <;> (repeat' split) <;> simp

theorem sync_statusAccesses (t : Traced) (a : Action) :
    (t.sync a).statusAccesses = t.statusAccesses := by
  cases a <;> simp only [sync] <;> (repeat' split) <;> rfl

/-- The steps that access `s.status` are the ones that hold `statusMu`. -/
theorem sync_of_statusAccess {t : Traced} {a : Action} {g : Gid}
    (h : t.srv.statusAccess a = some g) : t.sync a = t.withStatusMu g := by
  cases a with
  | serve ok =>
    simp only [Server.statusAccess] at h
    split at h <;> simp only [Option.some.injEq, reduceCtorEq] at h <;> subst h <;> simp [sync, *]
  | shutdown i =>
    simp only [Server.statusAccess] at h
    split at h <;> simp only [Option.some.injEq, reduceCtorEq] at h
    subst h
    simp [sync, *]
  | callShutdown | handler _ _ => simp [Server.statusAccess] at h

/-- Taking `statusMu` acquires what the last unlock released. -/
theorem le_withStatusMu_statusMu (t : Traced) (g g' : Gid) :
    t.statusMu g' ≤ (t.withStatusMu g).statusMu g' := by
  by_cases h : g' = g
  · subst h
    simp only [withStatusMu_statusMu, Clock.tick_self, Clock.join_apply]
    omega
  · simp only [withStatusMu_statusMu, Clock.tick_ne _ h, Clock.join_apply]
    omega

theorem le_sync_statusMu (t : Traced) (a : Action) (g : Gid) :
    t.statusMu g ≤ (t.sync a).statusMu g := by
  rcases sync_statusMu t a with h | ⟨g', h⟩
  · rw [h]
  · rw [h]; exact le_withStatusMu_statusMu t g' g

/-- What `statusMu` orders: the clock the lock releases knows every access to `s.status`, and each
access knows every earlier one. -/
structure StatusInv (t : Traced) : Prop where
  released : ∀ a ∈ t.statusAccesses, ∀ g, a.2 g ≤ t.statusMu g
  ordered : t.statusAccesses.Pairwise fun a b => HappensBefore a.1 a.2 b.2

/-- An access made holding `statusMu` is stamped with the clock the unlock releases. -/
theorem StatusInv.withStatusMu {t : Traced} (h : t.StatusInv) (g : Gid) (s' : Server) :
    (({ t.withStatusMu g with srv := s' } : Traced).recordStatus (some g)).StatusInv := by
  have hlast : ((t.withStatusMu g).vc g) = (t.withStatusMu g).statusMu := by simp
  refine ⟨fun a ha g' => ?_, List.pairwise_append.2 ⟨h.ordered, List.pairwise_singleton _ _, ?_⟩⟩
  · rcases List.mem_append.1 ha with ha | ha
    · exact Nat.le_trans (h.released a ha g') (le_withStatusMu_statusMu t g g')
    · rw [List.mem_singleton.1 ha]
      exact Nat.le_of_eq (congrFun hlast g')
  · intro a ha b hb
    rw [List.mem_singleton.1 hb]
    show a.2 a.1 ≤ (t.withStatusMu g).vc g a.1
    rw [hlast]
    exact Nat.le_trans (h.released a ha a.1) (le_withStatusMu_statusMu t g a.1)

theorem StatusInv.step {t t' : Traced} {a : Action} (h : t.StatusInv) (hs : t.step a = some t') :
    t'.StatusInv := by
  obtain ⟨s', -, rfl⟩ := Option.map_eq_some'.1 hs
  cases hg : t.srv.statusAccess a with
  | none =>
    -- no access: the record stays, and `statusMu` only grows
    have hsa : (({ t.sync a with srv := s' } : Traced).recordStatus none).statusAccesses =
        t.statusAccesses := by simp [recordStatus, sync_statusAccesses]
    exact ⟨fun x hx g => Nat.le_trans (h.released x (hsa ▸ hx) g) (le_sync_statusMu t a g),
      hsa ▸ h.ordered⟩
  | some g =>
    rw [sync_of_statusAccess hg]
    exact h.withStatusMu g s'

theorem StatusInv.run {t t' : Traced} {as : List Action} (h : t.StatusInv)
    (hr : t.run as = some t') : t'.StatusInv :=
  runSteps_invariant (fun h hs => StatusInv.step h hs) h hr

/-- `listen` has assigned `s.listener` and `serve` is about to write `StatusReady`. -/
def listening : Server := { Server.init with listener := .open, serve := .changeStatusReady }

end Traced

end Sshd
