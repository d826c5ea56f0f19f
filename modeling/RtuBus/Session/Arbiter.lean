import RtuBus.Master.Basic
import RtuBus.Session.Config

/-! # Sharing the bus between threads

The arbiter lends one master to one thread at a time. A thread opens a session with `enter`
and closes it with `leave`; sessions nest, and the window stays with the thread until its
outermost session closes. Opening the outermost session lowers the log level to the silence
level, initializes the master (each time under the per-session policy, once under keep-alive)
and prepares the bus through the hooks; closing it flushes and idles the bus, closes the
master under the per-session policy and puts the log level back. A `leave` by a thread that
holds no session is ignored. While it holds a session, a thread may use the master through
`withMaster`, once at a time.

Calls are made one after another, each naming its thread. A thread that meets the window held
by another waits; as no call runs while it waits, the holder does not release the window and
the wait runs out with `timeout`. Each call is built from steps that another thread's steps
could be interleaved with: `enter` is `acquire` (under the window lock), `setup` for an
outermost session, and `deepen` (under the lock); `leave` is `unwind` (under the lock), then
`teardown` and `release` after the last session; `withMaster` is `checkSession` (under the
lock), then `borrow`, which takes the master without waiting, and `giveBack` after the call.
The depth other threads read is a copy stored under the lock with every change of the depth.
-/

namespace RtuBus

abbrev ThreadId := Nat

/-- Calls around an outermost session on hooks whose state is `η`. -/
structure Hooks (η : Type) where
  prepare : StateM η (Except BusError Unit)
  flush : StateM η Unit
  idle : StateM η (Except BusError Unit)

/-- The shared state of an arbiter over a line `σ` with hooks `η`. -/
structure Arbiter (σ η : Type) where
  config : SessionConfig
  owner : Option ThreadId := none
  depth : Nat := 0
  /-- The depth as other threads read it without the window lock: a copy stored in the same
  locked step that changes the depth. -/
  reported : Nat := 0
  lent : Bool := false
  master : Master σ
  hooks : Option η := none
  restoreLevel : Option LogLevel := none
  level : LogLevel

abbrev ArbiterM (σ η : Type) := StateM (Arbiter σ η)

namespace Arbiter

variable {σ η α : Type} (L : Line σ) (H : Hooks η)

/-- Whether a session is open, as other threads see it. -/
def isActive (a : Arbiter σ η) : Bool :=
  0 < a.reported

def onMaster (x : StateM (Master σ) α) : ArbiterM σ η α :=
  modifyGet fun a => let r := x.run a.master; (r.1, { a with master := r.2 })

/-- A hooks call, when there are hooks. -/
def onHooks (x : StateM η α) : ArbiterM σ η (Option α) :=
  modifyGet fun a => match a.hooks with
    | none => (none, a)
    | some h => let r := x.run h; (some r.1, { a with hooks := some r.2 })

/-- Lowers the log level to the silence level; returns the level it replaced. -/
def lowerLevel : ArbiterM σ η LogLevel :=
  modifyGet fun a => (a.level, { a with level := a.level.min a.config.silenceLevel })

def putLevel (l : LogLevel) : ArbiterM σ η Unit :=
  modify fun a => { a with level := l }

/-- Initializes the master for an outermost session, unless the policy keeps it open and it
is; tells whether it was initialized here. -/
def openMaster : ArbiterM σ η (Except BusError Bool) := do
  let a ← get
  if a.config.policy = .keepAlive ∧ a.master.initialized then return .ok false
  return (← onMaster (Master.init L).run).map fun () => true

/-- Undoes a setup whose prepare failed: idles the bus and closes a master initialized by it. -/
def abandonSetup (fresh : Bool) : ArbiterM σ η Unit := do
  let _ ← onHooks H.idle
  if fresh then
    let _ ← onMaster (Master.deinit L).run

/-- Starts the outermost session: lowers the log level, initializes the master unless it is
kept open, and prepares the bus. On failure everything done is undone: the bus is idled, a
master initialized here is closed, and the log level is put back. -/
def setup : ArbiterM σ η (Except BusError Unit) := do
  let previous ← lowerLevel
  match ← openMaster L with
  | .error e =>
    putLevel previous
    return .error e
  | .ok fresh =>
    if let some (.error e) ← onHooks H.prepare then
      abandonSetup L H fresh
      putLevel previous
      return .error e
    modify fun a => { a with restoreLevel := some previous }
    return .ok ()

/-- Closes the master if the policy closes it after each session. -/
def closeMaster : ArbiterM σ η Unit := do
  if (← get).config.policy = .perSession then
    let _ ← onMaster (Master.deinit L).run

/-- Puts back the log level that the setup saved, if it saved one. -/
def restoreSavedLevel : ArbiterM σ η Unit :=
  modify fun a => match a.restoreLevel with
    | some l => { a with level := l, restoreLevel := none }
    | none => a

/-- Ends the outermost session: flushes and idles the bus, closes the master under the
per-session policy, and puts the log level back. Failures are only reported. -/
def teardown : ArbiterM σ η Unit := do
  let _ ← onHooks H.flush
  let _ ← onHooks H.idle
  closeMaster L
  restoreSavedLevel

/-- The first locked step of `enter`: takes the window for `me` if it is free. Fails with
`timeout` while another thread holds it, and otherwise tells whether the session to open is
the outermost one. -/
def acquire (me : ThreadId) : ArbiterM σ η (Except BusError Bool) := do
  let a ← get
  match a.owner with
  | some t => if t ≠ me then return .error .timeout
  | none => set { a with owner := some me }
  return .ok ((← get).depth = 0)

/-- The last locked step of `enter`: one more open session. -/
def deepen : ArbiterM σ η Unit :=
  modify fun a => { a with depth := a.depth + 1, reported := a.depth + 1 }

def release : ArbiterM σ η Unit :=
  modify fun a => { a with owner := none }

/-- The locked step of `leave`: one session fewer for `me`, telling whether it was the last;
`none` when `me` holds no session. -/
def unwind (me : ThreadId) : ArbiterM σ η (Option Bool) := do
  let a ← get
  if a.owner ≠ some me ∨ a.depth = 0 then return none
  set { a with depth := a.depth - 1, reported := a.depth - 1 }
  return some (a.depth - 1 = 0)

/-- Opens a session for thread `me`. Fails with `timeout` while another thread holds the
window, and with the setup's error when the outermost session cannot be started, in which
case the window is free again. -/
def enter (me : ThreadId) : ArbiterM σ η (Except BusError Unit) := do
  match ← acquire me with
  | .error e => return .error e
  | .ok outermost =>
    if outermost then
      match ← setup L H with
      | .error e =>
        release
        return .error e
      | .ok () => pure ()
    deepen
    return .ok ()

/-- Closes a session of thread `me`; the last one ends the outermost session and frees the
window. Ignored when `me` holds no session. -/
def leave (me : ThreadId) : ArbiterM σ η Unit := do
  if let some true ← unwind me then
    teardown L H
    release

/-- The locked check of `withMaster`: thread `me` must hold a session. -/
def checkSession (me : ThreadId) : ArbiterM σ η (Except BusError Unit) := do
  let a ← get
  if a.owner ≠ some me ∨ a.depth = 0 then return .error .noSession
  return .ok ()

/-- Takes the master without waiting for it; fails with `busy` while it is lent. -/
def borrow : ArbiterM σ η (Except BusError Unit) := do
  let a ← get
  if a.lent then return .error .busy
  set { a with lent := true }
  return .ok ()

def giveBack : ArbiterM σ η Unit :=
  modify fun a => { a with lent := false }

/-- Runs `f` with the master lent to thread `me`, which must hold a session; fails with
`busy` while the master is already lent. -/
def lend (me : ThreadId) (f : ArbiterM σ η α) : ArbiterM σ η (Except BusError α) := do
  match ← checkSession me with
  | .error e => return .error e
  | .ok () =>
    match ← borrow with
    | .error e => return .error e
    | .ok () =>
      let r ← f
      giveBack
      return .ok r

/-- Runs a master program for thread `me`, which must hold a session. -/
def withMaster (me : ThreadId) (f : StateM (Master σ) α) : ArbiterM σ η (Except BusError α) :=
  lend me (onMaster f)

/-- Runs a master program in a session of its own for thread `me`. -/
def withSession (me : ThreadId) (f : StateM (Master σ) α) :
    ArbiterM σ η (Except BusError α) := do
  match ← enter L H me with
  | .error e => return .error e
  | .ok () =>
    let r ← withMaster me f
    leave L H me
    return r

end Arbiter

end RtuBus
