import RtuBus.Proofs.Session.Calls
import RtuBus.Scenario.Station
import Mathlib.Logic.Function.Basic
import Mathlib.Logic.Relation

/-! # Threads sharing an arbiter

Any number of threads call one arbiter, and their calls interleave. Each block that runs under
the window lock (the first step of `enter`, which for a nested session also opens it; the
`deepen` of an outermost one; `release`; `unwind`; the check of `withMaster`), the setup, the
teardown, the try-lock of the master (`borrow`), each master program run by a closure of
`withMaster`, and the closure's return are one step each. Between two steps of one call a
thread waits at a program point (`Pc`).

`Step L H s t act s'` says that thread `t` can take the step `act` from `s` to `s'`, and
`Reaches L H s s'` that some interleaving of steps of any threads leads from `s` to `s'`. A
thread that finds the window held by another waits, which is no step; with a deadline it may
instead give up with `timeout`. A thread waiting for the master's lock, which only a closure of
its own can hold, does not move: the setup and the teardown need the master back.

Beside the arbiter the world keeps a tally of the run: for each thread its successful begins
that no end has matched yet, how many setups succeeded and teardowns ran, and how often the
depth rose from zero to one or fell back.
-/

namespace RtuBus

/-- Where a thread is between the steps of its current call. -/
inductive Pc where
  /-- Between calls. -/
  | idle
  /-- In `enter`, holding the window at depth zero; the setup comes next. -/
  | settingUp
  /-- In `enter`, the bus set up; the session is opened next. -/
  | deepening
  /-- In `enter`, the setup failed with `e`; the window is freed next. -/
  | abandoning (e : BusError)
  /-- In `leave`, the last session closed; the teardown comes next. -/
  | tearingDown
  /-- In `leave`, the bus torn down; the window is freed next. -/
  | releasing
  /-- In `withMaster`, the session checked; the master is taken next. -/
  | borrowing
  deriving DecidableEq

namespace Pc

/-- The points inside an outermost `enter` or a last `leave`, where the window is held at
depth zero. -/
def outermost : Pc → Bool
  | settingUp | deepening | abandoning _ | tearingDown | releasing => true
  | idle | borrowing => false

end Pc

/-- A thread calling the arbiter. -/
structure Thread where
  pc : Pc := .idle
  borrowed : Bool := false
  answer : Option (Except BusError Unit) := none

namespace Thread

def moveTo (th : Thread) (pc : Pc) : Thread := { th with pc }

def returns (th : Thread) (r : Except BusError Unit) : Thread :=
  { th with pc := .idle, answer := some r }

def lend (th : Thread) : Thread := { th with pc := .idle, borrowed := true }

def giveBack (th : Thread) (r : Except BusError Unit) : Thread :=
  { th with borrowed := false, answer := some r }

@[simp] theorem pc_moveTo (th : Thread) (pc : Pc) : (th.moveTo pc).pc = pc := rfl
@[simp] theorem borrowed_moveTo (th : Thread) (pc : Pc) : (th.moveTo pc).borrowed = th.borrowed :=
  rfl
@[simp] theorem pc_returns (th : Thread) (r) : (th.returns r).pc = .idle := rfl
@[simp] theorem borrowed_returns (th : Thread) (r) : (th.returns r).borrowed = th.borrowed := rfl
@[simp] theorem answer_returns (th : Thread) (r) : (th.returns r).answer = some r := rfl
@[simp] theorem pc_lend (th : Thread) : th.lend.pc = .idle := rfl
@[simp] theorem borrowed_lend (th : Thread) : th.lend.borrowed = true := rfl
@[simp] theorem pc_giveBack (th : Thread) (r) : (th.giveBack r).pc = th.pc := rfl
@[simp] theorem borrowed_giveBack (th : Thread) (r) : (th.giveBack r).borrowed = false := rfl

end Thread

/-- What a run has done so far, counted as it goes. -/
structure Tally where
  unmatched : ThreadId → Nat := fun _ => 0
  setups : Nat := 0
  teardowns : Nat := 0
  rises : Nat := 0
  falls : Nat := 0

namespace Tally

/-- A step took the depth from `d` to `d'`. -/
def observe (c : Tally) (d d' : Nat) : Tally :=
  { c with
    rises := c.rises + if d = 0 ∧ d' = 1 then 1 else 0
    falls := c.falls + if d = 1 ∧ d' = 0 then 1 else 0 }

def opened (c : Tally) (t : ThreadId) : Tally :=
  { c with unmatched := Function.update c.unmatched t (c.unmatched t + 1) }

/-- Thread `t` called end: it matches the latest unmatched begin of `t`, if there is one. -/
def closed (c : Tally) (t : ThreadId) : Tally :=
  { c with unmatched := Function.update c.unmatched t (c.unmatched t - 1) }

def setUp (c : Tally) : Tally := { c with setups := c.setups + 1 }

def tornDown (c : Tally) : Tally := { c with teardowns := c.teardowns + 1 }

@[simp] theorem observe_self (c : Tally) (d : Nat) : c.observe d d = c := by
  simp only [observe]
  rw [if_neg (by omega), if_neg (by omega)]
  rfl

variable (c : Tally) (t : ThreadId) (d d' : Nat)

@[simp] theorem unmatched_observe : (c.observe d d').unmatched = c.unmatched := rfl
@[simp] theorem setups_observe : (c.observe d d').setups = c.setups := rfl
@[simp] theorem teardowns_observe : (c.observe d d').teardowns = c.teardowns := rfl
@[simp] theorem rises_observe :
    (c.observe d d').rises = c.rises + if d = 0 ∧ d' = 1 then 1 else 0 := rfl
@[simp] theorem falls_observe :
    (c.observe d d').falls = c.falls + if d = 1 ∧ d' = 0 then 1 else 0 := rfl

@[simp] theorem unmatched_opened :
    (c.opened t).unmatched = Function.update c.unmatched t (c.unmatched t + 1) := rfl
@[simp] theorem setups_opened : (c.opened t).setups = c.setups := rfl
@[simp] theorem teardowns_opened : (c.opened t).teardowns = c.teardowns := rfl
@[simp] theorem rises_opened : (c.opened t).rises = c.rises := rfl
@[simp] theorem falls_opened : (c.opened t).falls = c.falls := rfl

@[simp] theorem unmatched_closed :
    (c.closed t).unmatched = Function.update c.unmatched t (c.unmatched t - 1) := rfl
@[simp] theorem setups_closed : (c.closed t).setups = c.setups := rfl
@[simp] theorem teardowns_closed : (c.closed t).teardowns = c.teardowns := rfl
@[simp] theorem rises_closed : (c.closed t).rises = c.rises := rfl
@[simp] theorem falls_closed : (c.closed t).falls = c.falls := rfl

@[simp] theorem unmatched_setUp : c.setUp.unmatched = c.unmatched := rfl
@[simp] theorem setups_setUp : c.setUp.setups = c.setups + 1 := rfl
@[simp] theorem teardowns_setUp : c.setUp.teardowns = c.teardowns := rfl
@[simp] theorem rises_setUp : c.setUp.rises = c.rises := rfl
@[simp] theorem falls_setUp : c.setUp.falls = c.falls := rfl

@[simp] theorem unmatched_tornDown : c.tornDown.unmatched = c.unmatched := rfl
@[simp] theorem setups_tornDown : c.tornDown.setups = c.setups := rfl
@[simp] theorem teardowns_tornDown : c.tornDown.teardowns = c.teardowns + 1 := rfl
@[simp] theorem rises_tornDown : c.tornDown.rises = c.rises := rfl
@[simp] theorem falls_tornDown : c.tornDown.falls = c.falls := rfl

end Tally

/-- An arbiter over a line `σ` with hooks `η`, the threads that call it, and the tally of the
run so far. -/
structure World (σ η : Type) where
  arbiter : Arbiter σ η
  threads : ThreadId → Thread
  tally : Tally

namespace World

variable {σ η : Type}

/-- A new arbiter over `master` with `hooks`, the log level at `level`, and no thread in a
call. -/
def fresh (config : SessionConfig) (master : Master σ) (hooks : Option η) (level : LogLevel) :
    World σ η :=
  { arbiter := { config, master, hooks, level }, threads := fun _ => {}, tally := {} }

/-- The arbiter after a step, with the depth's moves counted. -/
def withArbiter (s : World σ η) (a : Arbiter σ η) : World σ η :=
  { s with arbiter := a, tally := s.tally.observe s.arbiter.depth a.depth }

def modifyThread (s : World σ η) (t : ThreadId) (f : Thread → Thread) : World σ η :=
  { s with threads := Function.update s.threads t (f (s.threads t)) }

def count (s : World σ η) (f : Tally → Tally) : World σ η := { s with tally := f s.tally }

@[simp] theorem arbiter_withArbiter (s : World σ η) (a) : (s.withArbiter a).arbiter = a := rfl
@[simp] theorem tally_withArbiter (s : World σ η) (a) :
    (s.withArbiter a).tally = s.tally.observe s.arbiter.depth a.depth := rfl
@[simp] theorem threads_withArbiter (s : World σ η) (a) :
    (s.withArbiter a).threads = s.threads := rfl
@[simp] theorem arbiter_modifyThread (s : World σ η) (t f) :
    (s.modifyThread t f).arbiter = s.arbiter := rfl
@[simp] theorem tally_modifyThread (s : World σ η) (t f) :
    (s.modifyThread t f).tally = s.tally := rfl
@[simp] theorem arbiter_count (s : World σ η) (f) : (s.count f).arbiter = s.arbiter := rfl
@[simp] theorem threads_count (s : World σ η) (f) : (s.count f).threads = s.threads := rfl
@[simp] theorem tally_count (s : World σ η) (f) : (s.count f).tally = f s.tally := rfl

@[simp] theorem threads_modifyThread_self (s : World σ η) (t f) :
    (s.modifyThread t f).threads t = f (s.threads t) := by
  simp [modifyThread]

theorem threads_modifyThread_ne (s : World σ η) {t u : ThreadId} (f) (h : u ≠ t) :
    (s.modifyThread t f).threads u = s.threads u := by
  simp [modifyThread, h]

theorem withArbiter_self (s : World σ η) : s.withArbiter s.arbiter = s := by
  simp [withArbiter]

end World

/-- What a thread does in one step. -/
inductive Action (σ : Type) where
  | begin (wait : Wait)
  | setup
  | deepen
  | release
  | finish
  | teardown
  | withMaster
  | borrow
  | useMaster (x : StateM (Master σ) Unit)
  | giveBack (r : Except BusError Unit)

namespace Action

/-- The steps that use the master, the hooks or the log level. -/
def touchesBus {σ : Type} : Action σ → Bool
  | setup | teardown | useMaster _ => true
  | begin _ | deepen | release | finish | withMaster | borrow | giveBack _ => false

end Action

variable {σ η : Type} (L : Line σ) (H : Hooks η)

/-- Thread `t` takes the step `act` from `s` to `s'`. -/
inductive Step : World σ η → ThreadId → Action σ → World σ η → Prop
  /-- `enter` finds the window free, or its own at depth zero: the setup comes next. -/
  | beginOutermost {s t wait a} (hpc : (s.threads t).pc = .idle)
      (hrun : (Arbiter.acquire t).run s.arbiter = (.ok true, a)) :
      Step s t (.begin wait) ((s.withArbiter a).modifyThread t (·.moveTo .settingUp))
  /-- `enter` finds its own window with sessions open, and opens one more at once. -/
  | beginNested {s t wait a} (hpc : (s.threads t).pc = .idle)
      (hrun : (Arbiter.acquire t).run s.arbiter = (.ok false, a)) :
      Step s t (.begin wait)
        (((s.withArbiter (Arbiter.deepen.run a).2).modifyThread t (·.returns (.ok ()))).count
          (·.opened t))
  /-- `enter` with a deadline gives up on a window held by another thread. -/
  | beginTimeout {s t ms e a} (hpc : (s.threads t).pc = .idle)
      (hrun : (Arbiter.acquire t).run s.arbiter = (.error e, a)) :
      Step s t (.begin (.upTo ms)) ((s.withArbiter a).modifyThread t (·.returns (.error e)))
  /-- The setup succeeds once the master's lock is free. -/
  | setupDone {s t a} (hpc : (s.threads t).pc = .settingUp) (hfree : s.arbiter.lent = false)
      (hrun : (Arbiter.setup L H).run s.arbiter = (.ok (), a)) :
      Step s t .setup (((s.withArbiter a).modifyThread t (·.moveTo .deepening)).count .setUp)
  /-- The setup fails once the master's lock is free. -/
  | setupFailed {s t e a} (hpc : (s.threads t).pc = .settingUp) (hfree : s.arbiter.lent = false)
      (hrun : (Arbiter.setup L H).run s.arbiter = (.error e, a)) :
      Step s t .setup ((s.withArbiter a).modifyThread t (·.moveTo (.abandoning e)))
  /-- The outermost session opens, and `enter` returns. -/
  | deepen {s t} (hpc : (s.threads t).pc = .deepening) :
      Step s t .deepen
        (((s.withArbiter (Arbiter.deepen.run s.arbiter).2).modifyThread t
          (·.returns (.ok ()))).count (·.opened t))
  /-- After a failed setup the window is freed, and `enter` returns the setup's error. -/
  | abandon {s t e} (hpc : (s.threads t).pc = .abandoning e) :
      Step s t .release
        ((s.withArbiter (Arbiter.release.run s.arbiter).2).modifyThread t (·.returns (.error e)))
  /-- After the teardown the window is freed, and `leave` returns. -/
  | release {s t} (hpc : (s.threads t).pc = .releasing) :
      Step s t .release
        ((s.withArbiter (Arbiter.release.run s.arbiter).2).modifyThread t (·.moveTo .idle))
  /-- `leave` of a thread that holds no session is ignored. -/
  | finishIgnored {s t a} (hpc : (s.threads t).pc = .idle)
      (hrun : (Arbiter.unwind t).run s.arbiter = (none, a)) :
      Step s t .finish ((s.withArbiter a).count (·.closed t))
  /-- `leave` closes a nested session and returns. -/
  | finishNested {s t a} (hpc : (s.threads t).pc = .idle)
      (hrun : (Arbiter.unwind t).run s.arbiter = (some false, a)) :
      Step s t .finish ((s.withArbiter a).count (·.closed t))
  /-- `leave` closes the last session: the teardown comes next. -/
  | finishLast {s t a} (hpc : (s.threads t).pc = .idle)
      (hrun : (Arbiter.unwind t).run s.arbiter = (some true, a)) :
      Step s t .finish
        (((s.withArbiter a).modifyThread t (·.moveTo .tearingDown)).count (·.closed t))
  /-- The teardown runs once the master's lock is free. -/
  | teardown {s t} (hpc : (s.threads t).pc = .tearingDown) (hfree : s.arbiter.lent = false) :
      Step s t .teardown
        (((s.withArbiter ((Arbiter.teardown L H).run s.arbiter).2).modifyThread t
          (·.moveTo .releasing)).count .tornDown)
  /-- `withMaster` of a thread without a session returns the check's error. -/
  | withMasterRefused {s t e a} (hpc : (s.threads t).pc = .idle)
      (hrun : (Arbiter.checkSession t).run s.arbiter = (.error e, a)) :
      Step s t .withMaster ((s.withArbiter a).modifyThread t (·.returns (.error e)))
  /-- `withMaster` of a thread with a session passes the check. -/
  | withMasterChecked {s t a} (hpc : (s.threads t).pc = .idle)
      (hrun : (Arbiter.checkSession t).run s.arbiter = (.ok (), a)) :
      Step s t .withMaster ((s.withArbiter a).modifyThread t (·.moveTo .borrowing))
  /-- The master is lent already: `withMaster` returns `busy`. -/
  | borrowRefused {s t e a} (hpc : (s.threads t).pc = .borrowing)
      (hrun : Arbiter.borrow.run s.arbiter = (.error e, a)) :
      Step s t .borrow ((s.withArbiter a).modifyThread t (·.returns (.error e)))
  /-- The master is taken, and the closure starts. -/
  | borrowTaken {s t a} (hpc : (s.threads t).pc = .borrowing)
      (hrun : Arbiter.borrow.run s.arbiter = (.ok (), a)) :
      Step s t .borrow ((s.withArbiter a).modifyThread t Thread.lend)
  /-- The closure runs a master program. -/
  | useMaster {s t} (x : StateM (Master σ) Unit) (hpc : (s.threads t).pc = .idle)
      (hlent : (s.threads t).borrowed = true) :
      Step s t (.useMaster x) (s.withArbiter ((Arbiter.onMaster x).run s.arbiter).2)
  /-- The closure returns `r`, and the master is given back. -/
  | giveBack {s t} (r : Except BusError Unit) (hpc : (s.threads t).pc = .idle)
      (hlent : (s.threads t).borrowed = true) :
      Step s t (.giveBack r)
        ((s.withArbiter (Arbiter.giveBack.run s.arbiter).2).modifyThread t (·.giveBack r))

/-- Some interleaving of steps of any threads leads from `s` to `s'`. -/
def Reaches (s s' : World σ η) : Prop :=
  Relation.ReflTransGen (fun w w' => ∃ t act, Step L H w t act w') s s'

namespace World

/-- The world after thread `t` takes the step `act` from `s`, or `none` when it cannot take
it: `Step` computed. -/
def next? (s : World σ η) (t : ThreadId) : Action σ → Option (World σ η)
  | .begin wait =>
    if (s.threads t).pc = .idle then
      match (Arbiter.acquire t).run s.arbiter, wait with
      | (.ok true, a), _ => some ((s.withArbiter a).modifyThread t (·.moveTo .settingUp))
      | (.ok false, a), _ =>
        some (((s.withArbiter (Arbiter.deepen.run a).2).modifyThread t
          (·.returns (.ok ()))).count (·.opened t))
      | (.error e, a), .upTo _ => some ((s.withArbiter a).modifyThread t (·.returns (.error e)))
      | (.error _, _), .forever => none
    else none
  | .setup =>
    if (s.threads t).pc = .settingUp ∧ s.arbiter.lent = false then
      match (Arbiter.setup L H).run s.arbiter with
      | (.ok (), a) => some (((s.withArbiter a).modifyThread t (·.moveTo .deepening)).count .setUp)
      | (.error e, a) => some ((s.withArbiter a).modifyThread t (·.moveTo (.abandoning e)))
    else none
  | .deepen =>
    if (s.threads t).pc = .deepening then
      some (((s.withArbiter (Arbiter.deepen.run s.arbiter).2).modifyThread t
        (·.returns (.ok ()))).count (·.opened t))
    else none
  | .release =>
    match (s.threads t).pc with
    | .abandoning e =>
      some ((s.withArbiter (Arbiter.release.run s.arbiter).2).modifyThread t
        (·.returns (.error e)))
    | .releasing =>
      some ((s.withArbiter (Arbiter.release.run s.arbiter).2).modifyThread t (·.moveTo .idle))
    | _ => none
  | .finish =>
    if (s.threads t).pc = .idle then
      match (Arbiter.unwind t).run s.arbiter with
      | (some true, a) =>
        some (((s.withArbiter a).modifyThread t (·.moveTo .tearingDown)).count (·.closed t))
      | (_, a) => some ((s.withArbiter a).count (·.closed t))
    else none
  | .teardown =>
    if (s.threads t).pc = .tearingDown ∧ s.arbiter.lent = false then
      some (((s.withArbiter ((Arbiter.teardown L H).run s.arbiter).2).modifyThread t
        (·.moveTo .releasing)).count .tornDown)
    else none
  | .withMaster =>
    if (s.threads t).pc = .idle then
      match (Arbiter.checkSession t).run s.arbiter with
      | (.error e, a) => some ((s.withArbiter a).modifyThread t (·.returns (.error e)))
      | (.ok (), a) => some ((s.withArbiter a).modifyThread t (·.moveTo .borrowing))
    else none
  | .borrow =>
    if (s.threads t).pc = .borrowing then
      match Arbiter.borrow.run s.arbiter with
      | (.error e, a) => some ((s.withArbiter a).modifyThread t (·.returns (.error e)))
      | (.ok (), a) => some ((s.withArbiter a).modifyThread t Thread.lend)
    else none
  | .useMaster x =>
    if (s.threads t).pc = .idle ∧ (s.threads t).borrowed = true then
      some (s.withArbiter ((Arbiter.onMaster x).run s.arbiter).2)
    else none
  | .giveBack r =>
    if (s.threads t).pc = .idle ∧ (s.threads t).borrowed = true then
      some ((s.withArbiter (Arbiter.giveBack.run s.arbiter).2).modifyThread t (·.giveBack r))
    else none

/-- The world after the steps of a schedule, each by its thread in turn, or `none` when one of
them cannot be taken. -/
def run? (s : World σ η) : List (ThreadId × Action σ) → Option (World σ η)
  | [] => some s
  | (t, act) :: rest => (s.next? L H t act).bind fun s' => s'.run? rest

variable {L H} {s s' : World σ η} {t : ThreadId} {act : Action σ}

theorem step_of_next? (h : s.next? L H t act = some s') : Step L H s t act s' := by
  cases act with
  | begin wait =>
    simp only [next?] at h
    split at h
    · rename_i hpc
      split at h <;> cases h
      · exact .beginOutermost hpc ‹_›
      · exact .beginNested hpc ‹_›
      · exact .beginTimeout hpc ‹_›
    · cases h
  | setup =>
    simp only [next?] at h
    split at h
    · rename_i hpc
      split at h <;> cases h
      · exact .setupDone hpc.1 hpc.2 ‹_›
      · exact .setupFailed hpc.1 hpc.2 ‹_›
    · cases h
  | deepen =>
    simp only [next?] at h
    split at h
    · cases h
      exact .deepen ‹_›
    · cases h
  | release =>
    simp only [next?] at h
    split at h <;> cases h
    · exact .abandon ‹_›
    · exact .release ‹_›
  | finish =>
    simp only [next?] at h
    split at h
    · rename_i hpc
      split at h <;> cases h
      · exact .finishLast hpc ‹_›
      · rename_i r a hlast hr
        cases r with
        | none => exact .finishIgnored hpc hr
        | some last =>
          cases last with
          | false => exact .finishNested hpc hr
          | true => exact absurd rfl hlast
    · cases h
  | teardown =>
    simp only [next?] at h
    split at h
    · rename_i hpc
      cases h
      exact .teardown hpc.1 hpc.2
    · cases h
  | withMaster =>
    simp only [next?] at h
    split at h
    · rename_i hpc
      split at h <;> cases h
      · exact .withMasterRefused hpc ‹_›
      · exact .withMasterChecked hpc ‹_›
    · cases h
  | borrow =>
    simp only [next?] at h
    split at h
    · rename_i hpc
      split at h <;> cases h
      · exact .borrowRefused hpc ‹_›
      · exact .borrowTaken hpc ‹_›
    · cases h
  | useMaster x =>
    simp only [next?] at h
    split at h
    · rename_i hpc
      cases h
      exact .useMaster x hpc.1 hpc.2
    · cases h
  | giveBack r =>
    simp only [next?] at h
    split at h
    · rename_i hpc
      cases h
      exact .giveBack r hpc.1 hpc.2
    · cases h

theorem next?_of_step (h : Step L H s t act s') : s.next? L H t act = some s' := by
  cases h <;> simp [next?, *]

/-- A thread's step is fixed by its action: what interleavings differ in is only which thread
moves next. -/
theorem Step.deterministic {s₁ s₂ : World σ η} (h₁ : Step L H s t act s₁)
    (h₂ : Step L H s t act s₂) : s₁ = s₂ :=
  Option.some.inj ((next?_of_step h₁).symm.trans (next?_of_step h₂))

/-- Every schedule that runs to its end is an interleaving. -/
theorem reaches_of_run? {sched : List (ThreadId × Action σ)} (h : s.run? L H sched = some s') :
    Reaches L H s s' := by
  induction sched generalizing s with
  | nil =>
    cases h
    exact .refl
  | cons step rest ih =>
    obtain ⟨t, act⟩ := step
    simp only [run?, Option.bind_eq_some_iff] at h
    obtain ⟨s₁, hstep, hrest⟩ := h
    exact .head ⟨t, act, step_of_next? hstep⟩ (ih hrest)

end World

end RtuBus
