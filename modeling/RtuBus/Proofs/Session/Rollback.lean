import RtuBus.Proofs.Session.Lifecycle
import RtuBus.Proofs.Master.Record
import RtuBus.Sim.Hooks
import RtuBus.Sim.Bus

/-! # What a failed begin leaves behind

A thread's `enter` fails in two ways. While another thread holds the window it gives up with
`timeout` and changes nothing. Otherwise the window was free and the setup of the outermost
session failed: the window is free again at depth zero, the log level and the level to put back
are as they were, the master is as initialized as it was, and the calls made on the line and on
the hooks are those of one of four failed setups (`FailedSetup`): opening the line failed; the
line opened and could not be switched to receive; or the prepare failed, the bus was idled once,
and a line opened by the setup was closed again (`failed_enter_rolls_back`).

The second of these leaves the line open, and nothing closes it
(`failed_enter_leaves_line_open`).
-/

namespace RtuBus

/-- A call made on the hooks, with what it returned. -/
inductive HookCall where
  | prepare (r : Except BusError Unit)
  | flush
  | idle (r : Except BusError Unit)

/-- The state of hooks with the calls made on them so far, oldest first. -/
structure HookLog (η : Type) where
  inner : η
  calls : List HookCall := []

variable {σ η : Type}

/-- The hooks `H`, recording every call with what it returned. -/
def Hooks.recorded (H : Hooks η) : Hooks (HookLog η) where
  prepare := modifyGet fun h =>
    let r := H.prepare.run h.inner
    (r.1, ⟨r.2, h.calls ++ [.prepare r.1]⟩)
  flush := modify fun h => ⟨(H.flush.run h.inner).2, h.calls ++ [.flush]⟩
  idle := modifyGet fun h =>
    let r := H.idle.run h.inner
    (r.1, ⟨r.2, h.calls ++ [.idle r.1]⟩)

/-- The calls a failed setup makes on the line and on the hooks. -/
inductive FailedSetup : List LineCall → List HookCall → Prop
  /-- Opening the line fails. -/
  | openFailed (k : IoKind) : FailedSetup [.connect (.error k)] []
  /-- The line opens and cannot be switched to receive; it is left open. -/
  | parkFailed (k : IoKind) :
    FailedSetup [.connect (.ok ()), .setTransmit false (.error k)] []
  /-- The prepare fails on a master kept open, and the bus is idled. -/
  | prepareFailedKept (e : BusError) (r : Except BusError Unit) :
    FailedSetup [] [.prepare (.error e), .idle r]
  /-- The prepare fails on a master the setup opened; the bus is idled and the line closed. -/
  | prepareFailed (e : BusError) (r : Except BusError Unit) (r' : Except IoKind Unit) :
    FailedSetup [.connect (.ok ()), .setTransmit false (.ok ()), .disconnect r']
      [.prepare (.error e), .idle r]

namespace Arbiter

/-- The calls made on an arbiter's hooks; none when it has no hooks. -/
def hookCalls (a : Arbiter σ (HookLog η)) : List HookCall :=
  match a.hooks with
  | some h => h.calls
  | none => []

/-- What a failed setup of the outermost session leaves of the arbiter `a` in `a'`. -/
structure RolledBack (a a' : Arbiter (Recorded σ) (HookLog η)) : Prop where
  /-- The window is free. -/
  owner : a'.owner = none
  /-- No session is open. -/
  depth : a'.depth = 0
  /-- No session is open, as other threads see it. -/
  inactive : a'.isActive = false
  /-- The next `enter` of any thread takes the window for an outermost session. -/
  acquirable : ∀ u, ((acquire u).run a').1 = .ok true
  /-- The log level is put back. -/
  level : a'.level = a.level
  /-- The level to put back after a session is as it was. -/
  restoreLevel : a'.restoreLevel = a.restoreLevel
  /-- The master is as initialized as it was. -/
  initialized : a'.master.initialized = a.master.initialized
  /-- The calls made on the line and on the hooks are those of a failed setup. -/
  calls : ∃ cs hc, a'.master.line.calls = a.master.line.calls ++ cs ∧
    a'.hookCalls = a.hookCalls ++ hc ∧ FailedSetup cs hc

variable (L : Line σ) (H : Hooks η)

/-! ## The steps of a setup on a recorded line and recorded hooks -/

theorem onHooks_eq {α : Type} (x : StateM η α) (a : Arbiter σ η) :
    ((onHooks x).run a).2 = { a with hooks := ((onHooks x).run a).2.hooks } := by
  rw [onHooks_run]
  split <;> rfl

/-- A prepare that fails was called on hooks that exist, and is recorded with its error. -/
theorem prepare_error_recorded {a a₂ : Arbiter σ (HookLog η)} {e : BusError}
    (h : (onHooks H.recorded.prepare).run a = (some (.error e), a₂)) :
    a₂ = { a with hooks := a₂.hooks } ∧ a₂.hooks.isSome ∧
      a₂.hookCalls = a.hookCalls ++ [.prepare (.error e)] := by
  have heq := onHooks_eq H.recorded.prepare a
  rw [h] at heq
  refine ⟨heq, ?_⟩
  rw [onHooks_run] at h
  cases hh : a.hooks with
  | none =>
    rw [hh] at h
    cases h
  | some th =>
    rw [hh] at h
    injection h with hr ha₂
    injection hr with hr
    rw [← ha₂]
    exact ⟨rfl, by simp only [hookCalls, hh, ← hr]; rfl⟩

theorem idle_recorded (a : Arbiter σ (HookLog η)) (hh : a.hooks.isSome) :
    ∃ r, ((onHooks H.recorded.idle).run a).2.hookCalls = a.hookCalls ++ [.idle r] := by
  rw [onHooks_run]
  cases hth : a.hooks with
  | none => rw [hth] at hh; cases hh
  | some th => exact ⟨(H.idle.run th.inner).1, by simp only [hookCalls, hth]; rfl⟩

/-- `openMaster` changes only the master; it skips a master kept open, and otherwise makes the
calls of `init`. -/
theorem openMaster_recorded (a : Arbiter (Recorded σ) η) :
    ((openMaster L.recorded).run a).2 =
        { a with master := ((openMaster L.recorded).run a).2.master } ∧
      ((a.config.policy = .keepAlive ∧ a.master.initialized = true ∧
          (openMaster L.recorded).run a = (.ok false, a)) ∨
        (¬(a.config.policy = .keepAlive ∧ a.master.initialized = true) ∧ ∃ cs r,
          Opening a.master.initialized cs ((openMaster L.recorded).run a).2.master.initialized r ∧
          ((openMaster L.recorded).run a).2.master.line.calls = a.master.line.calls ++ cs ∧
          ((openMaster L.recorded).run a).1 = r.map fun () => true)) := by
  rw [openMaster_run]
  split
  · rename_i hkeep
    exact ⟨rfl, .inl ⟨hkeep.1, hkeep.2, rfl⟩⟩
  · rename_i hopen
    obtain ⟨cs, ho, hcs⟩ := Master.init_recorded L a.master
    exact ⟨rfl, .inr ⟨hopen, cs, _, ho, hcs, rfl⟩⟩

/-- Undoing a setup whose prepare failed idles the hooks once, and closes the master when the
setup opened it; the log levels are left alone. -/
theorem abandonSetup_recorded (fresh : Bool) (a : Arbiter (Recorded σ) (HookLog η))
    (hh : a.hooks.isSome) :
    ((abandonSetup L.recorded H.recorded fresh).run a).2.level = a.level ∧
    ((abandonSetup L.recorded H.recorded fresh).run a).2.restoreLevel = a.restoreLevel ∧
    (∃ r, ((abandonSetup L.recorded H.recorded fresh).run a).2.hookCalls =
      a.hookCalls ++ [.idle r]) ∧
    (fresh = false → ((abandonSetup L.recorded H.recorded fresh).run a).2.master = a.master) ∧
    (fresh = true → ∃ cs r, Closing a.master.initialized cs r ∧
      ((abandonSetup L.recorded H.recorded fresh).run a).2.master.line.calls =
        a.master.line.calls ++ cs ∧
      ((abandonSetup L.recorded H.recorded fresh).run a).2.master.initialized = false) := by
  have hidle := onHooks_eq H.recorded.idle a
  obtain ⟨r, hr⟩ := idle_recorded H a hh
  rw [abandonSetup_run]
  cases fresh with
  | false =>
    simp only [Bool.false_eq_true, ↓reduceIte]
    exact ⟨by rw [hidle], by rw [hidle], ⟨r, hr⟩, fun _ => by rw [hidle], fun h => (by cases h)⟩
  | true =>
    simp only [↓reduceIte]
    -- the master is closed from where idling the hooks left it, which is where it was
    have hmaster : ((onHooks H.recorded.idle).run a).2.master = a.master := by rw [hidle]
    obtain ⟨cs, hc, hcs, hinit⟩ :=
      Master.deinit_recorded L ((onHooks H.recorded.idle).run a).2.master
    rw [hmaster] at hc
    exact ⟨by rw [hidle], by rw [hidle], ⟨r, hr⟩, fun h => (by cases h),
      fun _ => ⟨cs, _, hc, by rw [hcs, hmaster], hinit⟩⟩

theorem closed_of_not_kept {a : Arbiter σ η}
    (hclosed : a.config.policy = .perSession → a.master.initialized = false)
    (hnot : ¬(a.config.policy = .keepAlive ∧ a.master.initialized = true)) :
    a.master.initialized = false := by
  cases hp : a.config.policy with
  | perSession => exact hclosed hp
  | keepAlive =>
    cases hi : a.master.initialized with
    | false => rfl
    | true => exact absurd ⟨hp, hi⟩ hnot

/-- A failed setup puts the log level back, leaves the level to put back and the master's flag as
they were, and makes the calls of a failed setup, on an arbiter whose master is closed when the
policy closes it after each session. -/
theorem setup_error_recorded {a a' : Arbiter (Recorded σ) (HookLog η)} {e : BusError}
    (hclosed : a.config.policy = .perSession → a.master.initialized = false)
    (h : (setup L.recorded H.recorded).run a = (.error e, a')) :
    a'.level = a.level ∧ a'.restoreLevel = a.restoreLevel ∧
      a'.master.initialized = a.master.initialized ∧
      ∃ cs hc, a'.master.line.calls = a.master.line.calls ++ cs ∧
        a'.hookCalls = a.hookCalls ++ hc ∧ FailedSetup cs hc := by
  obtain ⟨hopen_eq, hopen⟩ := openMaster_recorded L (lowerLevel.run a).2
  rcases setup_cases L.recorded H.recorded a with ⟨e₁, a₁, h₁, hrun⟩ |
    ⟨fresh, a₁, e₁, a₂, h₁, h₂, hrun⟩ | ⟨_, _, _, _, _, _, _, hrun⟩
  · rw [hrun] at h
    injection h with he ha'
    subst ha'
    rw [h₁] at hopen_eq hopen
    dsimp only at hopen_eq hopen
    rcases hopen with ⟨-, -, hskip⟩ | ⟨-, cs, r, ho, hcs, hr⟩
    · cases hskip
    obtain ⟨hb, hb', hcalls⟩ := ho.failed (exceptMap_eq_error hr.symm)
    refine ⟨rfl, by rw [hopen_eq]; rfl, hb'.trans hb.symm, cs, [], hcs, ?_, ?_⟩
    · rw [List.append_nil, hopen_eq]
      rfl
    · rcases hcalls with ⟨k, rfl⟩ | ⟨k, rfl⟩
      · exact .openFailed k
      · exact .parkFailed k
  · rw [hrun] at h
    injection h with he ha'
    subst ha'
    rw [h₁] at hopen_eq hopen
    dsimp only at hopen_eq hopen
    obtain ⟨hprep_eq, hsome, hprep⟩ := prepare_error_recorded H h₂
    obtain ⟨hlevel, hrestore, ⟨r, hidle⟩, hkept, hreopened⟩ :=
      abandonSetup_recorded L H fresh a₂ hsome
    have hmaster₂ : a₂.master = a₁.master := by rw [hprep_eq]
    have hlevels : a₂.restoreLevel = a.restoreLevel := by rw [hprep_eq, hopen_eq]; rfl
    have hhooks : a₂.hookCalls = a.hookCalls ++ [.prepare (.error e₁)] := by
      rw [hprep, hopen_eq]
      rfl
    refine ⟨rfl, hrestore.trans hlevels, ?_⟩
    rcases hopen with ⟨-, -, hskip⟩ | ⟨hnot, cs, r₀, ho, hcs, hr⟩
    · injection hskip with hfresh ha₁
      injection hfresh with hfresh
      subst hfresh
      have hmaster : ((abandonSetup L.recorded H.recorded false).run a₂).2.master = a.master := by
        rw [hkept rfl, hmaster₂, ha₁]
        rfl
      refine ⟨by rw [← hmaster], [], [.prepare (.error e₁), .idle r],
        by rw [List.append_nil, ← hmaster], hidle.trans ?_, .prepareFailedKept e₁ r⟩
      rw [hhooks, List.append_assoc]
      rfl
    · cases r₀ with
      | error k => cases hr
      | ok u =>
        injection hr with hfresh
        subst hfresh
        have hwas : (lowerLevel.run a).2.master.initialized = false :=
          closed_of_not_kept hclosed hnot
        obtain ⟨hb', hcalls⟩ := ho.succeeded rfl
        rcases hcalls with ⟨hb, -⟩ | ⟨-, rfl⟩
        · rw [hwas] at hb
          cases hb
        obtain ⟨cs', r', hc, hcs', hinit⟩ := hreopened rfl
        rw [hmaster₂, hb'] at hc
        obtain ⟨r'', rfl⟩ := hc.of_initialized
        refine ⟨hinit.trans hwas.symm, _, [.prepare (.error e₁), .idle r], hcs'.trans ?_,
          hidle.trans ?_, .prepareFailed e₁ r r''⟩
        · rw [hmaster₂, hcs]
          simp
        · rw [hhooks, List.append_assoc]
          rfl
  · rw [hrun] at h
    cases h

/-! ## A failed `enter` -/

theorem arbiterM_run_bind {α β : Type} (x : ArbiterM σ η α) (f : α → ArbiterM σ η β)
    (a : Arbiter σ η) : (x >>= f).run a = (f (x.run a).1).run (x.run a).2 :=
  rfl

/-- The two ways `enter` fails: another thread holds the window, and nothing changes; or the
window was free or `me`'s at depth zero, the setup failed, and the window is freed. -/
theorem enter_error {a : Arbiter σ η} {me : ThreadId} {e : BusError}
    (h : ((enter L H me).run a).1 = .error e) :
    (e = .timeout ∧ (∃ u, a.owner = some u ∧ u ≠ me) ∧ ((enter L H me).run a).2 = a) ∨
    ((a.owner = none ∨ a.owner = some me) ∧ a.depth = 0 ∧
      ∃ a₁, (setup L H).run { a with owner := some me } = (.error e, a₁) ∧
        ((enter L H me).run a).2 = { a₁ with owner := none }) := by
  rcases hacq : (acquire me).run a with ⟨r, a₀⟩
  cases r with
  | error e' =>
    obtain ⟨hother, rfl, ha⟩ := acquire_error hacq
    have hrun : (enter L H me).run a = (.error .timeout, a) := by
      simp only [enter, arbiterM_run_bind, hacq, ha]
      rfl
    rw [hrun] at h ⊢
    cases h
    exact .inl ⟨rfl, hother, rfl⟩
  | ok outermost =>
    obtain ⟨hown, rfl, rfl⟩ := acquire_ok hacq
    by_cases hd : a.depth = 0
    · have hdec : decide (a.depth = 0) = true := decide_eq_true hd
      rcases hsetup : (setup L H).run { a with owner := some me } with ⟨rs, a₁⟩
      cases rs with
      | error e₁ =>
        have hrun : (enter L H me).run a = (.error e₁, { a₁ with owner := none }) := by
          simp only [enter, arbiterM_run_bind, hacq, hdec, ↓reduceIte, hsetup]
          rfl
        rw [hrun] at h ⊢
        cases h
        exact .inr ⟨hown, hd, a₁, rfl, rfl⟩
      | ok u =>
        have hrun : ((enter L H me).run a).1 = .ok () := by
          simp only [enter, arbiterM_run_bind, hacq, hdec, ↓reduceIte, hsetup]
          rfl
        rw [hrun] at h
        cases h
    · have hdec : decide (a.depth = 0) = false := decide_eq_false hd
      have hrun : ((enter L H me).run a).1 = .ok () := by
        simp only [enter, arbiterM_run_bind, hacq, hdec, Bool.false_eq_true, ↓reduceIte]
        rfl
      rw [hrun] at h
      cases h

end Arbiter

variable (L : Line σ) (H : Hooks η)

/-- In every world that some interleaving of calls reaches from a new arbiter over a closed
master, with a line and hooks that behave in any way, an `enter` by a thread between calls that
fails either met the window held by another thread, gave up with `timeout` and changed nothing;
or found the window free and could not set the bus up, and then rolled back: the window is free
at depth zero, the log levels and the master's flag are as they were, and the calls made are
those of a failed setup. -/
theorem failed_enter_rolls_back {config : SessionConfig} {master : Master (Recorded σ)}
    {hooks : Option (HookLog η)} {level : LogLevel} (hclosed : master.initialized = false)
    {s : World (Recorded σ) (HookLog η)}
    (hreach : Reaches L.recorded H.recorded (World.fresh config master hooks level) s)
    {me : ThreadId} (hidle : (s.threads me).pc = .idle) {e : BusError}
    (hfail : ((Arbiter.enter L.recorded H.recorded me).run s.arbiter).1 = .error e) :
    (e = .timeout ∧ (∃ u, s.arbiter.owner = some u ∧ u ≠ me) ∧
      ((Arbiter.enter L.recorded H.recorded me).run s.arbiter).2 = s.arbiter) ∨
    (s.arbiter.owner = none ∧
      Arbiter.RolledBack s.arbiter ((Arbiter.enter L.recorded H.recorded me).run s.arbiter).2) := by
  have hinv := (Exclusive.fresh config master hooks level).reaches hreach
  have hc : Closed s := Closed.reaches (Exclusive.fresh _ _ _ _) (Paired.fresh _ _ _ _)
    (fun _ _ => hclosed) hreach
  rcases Arbiter.enter_error L.recorded H.recorded hfail with htimeout |
    ⟨howner, hdepth, a₁, hsetup, hrun⟩
  · exact .inl htimeout
  · -- a thread between calls that holds the window has a session open, so the window was free
    have hfree : s.arbiter.owner = none := by
      rcases howner with h | h
      · exact h
      · have hout := ((hinv.fits me).ownerFits h).outermost.mpr hdepth
        rw [hidle] at hout
        cases hout
    -- the bus is down, so a master closed after each session is closed
    have hdown : s.busUp = false := by
      simp [World.busUp, World.ownerAt_of_free hfree, hdepth]
    have hw := Arbiter.sameWindow_of_setup L.recorded H.recorded hsetup
    obtain ⟨hlevel, hrestore, hinit, hcalls⟩ :=
      Arbiter.setup_error_recorded L H (by exact fun hpol => hc hpol hdown) hsetup
    refine .inr ⟨hfree, ?_⟩
    rw [hrun]
    exact {
      owner := rfl
      depth := hw.depth.trans hdepth
      inactive := by simp [Arbiter.isActive, hw.reported, hinv.reported, hdepth]
      acquirable := fun u => by simp [Arbiter.acquire_run, hw.depth, hdepth]
      level := hlevel
      restoreLevel := hrestore
      initialized := hinit
      calls := hcalls }

theorem failed_enter_rolls_back_simulated :
    let w : World (Recorded SimBus) (HookLog CountingHooks) :=
      World.fresh {} { line := { inner := { flags := { failTransmitOff := true } } } }
        (some { inner := {} }) .info
    ({ line := { inner := { flags := { failTransmitOff := true } } } } :
        Master (Recorded SimBus)).initialized = false ∧
    Reaches SimBus.line.recorded CountingHooks.hooks.recorded w w ∧
    (w.threads 0).pc = .idle ∧
    ((Arbiter.enter SimBus.line.recorded CountingHooks.hooks.recorded 0).run w.arbiter).1 =
      .error (.transport .permissionDenied) ∧
    ((BusError.transport .permissionDenied = .timeout ∧ (∃ u, w.arbiter.owner = some u ∧ u ≠ 0) ∧
        ((Arbiter.enter SimBus.line.recorded CountingHooks.hooks.recorded 0).run w.arbiter).2 =
          w.arbiter) ∨
      (w.arbiter.owner = none ∧ Arbiter.RolledBack w.arbiter
        ((Arbiter.enter SimBus.line.recorded CountingHooks.hooks.recorded 0).run w.arbiter).2)) := by
  intro w
  exact ⟨rfl, .refl, rfl, rfl,
    failed_enter_rolls_back SimBus.line CountingHooks.hooks rfl .refl rfl rfl⟩

/-- A setup whose line opens but cannot be switched to receive fails and leaves the line open:
no close follows the open. -/
theorem failed_enter_leaves_line_open :
    let w : World (Recorded SimBus) (HookLog CountingHooks) :=
      World.fresh {} { line := { inner := { flags := { failTransmitOff := true } } } }
        (some { inner := {} }) .info
    ((Arbiter.enter SimBus.line.recorded CountingHooks.hooks.recorded 0).run w.arbiter).1 =
        .error (.transport .permissionDenied) ∧
      ((Arbiter.enter SimBus.line.recorded CountingHooks.hooks.recorded 0).run
        w.arbiter).2.master.line.calls =
        [.connect (.ok ()), .setTransmit false (.error .permissionDenied)] := by
  intro w
  exact ⟨rfl, rfl⟩

end RtuBus
