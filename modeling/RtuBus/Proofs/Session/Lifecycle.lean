import RtuBus.Proofs.Session.Pairing

/-! # The bus across sessions

Hooks wrapped by `Hooks.tallied` count their successful prepares and their flushes. Over any
interleaving from a new arbiter these are the tally's successful setups and teardowns, so they
alternate, and the prepares lead by one exactly while the bus is up. Only the setup, the
teardown and the closures of `withMaster` touch the master, the hooks or the log level: the
steps of begins and ends leave them alone, nested or ignored ones included. Under the
per-session policy an arbiter over a closed master keeps it closed while the bus is not up.
-/

namespace RtuBus

variable {σ η : Type}

/-- The state of hooks that also count their successful prepares and their flushes. -/
structure Tallied (η : Type) where
  inner : η
  prepared : Nat := 0
  flushed : Nat := 0

/-- The hooks `H`, counting. -/
def Hooks.tallied (H : Hooks η) : Hooks (Tallied η) where
  prepare := modifyGet fun h =>
    let r := H.prepare.run h.inner
    (r.1, { h with inner := r.2, prepared := h.prepared + r.1.isOk.toNat })
  flush := modify fun h => { h with inner := (H.flush.run h.inner).2, flushed := h.flushed + 1 }
  idle := modifyGet fun h =>
    let r := H.idle.run h.inner
    (r.1, { h with inner := r.2 })

namespace Hooks

variable (H : Hooks η) (h : Tallied η)

@[simp] theorem tallied_prepare_run :
    H.tallied.prepare.run h = ((H.prepare.run h.inner).1, { h with
      inner := (H.prepare.run h.inner).2
      prepared := h.prepared + (H.prepare.run h.inner).1.isOk.toNat }) := rfl

@[simp] theorem tallied_flush_run :
    H.tallied.flush.run h =
      ((), { h with inner := (H.flush.run h.inner).2, flushed := h.flushed + 1 }) := rfl

@[simp] theorem tallied_idle_run :
    H.tallied.idle.run h = ((H.idle.run h.inner).1, { h with inner := (H.idle.run h.inner).2 }) :=
  rfl

end Hooks

namespace Arbiter

variable (L : Line σ) (H : Hooks η)

/-- Two arbiters with the same master, hooks and log level. -/
structure SameBus (a a' : Arbiter σ η) : Prop where
  master : a'.master = a.master
  hooks : a'.hooks = a.hooks
  level : a'.level = a.level

/-- The successful prepares and the flushes that tallied hooks counted, if there are hooks. -/
def counts (a : Arbiter σ (Tallied η)) : Option (Nat × Nat) :=
  a.hooks.map fun h => (h.prepared, h.flushed)

variable {a a' : Arbiter σ (Tallied η)}

theorem counts_of_hooks (h : a'.hooks = a.hooks) : a'.counts = a.counts := by
  simp [counts, h]

theorem counts_prepare_ok {p : Option (Except BusError Unit)}
    (h : (onHooks H.tallied.prepare).run a = (p, a')) (hp : ∀ e, p ≠ some (.error e)) :
    a'.counts = a.counts.map fun c => (c.1 + 1, c.2) := by
  rw [onHooks_run] at h
  cases hh : a.hooks with
  | none =>
    rw [hh] at h
    cases h
    simp [counts, hh]
  | some th =>
    rw [hh] at h
    cases h
    rcases hr : H.prepare.run th.inner with ⟨r, i⟩
    cases r with
    | error e => exact absurd (by simp [hr]) (hp e)
    | ok u => simp [counts, hh, hr, Except.isOk, Except.toBool]

theorem counts_prepare_error {e : BusError}
    (h : (onHooks H.tallied.prepare).run a = (some (.error e), a')) : a'.counts = a.counts := by
  rw [onHooks_run] at h
  cases hh : a.hooks with
  | none =>
    rw [hh] at h
    cases h
  | some th =>
    rw [hh] at h
    obtain ⟨he, rfl⟩ := Prod.mk.inj h
    simp only [Hooks.tallied_prepare_run, Option.some.injEq] at he
    simp [counts, hh, he, Except.isOk, Except.toBool]

theorem counts_idle (a : Arbiter σ (Tallied η)) :
    ((onHooks H.tallied.idle).run a).2.counts = a.counts := by
  rw [onHooks_run]
  split <;> simp_all [counts]

theorem counts_flush (a : Arbiter σ (Tallied η)) :
    ((onHooks H.tallied.flush).run a).2.counts = a.counts.map fun c => (c.1, c.2 + 1) := by
  rw [onHooks_run]
  split <;> simp_all [counts]

theorem hooks_openMaster (a : Arbiter σ η) : ((openMaster L).run a).2.hooks = a.hooks := by
  rw [openMaster_run]
  split <;> rfl

theorem counts_abandonSetup (fresh : Bool) (a : Arbiter σ (Tallied η)) :
    ((abandonSetup L H.tallied fresh).run a).2.counts = a.counts := by
  rw [abandonSetup_run, ← counts_idle H a]
  cases fresh <;> rfl

/-- A successful setup prepared the bus once more, if there are hooks. -/
theorem counts_setup_ok (h : (setup L H.tallied).run a = (.ok (), a')) :
    a'.counts = a.counts.map fun c => (c.1 + 1, c.2) := by
  rcases setup_cases L H.tallied a with ⟨_, _, _, hrun⟩ | ⟨_, _, _, _, _, _, hrun⟩ |
    ⟨fresh, a₁, p, a₂, h₁, h₂, hp, hrun⟩
  · rw [hrun] at h; cases h
  · rw [hrun] at h; cases h
  · rw [hrun] at h
    cases h
    have hopen : a₁.hooks = a.hooks := by
      have h := hooks_openMaster L (lowerLevel.run a).2
      rw [h₁] at h
      exact h
    have hprep := counts_prepare_ok H h₂ hp
    rw [counts_of_hooks hopen] at hprep
    exact hprep

/-- A failed setup leaves the counts as they were. -/
theorem counts_setup_error {e : BusError} (h : (setup L H.tallied).run a = (.error e, a')) :
    a'.counts = a.counts := by
  rcases setup_cases L H.tallied a with ⟨e₁, a₁, h₁, hrun⟩ | ⟨fresh, a₁, e₁, a₂, h₁, h₂, hrun⟩ |
    ⟨_, _, _, _, _, _, _, hrun⟩
  · rw [hrun] at h
    cases h
    have hopen : a₁.hooks = a.hooks := by
      have h := hooks_openMaster L (lowerLevel.run a).2
      rw [h₁] at h
      exact h
    exact counts_of_hooks hopen
  · rw [hrun] at h
    cases h
    have hopen : a₁.hooks = a.hooks := by
      have h := hooks_openMaster L (lowerLevel.run a).2
      rw [h₁] at h
      exact h
    have hundo := counts_abandonSetup L H fresh a₂
    rw [counts_prepare_error H h₂, counts_of_hooks hopen] at hundo
    exact hundo
  · rw [hrun] at h; cases h

/-- A teardown flushed the bus once more, if there are hooks. -/
theorem counts_teardown (a : Arbiter σ (Tallied η)) :
    ((teardown L H.tallied).run a).2.counts = a.counts.map fun c => (c.1, c.2 + 1) := by
  -- closing the master and putting the level back leave the hooks alone
  have hclose : ∀ b : Arbiter σ (Tallied η), ((closeMaster L).run b).2.hooks = b.hooks := by
    intro b
    rw [closeMaster_run]
    split <;> rfl
  have hrestore : ∀ b : Arbiter σ (Tallied η), (restoreSavedLevel.run b).2.hooks = b.hooks := by
    intro b
    rw [restoreSavedLevel_run]
    split <;> rfl
  rw [teardown_run, counts_of_hooks ((hrestore _).trans (hclose _)), counts_idle, counts_flush]

end Arbiter

namespace WindowMove

theorem config {t : ThreadId} {a a' : Arbiter σ η} (hmove : WindowMove t a a') :
    a'.config = a.config := by
  cases hmove with
  | keep hw => exact hw.config
  | _ => rfl

end WindowMove

namespace Step

variable {L : Line σ} {H : Hooks η} {s s' : World σ η} {t : ThreadId} {act : Action σ}

/-- The steps of begins and ends, and those of `withMaster` around its closure, call no hook
and touch neither the master nor the log level. -/
theorem sameBus (hstep : Step L H s t act s') (hbus : act.touchesBus = false) :
    Arbiter.SameBus s.arbiter s'.arbiter := by
  cases hstep
  all_goals simp only [World.arbiter_count, World.arbiter_modifyThread, World.arbiter_withArbiter]
  case beginOutermost hpc hrun =>
    obtain ⟨-, -, rfl⟩ := Arbiter.acquire_ok hrun
    exact ⟨rfl, rfl, rfl⟩
  case beginNested hpc hrun =>
    obtain ⟨-, -, rfl⟩ := Arbiter.acquire_ok hrun
    exact ⟨rfl, rfl, rfl⟩
  case beginTimeout hpc hrun =>
    obtain ⟨-, -, rfl⟩ := Arbiter.acquire_error hrun
    exact ⟨rfl, rfl, rfl⟩
  case finishIgnored hpc hrun =>
    obtain ⟨-, rfl⟩ := Arbiter.unwind_none hrun
    exact ⟨rfl, rfl, rfl⟩
  case finishNested hpc hrun =>
    obtain ⟨-, -, -, rfl⟩ := Arbiter.unwind_some hrun
    exact ⟨rfl, rfl, rfl⟩
  case finishLast hpc hrun =>
    obtain ⟨-, -, -, rfl⟩ := Arbiter.unwind_some hrun
    exact ⟨rfl, rfl, rfl⟩
  case withMasterRefused hpc hrun =>
    obtain ⟨rfl, -⟩ := Arbiter.checkSession_eq hrun
    exact ⟨rfl, rfl, rfl⟩
  case withMasterChecked hpc hrun =>
    obtain ⟨rfl, -⟩ := Arbiter.checkSession_eq hrun
    exact ⟨rfl, rfl, rfl⟩
  case borrowRefused hpc hrun =>
    obtain ⟨-, -, rfl⟩ := Arbiter.borrow_error hrun
    exact ⟨rfl, rfl, rfl⟩
  case borrowTaken hpc hrun =>
    obtain ⟨-, rfl⟩ := Arbiter.borrow_ok hrun
    exact ⟨rfl, rfl, rfl⟩
  case setupDone | setupFailed | teardown | useMaster => simp [Action.touchesBus] at hbus
  all_goals exact ⟨rfl, rfl, rfl⟩

theorem tally_of_not_touchesBus (hstep : Step L H s t act s') (hbus : act.touchesBus = false) :
    s'.tally.setups = s.tally.setups ∧ s'.tally.teardowns = s.tally.teardowns := by
  cases hstep <;> simp_all [Action.touchesBus]

theorem busUp_eq (hinv : Exclusive s) (hp : Paired s) (hstep : Step L H s t act s')
    (hsetups : s'.tally.setups = s.tally.setups)
    (hteardowns : s'.tally.teardowns = s.tally.teardowns) : s'.busUp = s.busUp := by
  have h := (hp.step hinv hstep).setups_eq (hinv.step hstep)
  rw [hsetups, hteardowns, hp.setups_eq hinv] at h
  cases hb : s.busUp <;> cases hb' : s'.busUp <;> simp_all

end Step

variable {L : Line σ} {H : Hooks η}

/-- Under the per-session policy the master is closed while the bus is not up. -/
def Closed (s : World σ η) : Prop :=
  s.arbiter.config.policy = .perSession → s.busUp = false → s.arbiter.master.initialized = false

theorem Closed.step {s s' : World σ η} {t : ThreadId} {act : Action σ} (hinv : Exclusive s)
    (hp : Paired s) (hc : Closed s) (hstep : Step L H s t act s') : Closed s' := by
  have hcfg := (hstep.windowMove hinv).config
  intro hpol hdown
  rw [hcfg] at hpol
  cases hbus : act.touchesBus
  · obtain ⟨hsetups, hteardowns⟩ := hstep.tally_of_not_touchesBus hbus
    rw [(hstep.sameBus hbus).master]
    exact hc hpol (hstep.busUp_eq hinv hp hsetups hteardowns ▸ hdown)
  · have hfit := hinv.fits t
    cases hstep
    case setupDone hpc hfree hrun =>
      -- after a successful setup the owner is about to open its session: the bus is up
      have howner := hfit.owner_of_pc (by simp [hpc])
      have hw := Arbiter.sameWindow_of_setup L H hrun
      simp [World.busUp, World.ownerAt, hw.owner, howner] at hdown
    case setupFailed e a hpc hfree hrun =>
      have howner := hfit.owner_of_pc (by simp [hpc])
      have hdepth := (hfit.ownerFits howner).outermost.1 (by simp [hpc, Pc.outermost])
      have hbefore : s.busUp = false := by simp [World.busUp, World.ownerAt, howner, hpc, hdepth]
      exact Arbiter.setup_error_closed L H hpol (hc hpol hbefore) hrun
    case teardown hpc hfree => exact Arbiter.teardown_closed L H hpol
    case useMaster x hpc hlent =>
      have howner := hfit.owner_of_borrowed hlent
      rcases (hfit.ownerFits howner).borrowed hlent with hpos | htear
      · simp [World.busUp, hpos] at hdown
      · simp [World.busUp, World.ownerAt, howner, htear] at hdown
    all_goals simp [Action.touchesBus] at hbus

/-- Tallied hooks have counted the run's successful setups and its teardowns. -/
def HooksTally (s : World σ (Tallied η)) : Prop :=
  ∀ c ∈ s.arbiter.counts, c = (s.tally.setups, s.tally.teardowns)

theorem HooksTally.step {s s' : World σ (Tallied η)} {t : ThreadId} {act : Action σ}
    (hh : HooksTally s) (hstep : Step L H.tallied s t act s') : HooksTally s' := by
  intro c hc
  cases hbus : act.touchesBus
  · obtain ⟨hsetups, hteardowns⟩ := hstep.tally_of_not_touchesBus hbus
    have hcounts : s'.arbiter.counts = s.arbiter.counts := by
      simp [Arbiter.counts, (hstep.sameBus hbus).hooks]
    rw [hsetups, hteardowns]
    exact hh c (hcounts ▸ hc)
  · cases hstep
    case setupDone hpc hfree hrun =>
      simp only [World.arbiter_count, World.arbiter_modifyThread, World.arbiter_withArbiter,
        Arbiter.counts_setup_ok L H hrun, Option.mem_def, Option.map_eq_some_iff] at hc
      obtain ⟨c₀, hc₀, rfl⟩ := hc
      simp [hh c₀ hc₀]
    case setupFailed hpc hfree hrun =>
      simp only [World.arbiter_modifyThread, World.arbiter_withArbiter,
        Arbiter.counts_setup_error L H hrun] at hc
      simpa using hh c hc
    case teardown hpc hfree =>
      simp only [World.arbiter_count, World.arbiter_modifyThread, World.arbiter_withArbiter,
        Arbiter.counts_teardown L H, Option.mem_def, Option.map_eq_some_iff] at hc
      obtain ⟨c₀, hc₀, rfl⟩ := hc
      simp [hh c₀ hc₀]
    case useMaster x hpc hlent => simpa using hh c hc
    all_goals simp [Action.touchesBus] at hbus

theorem Closed.reaches {s s' : World σ η} (hinv : Exclusive s) (hp : Paired s) (hc : Closed s)
    (hreach : Reaches L H s s') : Closed s' := by
  induction hreach with
  | refl => exact hc
  | tail hprefix hstep ih =>
    obtain ⟨t, act, hstep⟩ := hstep
    exact ih.step (hinv.reaches hprefix) (hp.reaches hinv hprefix) hstep

theorem HooksTally.reaches {s s' : World σ (Tallied η)} (hh : HooksTally s)
    (hreach : Reaches L H.tallied s s') : HooksTally s' := by
  induction hreach with
  | refl => exact hh
  | tail _ hstep ih =>
    obtain ⟨t, act, hstep⟩ := hstep
    exact ih.step hstep

/-- How begins and ends pair up in the world `s`, over hooks `H` that count. -/
structure SessionPairing (L : Line σ) (H : Hooks η) (s : World σ (Tallied η)) : Prop where
  unmatched : ∀ t, s.tally.unmatched t = if s.arbiter.owner = some t then s.arbiter.depth else 0
  reported : s.arbiter.reported = s.arbiter.depth
  /-- Each rise of the depth from zero to one follows one successful setup of its own... -/
  setup_per_rise : s.tally.setups = s.tally.rises + (s.ownerAt .deepening).toNat
  /-- ...the depth has risen from zero once more than it fell back exactly while a session is
  open... -/
  rise_per_fall : s.tally.rises = s.tally.falls + min s.arbiter.depth 1
  teardown_per_fall : s.tally.falls = s.tally.teardowns + (s.ownerAt .tearingDown).toNat
  /-- Successful prepares and flushes alternate: the prepares lead by one exactly while the bus
  is up. -/
  prepare_flush : ∀ h ∈ s.arbiter.hooks, h.prepared = h.flushed + s.busUp.toNat
  busUp_quiet : s.Quiet → s.busUp = s.arbiter.isActive
  calls_quiet : ∀ t act s', Step L H.tallied s t act s' → act.touchesBus = false →
    Arbiter.SameBus s.arbiter s'.arbiter
  closed : s.arbiter.config.policy = .perSession → s.busUp = false →
    s.arbiter.master.initialized = false

/-- In every world that some interleaving of any threads' calls reaches from a new arbiter
over a closed master, with hooks that start counting from zero, begins and ends pair up. -/
theorem session_pairing {config : SessionConfig} {master : Master σ} {hooks : Option η}
    {level : LogLevel} {s : World σ (Tallied η)} (hclosed : master.initialized = false)
    (hreach : Reaches L H.tallied
      (World.fresh config master (hooks.map fun h => { inner := h }) level) s) :
    SessionPairing L H s := by
  have hinv := (Exclusive.fresh config master _ level).reaches hreach
  have hp := (Paired.fresh config master _ level).reaches (Exclusive.fresh _ _ _ _) hreach
  have hc : Closed s :=
    Closed.reaches (Exclusive.fresh _ _ _ _) (Paired.fresh _ _ _ _) (fun _ _ => hclosed) hreach
  have hh : HooksTally s := by
    refine HooksTally.reaches (fun c hc => ?_) hreach
    cases hooks <;> simp_all [World.fresh, Arbiter.counts]
  exact {
    unmatched := hp.unmatched
    reported := hinv.reported
    setup_per_rise := hp.setups
    rise_per_fall := hp.rises
    teardown_per_fall := hp.falls
    prepare_flush := by
      intro h hmem
      have hcount := hh _ (Option.mem_map_of_mem (fun h => (h.prepared, h.flushed)) hmem)
      simp only [Prod.mk.injEq] at hcount
      rw [hcount.1, hcount.2]
      exact hp.setups_eq hinv
    busUp_quiet := World.busUp_of_quiet hinv
    calls_quiet := fun t act s' hstep hbus => hstep.sameBus hbus
    closed := hc }

theorem session_pairing_two_threads :
    ({ line := {} } : Master SimBus).initialized = false ∧
    ∃ s₁ s₂, (World.fresh {} { line := {} } ((some {} : Option CountingHooks).map fun h =>
          { inner := h }) .info).run? SimBus.line CountingHooks.hooks.tallied contention =
        some s₁ ∧
      (World.fresh {} { line := {} } ((some {} : Option CountingHooks).map fun h =>
          { inner := h }) .info).run? SimBus.line CountingHooks.hooks.tallied
        (contention ++ handover) = some s₂ ∧
      (s₁.tally.unmatched 0 = 2 ∧ s₁.tally.unmatched 1 = 0 ∧ s₁.arbiter.depth = 2 ∧
        s₁.tally.setups = 1 ∧ (s₁.arbiter.hooks.map fun h => (h.prepared, h.flushed)) = some (1, 0) ∧
        SessionPairing SimBus.line CountingHooks.hooks s₁) ∧
      (s₂.tally.unmatched 0 = 0 ∧ s₂.tally.unmatched 1 = 0 ∧ s₂.tally.setups = 1 ∧
        s₂.tally.teardowns = 1 ∧ (s₂.arbiter.hooks.map fun h => (h.prepared, h.flushed)) = some (1, 1) ∧
        s₂.arbiter.master.initialized = false ∧
        SessionPairing SimBus.line CountingHooks.hooks s₂) := by
  have hrun₁ : (World.fresh {} { line := {} } ((some {} : Option CountingHooks).map fun h =>
      { inner := h }) .info).run? SimBus.line CountingHooks.hooks.tallied contention = some _ :=
    rfl
  have hrun₂ : (World.fresh {} { line := {} } ((some {} : Option CountingHooks).map fun h =>
      { inner := h }) .info).run? SimBus.line CountingHooks.hooks.tallied
      (contention ++ handover) = some _ := rfl
  exact ⟨rfl, _, _, hrun₁, hrun₂,
    ⟨rfl, rfl, rfl, rfl, rfl, session_pairing rfl (World.reaches_of_run? hrun₁)⟩,
    ⟨rfl, rfl, rfl, rfl, rfl, rfl, session_pairing rfl (World.reaches_of_run? hrun₂)⟩⟩

end RtuBus
