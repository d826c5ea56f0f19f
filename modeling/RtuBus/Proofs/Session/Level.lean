import RtuBus.Proofs.Session.Rollback

/-! # The log level under the arbiter

A setup that succeeds lowers the log level to the silence level and keeps the level it replaced;
the teardown puts that level back; a setup that fails puts it back at once. Everything else
leaves the level alone. So over every interleaving from a new arbiter whose level starts at
`base`, the level is `base` while the bus is down and the lower of `base` and the silence level
while it is up (`Leveled`), and the level to put back is `base` exactly while the bus is up.
-/

namespace RtuBus

variable {σ η : Type} (L : Line σ) (H : Hooks η)

namespace Arbiter

theorem openMaster_eq (a : Arbiter σ η) :
    ((openMaster L).run a).2 = { a with master := ((openMaster L).run a).2.master } := by
  rw [openMaster_run]
  split <;> rfl

theorem closeMaster_eq (a : Arbiter σ η) :
    ((closeMaster L).run a).2 = { a with master := ((closeMaster L).run a).2.master } := by
  rw [closeMaster_run]
  split <;> rfl

variable {a a' b : Arbiter σ η}

theorem levels_of_openMaster {r : Except BusError Bool} (h : (openMaster L).run b = (r, a)) :
    a.level = b.level ∧ a.restoreLevel = b.restoreLevel := by
  have ha : ((openMaster L).run b).2 = a := congrArg Prod.snd h
  subst ha
  rw [openMaster_eq]
  exact ⟨rfl, rfl⟩

theorem levels_of_onHooks {α : Type} {x : StateM η α} {r : Option α}
    (h : (onHooks x).run b = (r, a)) : a.level = b.level ∧ a.restoreLevel = b.restoreLevel := by
  have ha : ((onHooks x).run b).2 = a := congrArg Prod.snd h
  subst ha
  rw [onHooks_eq]
  exact ⟨rfl, rfl⟩

theorem abandonSetup_levels (fresh : Bool) (a : Arbiter σ η) :
    ((abandonSetup L H fresh).run a).2.level = a.level ∧
      ((abandonSetup L H fresh).run a).2.restoreLevel = a.restoreLevel := by
  have hidle := onHooks_eq H.idle a
  rw [abandonSetup_run]
  cases fresh <;> simp only [Bool.false_eq_true, if_false, if_true] <;> rw [hidle] <;>
    exact ⟨rfl, rfl⟩

/-- A setup that succeeds lowers the level to the silence level and keeps the level it replaced
to put back. -/
theorem setup_ok_levels (h : (setup L H).run a = (.ok (), a')) :
    a'.level = a.level.min a.config.silenceLevel ∧ a'.restoreLevel = some a.level := by
  rcases setup_cases L H a with ⟨_, _, _, hrun⟩ | ⟨_, _, _, _, _, _, hrun⟩ |
    ⟨fresh, a₁, p, a₂, h₁, h₂, -, hrun⟩ <;> rw [hrun] at h <;> cases h
  -- opening the master and preparing the bus leave the lowered level where it is
  obtain ⟨hl₁, -⟩ := levels_of_openMaster L h₁
  obtain ⟨hl₂, -⟩ := levels_of_onHooks h₂
  refine ⟨?_, rfl⟩
  change a₂.level = _
  rw [hl₂, hl₁]
  rfl

/-- A setup that fails puts the level back and leaves the level to put back alone. -/
theorem setup_error_levels {e : BusError} (h : (setup L H).run a = (.error e, a')) :
    a'.level = a.level ∧ a'.restoreLevel = a.restoreLevel := by
  rcases setup_cases L H a with ⟨e₁, a₁, h₁, hrun⟩ | ⟨fresh, a₁, e₁, a₂, h₁, h₂, hrun⟩ |
    ⟨_, _, _, _, _, _, _, hrun⟩ <;> rw [hrun] at h <;> cases h
  · obtain ⟨-, hr₁⟩ := levels_of_openMaster L h₁
    exact ⟨rfl, hr₁⟩
  · obtain ⟨-, hr₁⟩ := levels_of_openMaster L h₁
    obtain ⟨-, hr₂⟩ := levels_of_onHooks h₂
    refine ⟨rfl, ?_⟩
    change ((abandonSetup L H fresh).run a₂).2.restoreLevel = _
    rw [(abandonSetup_levels L H fresh a₂).2, hr₂, hr₁]
    rfl

/-- A teardown puts back the level the setup kept, and keeps none. -/
theorem teardown_levels (a : Arbiter σ η) :
    ((teardown L H).run a).2.level = a.restoreLevel.getD a.level ∧
      ((teardown L H).run a).2.restoreLevel = none := by
  -- flushing, idling and closing the master leave both levels alone
  have hbefore : ((closeMaster L).run ((onHooks H.idle).run
      ((onHooks H.flush).run a).2).2).2.level = a.level ∧
      ((closeMaster L).run ((onHooks H.idle).run
        ((onHooks H.flush).run a).2).2).2.restoreLevel = a.restoreLevel := by
    rw [closeMaster_eq, onHooks_eq H.idle, onHooks_eq H.flush]
    exact ⟨rfl, rfl⟩
  rw [teardown_run, restoreSavedLevel_run, hbefore.2]
  cases hr : a.restoreLevel with
  | some l => exact ⟨rfl, rfl⟩
  | none =>
    dsimp only
    exact ⟨hbefore.1, hbefore.2.trans hr⟩

end Arbiter

namespace Step

variable {L : Line σ} {H : Hooks η} {s s' : World σ η} {t : ThreadId} {act : Action σ}

/-- A step that uses neither the master, the hooks nor the log level changes the window alone. -/
theorem window_only (hstep : Step L H s t act s') (hbus : act.touchesBus = false) :
    s'.arbiter = { s.arbiter with
      owner := s'.arbiter.owner, depth := s'.arbiter.depth, reported := s'.arbiter.reported,
      lent := s'.arbiter.lent } := by
  cases hstep
  all_goals simp only [World.arbiter_count, World.arbiter_modifyThread, World.arbiter_withArbiter]
  case beginOutermost hpc hrun =>
    obtain ⟨-, -, rfl⟩ := Arbiter.acquire_ok hrun
    rfl
  case beginNested hpc hrun =>
    obtain ⟨-, -, rfl⟩ := Arbiter.acquire_ok hrun
    rfl
  case beginTimeout hpc hrun =>
    obtain ⟨-, -, rfl⟩ := Arbiter.acquire_error hrun
    rfl
  case finishIgnored hpc hrun =>
    obtain ⟨-, rfl⟩ := Arbiter.unwind_none hrun
    rfl
  case finishNested hpc hrun =>
    obtain ⟨-, -, -, rfl⟩ := Arbiter.unwind_some hrun
    rfl
  case finishLast hpc hrun =>
    obtain ⟨-, -, -, rfl⟩ := Arbiter.unwind_some hrun
    rfl
  case withMasterRefused hpc hrun =>
    obtain ⟨rfl, -⟩ := Arbiter.checkSession_eq hrun
    rfl
  case withMasterChecked hpc hrun =>
    obtain ⟨rfl, -⟩ := Arbiter.checkSession_eq hrun
    rfl
  case borrowRefused hpc hrun =>
    obtain ⟨-, -, rfl⟩ := Arbiter.borrow_error hrun
    rfl
  case borrowTaken hpc hrun =>
    obtain ⟨-, rfl⟩ := Arbiter.borrow_ok hrun
    rfl
  case setupDone | setupFailed | teardown | useMaster => simp [Action.touchesBus] at hbus
  all_goals rfl

theorem busUp_moves (hinv : Exclusive s) (hp : Paired s) (hstep : Step L H s t act s') :
    (s'.tally.setups = s.tally.setups + 1 → s'.tally.teardowns = s.tally.teardowns →
      s.busUp = false ∧ s'.busUp = true) ∧
    (s'.tally.teardowns = s.tally.teardowns + 1 → s'.tally.setups = s.tally.setups →
      s.busUp = true ∧ s'.busUp = false) := by
  have h₀ := hp.setups_eq hinv
  have h₁ := (hp.step hinv hstep).setups_eq (hinv.step hstep)
  constructor <;> intro ha hb <;> rw [ha, hb] at h₁ <;>
    cases hu : s.busUp <;> cases hu' : s'.busUp <;>
      simp only [hu, hu', Bool.toNat_false, Bool.toNat_true] at h₀ h₁ <;> simp <;> omega

end Step

/-- The log level of a world whose run started at level `base`: `base` while the bus is down,
the lower of `base` and the silence level while it is up, with `base` kept to be put back. -/
structure Leveled (base : LogLevel) (s : World σ η) : Prop where
  level : s.arbiter.level = if s.busUp then base.min s.arbiter.config.silenceLevel else base
  restoreLevel : s.arbiter.restoreLevel = if s.busUp then some base else none

namespace Leveled

variable {L : Line σ} {H : Hooks η} {base : LogLevel}

theorem fresh (config : SessionConfig) (master : Master σ) (hooks : Option η) :
    Leveled base (World.fresh config master hooks base) := by
  have hdown : (World.fresh config master hooks base).busUp = false := by
    simp [World.busUp, World.ownerAt, World.fresh]
  exact ⟨by rw [hdown]; rfl, by rw [hdown]; rfl⟩

theorem step {s s' : World σ η} {t : ThreadId} {act : Action σ} (hinv : Exclusive s)
    (hp : Paired s) (hl : Leveled base s) (hstep : Step L H s t act s') : Leveled base s' := by
  have hcfg := (hstep.windowMove hinv).config
  have hmoves := hstep.busUp_moves hinv hp
  have hsame := hstep.busUp_eq hinv hp
  obtain ⟨hlevel, hrestore⟩ := hl
  cases hbus : act.touchesBus
  · obtain ⟨hsetups, hteardowns⟩ := hstep.tally_of_not_touchesBus hbus
    have hup := hsame hsetups hteardowns
    have hw := hstep.window_only hbus
    have hlev : s'.arbiter.level = s.arbiter.level := by rw [hw]
    have hres : s'.arbiter.restoreLevel = s.arbiter.restoreLevel := by rw [hw]
    refine ⟨?_, ?_⟩
    · rw [hlev, hup, hcfg]
      exact hlevel
    · rw [hres, hup]
      exact hrestore
  · cases hstep
    case setupDone hpc hfree hrun =>
      obtain ⟨hdown, hup⟩ := hmoves.1 (by simp) (by simp)
      obtain ⟨hl', hr'⟩ := Arbiter.setup_ok_levels L H hrun
      have hc' := (Arbiter.sameWindow_of_setup L H hrun).config
      rw [hdown, if_neg (by simp)] at hlevel
      refine ⟨?_, ?_⟩ <;> simp only [World.arbiter_count, World.arbiter_modifyThread,
        World.arbiter_withArbiter, hup, if_true, hl', hr', hlevel, hc']
    case setupFailed hpc hfree hrun =>
      obtain ⟨hl', hr'⟩ := Arbiter.setup_error_levels L H hrun
      have hup := hsame (by simp) (by simp)
      simp only [World.arbiter_modifyThread, World.arbiter_withArbiter] at hcfg
      refine ⟨?_, ?_⟩ <;> rw [hup] <;>
        simp only [World.arbiter_modifyThread, World.arbiter_withArbiter, hl', hr', hcfg]
      · exact hlevel
      · exact hrestore
    case teardown hpc hfree =>
      obtain ⟨hup, hdown⟩ := hmoves.2 (by simp) (by simp)
      obtain ⟨hl', hr'⟩ := Arbiter.teardown_levels L H s.arbiter
      rw [hup, if_pos rfl] at hrestore
      refine ⟨?_, ?_⟩ <;> simp only [World.arbiter_count, World.arbiter_modifyThread,
        World.arbiter_withArbiter, hdown, hl', hr', hrestore] <;> rfl
    case useMaster x hpc hlent =>
      have hup := hsame (by simp) (by simp)
      refine ⟨?_, ?_⟩ <;> rw [hup] <;> simp only [World.arbiter_withArbiter, Arbiter.onMaster_run]
      · exact hlevel
      · exact hrestore
    all_goals simp [Action.touchesBus] at hbus

theorem reaches {s s' : World σ η} (hinv : Exclusive s) (hp : Paired s) (hl : Leveled base s)
    (hreach : Reaches L H s s') : Leveled base s' := by
  induction hreach with
  | refl => exact hl
  | tail hprefix hstep ih =>
    obtain ⟨t, act, hstep⟩ := hstep
    exact ih.step (hinv.reaches hprefix) (hp.reaches hinv hprefix) hstep

end Leveled

/-- The log level in a world `s` of a run whose level started at `base`. -/
structure LevelLaw (L : Line σ) (H : Hooks η) (base : LogLevel) (s : World σ η) : Prop where
  /-- At every point of every call, the level is `base` while the bus is down and the lower of
  `base` and the silence level while it is up. -/
  level_eq : s.arbiter.level = if s.busUp then base.min s.arbiter.config.silenceLevel else base
  /-- With no session open and no thread inside a begin or an end, the level is `base`. -/
  quiet : s.Quiet → s.arbiter.isActive = false → s.arbiter.level = base
  /-- While a session is open, the level is the lower of `base` and the silence level. -/
  active : s.arbiter.isActive = true → s.arbiter.level = base.min s.arbiter.config.silenceLevel
  /-- The level is never above `base`. -/
  le_base : s.arbiter.level.rank ≤ base.rank
  /-- A step that counts no successful setup and no teardown leaves the level alone: nested
  begins and ends, ignored ends and failed begins, by timeout or by a failed setup. -/
  step_keeps : ∀ t act s', Step L H s t act s' → s'.tally.setups = s.tally.setups →
    s'.tally.teardowns = s.tally.teardowns → s'.arbiter.level = s.arbiter.level

/-- In every world that some interleaving of any threads' calls reaches from a new arbiter whose
log level is `base`, the level follows the sessions. -/
theorem log_level_law {config : SessionConfig} {master : Master σ} {hooks : Option η}
    {base : LogLevel} {s : World σ η} (hreach : Reaches L H (World.fresh config master hooks base) s) :
    LevelLaw L H base s := by
  have hinv := (Exclusive.fresh config master hooks base).reaches hreach
  have hp := (Paired.fresh config master hooks base).reaches (Exclusive.fresh _ _ _ _) hreach
  have hl := (Leveled.fresh config master hooks).reaches (Exclusive.fresh _ _ _ _)
    (Paired.fresh _ _ _ _) hreach
  have hactive : s.arbiter.isActive = true → s.busUp = true := by
    intro h
    simp only [Arbiter.isActive, hinv.reported, decide_eq_true_eq] at h
    simp [World.busUp, h]
  exact {
    level_eq := hl.level
    quiet := fun hq hoff => by rw [hl.level, World.busUp_of_quiet hinv hq, hoff, if_neg (by simp)]
    active := fun h => by rw [hl.level, hactive h, if_pos rfl]
    le_base := by
      rw [hl.level]
      split
      · exact LogLevel.min_le_left _ _
      · exact Nat.le_refl _
    step_keeps := by
      intro t act s' hstep hsetups hteardowns
      have hl' := hl.step hinv hp hstep
      rw [hl'.level, hl.level, hstep.busUp_eq hinv hp hsetups hteardowns,
        (hstep.windowMove hinv).config] }

/-- A thread opens a session on a new arbiter at level `info`: the session is open, and the level
is the silence level `warn`. -/
theorem log_level_law_in_session :
    let w₀ : World SimBus CountingHooks := World.fresh {} { line := {} } (some {}) .info
    let w₁ := (w₀.withArbiter ((Arbiter.acquire 0).run w₀.arbiter).2).modifyThread 0
      (·.moveTo .settingUp)
    let w₂ := ((w₁.withArbiter ((Arbiter.setup SimBus.line CountingHooks.hooks).run
      w₁.arbiter).2).modifyThread 0 (·.moveTo .deepening)).count .setUp
    let w₃ := ((w₂.withArbiter (Arbiter.deepen.run w₂.arbiter).2).modifyThread 0
      (·.returns (.ok ()))).count (·.opened 0)
    Reaches SimBus.line CountingHooks.hooks w₀ w₃ ∧ w₃.arbiter.isActive = true ∧
      w₃.arbiter.level = .warn ∧ LevelLaw SimBus.line CountingHooks.hooks .info w₃ := by
  intro w₀ w₁ w₂ w₃
  have hreach : Reaches SimBus.line CountingHooks.hooks w₀ w₃ :=
    .tail (.tail (.single ⟨0, .begin .forever, .beginOutermost rfl rfl⟩)
      ⟨0, .setup, .setupDone rfl rfl rfl⟩) ⟨0, .deepen, .deepen rfl⟩
  exact ⟨hreach, rfl, rfl, log_level_law SimBus.line CountingHooks.hooks hreach⟩

end RtuBus
