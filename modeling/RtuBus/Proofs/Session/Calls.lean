import RtuBus.Session.Arbiter

/-! # What each step of an arbiter call does

The steps that `enter`, `leave` and `withMaster` are built from, each stated as what it returns
and what it leaves in the arbiter. The locked steps (`acquire`, `deepen`, `unwind`, `release`,
`checkSession`) change only the window; `borrow` and `giveBack` only the lending flag; and
`setup` and `teardown` leave the window alone (`SameWindow`) and change only the master, the
hooks and the log levels. A setup ends in one of three ways (`setup_cases`): the master could
not be initialized, the bus could not be prepared, or the bus is set up.
-/

namespace RtuBus

namespace Master

variable {σ : Type} (L : Line σ)

private theorem run_get_master : (ExceptT.run (get : MasterM σ (Master σ))) = (Except.ok <$> get) :=
  rfl

private theorem mapError_error {ε ε' α : Type} (f : ε → ε') (e : ε) :
    (Except.error e : Except ε α).mapError f = .error (f e) := rfl

private theorem mapError_ok {ε ε' α : Type} (f : ε → ε') (a : α) :
    (Except.ok a : Except ε α).mapError f = .ok a := rfl

/-- A failed `init` leaves the master as initialized as it found it. -/
theorem init_error_initialized {m m' : Master σ} {e : BusError}
    (h : (init L).run.run m = (.error e, m')) : m'.initialized = m.initialized := by
  rcases m with ⟨line, initialized, hints⟩
  cases initialized with
  | true => cases h
  | false =>
    -- only the two line calls can fail, and the flag is set after both
    simp only [init, call, onLine, ExceptT.run_bind, run_get_master, ExceptT.run_mk,
      StateT.run_bind, StateT.run_map, StateT.run_get, StateT.run_modifyGet, pure_bind, map_pure,
      bind_pure_comp, Bool.false_eq_true, if_false] at h
    cases hc : (L.connect.run line).1 with
    | error k =>
      simp only [hc, mapError_error, StateT.run_pure] at h
      cases h
      rfl
    | ok u =>
      simp only [hc, mapError_ok, StateT.run_bind, StateT.run_map, StateT.run_modifyGet,
        map_pure, pure_bind] at h
      cases ht : ((L.setTransmit false).run (L.connect.run line).2).1 with
      | error k =>
        simp only [ht] at h
        cases h
        rfl
      | ok u' =>
        simp only [ht] at h
        cases h

/-- After `deinit` the master is closed, whether or not closing the line worked. -/
@[simp]
theorem deinit_initialized (m : Master σ) : ((deinit L).run.run m).2.initialized = false := by
  rcases m with ⟨line, initialized, hints⟩
  cases initialized <;> rfl

end Master

namespace Arbiter

variable {σ η : Type} (L : Line σ) (H : Hooks η) {a a' : Arbiter σ η}

/-! ## The window and the master's lending -/

private theorem run_bind_stateM {ρ α β : Type} (x : StateM ρ α) (f : α → StateM ρ β) (s : ρ) :
    (x >>= f).run s = (f (x.run s).1).run (x.run s).2 := rfl

/-- The fields of the arbiter that only the locked steps and the lending change: the
configuration, the owner, the depth and its reported copy, and whether the master is lent. -/
structure SameWindow (a a' : Arbiter σ η) : Prop where
  config : a'.config = a.config
  owner : a'.owner = a.owner
  depth : a'.depth = a.depth
  reported : a'.reported = a.reported
  lent : a'.lent = a.lent

@[refl]
theorem SameWindow.refl (a : Arbiter σ η) : SameWindow a a := ⟨rfl, rfl, rfl, rfl, rfl⟩

theorem SameWindow.trans {b c : Arbiter σ η} (h₁ : SameWindow a b) (h₂ : SameWindow b c) :
    SameWindow a c :=
  ⟨h₂.config.trans h₁.config, h₂.owner.trans h₁.owner, h₂.depth.trans h₁.depth,
    h₂.reported.trans h₁.reported, h₂.lent.trans h₁.lent⟩

theorem acquire_run (me : ThreadId) (a : Arbiter σ η) :
    (acquire me).run a =
      match a.owner with
      | none => (.ok (decide (a.depth = 0)), { a with owner := some me })
      | some u => if u = me then (.ok (decide (a.depth = 0)), a) else (.error .timeout, a) := by
  rcases a with ⟨config, owner, depth, reported, lent, master, hooks, restoreLevel, level⟩
  cases owner with
  | none => rfl
  | some u =>
    by_cases hu : u = me
    · subst hu; simp [acquire]; rfl
    · simp [acquire, hu]; rfl

/-- `acquire` succeeds when the window is free or already `me`'s; it takes the window and tells
whether the session to open is the outermost one. -/
theorem acquire_ok {me : ThreadId} {b : Bool} (h : (acquire me).run a = (.ok b, a')) :
    (a.owner = none ∨ a.owner = some me) ∧ b = decide (a.depth = 0) ∧
      a' = { a with owner := some me } := by
  rw [acquire_run] at h
  cases hown : a.owner with
  | none =>
    simp only [hown] at h
    cases h
    exact ⟨Or.inl rfl, rfl, rfl⟩
  | some u =>
    by_cases hu : u = me
    · simp only [hown, hu, if_true] at h
      cases h
      subst hu
      exact ⟨Or.inr rfl, rfl, by rw [← hown]⟩
    · simp only [hown, hu, if_false] at h
      cases h

/-- `acquire` fails only while another thread holds the window, and then changes nothing. -/
theorem acquire_error {me : ThreadId} {e : BusError} (h : (acquire me).run a = (.error e, a')) :
    (∃ u, a.owner = some u ∧ u ≠ me) ∧ e = .timeout ∧ a' = a := by
  rw [acquire_run] at h
  cases hown : a.owner with
  | none =>
    simp only [hown] at h
    cases h
  | some u =>
    by_cases hu : u = me
    · simp only [hown, hu, if_true] at h
      cases h
    · simp only [hown, hu, if_false] at h
      cases h
      exact ⟨⟨u, rfl, hu⟩, rfl, rfl⟩

@[simp]
theorem deepen_run (a : Arbiter σ η) :
    deepen.run a = ((), { a with depth := a.depth + 1, reported := a.depth + 1 }) := rfl

@[simp]
theorem release_run (a : Arbiter σ η) : release.run a = ((), { a with owner := none }) := rfl

@[simp]
theorem giveBack_run (a : Arbiter σ η) : giveBack.run a = ((), { a with lent := false }) := rfl

@[simp]
theorem onMaster_run {α : Type} (x : StateM (Master σ) α) (a : Arbiter σ η) :
    (onMaster x).run a = ((x.run a.master).1, { a with master := (x.run a.master).2 }) := rfl

theorem unwind_run (me : ThreadId) (a : Arbiter σ η) :
    (unwind me).run a =
      if a.owner ≠ some me ∨ a.depth = 0 then (none, a)
      else (some (decide (a.depth - 1 = 0)),
        { a with depth := a.depth - 1, reported := a.depth - 1 }) := by
  by_cases h : a.owner ≠ some me ∨ a.depth = 0
  · simp only [unwind, StateT.run_bind, StateT.run_get, pure_bind, h, if_true]; rfl
  · simp only [unwind, StateT.run_bind, StateT.run_get, pure_bind, h, if_false]; rfl

theorem unwind_none {me : ThreadId} (h : (unwind me).run a = (none, a')) :
    (a.owner ≠ some me ∨ a.depth = 0) ∧ a' = a := by
  rw [unwind_run] at h
  split at h
  · cases h
    exact ⟨‹_›, rfl⟩
  · cases h

/-- `unwind` closes one session of the owner and tells whether it was the last. -/
theorem unwind_some {me : ThreadId} {last : Bool} (h : (unwind me).run a = (some last, a')) :
    a.owner = some me ∧ 0 < a.depth ∧ last = decide (a.depth = 1) ∧
      a' = { a with depth := a.depth - 1, reported := a.depth - 1 } := by
  rw [unwind_run] at h
  split at h
  · cases h
  · rename_i hheld
    simp only [not_or, ne_eq, Classical.not_not] at hheld
    cases h
    refine ⟨hheld.1, by omega, ?_, rfl⟩
    simp only [decide_eq_decide]
    omega

theorem checkSession_run (me : ThreadId) (a : Arbiter σ η) :
    (checkSession me).run a =
      (if a.owner ≠ some me ∨ a.depth = 0 then .error .noSession else .ok (), a) := by
  by_cases h : a.owner ≠ some me ∨ a.depth = 0
  · simp only [checkSession, StateT.run_bind, StateT.run_get, pure_bind, h, if_true]; rfl
  · simp only [checkSession, StateT.run_bind, StateT.run_get, pure_bind, h, if_false]; rfl

/-- The session check changes nothing, and passes exactly for a thread that holds a session. -/
theorem checkSession_eq {me : ThreadId} {r : Except BusError Unit}
    (h : (checkSession me).run a = (r, a')) :
    a' = a ∧ (r = .ok () ↔ a.owner = some me ∧ 0 < a.depth) ∧
      (r ≠ .ok () → r = .error .noSession) := by
  rw [checkSession_run] at h
  cases h
  split
  · rename_i hout
    refine ⟨rfl, ⟨fun h => (by cases h), ?_⟩, fun _ => rfl⟩
    rintro ⟨ho, hd⟩
    rcases hout with hout | hout
    · exact absurd ho hout
    · omega
  · rename_i hin
    simp only [not_or, ne_eq, Classical.not_not] at hin
    refine ⟨rfl, ⟨fun _ => ⟨hin.1, ?_⟩, fun _ => rfl⟩, fun h => absurd rfl h⟩
    omega

theorem borrow_run (a : Arbiter σ η) :
    borrow.run a = if a.lent then (.error .busy, a) else (.ok (), { a with lent := true }) := by
  cases h : a.lent
  · simp only [borrow, StateT.run_bind, StateT.run_get, pure_bind, h]; rfl
  · simp only [borrow, StateT.run_bind, StateT.run_get, pure_bind, h]; rfl

theorem borrow_ok (h : borrow.run a = (.ok (), a')) : a.lent = false ∧ a' = { a with lent := true } := by
  rw [borrow_run] at h
  cases hl : a.lent
  · simp only [hl] at h
    cases h
    exact ⟨rfl, rfl⟩
  · simp only [hl, if_true] at h
    cases h

theorem borrow_error {e : BusError} (h : borrow.run a = (.error e, a')) :
    a.lent = true ∧ e = .busy ∧ a' = a := by
  rw [borrow_run] at h
  cases hl : a.lent
  · simp only [hl] at h
    cases h
  · simp only [hl, if_true] at h
    cases h
    exact ⟨rfl, rfl, rfl⟩

/-! ## Setup and teardown -/

@[simp]
theorem lowerLevel_run (a : Arbiter σ η) :
    lowerLevel.run a = (a.level, { a with level := a.level.min a.config.silenceLevel }) := rfl

@[simp]
theorem onHooks_run {α : Type} (x : StateM η α) (a : Arbiter σ η) :
    (onHooks x).run a = match a.hooks with
      | none => (none, a)
      | some h => (some (x.run h).1, { a with hooks := some (x.run h).2 }) := rfl

theorem openMaster_run (a : Arbiter σ η) :
    (openMaster L).run a =
      if a.config.policy = .keepAlive ∧ a.master.initialized = true then (.ok false, a)
      else (((Master.init L).run.run a.master).1.map fun () => true,
        { a with master := ((Master.init L).run.run a.master).2 }) := by
  change StateT.run (if a.config.policy = .keepAlive ∧ a.master.initialized = true then
    pure (Except.ok false) else _) a = _
  by_cases h : a.config.policy = .keepAlive ∧ a.master.initialized = true
  · rw [if_pos h, if_pos h]; rfl
  · rw [if_neg h, if_neg h]; rfl

theorem abandonSetup_run (fresh : Bool) (a : Arbiter σ η) :
    (abandonSetup L H fresh).run a =
      ((), if fresh then
        { ((onHooks H.idle).run a).2 with
          master := ((Master.deinit L).run.run ((onHooks H.idle).run a).2.master).2 }
      else ((onHooks H.idle).run a).2) := by
  cases fresh <;> rfl

/-- The three ways a setup ends: the master could not be initialized; the bus could not be
prepared, and what was done is undone; or the bus is set up and the lowered level is kept with
the one to put back. -/
theorem setup_cases (a : Arbiter σ η) :
    (∃ e a₁, (openMaster L).run (lowerLevel.run a).2 = (.error e, a₁) ∧
      (setup L H).run a = (.error e, { a₁ with level := a.level })) ∨
    (∃ fresh a₁ e a₂, (openMaster L).run (lowerLevel.run a).2 = (.ok fresh, a₁) ∧
      (onHooks H.prepare).run a₁ = (some (.error e), a₂) ∧
      (setup L H).run a = (.error e, { ((abandonSetup L H fresh).run a₂).2 with level := a.level })) ∨
    (∃ fresh a₁ p a₂, (openMaster L).run (lowerLevel.run a).2 = (.ok fresh, a₁) ∧
      (onHooks H.prepare).run a₁ = (p, a₂) ∧ (∀ e, p ≠ some (.error e)) ∧
      (setup L H).run a = (.ok (), { a₂ with restoreLevel := some a.level })) := by
  rcases h₁ : (openMaster L).run (lowerLevel.run a).2 with ⟨r₁, a₁⟩
  simp only [lowerLevel_run] at h₁
  simp only [setup, run_bind_stateM, lowerLevel_run, h₁]
  cases r₁ with
  | error e => exact .inl ⟨e, a₁, rfl, rfl⟩
  | ok fresh =>
    rcases h₂ : (onHooks H.prepare).run a₁ with ⟨p, a₂⟩
    simp only [run_bind_stateM, h₂]
    match p, h₂ with
    | some (.error e), h₂ => exact .inr (.inl ⟨fresh, a₁, e, a₂, rfl, h₂, rfl⟩)
    | some (.ok ()), h₂ => exact .inr (.inr ⟨fresh, a₁, _, a₂, rfl, h₂, fun e => by simp, rfl⟩)
    | none, h₂ => exact .inr (.inr ⟨fresh, a₁, _, a₂, rfl, h₂, fun e => by simp, rfl⟩)

theorem closeMaster_run (a : Arbiter σ η) :
    (closeMaster L).run a =
      ((), if a.config.policy = .perSession then
        { a with master := ((Master.deinit L).run.run a.master).2 } else a) := by
  change StateT.run (if a.config.policy = .perSession then _ else pure ()) a = _
  by_cases h : a.config.policy = .perSession
  · rw [if_pos h, if_pos h]; rfl
  · rw [if_neg h, if_neg h]; rfl

@[simp]
theorem restoreSavedLevel_run (a : Arbiter σ η) :
    restoreSavedLevel.run a = ((), match a.restoreLevel with
      | some l => { a with level := l, restoreLevel := none }
      | none => a) := rfl

theorem teardown_run (a : Arbiter σ η) :
    (teardown L H).run a = ((), (restoreSavedLevel.run ((closeMaster L).run
      ((onHooks H.idle).run ((onHooks H.flush).run a).2).2).2).2) := rfl

theorem sameWindow_onHooks {α : Type} (x : StateM η α) (a : Arbiter σ η) :
    SameWindow a ((onHooks x).run a).2 := by
  rw [onHooks_run]
  split <;> exact ⟨rfl, rfl, rfl, rfl, rfl⟩

theorem sameWindow_openMaster (a : Arbiter σ η) : SameWindow a ((openMaster L).run a).2 := by
  rw [openMaster_run]
  split <;> exact ⟨rfl, rfl, rfl, rfl, rfl⟩

theorem sameWindow_abandonSetup (fresh : Bool) (a : Arbiter σ η) :
    SameWindow a ((abandonSetup L H fresh).run a).2 := by
  have hidle := sameWindow_onHooks H.idle a
  rw [abandonSetup_run]
  cases fresh
  · exact hidle
  · exact hidle.trans ⟨rfl, rfl, rfl, rfl, rfl⟩

/-- A setup leaves the window alone, however it ends. -/
theorem sameWindow_setup (a : Arbiter σ η) : SameWindow a ((setup L H).run a).2 := by
  have hlow : SameWindow a (lowerLevel.run a).2 := ⟨rfl, rfl, rfl, rfl, rfl⟩
  have hopen := hlow.trans (sameWindow_openMaster L (lowerLevel.run a).2)
  rcases setup_cases L H a with ⟨e, a₁, h₁, hrun⟩ | ⟨fresh, a₁, e, a₂, h₁, h₂, hrun⟩ |
    ⟨fresh, a₁, p, a₂, h₁, h₂, -, hrun⟩
  -- each way ends by putting the level back or saving it, which leaves the window alone
  · rw [h₁] at hopen
    rw [hrun]
    exact hopen.trans ⟨rfl, rfl, rfl, rfl, rfl⟩
  · rw [h₁] at hopen
    have hprep := sameWindow_onHooks H.prepare a₁
    rw [h₂] at hprep
    rw [hrun]
    exact ((hopen.trans hprep).trans (sameWindow_abandonSetup L H fresh a₂)).trans
      ⟨rfl, rfl, rfl, rfl, rfl⟩
  · rw [h₁] at hopen
    have hprep := sameWindow_onHooks H.prepare a₁
    rw [h₂] at hprep
    rw [hrun]
    exact (hopen.trans hprep).trans ⟨rfl, rfl, rfl, rfl, rfl⟩

theorem sameWindow_of_setup {r : Except BusError Unit} (h : (setup L H).run a = (r, a')) :
    SameWindow a a' := by
  have hw := sameWindow_setup L H a
  rw [h] at hw
  exact hw

/-- A teardown leaves the window alone. -/
theorem sameWindow_teardown (a : Arbiter σ η) : SameWindow a ((teardown L H).run a).2 := by
  have hhooks := (sameWindow_onHooks H.flush a).trans (sameWindow_onHooks H.idle _)
  have hclose : ∀ b : Arbiter σ η, SameWindow b ((closeMaster L).run b).2 := by
    intro b
    rw [closeMaster_run]
    split <;> exact ⟨rfl, rfl, rfl, rfl, rfl⟩
  have hrestore : ∀ b : Arbiter σ η, SameWindow b (restoreSavedLevel.run b).2 := by
    intro b
    rw [restoreSavedLevel_run]
    split <;> exact ⟨rfl, rfl, rfl, rfl, rfl⟩
  rw [teardown_run]
  exact (hhooks.trans (hclose _)).trans (hrestore _)

/-! ## The master's state across a setup and a teardown -/

/-- Under the per-session policy a failed setup leaves a closed master closed: `init` fails
before it marks the master open, and a master opened before the prepare failed is closed
again. -/
theorem setup_error_closed (hpol : a.config.policy = .perSession)
    (hclosed : a.master.initialized = false) {e : BusError}
    (h : (setup L H).run a = (.error e, a')) : a'.master.initialized = false := by
  -- the policy never keeps the master open, so `openMaster` always runs `init`
  have hopen : ∀ b : Arbiter σ η, b.config = a.config →
      (openMaster L).run b = (((Master.init L).run.run b.master).1.map fun () => true,
        { b with master := ((Master.init L).run.run b.master).2 }) := by
    intro b hb
    rw [openMaster_run, if_neg (by simp [hb, hpol])]
  rcases setup_cases L H a with ⟨e₁, a₁, h₁, hrun⟩ | ⟨fresh, a₁, e₁, a₂, h₁, h₂, hrun⟩ |
    ⟨_, _, _, _, _, _, _, hrun⟩
  · rw [hrun] at h
    cases h
    rw [hopen (lowerLevel.run a).2 rfl] at h₁
    rcases hinit : (Master.init L).run.run a.master with ⟨r, m⟩
    simp only [lowerLevel_run, hinit] at h₁
    cases r with
    | error k =>
      cases h₁
      exact (Master.init_error_initialized L hinit).trans hclosed
    | ok u => cases h₁
  · rw [hrun] at h
    cases h
    rw [hopen (lowerLevel.run a).2 rfl] at h₁
    rcases hinit : (Master.init L).run.run a.master with ⟨r, m⟩
    simp only [lowerLevel_run, hinit] at h₁
    cases r with
    | error k => cases h₁
    | ok u =>
      cases h₁
      rw [abandonSetup_run]
      simp
  · rw [hrun] at h
    cases h

theorem teardown_closed (hpol : a.config.policy = .perSession) :
    ((teardown L H).run a).2.master.initialized = false := by
  have hcfg : ((onHooks H.idle).run ((onHooks H.flush).run a).2).2.config = a.config :=
    ((sameWindow_onHooks H.flush a).trans (sameWindow_onHooks H.idle _)).config
  rw [teardown_run, closeMaster_run, if_pos (by rw [hcfg, hpol])]
  simp only [restoreSavedLevel_run]
  split <;> simp

end Arbiter

end RtuBus
