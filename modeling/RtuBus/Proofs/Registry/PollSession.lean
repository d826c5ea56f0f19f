import RtuBus.Proofs.Registry.Polling
import RtuBus.Proofs.Device.Confined
import RtuBus.Proofs.Session.Rollback
import RtuBus.Proofs.Master.Candidates

/-! # A poll makes its reads in one session

Inside a session that a thread already holds, a program run in a session of its own is just run
on the master (`withSession_held`): the nested session opens and closes without a setup or a
teardown. So from inside a session reading and polling change only the master (`OnlyMaster`),
and on a recorded line only by register transfers (`Master.Transfers`), which add calls that
neither open nor close the line and leave the master as initialized as it was.

A poll by a thread that held no session, whose own session opens, sets the outermost session up
before its reads and tears it down after them (`pollAll_one_session`): on recorded hooks that is
one prepare, then one flush and one idle; under the per-session policy a closed line is opened
once before the reads and closed once after them. With the fold of `pollAll_run` this makes a
poll a best-effort fold in one session (`pollAll_best_effort`).
-/

namespace RtuBus

def LineCall.isDisconnect : LineCall → Bool
  | .disconnect _ => true
  | _ => false

theorem Exchange.disconnects {frame : Bytes} {n t : Nat} {b : Bool} {cs : List LineCall}
    {r : Except BusError Bytes} (h : Exchange frame n t b cs r) :
    cs.countP LineCall.isDisconnect = 0 := by
  cases h <;> simp [LineCall.isDisconnect]

namespace Master

variable {σ : Type} (L : Line σ)

/-- What register transfers do to a master on a recorded line: they add calls that neither open
nor close the line, and leave the master as initialized as it was. -/
structure Transfers (m m' : Master (Recorded σ)) : Prop where
  calls : ∃ cs, m'.line.calls = m.line.calls ++ cs ∧
    cs.countP LineCall.isConnect = 0 ∧ cs.countP LineCall.isDisconnect = 0
  initialized : m'.initialized = m.initialized

namespace Transfers

instance : Std.Refl (Transfers (σ := σ)) where
  refl _ := ⟨⟨[], (List.append_nil _).symm, rfl, rfl⟩, rfl⟩

instance : Trans (Transfers (σ := σ)) Transfers Transfers where
  trans h₁ h₂ := by
    obtain ⟨cs₁, hc₁, hk₁, hd₁⟩ := h₁.calls
    obtain ⟨cs₂, hc₂, hk₂, hd₂⟩ := h₂.calls
    refine ⟨⟨cs₁ ++ cs₂, by rw [hc₂, hc₁, List.append_assoc], ?_, ?_⟩,
      h₂.initialized.trans h₁.initialized⟩
    · rw [List.countP_append, hk₁, hk₂]
    · rw [List.countP_append, hd₁, hd₂]

theorem of_transact (frame : RequestFrame) (n t : Nat) (m : Master (Recorded σ)) :
    Transfers m ((transact L.recorded frame n t).run.run m).2 := by
  obtain ⟨cs, hx, hcalls, hinit⟩ := transact_recorded L frame n t m
  exact ⟨⟨cs, hcalls, hx.connects, hx.disconnects⟩, hinit⟩

end Transfers

/-- The reads and writes of a master on a recorded line are register transfers. -/
theorem registers_transfers : (registers L.recorded).Confined Transfers where
  read slave f start count t m := by
    change Transfers m ((read L.recorded slave f start count t).run.run m).2
    rw [read_run]
    cases buildReadRequest? slave f start count with
    | error e => exact Std.Refl.refl m
    | ok frame => exact Transfers.of_transact L frame _ t m
  write slave register value t m := by
    change Transfers m ((writeSingle L.recorded slave register value t).run.run m).2
    rw [writeSingle_run]
    cases buildWriteSingle? slave register value with
    | error e => exact Std.Refl.refl m
    | ok frame => exact Transfers.of_transact L frame 8 t m

end Master

namespace Arbiter

variable {σ η α : Type} (L : Line σ) (H : Hooks η) {me : ThreadId} {a : Arbiter σ η}

/-- Inside a session of its own, a master program run by a thread that already holds the window
between two of its calls is just run on the master: the nested session opens and closes without
a setup or a teardown. -/
theorem withSession_held (hb : Between me a) (hown : a.owner = some me)
    (f : StateM (Master σ) α) :
    (withSession L H me f).run a =
      (.ok (f.run a.master).1, { a with master := (f.run a.master).2 }) := by
  obtain ⟨hd, hl⟩ := hb.held hown
  -- the nested session deepens the window, lends the master, and undeepens the window
  have hdeep : ({ a with depth := a.depth + 1, reported := a.depth + 1 } : Arbiter σ η).owner =
      some me := hown
  have hback :
      ({ a with depth := a.depth + 1, reported := a.depth + 1, master := (f.run a.master).2 } :
        Arbiter σ η).owner = some me := hown
  simp only [withSession, arbiterM_run_bind, enter_held L H hown hd,
    withMaster_held hdeep (Nat.succ_pos _) hl f]
  rw [leave_nested L H hback (Nat.succ_lt_succ hd)]
  simp only [Nat.add_sub_cancel, hb.reported]
  rfl

/-- A successful `enter` of a thread that holds no session, from between its calls, opens the
outermost session: the setup ran on the window taken for the thread, and succeeded. -/
theorem enter_outermost (hb : Between me a) (hfree : a.owner ≠ some me)
    (hok : ((enter L H me).run a).1 = .ok ()) :
    ∃ a₁, (setup L H).run { a with owner := some me } = (.ok (), a₁) ∧
      (enter L H me).run a = (.ok (), { a₁ with depth := 1, reported := 1 }) := by
  cases hown : a.owner with
  | some u =>
    have hu : u ≠ me := fun h => hfree (by rw [hown, h])
    rw [enter_other L H hown hu] at hok
    cases hok
  | none =>
    obtain ⟨hd, -, -⟩ := hb.free hown
    rcases hs : (setup L H).run { a with owner := some me } with ⟨s, a₁⟩
    have hd₁ : a₁.depth = 0 := by
      have hwin := (sameWindow_setup L H { a with owner := some me }).depth
      rw [hs] at hwin
      exact hwin.trans hd
    cases s with
    | error e =>
      rw [enter_free_error L H hown hd hs] at hok
      cases hok
    | ok u =>
      refine ⟨a₁, rfl, ?_⟩
      rw [enter_free_ok L H hown hd hs, hd₁]

section Recorded

variable {σ η : Type} (L : Line σ) (H : Hooks η)

theorem hookCalls_eq_of_hooks {a b : Arbiter σ (HookLog η)} (h : b.hooks = a.hooks) :
    b.hookCalls = a.hookCalls := by
  rw [hookCalls, hookCalls, h]

theorem onHooks_isSome {α : Type} (x : StateM η α) (a : Arbiter σ η) :
    ((onHooks x).run a).2.hooks.isSome = a.hooks.isSome := by
  rw [onHooks_run]
  split <;> simp_all

/-- A prepare that does not fail is recorded as a success on hooks that exist. -/
theorem prepare_ok_recorded {a a₂ : Arbiter σ (HookLog η)} {p : Option (Except BusError Unit)}
    (h : (onHooks H.recorded.prepare).run a = (p, a₂)) (hp : ∀ e, p ≠ some (.error e))
    (hh : a.hooks.isSome) : a₂.hookCalls = a.hookCalls ++ [.prepare (.ok ())] := by
  rw [onHooks_run] at h
  cases hth : a.hooks with
  | none => rw [hth] at hh; cases hh
  | some th =>
    rw [hth] at h
    injection h with hr ha₂
    subst hr ha₂
    cases hres : (H.prepare.run th.inner).1 with
    | error e => exact absurd (by rw [← hres]; rfl) (hp e)
    | ok u =>
      simp only [hookCalls, hth]
      show th.calls ++ [.prepare (H.prepare.run th.inner).1] = _
      rw [hres]

theorem flush_recorded (a : Arbiter σ (HookLog η)) (hh : a.hooks.isSome) :
    ((onHooks H.recorded.flush).run a).2.hookCalls = a.hookCalls ++ [.flush] := by
  rw [onHooks_run]
  cases hth : a.hooks with
  | none => rw [hth] at hh; cases hh
  | some th => simp only [hookCalls, hth]; rfl

/-- A setup that succeeds prepares hooks that exist once, with success; under the per-session
policy it opens the closed master's line and switches it to receive. -/
theorem setup_ok_recorded {a a' : Arbiter (Recorded σ) (HookLog η)}
    (h : (setup L.recorded H.recorded).run a = (.ok (), a')) :
    a'.hooks.isSome = a.hooks.isSome ∧
    (a.hooks.isSome → a'.hookCalls = a.hookCalls ++ [.prepare (.ok ())]) ∧
    (a.config.policy = .perSession → a.master.initialized = false →
      a'.master.line.calls =
          a.master.line.calls ++ [.connect (.ok ()), .setTransmit false (.ok ())] ∧
        a'.master.initialized = true) := by
  obtain ⟨hopen_eq, hopen⟩ := openMaster_recorded L (lowerLevel.run a).2
  rcases setup_cases L.recorded H.recorded a with ⟨_, _, _, hrun⟩ |
    ⟨_, _, _, _, _, _, hrun⟩ | ⟨fresh, a₁, p, a₂, h₁, h₂, hp, hrun⟩
  · rw [hrun] at h
    cases h
  · rw [hrun] at h
    cases h
  rw [hrun] at h
  injection h with _ ha'
  subst ha'
  rw [h₁] at hopen_eq hopen
  dsimp only at hopen_eq hopen
  -- opening the master leaves the hooks alone, and preparing leaves the master alone
  have hhooks₁ : a₁.hooks = a.hooks := by
    rw [hopen_eq]
    rfl
  have hmaster₂ : a₂.master = a₁.master := by
    have hprep_eq := onHooks_eq H.recorded.prepare a₁
    rw [h₂] at hprep_eq
    dsimp only at hprep_eq
    rw [hprep_eq]
  have hsome : a₂.hooks.isSome = a.hooks.isSome := by
    have hkept := onHooks_isSome H.recorded.prepare a₁
    rw [h₂] at hkept
    rw [← hhooks₁]
    exact hkept
  refine ⟨hsome, fun hh => ?_, fun hpol hclosed => ?_⟩
  · have hprep := prepare_ok_recorded H h₂ hp (by rw [hhooks₁]; exact hh)
    exact hprep.trans (by rw [hookCalls_eq_of_hooks hhooks₁])
  · show a₂.master.line.calls = _ ∧ a₂.master.initialized = true
    rw [hmaster₂]
    rcases hopen with ⟨hkeep, -, -⟩ | ⟨-, cs, r₀, ho, hcs, hr⟩
    · exact absurd (hpol.symm.trans hkeep) (by decide)
    · cases r₀ with
      | error k => cases hr
      | ok u =>
        obtain ⟨hb', hcalls⟩ := ho.succeeded rfl
        rcases hcalls with ⟨hb, -⟩ | ⟨-, rfl⟩
        · exact absurd (hclosed.symm.trans hb) (by decide)
        · exact ⟨hcs, hb'⟩

/-- Ending the outermost session flushes and idles hooks that exist, once each, and under the
per-session policy closes the master's line. -/
theorem teardown_recorded (b : Arbiter (Recorded σ) (HookLog η)) :
    (b.hooks.isSome → ∃ r, ((teardown L.recorded H.recorded).run b).2.hookCalls =
      b.hookCalls ++ [.flush, .idle r]) ∧
    (b.config.policy = .perSession → ∃ cs r, Closing b.master.initialized cs r ∧
      ((teardown L.recorded H.recorded).run b).2.master.line.calls =
        b.master.line.calls ++ cs) := by
  obtain ⟨b₁, hb₁⟩ : ∃ b₁, b₁ = ((onHooks H.recorded.flush).run b).2 := ⟨_, rfl⟩
  obtain ⟨b₂, hb₂⟩ : ∃ b₂, b₂ = ((onHooks H.recorded.idle).run b₁).2 := ⟨_, rfl⟩
  rw [teardown_run, ← hb₁, ← hb₂]
  -- flushing and idling change only the hooks; closing and putting the level back keep them
  have hsame₁ : b₁ = { b with hooks := b₁.hooks } := hb₁ ▸ onHooks_eq H.recorded.flush b
  have hsame₂ : b₂ = { b₁ with hooks := b₂.hooks } := hb₂ ▸ onHooks_eq H.recorded.idle b₁
  have hmaster : b₂.master = b.master := by rw [hsame₂, hsame₁]
  have hconfig : b₂.config = b.config := by rw [hsame₂, hsame₁]
  have hclose : ∀ c : Arbiter (Recorded σ) (HookLog η),
      ((closeMaster L.recorded).run c).2.hooks = c.hooks := by
    intro c
    rw [closeMaster_run]
    split <;> rfl
  have hrestore : ∀ c : Arbiter (Recorded σ) (HookLog η),
      (restoreSavedLevel.run c).2.hooks = c.hooks ∧ (restoreSavedLevel.run c).2.master = c.master := by
    intro c
    rw [restoreSavedLevel_run]
    split <;> exact ⟨rfl, rfl⟩
  refine ⟨fun hh => ?_, fun hpol => ?_⟩
  · have hflushed := flush_recorded H b hh
    have hsome₁ : b₁.hooks.isSome := by rw [hb₁, onHooks_isSome]; exact hh
    obtain ⟨r, hr⟩ := idle_recorded H b₁ hsome₁
    rw [← hb₁] at hflushed
    rw [← hb₂] at hr
    refine ⟨r, ?_⟩
    rw [hookCalls_eq_of_hooks ((hrestore _).1.trans (hclose _)), hr, hflushed, List.append_assoc]
    rfl
  · rw [closeMaster_run, if_pos (by rw [hconfig]; exact hpol)]
    obtain ⟨cs, hc, hcs, -⟩ := Master.deinit_recorded L b₂.master
    rw [hmaster] at hc
    exact ⟨cs, _, hc, by rw [(hrestore _).2]; exact hcs.trans (by rw [hmaster])⟩

end Recorded

end Arbiter

namespace Registry

open Arbiter

variable {δ σ η α β : Type}

/-- A registry computation that, run while thread `me` holds the window between two of its
calls, changes only the master, and that as `R` allows. -/
def OnlyMaster (me : ThreadId) (R : Master σ → Master σ → Prop) (x : RegistryM δ σ η α) : Prop :=
  ∀ r a, Between me a → a.owner = some me →
    ∃ m, ((x.run r).run a).2 = { a with master := m } ∧ R a.master m

namespace OnlyMaster

variable {me : ThreadId} {R : Master σ → Master σ → Prop}

theorem pure [Std.Refl R] (v : α) : OnlyMaster me R (Pure.pure v : RegistryM δ σ η α) :=
  fun _ a _ _ => ⟨a.master, rfl, Std.Refl.refl _⟩

theorem get [Std.Refl R] : OnlyMaster me R (MonadState.get : RegistryM δ σ η (Registry δ)) :=
  fun _ a _ _ => ⟨a.master, rfl, Std.Refl.refl _⟩

theorem modify [Std.Refl R] (f : Registry δ → Registry δ) :
    OnlyMaster me R (modify f : RegistryM δ σ η PUnit) :=
  fun _ a _ _ => ⟨a.master, rfl, Std.Refl.refl _⟩

theorem bind [Trans R R R] {x : RegistryM δ σ η α} {f : α → RegistryM δ σ η β}
    (hx : OnlyMaster me R x) (hf : ∀ v, OnlyMaster me R (f v)) : OnlyMaster me R (x >>= f) := by
  intro r a hb hown
  obtain ⟨m₁, h₁, hR₁⟩ := hx r a hb hown
  -- the state after `x` differs from `a` only in the master, so `me` is still between calls
  obtain ⟨m₂, h₂, hR₂⟩ := hf ((x.run r).run a).1.1 ((x.run r).run a).1.2 ((x.run r).run a).2
    (by rw [h₁]; exact ⟨hb.reported, hb.held, hb.free⟩) (by rw [h₁]; exact hown)
  rw [h₁] at h₂ hR₂
  exact ⟨m₂, by rw [registry_run_bind, h₁, h₂], Trans.trans hR₁ hR₂⟩

theorem lift {y : ArbiterM σ η α}
    (hy : ∀ a, Between me a → a.owner = some me →
      ∃ m, (y.run a).2 = { a with master := m } ∧ R a.master m) :
    OnlyMaster me R (liftM y : RegistryM δ σ η α) :=
  fun _ a hb hown => hy a hb hown

end OnlyMaster

section Reads

variable [Driver δ] [ConfinedDriver δ] (L : Line σ) (H : Hooks η) (me : ThreadId)
  {R : Master σ → Master σ → Prop} [Std.Refl R] [Trans R R R]
  (hbus : (Master.registers L).Confined R)
include hbus

/-- Inside a session that the thread already holds, a read changes only the master, and that as
the master's reads and writes do. -/
theorem dispatchRead_onlyMaster (entry : SensorEntry) :
    OnlyMaster me R (dispatchRead (δ := δ) L H me entry) := by
  unfold dispatchRead
  refine OnlyMaster.get.bind fun r => ?_
  split
  · exact OnlyMaster.pure _
  · rename_i i d _
    refine (OnlyMaster.lift fun a hb hown => ?_).bind fun res => ?_
    · rw [withSession_held L H hb hown]
      exact ⟨_, rfl, ConfinedDriver.readValues_within hbus entry.address d a.master⟩
    · split
      · exact OnlyMaster.pure _
      · refine (OnlyMaster.modify _).bind fun _ => ?_
        split <;> exact OnlyMaster.pure _

theorem pollEach_onlyMaster (entries : List SensorEntry) :
    OnlyMaster me R (pollEach (δ := δ) L H me entries) := by
  induction entries with
  | nil => exact OnlyMaster.pure _
  | cons entry rest ih =>
    unfold pollEach
    refine (dispatchRead_onlyMaster L H me hbus entry).bind fun res => ?_
    dsimp only
    split
    · exact (OnlyMaster.pure _).bind fun here => ih.bind fun later => OnlyMaster.pure _
    · exact (OnlyMaster.modify _).bind fun _ =>
        (OnlyMaster.pure _).bind fun here => ih.bind fun later => OnlyMaster.pure _

end Reads

section Cycle

variable [Driver δ] [ConfinedDriver δ] (L : Line σ) (H : Hooks η) (me : ThreadId)

/-- A poll by a thread that held no session, whose own session opens, is a successful setup,
the reads from inside the session, which change only the master and that as `R` allows, and the
teardown of the session, which frees the window. -/
theorem pollAll_outermost {R : Master σ → Master σ → Prop} [Std.Refl R] [Trans R R R]
    (hbus : (Master.registers L).Confined R) (entries : List SensorEntry) (r : Registry δ)
    {a : Arbiter σ η} (hb : Between me a) (hfree : a.owner ≠ some me)
    (hok : ((enter L H me).run a).1 = .ok ()) :
    ∃ a₁ m, (setup L H).run { a with owner := some me } = (.ok (), a₁) ∧ R a₁.master m ∧
      (((pollAll L H me entries).run r).run a).2 =
        { ((teardown L H).run { a₁ with depth := 0, reported := 0, master := m }).2 with
          owner := none } := by
  obtain ⟨a₁, hs, he⟩ := enter_outermost L H hb hfree hok
  obtain ⟨hown₁, hb₁⟩ := enter_ok_held L H hb he
  obtain ⟨m, hm, hR⟩ := pollEach_onlyMaster L H me hbus entries r _ hb₁ hown₁
  rcases hmap : ((entries.mapM (dispatchRead L H me)).run r).run
    { a₁ with depth := 1, reported := 1 } with ⟨⟨results, r'⟩, a'⟩
  have ha' : a' = { a₁ with depth := 1, reported := 1, master := m } := by
    rw [pollEach_run L H me entries hmap] at hm
    exact hm
  subst ha'
  have hown₂ : ({ a₁ with depth := 1, reported := 1, master := m } : Arbiter σ η).owner =
      some me := hown₁
  refine ⟨a₁, m, hs, hR, ?_⟩
  rw [(pollAll_run L H me entries he hmap).2.1 rfl, leave_last L H hown₂ rfl]

/-- A poll by a thread that held no session, whose own session opens, runs all its reads in that
one outermost session: the hooks are prepared once before the reads and flushed and idled once
after them; under the per-session policy the line is opened once before the reads and closed once
after them, and the reads neither open nor close it; and the window is free again at the end. -/
theorem pollAll_one_session (entries : List SensorEntry) (r : Registry δ)
    {a : Arbiter (Recorded σ) (HookLog η)} (hb : Between me a) (hfree : a.owner ≠ some me)
    (hok : ((enter L.recorded H.recorded me).run a).1 = .ok ()) :
    (((pollAll L.recorded H.recorded me entries).run r).run a).2.owner = none ∧
    (((pollAll L.recorded H.recorded me entries).run r).run a).2.depth = 0 ∧
    (a.hooks.isSome → ∃ res,
      (((pollAll L.recorded H.recorded me entries).run r).run a).2.hookCalls =
        a.hookCalls ++ [.prepare (.ok ()), .flush, .idle res]) ∧
    (a.config.policy = .perSession → a.master.initialized = false → ∃ ds res,
      (((pollAll L.recorded H.recorded me entries).run r).run a).2.master.line.calls =
        a.master.line.calls ++ [.connect (.ok ()), .setTransmit false (.ok ())] ++ ds ++
          [.disconnect res] ∧
      ds.countP LineCall.isConnect = 0 ∧ ds.countP LineCall.isDisconnect = 0) := by
  obtain ⟨a₁, m, hs, hR, hfinal⟩ := pollAll_outermost L.recorded H.recorded me
    (Master.registers_transfers L) entries r hb hfree hok
  have hwin := sameWindow_setup L.recorded H.recorded { a with owner := some me }
  rw [hs] at hwin
  obtain ⟨hsome₁, hcalls₁, hopened⟩ := setup_ok_recorded L H hs
  rw [hfinal]
  generalize hc : ({ a₁ with depth := 0, reported := 0, master := m } :
    Arbiter (Recorded σ) (HookLog η)) = c
  obtain ⟨hflushed, hclosed⟩ := teardown_recorded L H c
  refine ⟨rfl, ?_, fun hh => ?_, fun hpol hinit => ?_⟩
  · show ((teardown L.recorded H.recorded).run c).2.depth = 0
    rw [(sameWindow_teardown L.recorded H.recorded c).depth, ← hc]
  · have hcalls : c.hookCalls = a₁.hookCalls := by
      rw [← hc]
      rfl
    obtain ⟨res, hres⟩ := hflushed (by rw [← hc]; exact hsome₁.trans hh)
    refine ⟨res, ?_⟩
    show ((teardown L.recorded H.recorded).run c).2.hookCalls = _
    rw [hres, hcalls, hcalls₁ hh, List.append_assoc]
    rfl
  · obtain ⟨hopen_calls, hopen_init⟩ := hopened hpol hinit
    obtain ⟨⟨ds, hds, hk, hd⟩, hkept⟩ := hR
    have hcm : c.master = m := by rw [← hc]
    have hpol_c : c.config.policy = .perSession := by
      rw [← hc]
      exact (congrArg SessionConfig.policy hwin.config).trans hpol
    obtain ⟨cs, res, hclosing, hcs⟩ := hclosed hpol_c
    rw [hcm, hkept, hopen_init] at hclosing
    rw [hcm] at hcs
    obtain ⟨r', rfl⟩ := hclosing.of_initialized
    refine ⟨ds, r', ?_, hk, hd⟩
    show ((teardown L.recorded H.recorded).run c).2.master.line.calls = _
    rw [hcs, hds, hopen_calls]

end Cycle

end Registry

open Arbiter Registry

variable {δ σ η : Type} [Driver δ] [ConfinedDriver δ]

/-- Polling is a best-effort fold over the reads, in one outermost session. Whatever the line,
the hooks, the registry and the arbiter, a poll gives the measurements of the reads that
succeeded, in entry order, with the registry and its drivers threaded from one read to the next;
each failed read counts once against its entry's channel, in a 32-bit count that ends as the old
count plus the failures while that sum stays below 2^32, and every measurement carries its
entry's channel. A thread that held no session and whose poll session opens makes all its reads
in that session: on recorded hooks and a recorded line, the hooks are prepared once before the
reads and flushed and idled once after them, and under the per-session policy a closed line is
opened once before the reads and closed once after them, the reads neither opening nor closing
it. -/
theorem pollAll_best_effort (L : Line σ) (H : Hooks η) (me : ThreadId)
    (entries : List SensorEntry) (r : Registry δ) :
    (∀ (a a₁ a' : Arbiter σ η) (s : Except BusError Unit)
        (results : List (Except DispatchError (List Measurement))) (r' : Registry δ),
      (enter L H me).run a = (s, a₁) →
      ((entries.mapM (dispatchRead L H me)).run r).run a₁ = ((results, r'), a') →
      (((pollAll L H me entries).run r).run a).1 =
          (okMeasurements results, { r' with
            errors := fun c => r.errorCount c + (failedReads c entries results).toUInt32 }) ∧
        (∀ c, (r.errorCount c).toNat + failedReads c entries results < UInt32.size →
          ((((pollAll L H me entries).run r).run a).1.2.errorCount c).toNat =
            (r.errorCount c).toNat + failedReads c entries results) ∧
        List.Forall₂
          (fun entry result => ∀ ms, result = .ok ms → ∀ m ∈ ms, m.channel = entry.channel)
          entries results) ∧
    (∀ a : Arbiter (Recorded σ) (HookLog η), Between me a → a.owner ≠ some me →
      ((enter L.recorded H.recorded me).run a).1 = .ok () →
      (a.hooks.isSome → ∃ res,
        (((pollAll L.recorded H.recorded me entries).run r).run a).2.hookCalls =
          a.hookCalls ++ [.prepare (.ok ()), .flush, .idle res]) ∧
      (a.config.policy = .perSession → a.master.initialized = false → ∃ ds res,
        (((pollAll L.recorded H.recorded me entries).run r).run a).2.master.line.calls =
          a.master.line.calls ++ [.connect (.ok ()), .setTransmit false (.ok ())] ++ ds ++
            [.disconnect res] ∧
        ds.countP LineCall.isConnect = 0 ∧ ds.countP LineCall.isDisconnect = 0)) := by
  refine ⟨fun a a₁ a' s results r' he hmap => ?_, fun a hb hfree hok => ?_⟩
  · have hfold := (pollAll_run L H me entries he hmap).1
    refine ⟨hfold, fun c hc => ?_, readAll_channels L H me entries hmap⟩
    rw [hfold]
    exact toNat_add_failures hc
  obtain ⟨-, -, hhooks, hline⟩ := pollAll_one_session L H me entries r hb hfree hok
  exact ⟨hhooks, hline⟩

/-- A transmitter at slave 1 and an energy meter at slave 5, both serving input registers. -/
def transmitterAndMeter : SimBus :=
  let b := (SimBus.setRegister {} 1 4 1 215).setRegister 1 4 2 480
  let b := (((b.setRegister 5 4 0 2301).setRegister 5 4 1 52).setRegister 5 4 2 1180).setRegister
    5 4 3 7700
  ((b.setRegister 5 4 0x103 120).setRegister 5 4 0x104 130).setRegister 5 4 0x105 140

/-- The sensors polled on that bus: two on channel 1, the transmitter and a gas sensor that no
standard driver reads; two on channel 2, a missing transmitter and the humidity of the present
one; and the meter on channel 3. -/
def mixedEntries : List SensorEntry :=
  [⟨1, 1, .thermoHygro, .none⟩, ⟨1, 7, .gas, .none⟩, ⟨2, 9, .temperature, .none⟩,
    ⟨3, 5, .energy, .none⟩, ⟨2, 1, .humidity, .none⟩]

/-- Polling the mixed sensors with the standard drivers: the reads of the transmitter and the
meter give their measurements in entry order, the meter's driver keeps the input function it
found, the gas sensor and the missing transmitter count one failure each on channels 1 and 2;
on the recorded simulated line with the default per-session policy, the poll's session prepares,
flushes and idles the hooks once and opens and closes the line once. -/
theorem poll_of_mixed_sensors :
    let a₀ : Arbiter SimBus CountingHooks :=
      { config := {}, master := { line := transmitterAndMeter }, hooks := some {}, level := .info }
    let a : Arbiter (Recorded SimBus) (HookLog CountingHooks) :=
      { config := {}, master := { line := { inner := transmitterAndMeter } },
        hooks := some { inner := {} }, level := .info }
    let results : List (Except DispatchError (List Measurement)) :=
      [.ok [⟨1, .tempC, ⟨215, 10⟩⟩, ⟨1, .humPct, ⟨480, 10⟩⟩], .error (.unsupported .gas),
        .error (.bus .timeout),
        .ok [⟨3, .currentRms, ⟨120, 100⟩⟩, ⟨3, .currentRms, ⟨130, 100⟩⟩,
          ⟨3, .currentRms, ⟨140, 100⟩⟩],
        .ok [⟨2, .humPct, ⟨480, 10⟩⟩]]
    let a₁ := ((enter SimBus.line CountingHooks.hooks 0).run a₀).2
    let read := ((mixedEntries.mapM (dispatchRead SimBus.line CountingHooks.hooks 0)).run
      (Registry.new {})).run a₁
    let poll := ((pollAll SimBus.line CountingHooks.hooks 0 mixedEntries).run
      (Registry.new {})).run a₀
    (enter SimBus.line CountingHooks.hooks 0).run a₀ = (.ok (), a₁) ∧
    read = ((results, read.1.2), read.2) ∧
    (read.1.2.drivers.filterMap Sum.getRight?).map (·.pins 5) = [some .readInput] ∧
    poll.1 = (okMeasurements results, { read.1.2 with
      errors := fun c => (Registry.new {}).errorCount c +
        (failedReads c mixedEntries results).toUInt32 }) ∧
    okMeasurements results =
      [⟨1, .tempC, ⟨215, 10⟩⟩, ⟨1, .humPct, ⟨480, 10⟩⟩, ⟨3, .currentRms, ⟨120, 100⟩⟩,
        ⟨3, .currentRms, ⟨130, 100⟩⟩, ⟨3, .currentRms, ⟨140, 100⟩⟩, ⟨2, .humPct, ⟨480, 10⟩⟩] ∧
    (poll.1.2.errorCount 1).toNat = 1 ∧ (poll.1.2.errorCount 2).toNat = 1 ∧
    (poll.1.2.errorCount 3).toNat = 0 ∧
    Between 0 a ∧ a.owner ≠ some 0 ∧
    ((enter SimBus.line.recorded CountingHooks.hooks.recorded 0).run a).1 = .ok () ∧
    a.hooks.isSome ∧ a.config.policy = .perSession ∧ a.master.initialized = false ∧
    (∃ res, (((pollAll SimBus.line.recorded CountingHooks.hooks.recorded 0 mixedEntries).run
        (Registry.new {})).run a).2.hookCalls =
      a.hookCalls ++ [.prepare (.ok ()), .flush, .idle res]) ∧
    (∃ ds res, (((pollAll SimBus.line.recorded CountingHooks.hooks.recorded 0 mixedEntries).run
        (Registry.new {})).run a).2.master.line.calls =
      a.master.line.calls ++ [.connect (.ok ()), .setTransmit false (.ok ())] ++ ds ++
        [.disconnect res] ∧
      ds.countP LineCall.isConnect = 0 ∧ ds.countP LineCall.isDisconnect = 0) := by
  intro a₀ a results a₁ read poll
  have henter : (enter SimBus.line CountingHooks.hooks 0).run a₀ = (.ok (), a₁) := rfl
  have hresults : read.1.1 = results := by decide +kernel
  have hread : read = ((results, read.1.2), read.2) := by rw [← hresults, Prod.eta]
  have hpoll := pollAll_best_effort SimBus.line CountingHooks.hooks 0 mixedEntries
    (Registry.new {})
  obtain ⟨hfold, hcount, -⟩ := hpoll.1 a₀ a₁ read.2 (.ok ()) results read.1.2 henter hread
  have hpins : (read.1.2.drivers.filterMap Sum.getRight?).map (·.pins 5) = [some .readInput] := by
    decide +kernel
  have hb : Between 0 a := .of_free rfl rfl rfl rfl rfl
  have hfree : a.owner ≠ some 0 := fun h => (by cases h)
  have hok : ((enter SimBus.line.recorded CountingHooks.hooks.recorded 0).run a).1 = .ok () := rfl
  obtain ⟨hhooks, hline⟩ := hpoll.2 a hb hfree hok
  have hc₁ : (poll.1.2.errorCount 1).toNat = 1 := by
    rw [hcount 1 (by decide)]
    decide
  have hc₂ : (poll.1.2.errorCount 2).toNat = 1 := by
    rw [hcount 2 (by decide)]
    decide
  have hc₃ : (poll.1.2.errorCount 3).toNat = 0 := by
    rw [hcount 3 (by decide)]
    decide
  exact ⟨henter, hread, hpins, hfold, rfl, hc₁, hc₂, hc₃, hb, hfree, hok, rfl, rfl, rfl, hhooks rfl,
    hline rfl rfl⟩

end RtuBus
