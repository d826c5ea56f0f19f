import RtuBus.Proofs.Session.Exclusion

/-! # Begins and ends pair up

Over any interleaving from a new arbiter, the depth is the number of the owner's begins that
none of its ends has matched, and the tally of the run stays paired with the window: every
rise of the depth from zero follows exactly one successful setup, and every fall back to zero
is followed by exactly one teardown (`Paired`). The bus is up (`World.busUp`) from a
successful setup to its teardown; the setups outnumber the teardowns by one exactly while it is
up, and when no thread is inside a begin or an end, it is up exactly while `isActive` says so.
-/

namespace RtuBus

variable {σ η : Type} {L : Line σ} {H : Hooks η}

theorem Tally.closed_of_unmatched {c : Tally} {t : ThreadId} (h : c.unmatched t = 0) :
    c.closed t = c := by
  have hkeep : Function.update c.unmatched t (c.unmatched t - 1) = c.unmatched := by
    rw [h, Nat.zero_sub, ← h, Function.update_eq_self]
  simp only [Tally.closed, hkeep]

namespace World

/-- Whether the owner of the window is at `pc`. -/
def ownerAt (s : World σ η) (pc : Pc) : Bool :=
  match s.arbiter.owner with
  | some t => decide ((s.threads t).pc = pc)
  | none => false

variable {s : World σ η} {t : ThreadId} {pc : Pc}

theorem ownerAt_of_owner (h : s.arbiter.owner = some t) (pc : Pc) :
    s.ownerAt pc = decide ((s.threads t).pc = pc) := by
  simp [ownerAt, h]

theorem ownerAt_of_free (h : s.arbiter.owner = none) (pc : Pc) : s.ownerAt pc = false := by
  simp [ownerAt, h]

@[simp] theorem ownerAt_count (f : Tally → Tally) : (s.count f).ownerAt pc = s.ownerAt pc := rfl

theorem ownerAt_withArbiter {a : Arbiter σ η} (h : a.owner = s.arbiter.owner) :
    (s.withArbiter a).ownerAt pc = s.ownerAt pc := by
  simp only [ownerAt, arbiter_withArbiter, h]
  rfl

theorem ownerAt_modifyThread (f : Thread → Thread)
    (h : s.arbiter.owner = some t → ((f (s.threads t)).pc = pc ↔ (s.threads t).pc = pc)) :
    (s.modifyThread t f).ownerAt pc = s.ownerAt pc := by
  cases howner : s.arbiter.owner with
  | none => simp [ownerAt, howner]
  | some u =>
    by_cases hu : u = t
    · subst hu
      simp [ownerAt, howner, h howner]
    · simp [ownerAt, howner, threads_modifyThread_ne _ _ hu]

/-- Whether the bus is set up for a session: from a successful setup, through the owner's
sessions, to the teardown after the last one. -/
def busUp (s : World σ η) : Bool :=
  s.ownerAt .deepening || decide (0 < s.arbiter.depth) || s.ownerAt .tearingDown

/-- No thread is between the steps of a begin or an end. -/
def Quiet (s : World σ η) : Prop :=
  ∀ t, (s.threads t).pc.outermost = false

end World

/-- The counts of a run against the window: a thread's unmatched begins are the depth of its
sessions, and setups, rises of the depth from zero, falls back to zero and teardowns follow
each other in turn. -/
structure Paired (s : World σ η) : Prop where
  unmatched : ∀ t, s.tally.unmatched t = if s.arbiter.owner = some t then s.arbiter.depth else 0
  setups : s.tally.setups = s.tally.rises + (s.ownerAt .deepening).toNat
  rises : s.tally.rises = s.tally.falls + min s.arbiter.depth 1
  falls : s.tally.falls = s.tally.teardowns + (s.ownerAt .tearingDown).toNat

namespace Paired

variable {s s' : World σ η}

theorem congr (hp : Paired s) (htally : s'.tally = s.tally)
    (howner : s'.arbiter.owner = s.arbiter.owner) (hdepth : s'.arbiter.depth = s.arbiter.depth)
    (hdeep : s'.ownerAt .deepening = s.ownerAt .deepening)
    (htear : s'.ownerAt .tearingDown = s.ownerAt .tearingDown) : Paired s' where
  unmatched u := by rw [htally, howner, hdepth]; exact hp.unmatched u
  setups := by rw [htally, hdeep]; exact hp.setups
  rises := by rw [htally, hdepth]; exact hp.rises
  falls := by rw [htally, htear]; exact hp.falls

theorem withArbiter (hp : Paired s) {a : Arbiter σ η} (howner : a.owner = s.arbiter.owner)
    (hdepth : a.depth = s.arbiter.depth) : Paired (s.withArbiter a) :=
  hp.congr (by simp [hdepth]) howner hdepth (World.ownerAt_withArbiter howner)
    (World.ownerAt_withArbiter howner)

theorem unmatched_update {c : Tally} {owner : Option ThreadId} {t : ThreadId} {d : Nat}
    (g : Nat → Nat) (hu : ∀ u, c.unmatched u = if owner = some u then d else 0)
    (howner : owner = some t) (u : ThreadId) :
    Function.update c.unmatched t (g (c.unmatched t)) u = if owner = some u then g d else 0 := by
  by_cases h : u = t
  · subst h
    simp [hu, howner]
  · simp [hu, howner, Function.update_of_ne h, Ne.symm h]

theorem modifyThread (hp : Paired s) {t : ThreadId} (f : Thread → Thread)
    (hdeep : s.arbiter.owner = some t →
      ((f (s.threads t)).pc = .deepening ↔ (s.threads t).pc = .deepening))
    (htear : s.arbiter.owner = some t →
      ((f (s.threads t)).pc = .tearingDown ↔ (s.threads t).pc = .tearingDown)) :
    Paired (s.modifyThread t f) :=
  hp.congr rfl rfl rfl (World.ownerAt_modifyThread f hdeep) (World.ownerAt_modifyThread f htear)

/-- Freeing the window of an owner at depth zero that is neither past a setup nor before a
teardown keeps the counts paired. -/
theorem release (hp : Paired s) {t : ThreadId} (howner : s.arbiter.owner = some t)
    (hdepth : s.arbiter.depth = 0) (hdeep : (s.threads t).pc ≠ .deepening)
    (htear : (s.threads t).pc ≠ .tearingDown) (f : Thread → Thread) :
    Paired ((s.withArbiter (Arbiter.release.run s.arbiter).2).modifyThread t f) := by
  have ⟨hu, hs, hr, hf⟩ := hp
  refine ⟨fun u => ?_, ?_, ?_, ?_⟩
  · simp [hu, hdepth]
  · simp [World.ownerAt, howner, hdeep] at hs ⊢
    exact hs
  · simp [hdepth] at hr ⊢
    exact hr
  · simp [World.ownerAt, howner, htear] at hf ⊢
    exact hf

end Paired

theorem Paired.step {s s' : World σ η} {t : ThreadId} {act : Action σ} (hinv : Exclusive s)
    (hp : Paired s) (hstep : Step L H s t act s') : Paired s' := by
  have hfit := hinv.fits t
  have hown : (s.threads t).pc ≠ .idle →
      s.arbiter.owner = some t ∧ OwnerFits s.arbiter (s.threads t) :=
    fun hpc => ⟨hfit.owner_of_pc hpc, hfit.ownerFits (hfit.owner_of_pc hpc)⟩
  have ⟨hu, hs, hr, hf⟩ := hp
  cases hstep
  case beginOutermost hpc hrun =>
    obtain ⟨hfree, hzero, rfl⟩ := Arbiter.acquire_ok hrun
    have hdepth : s.arbiter.depth = 0 := of_decide_eq_true hzero.symm
    have hnone : s.arbiter.owner = none := by
      rcases hfree with h | h
      · exact h
      · have := (hfit.ownerFits h).depth_pos (by simp [hpc, Pc.outermost])
        omega
    refine ⟨fun u => ?_, ?_, ?_, ?_⟩
    · have := hu u
      simp_all
    · simp [World.ownerAt, hnone] at hs ⊢
      exact hs
    · simpa using hr
    · simp [World.ownerAt, hnone] at hf ⊢
      exact hf
  case beginNested hpc hrun =>
    obtain ⟨hfree, hzero, rfl⟩ := Arbiter.acquire_ok hrun
    have hdepth : s.arbiter.depth ≠ 0 := of_decide_eq_false hzero.symm
    have howner : s.arbiter.owner = some t := by
      rcases hfree with h | h
      · exact absurd (hinv.free h).1 hdepth
      · exact h
    refine ⟨fun u => ?_, ?_, ?_, ?_⟩
    · simpa [howner] using Paired.unmatched_update (· + 1) hu howner u
    · simp [World.ownerAt, howner, hpc, hdepth] at hs ⊢
      exact hs
    · simp [hdepth] at hr ⊢
      omega
    · simp [World.ownerAt, howner, hpc] at hf ⊢
      exact hf
  case beginTimeout hpc hrun =>
    obtain ⟨-, -, rfl⟩ := Arbiter.acquire_error hrun
    exact (hp.withArbiter rfl rfl).modifyThread _ (by simp [hpc]) (by simp [hpc])
  case setupDone hpc hfree hrun =>
    obtain ⟨howner, hfits⟩ := hown (by simp [hpc])
    have hw := Arbiter.sameWindow_of_setup L H hrun
    refine ⟨fun u => ?_, ?_, ?_, ?_⟩
    · simp [hw.owner, hw.depth, hu]
    · simp [World.ownerAt, hw.owner, howner, hpc, hw.depth] at hs ⊢
      exact hs
    · simp [hw.depth] at hr ⊢
      exact hr
    · simp [World.ownerAt, hw.owner, howner, hpc, hw.depth] at hf ⊢
      exact hf
  case setupFailed hpc hfree hrun =>
    have hw := Arbiter.sameWindow_of_setup L H hrun
    exact (hp.withArbiter hw.owner hw.depth).modifyThread _ (by simp [hpc]) (by simp [hpc])
  case deepen hpc =>
    obtain ⟨howner, hfits⟩ := hown (by simp [hpc])
    have hdepth : s.arbiter.depth = 0 := hfits.outermost.1 (by simp [hpc, Pc.outermost])
    refine ⟨fun u => ?_, ?_, ?_, ?_⟩
    · simpa [howner, hdepth] using Paired.unmatched_update (· + 1) hu howner u
    · simp [World.ownerAt, howner, hpc, hdepth] at hs ⊢
      exact hs
    · simp [World.ownerAt, howner, hpc, hdepth] at hs hr ⊢
      exact hr
    · simp [World.ownerAt, howner, hpc, hdepth] at hf ⊢
      exact hf
  case abandon e hpc =>
    obtain ⟨howner, hfits⟩ := hown (by simp [hpc])
    exact hp.release howner (hfits.outermost.1 (by simp [hpc, Pc.outermost])) (by simp [hpc])
      (by simp [hpc]) _
  case release hpc =>
    obtain ⟨howner, hfits⟩ := hown (by simp [hpc])
    exact hp.release howner (hfits.outermost.1 (by simp [hpc, Pc.outermost])) (by simp [hpc])
      (by simp [hpc]) _
  case finishIgnored hpc hrun =>
    obtain ⟨hnone, rfl⟩ := Arbiter.unwind_none hrun
    -- an ignored end finds no session of its thread, so it has no begin to match
    have h0 : s.tally.unmatched t = 0 := by
      rw [hu t]
      rcases hnone with h | h <;> simp [h]
    rw [World.withArbiter_self]
    exact hp.congr (by simp [Tally.closed_of_unmatched h0]) rfl rfl rfl rfl
  case finishNested hpc hrun =>
    obtain ⟨howner, hpos, hlast, rfl⟩ := Arbiter.unwind_some hrun
    have hdepth : s.arbiter.depth ≠ 1 := of_decide_eq_false hlast.symm
    refine ⟨fun u => ?_, ?_, ?_, ?_⟩
    · simpa [howner] using Paired.unmatched_update (· - 1) hu howner u
    · simp [World.ownerAt, howner, hpc, Nat.pos_iff_ne_zero.1 hpos] at hs ⊢
      exact hs
    · simp [hdepth, Nat.pos_iff_ne_zero.1 hpos] at hr ⊢
      omega
    · simp [World.ownerAt, howner, hpc, hdepth] at hf ⊢
      exact hf
  case finishLast hpc hrun =>
    obtain ⟨howner, hpos, hlast, rfl⟩ := Arbiter.unwind_some hrun
    have hdepth : s.arbiter.depth = 1 := of_decide_eq_true hlast.symm
    refine ⟨fun u => ?_, ?_, ?_, ?_⟩
    · simpa [howner, hdepth] using Paired.unmatched_update (· - 1) hu howner u
    · simp [World.ownerAt, howner, hpc, hdepth] at hs ⊢
      exact hs
    · simp [hdepth] at hr ⊢
      omega
    · simp [World.ownerAt, howner, hpc, hdepth] at hf ⊢
      omega
  case teardown hpc hfree =>
    obtain ⟨howner, hfits⟩ := hown (by simp [hpc])
    have hw := Arbiter.sameWindow_teardown L H s.arbiter
    refine ⟨fun u => ?_, ?_, ?_, ?_⟩
    · simp [hw.owner, hw.depth, hu]
    · simp [World.ownerAt, hw.owner, howner, hpc, hw.depth] at hs ⊢
      exact hs
    · simp [hw.depth] at hr ⊢
      exact hr
    · simp [World.ownerAt, hw.owner, howner, hpc, hw.depth] at hf ⊢
      omega
  case withMasterRefused hpc hrun =>
    obtain ⟨rfl, -⟩ := Arbiter.checkSession_eq hrun
    exact (hp.withArbiter rfl rfl).modifyThread _ (by simp [hpc]) (by simp [hpc])
  case withMasterChecked hpc hrun =>
    obtain ⟨rfl, -⟩ := Arbiter.checkSession_eq hrun
    exact (hp.withArbiter rfl rfl).modifyThread _ (by simp [hpc]) (by simp [hpc])
  case borrowRefused hpc hrun =>
    obtain ⟨-, -, rfl⟩ := Arbiter.borrow_error hrun
    exact (hp.withArbiter rfl rfl).modifyThread _ (by simp [hpc]) (by simp [hpc])
  case borrowTaken hpc hrun =>
    obtain ⟨-, rfl⟩ := Arbiter.borrow_ok hrun
    refine (hp.withArbiter (by rfl) (by rfl)).modifyThread _ ?_ ?_ <;> simp [hpc]
  case useMaster x hpc hlent => exact hp.withArbiter rfl rfl
  case giveBack r hpc hlent =>
    refine (hp.withArbiter (by rfl) (by rfl)).modifyThread _ ?_ ?_ <;> simp


theorem Paired.fresh (config : SessionConfig) (master : Master σ) (hooks : Option η)
    (level : LogLevel) : Paired (World.fresh config master hooks level) where
  unmatched _ := by simp [World.fresh]
  setups := by simp [World.fresh, World.ownerAt]
  rises := rfl
  falls := by simp [World.fresh, World.ownerAt]

theorem Paired.reaches {s s' : World σ η} (hinv : Exclusive s) (hp : Paired s)
    (hreach : Reaches L H s s') : Paired s' := by
  induction hreach with
  | refl => exact hp
  | tail hprefix hstep ih =>
    obtain ⟨t, act, hstep⟩ := hstep
    exact ih.step (hinv.reaches hprefix) hstep

namespace World

variable {s : World σ η}

/-- At most one of the three stretches of an up bus holds at a time: the owner is past its
setup at depth zero, a session is open, or the owner is before its teardown at depth zero. -/
theorem busUp_toNat (hinv : Exclusive s) :
    s.busUp.toNat =
      (s.ownerAt .deepening).toNat + min s.arbiter.depth 1 + (s.ownerAt .tearingDown).toNat := by
  cases howner : s.arbiter.owner with
  | none =>
    have hdepth := (hinv.free howner).1
    simp [busUp, ownerAt_of_free howner, hdepth]
  | some u =>
    have hfits := (hinv.fits u).ownerFits howner
    simp only [busUp, ownerAt_of_owner howner]
    by_cases hd : (s.threads u).pc = .deepening
    · have hdepth := hfits.outermost.1 (by simp [hd, Pc.outermost])
      simp [hd, hdepth]
    · by_cases ht : (s.threads u).pc = .tearingDown
      · have hdepth := hfits.outermost.1 (by simp [ht, Pc.outermost])
        simp [ht, hdepth]
      · simp only [hd, ht, decide_false, Bool.false_or, Bool.or_false, Bool.toNat_false]
        by_cases hpos : 0 < s.arbiter.depth
        · simp [hpos]
          omega
        · simp [hpos]
          omega

/-- With no thread inside a begin or an end, the bus is up exactly while a session is open. -/
theorem busUp_of_quiet (hinv : Exclusive s) (hq : s.Quiet) : s.busUp = s.arbiter.isActive := by
  have hnot : ∀ pc, pc.outermost = true → s.ownerAt pc = false := by
    intro pc hpc
    cases howner : s.arbiter.owner with
    | none => exact ownerAt_of_free howner pc
    | some u =>
      rw [ownerAt_of_owner howner]
      have := hq u
      simp only [decide_eq_false_iff_not]
      rintro rfl
      simp [this] at hpc
  simp [busUp, Arbiter.isActive, hinv.reported, hnot .deepening rfl, hnot .tearingDown rfl]

end World

/-- The setups outnumber the teardowns by one exactly while the bus is up. -/
theorem Paired.setups_eq (hinv : Exclusive s) (hp : Paired s) :
    s.tally.setups = s.tally.teardowns + s.busUp.toNat := by
  rw [World.busUp_toNat hinv, hp.setups, hp.rises, hp.falls]
  omega

end RtuBus
