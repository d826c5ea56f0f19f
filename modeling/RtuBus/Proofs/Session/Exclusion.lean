import RtuBus.Proofs.Session.Interleaving

/-! # Mutual exclusion on the bus

In every world reachable from a new arbiter, whatever the threads call and however their steps
interleave, the window is free only with no session open, and a session is open only under one
owner. Only the owner can be about to set the bus up or tear it down or be running a closure of
`withMaster`, so the master and the hooks are never used by two threads at once, and no other
thread changes the master, the hooks or the log level while a thread holds the window. A
`withMaster` of a thread without a session is refused with `noSession` and changes nothing, and
one nested in a closure of the owner is refused with `busy`.

The invariant is `Exclusive`: every thread fits the window (`Fits`), as its owner or as a
thread between calls with no closure running, and a free window has no session and no lent
master. One step of one thread keeps it (`Exclusive.step`): the other threads keep their
place and the window moves only between the stepping thread and nobody (`Step.window`), and the
stepping thread's new place fits the new window (`Step.fits_self`).
-/

namespace RtuBus

variable {σ η : Type} {L : Line σ} {H : Hooks η}

/-- How the owner's place in its calls matches the window: it is inside an outermost `enter` or
a last `leave` exactly at depth zero, it is about to borrow the master only inside a session,
the master is lent exactly while its closure runs, and a closure runs inside a session unless
it blocks the teardown of its own last one. -/
structure OwnerFits (a : Arbiter σ η) (th : Thread) : Prop where
  outermost : th.pc.outermost = true ↔ a.depth = 0
  borrowing : th.pc = .borrowing → 0 < a.depth
  lent : a.lent = th.borrowed
  borrowed : th.borrowed = true → 0 < a.depth ∨ th.pc = .tearingDown

/-- Thread `u` in state `th` fits the window of `a`: as its owner, or, when it does not hold the
window, between calls with no closure running. -/
def Fits (a : Arbiter σ η) (u : ThreadId) (th : Thread) : Prop :=
  if a.owner = some u then OwnerFits a th else th.pc = .idle ∧ th.borrowed = false

/-- What holds of the window and the threads in every reachable world. -/
structure Exclusive (s : World σ η) : Prop where
  fits : ∀ u, Fits s.arbiter u (s.threads u)
  free : s.arbiter.owner = none → s.arbiter.depth = 0 ∧ s.arbiter.lent = false
  reported : s.arbiter.reported = s.arbiter.depth

/-- What one step of thread `t` can do to the window. -/
inductive WindowMove (t : ThreadId) (a : Arbiter σ η) : Arbiter σ η → Prop
  | keep {a'} (h : Arbiter.SameWindow a a') : WindowMove t a a'
  | take (h : a.owner = none) : WindowMove t a { a with owner := some t }
  | deepen (h : a.owner = some t) (d : Nat) : WindowMove t a { a with depth := d, reported := d }
  | lend (h : a.owner = some t) (b : Bool) : WindowMove t a { a with lent := b }
  | release (h : a.owner = some t) (hd : a.depth = 0) (hl : a.lent = false) :
      WindowMove t a { a with owner := none }

namespace Fits

variable {a a' : Arbiter σ η} {u : ThreadId} {th : Thread}

theorem of_owner (h : a.owner = some u) (hfit : OwnerFits a th) : Fits a u th := by
  simp only [Fits, h, if_true]
  exact hfit

theorem of_not_owner (h : a.owner ≠ some u) (hpc : th.pc = .idle) (hb : th.borrowed = false) :
    Fits a u th := by
  simp only [Fits, h, if_false]
  exact ⟨hpc, hb⟩

theorem ownerFits (hfit : Fits a u th) (h : a.owner = some u) : OwnerFits a th := by
  simpa only [Fits, h, if_true] using hfit

theorem owner_of_pc (hfit : Fits a u th) (hpc : th.pc ≠ .idle) : a.owner = some u := by
  by_contra h
  simp only [Fits, h, if_false] at hfit
  exact hpc hfit.1

theorem owner_of_borrowed (hfit : Fits a u th) (hb : th.borrowed = true) : a.owner = some u := by
  by_contra h
  simp only [Fits, h, if_false] at hfit
  simp [hfit.2] at hb

theorem idle_of_not_owner (hfit : Fits a u th) (h : a.owner ≠ some u) :
    th.pc = .idle ∧ th.borrowed = false := by
  simpa only [Fits, h, if_false] using hfit

theorem of_sameWindow (hfit : Fits a u th) (hw : Arbiter.SameWindow a a') : Fits a' u th := by
  by_cases h : a.owner = some u
  · have hfit := hfit.ownerFits h
    refine of_owner (hw.owner.trans h) ⟨?_, ?_, ?_, ?_⟩
    · rw [hw.depth]; exact hfit.outermost
    · rw [hw.depth]; exact hfit.borrowing
    · rw [hw.lent]; exact hfit.lent
    · rw [hw.depth]; exact hfit.borrowed
  · have hidle := hfit.idle_of_not_owner h
    exact of_not_owner (by rw [hw.owner]; exact h) hidle.1 hidle.2

/-- A thread that is not `t` keeps fitting when `t` moves the window. -/
theorem of_windowMove {t : ThreadId} (hfit : Fits a u th) (hu : u ≠ t) (hmove : WindowMove t a a') :
    Fits a' u th := by
  have hne : some t ≠ some u := fun h => hu (Option.some.inj h).symm
  cases hmove with
  | keep hw => exact hfit.of_sameWindow hw
  | take h =>
    have hidle := hfit.idle_of_not_owner (by simp [h])
    exact of_not_owner hne hidle.1 hidle.2
  | deepen h d =>
    have hidle := hfit.idle_of_not_owner (by rw [h]; exact hne)
    exact of_not_owner (by simpa [h] using hne) hidle.1 hidle.2
  | lend h b =>
    have hidle := hfit.idle_of_not_owner (by rw [h]; exact hne)
    exact of_not_owner (by simpa [h] using hne) hidle.1 hidle.2
  | release h hd hl =>
    have hidle := hfit.idle_of_not_owner (by rw [h]; exact hne)
    exact of_not_owner (by simp) hidle.1 hidle.2

end Fits

namespace OwnerFits

variable {a : Arbiter σ η} {th : Thread}

theorem depth_pos (hfit : OwnerFits a th) (hpc : th.pc.outermost = false) : 0 < a.depth := by
  have h := hfit.outermost
  rw [hpc] at h
  exact Nat.pos_of_ne_zero fun h0 => Bool.false_ne_true (h.2 h0)

theorem not_borrowed (hfit : OwnerFits a th) (hpc : th.pc.outermost = true)
    (hne : th.pc ≠ .tearingDown) : th.borrowed = false := by
  cases hb : th.borrowed
  · rfl
  · rcases hfit.borrowed hb with h | h
    · have := hfit.outermost.1 hpc
      omega
    · exact absurd h hne

theorem of_outermost (hpc : th.pc.outermost = true) (hdepth : a.depth = 0)
    (hlent : a.lent = th.borrowed) (hb : th.borrowed = true → th.pc = .tearingDown) :
    OwnerFits a th where
  outermost := ⟨fun _ => hdepth, fun _ => hpc⟩
  borrowing := fun h => by simp [h, Pc.outermost] at hpc
  lent := hlent
  borrowed := fun h => .inr (hb h)

theorem of_inside (hpc : th.pc.outermost = false) (hpos : 0 < a.depth)
    (hlent : a.lent = th.borrowed) : OwnerFits a th where
  outermost := by
    rw [hpc]
    exact ⟨fun h => (by cases h), fun h => (by omega)⟩
  borrowing := fun _ => hpos
  lent := hlent
  borrowed := fun _ => .inl hpos

end OwnerFits

namespace Step

variable {s s' : World σ η} {t : ThreadId} {act : Action σ}

theorem threads_ne (hstep : Step L H s t act s') {u : ThreadId} (hu : u ≠ t) :
    s'.threads u = s.threads u := by
  cases hstep <;> simp [World.threads_modifyThread_ne _ _ hu]

/-- What a step of `t` does to the window. -/
theorem windowMove (hinv : Exclusive s) (hstep : Step L H s t act s') :
    WindowMove t s.arbiter s'.arbiter := by
  have hfit := hinv.fits t
  cases hstep
  all_goals simp only [World.arbiter_count, World.arbiter_modifyThread, World.arbiter_withArbiter]
  case beginOutermost hpc hrun =>
    obtain ⟨hfree, -, rfl⟩ := Arbiter.acquire_ok hrun
    rcases hfree with h | h
    · exact .take h
    · exact .keep ⟨rfl, h.symm, rfl, rfl, rfl⟩
  case beginNested hpc hrun =>
    obtain ⟨hfree, hzero, rfl⟩ := Arbiter.acquire_ok hrun
    -- a nested begin finds its own window: a free one has no session open
    have howner : s.arbiter.owner = some t := by
      rcases hfree with h | h
      · exact absurd (hinv.free h).1 (of_decide_eq_false hzero.symm)
      · exact h
    have hkeep : { s.arbiter with owner := some t } = s.arbiter := by rw [← howner]
    rw [Arbiter.deepen_run, hkeep]
    exact .deepen howner _
  case beginTimeout hpc hrun =>
    obtain ⟨-, -, rfl⟩ := Arbiter.acquire_error hrun
    exact .keep (.refl _)
  case setupDone hpc hfree hrun => exact .keep (Arbiter.sameWindow_of_setup L H hrun)
  case setupFailed hpc hfree hrun => exact .keep (Arbiter.sameWindow_of_setup L H hrun)
  case deepen hpc => exact .deepen (hfit.owner_of_pc (by simp [hpc])) _
  case abandon hpc =>
    have howner := hfit.owner_of_pc (by simp [hpc])
    have hfits := hfit.ownerFits howner
    have hb := hfits.not_borrowed (by simp [hpc, Pc.outermost]) (by simp [hpc])
    exact .release howner (hfits.outermost.1 (by simp [hpc, Pc.outermost])) (hfits.lent.trans hb)
  case release hpc =>
    have howner := hfit.owner_of_pc (by simp [hpc])
    have hfits := hfit.ownerFits howner
    have hb := hfits.not_borrowed (by simp [hpc, Pc.outermost]) (by simp [hpc])
    exact .release howner (hfits.outermost.1 (by simp [hpc, Pc.outermost])) (hfits.lent.trans hb)
  case finishIgnored hpc hrun =>
    obtain ⟨-, rfl⟩ := Arbiter.unwind_none hrun
    exact .keep (.refl _)
  case finishNested hpc hrun =>
    obtain ⟨howner, -, -, rfl⟩ := Arbiter.unwind_some hrun
    exact .deepen howner _
  case finishLast hpc hrun =>
    obtain ⟨howner, -, -, rfl⟩ := Arbiter.unwind_some hrun
    exact .deepen howner _
  case teardown hpc hfree => exact .keep (Arbiter.sameWindow_teardown L H s.arbiter)
  case withMasterRefused hpc hrun =>
    obtain ⟨rfl, -⟩ := Arbiter.checkSession_eq hrun
    exact .keep (.refl _)
  case withMasterChecked hpc hrun =>
    obtain ⟨rfl, -⟩ := Arbiter.checkSession_eq hrun
    exact .keep (.refl _)
  case borrowRefused hpc hrun =>
    obtain ⟨-, -, rfl⟩ := Arbiter.borrow_error hrun
    exact .keep (.refl _)
  case borrowTaken hpc hrun =>
    obtain ⟨-, rfl⟩ := Arbiter.borrow_ok hrun
    exact .lend (hfit.owner_of_pc (by simp [hpc])) _
  case useMaster x hpc hlent => exact .keep ⟨rfl, rfl, rfl, rfl, rfl⟩
  case giveBack r hpc hlent => exact .lend (hfit.owner_of_borrowed hlent) _

/-- After a step of `t`, the new place of `t` fits the new window. -/
theorem fits_self (hinv : Exclusive s) (hstep : Step L H s t act s') :
    Fits s'.arbiter t (s'.threads t) := by
  have hfit := hinv.fits t
  have hown : (s.threads t).pc ≠ .idle →
      s.arbiter.owner = some t ∧ OwnerFits s.arbiter (s.threads t) :=
    fun hpc => ⟨hfit.owner_of_pc hpc, hfit.ownerFits (hfit.owner_of_pc hpc)⟩
  cases hstep
  all_goals simp only [World.arbiter_count, World.threads_count, World.arbiter_modifyThread,
    World.threads_modifyThread_self, World.arbiter_withArbiter]
  case beginOutermost hpc hrun =>
    obtain ⟨hfree, hzero, rfl⟩ := Arbiter.acquire_ok hrun
    -- an owner between calls has a session open, so the window was free
    have hnone : s.arbiter.owner = none := by
      rcases hfree with h | h
      · exact h
      · have := (hfit.ownerFits h).depth_pos (by simp [hpc, Pc.outermost])
        have := of_decide_eq_true hzero.symm
        omega
    have hidle := hfit.idle_of_not_owner (by simp [hnone])
    exact Fits.of_owner rfl (.of_outermost rfl (hinv.free hnone).1
      (by simp [(hinv.free hnone).2, hidle.2]) (by simp [hidle.2]))
  case beginNested hpc hrun =>
    obtain ⟨hfree, hzero, rfl⟩ := Arbiter.acquire_ok hrun
    have hdepth : s.arbiter.depth ≠ 0 := of_decide_eq_false hzero.symm
    have howner : s.arbiter.owner = some t := by
      rcases hfree with h | h
      · exact absurd (hinv.free h).1 hdepth
      · exact h
    exact Fits.of_owner rfl (.of_inside rfl (by simp) (hfit.ownerFits howner).lent)
  case beginTimeout hpc hrun =>
    obtain ⟨⟨u, hu, hne⟩, -, rfl⟩ := Arbiter.acquire_error hrun
    have hnot : s.arbiter.owner ≠ some t := by rw [hu]; simpa using hne
    exact Fits.of_not_owner hnot rfl (hfit.idle_of_not_owner hnot).2
  case setupDone hpc hfree hrun =>
    have hw := Arbiter.sameWindow_of_setup L H hrun
    obtain ⟨howner, hfits⟩ := hown (by simp [hpc])
    have hb := hfits.not_borrowed (by simp [hpc, Pc.outermost]) (by simp [hpc])
    exact Fits.of_owner (hw.owner.trans howner) (.of_outermost rfl
      (hw.depth.trans (hfits.outermost.1 (by simp [hpc, Pc.outermost])))
      (by simp [hw.lent, hfree, hb]) (by simp [hb]))
  case setupFailed hpc hfree hrun =>
    have hw := Arbiter.sameWindow_of_setup L H hrun
    obtain ⟨howner, hfits⟩ := hown (by simp [hpc])
    have hb := hfits.not_borrowed (by simp [hpc, Pc.outermost]) (by simp [hpc])
    exact Fits.of_owner (hw.owner.trans howner) (.of_outermost rfl
      (hw.depth.trans (hfits.outermost.1 (by simp [hpc, Pc.outermost])))
      (by simp [hw.lent, hfree, hb]) (by simp [hb]))
  case deepen hpc =>
    obtain ⟨howner, hfits⟩ := hown (by simp [hpc])
    exact Fits.of_owner howner (.of_inside rfl (by simp) hfits.lent)
  case abandon hpc =>
    obtain ⟨-, hfits⟩ := hown (by simp [hpc])
    exact Fits.of_not_owner (by simp) rfl
      (hfits.not_borrowed (by simp [hpc, Pc.outermost]) (by simp [hpc]))
  case release hpc =>
    obtain ⟨-, hfits⟩ := hown (by simp [hpc])
    exact Fits.of_not_owner (by simp) rfl
      (hfits.not_borrowed (by simp [hpc, Pc.outermost]) (by simp [hpc]))
  case finishIgnored hpc hrun =>
    obtain ⟨-, rfl⟩ := Arbiter.unwind_none hrun
    exact hfit
  case finishNested hpc hrun =>
    obtain ⟨howner, hpos, hlast, rfl⟩ := Arbiter.unwind_some hrun
    have hmore : s.arbiter.depth ≠ 1 := of_decide_eq_false hlast.symm
    exact Fits.of_owner howner (.of_inside (by simp [hpc, Pc.outermost]) (by simp; omega)
      (hfit.ownerFits howner).lent)
  case finishLast hpc hrun =>
    obtain ⟨howner, hpos, hlast, rfl⟩ := Arbiter.unwind_some hrun
    have hone : s.arbiter.depth = 1 := of_decide_eq_true hlast.symm
    exact Fits.of_owner howner (.of_outermost rfl (by simp [hone])
      (hfit.ownerFits howner).lent (fun _ => rfl))
  case teardown hpc hfree =>
    have hw := Arbiter.sameWindow_teardown L H s.arbiter
    obtain ⟨howner, hfits⟩ := hown (by simp [hpc])
    have hb : (s.threads t).borrowed = false := by rw [← hfits.lent, hfree]
    exact Fits.of_owner (hw.owner.trans howner) (.of_outermost rfl
      (hw.depth.trans (hfits.outermost.1 (by simp [hpc, Pc.outermost])))
      (by simp [hw.lent, hfree, hb]) (by simp [hb]))
  case withMasterRefused hpc hrun =>
    obtain ⟨rfl, -⟩ := Arbiter.checkSession_eq hrun
    by_cases howner : s.arbiter.owner = some t
    · have hfits := hfit.ownerFits howner
      exact Fits.of_owner howner
        (.of_inside rfl (hfits.depth_pos (by simp [hpc, Pc.outermost])) hfits.lent)
    · exact Fits.of_not_owner howner rfl (hfit.idle_of_not_owner howner).2
  case withMasterChecked hpc hrun =>
    obtain ⟨rfl, hok, -⟩ := Arbiter.checkSession_eq hrun
    obtain ⟨howner, hpos⟩ := hok.1 rfl
    exact Fits.of_owner howner (.of_inside rfl hpos (hfit.ownerFits howner).lent)
  case borrowRefused hpc hrun =>
    obtain ⟨-, -, rfl⟩ := Arbiter.borrow_error hrun
    obtain ⟨howner, hfits⟩ := hown (by simp [hpc])
    exact Fits.of_owner howner (.of_inside rfl (hfits.borrowing hpc) hfits.lent)
  case borrowTaken hpc hrun =>
    obtain ⟨-, rfl⟩ := Arbiter.borrow_ok hrun
    obtain ⟨howner, hfits⟩ := hown (by simp [hpc])
    exact Fits.of_owner howner (.of_inside rfl (hfits.borrowing hpc) rfl)
  case useMaster x hpc hlent => exact hfit.of_sameWindow ⟨rfl, rfl, rfl, rfl, rfl⟩
  case giveBack r hpc hlent =>
    have howner := hfit.owner_of_borrowed hlent
    have hfits := hfit.ownerFits howner
    exact Fits.of_owner howner (.of_inside (by simp [hpc, Pc.outermost])
      (hfits.depth_pos (by simp [hpc, Pc.outermost])) rfl)

end Step

namespace WindowMove

variable {t : ThreadId} {a a' : Arbiter σ η}

/-- A free window has no session open and the master not lent, after a move as before. -/
theorem free (hmove : WindowMove t a a')
    (hfree : a.owner = none → a.depth = 0 ∧ a.lent = false) :
    a'.owner = none → a'.depth = 0 ∧ a'.lent = false := by
  intro hnone
  cases hmove with
  | keep hw =>
    rw [hw.depth, hw.lent]
    exact hfree (hw.owner ▸ hnone)
  | take h => simp at hnone
  | deepen h d => simp [h] at hnone
  | lend h b => simp [h] at hnone
  | release h hd hl => exact ⟨hd, hl⟩

theorem reported (hmove : WindowMove t a a') (h : a.reported = a.depth) :
    a'.reported = a'.depth := by
  cases hmove with
  | keep hw => rw [hw.reported, hw.depth]; exact h
  | take _ => exact h
  | deepen _ d => rfl
  | lend _ b => exact h
  | release _ _ _ => exact h

end WindowMove

/-- One step of any thread keeps the invariant. -/
theorem Exclusive.step {s s' : World σ η} {t : ThreadId} {act : Action σ} (hinv : Exclusive s)
    (hstep : Step L H s t act s') : Exclusive s' := by
  have hmove := hstep.windowMove hinv
  refine ⟨fun u => ?_, hmove.free hinv.free, hmove.reported hinv.reported⟩
  by_cases hu : u = t
  · subst hu
    exact hstep.fits_self hinv
  · rw [hstep.threads_ne hu]
    exact (hinv.fits u).of_windowMove hu hmove

theorem Exclusive.fresh (config : SessionConfig) (master : Master σ) (hooks : Option η)
    (level : LogLevel) : Exclusive (World.fresh config master hooks level) where
  fits _ := Fits.of_not_owner (by simp [World.fresh]) rfl rfl
  free _ := ⟨rfl, rfl⟩
  reported := rfl

/-- Every interleaving keeps the invariant. -/
theorem Exclusive.reaches {s s' : World σ η} (hinv : Exclusive s) (hreach : Reaches L H s s') :
    Exclusive s' := by
  induction hreach with
  | refl => exact hinv
  | tail _ hstep ih =>
    obtain ⟨t, act, hstep⟩ := hstep
    exact ih.step hstep

namespace Step

variable {s s' : World σ η} {t : ThreadId} {act : Action σ}

theorem owner_of_touchesBus (hinv : Exclusive s) (hstep : Step L H s t act s')
    (hbus : act.touchesBus = true) : s.arbiter.owner = some t := by
  have hfit := hinv.fits t
  cases hstep with
  | setupDone hpc => exact hfit.owner_of_pc (by simp [hpc])
  | setupFailed hpc => exact hfit.owner_of_pc (by simp [hpc])
  | teardown hpc => exact hfit.owner_of_pc (by simp [hpc])
  | useMaster x hpc hlent => exact hfit.owner_of_borrowed hlent
  | _ => simp [Action.touchesBus] at hbus

/-- While the window is held, a step of any other thread leaves the arbiter as it is: it can
only give up waiting, be ignored or be refused. -/
theorem arbiter_of_not_owner (hinv : Exclusive s) {u : ThreadId} (howner : s.arbiter.owner = some u)
    (hne : t ≠ u) (hstep : Step L H s t act s') : s'.arbiter = s.arbiter := by
  have hnot : s.arbiter.owner ≠ some t := by
    rw [howner]; exact fun h => hne (Option.some.inj h).symm
  have hidle := (hinv.fits t).idle_of_not_owner hnot
  -- the window is held, so a begin of `t` can only wait or give up
  have hheld : ¬(s.arbiter.owner = none ∨ s.arbiter.owner = some t) := by
    rintro (h | h)
    · rw [howner] at h
      cases h
    · exact hnot h
  cases hstep with
  | beginOutermost hpc hrun => exact absurd (Arbiter.acquire_ok hrun).1 hheld
  | beginNested hpc hrun => exact absurd (Arbiter.acquire_ok hrun).1 hheld
  | beginTimeout hpc hrun =>
    obtain ⟨-, -, rfl⟩ := Arbiter.acquire_error hrun
    rfl
  | finishIgnored hpc hrun =>
    obtain ⟨-, rfl⟩ := Arbiter.unwind_none hrun
    rfl
  | finishNested hpc hrun => exact absurd (Arbiter.unwind_some hrun).1 hnot
  | finishLast hpc hrun => exact absurd (Arbiter.unwind_some hrun).1 hnot
  | withMasterRefused hpc hrun =>
    obtain ⟨rfl, -⟩ := Arbiter.checkSession_eq hrun
    rfl
  | withMasterChecked hpc hrun =>
    exact absurd ((Arbiter.checkSession_eq hrun).2.1.1 rfl).1 hnot
  | useMaster x hpc hlent => simp [hidle.2] at hlent
  | giveBack r hpc hlent => simp [hidle.2] at hlent
  | setupDone hpc | setupFailed hpc | deepen hpc | abandon hpc | release hpc | teardown hpc
  | borrowRefused hpc | borrowTaken hpc => simp [hidle.1] at hpc

theorem withMaster_noSession (hstep : Step L H s t .withMaster s')
    (hnot : s.arbiter.owner ≠ some t) : s' = s.modifyThread t (·.returns (.error .noSession)) := by
  cases hstep with
  | withMasterRefused hpc hrun =>
    obtain ⟨rfl, -, herr⟩ := Arbiter.checkSession_eq hrun
    rw [herr (by simp), World.withArbiter_self]
  | withMasterChecked hpc hrun =>
    exact absurd ((Arbiter.checkSession_eq hrun).2.1.1 rfl).1 hnot

/-- A `withMaster` nested in a closure of the owner passes the session check. -/
theorem withMaster_nested (hinv : Exclusive s) (hstep : Step L H s t .withMaster s')
    (hlent : (s.threads t).borrowed = true) : s' = s.modifyThread t (·.moveTo .borrowing) := by
  have hfit := hinv.fits t
  have howner := hfit.owner_of_borrowed hlent
  cases hstep with
  | withMasterRefused hpc hrun =>
    have hpos := (hfit.ownerFits howner).depth_pos (by simp [hpc, Pc.outermost])
    obtain ⟨-, hok, -⟩ := Arbiter.checkSession_eq hrun
    exact absurd (hok.2 ⟨howner, hpos⟩) (by simp)
  | withMasterChecked hpc hrun =>
    obtain ⟨rfl, -⟩ := Arbiter.checkSession_eq hrun
    rw [World.withArbiter_self]

/-- The master of a `withMaster` nested in a closure of the owner is lent already: it is
refused with `busy`. -/
theorem borrow_nested (hinv : Exclusive s) (hstep : Step L H s t .borrow s')
    (hlent : (s.threads t).borrowed = true) :
    s' = s.modifyThread t (·.returns (.error .busy)) := by
  have hfit := hinv.fits t
  have hfits := hfit.ownerFits (hfit.owner_of_borrowed hlent)
  cases hstep with
  | borrowRefused hpc hrun =>
    obtain ⟨-, rfl, rfl⟩ := Arbiter.borrow_error hrun
    rw [World.withArbiter_self]
  | borrowTaken hpc hrun =>
    have := (Arbiter.borrow_ok hrun).1
    rw [hfits.lent, hlent] at this
    cases this

end Step

/-- The thread is about to set the bus up or tear it down, or runs a closure of `withMaster`:
the points where it uses the master and the hooks. -/
def Thread.usesBus (th : Thread) : Prop :=
  th.pc = .settingUp ∨ th.pc = .tearingDown ∨ th.borrowed = true

/-- Mutual exclusion on the bus in the world `s`. -/
structure BusExclusion (L : Line σ) (H : Hooks η) (s : World σ η) : Prop where
  /-- A free window has no session open. -/
  free_depth : s.arbiter.owner = none → s.arbiter.depth = 0
  /-- Open sessions have exactly one owner. -/
  owner_unique : 0 < s.arbiter.depth → ∃! t, s.arbiter.owner = some t
  /-- Only the owner is about to set the bus up or tear it down, or runs a closure. -/
  owner_of_usesBus : ∀ t, (s.threads t).usesBus → s.arbiter.owner = some t
  /-- No two threads use the master and the hooks at once. -/
  usesBus_unique : ∀ t u, (s.threads t).usesBus → (s.threads u).usesBus → t = u
  /-- Every step that uses the master, the hooks or the log level is the owner's. -/
  step_owner : ∀ t act s', Step L H s t act s' → act.touchesBus = true →
    s.arbiter.owner = some t
  /-- While a thread holds the window, a step of any other thread leaves the arbiter, and so
  the master, the hooks and the log level, as it is. -/
  step_other : ∀ t u act s', s.arbiter.owner = some t → u ≠ t → Step L H s u act s' →
    s'.arbiter = s.arbiter
  /-- A `withMaster` of a thread without the window returns `noSession`, and nothing else
  changes. -/
  withMaster_other : ∀ t s', s.arbiter.owner ≠ some t → Step L H s t .withMaster s' →
    s' = s.modifyThread t (·.returns (.error .noSession))
  /-- A `withMaster` nested in a closure passes the session check... -/
  withMaster_nested : ∀ t s', (s.threads t).borrowed = true → Step L H s t .withMaster s' →
    s' = s.modifyThread t (·.moveTo .borrowing)
  /-- ...and then returns `busy`, and nothing else changes. -/
  borrow_nested : ∀ t s', (s.threads t).borrowed = true → Step L H s t .borrow s' →
    s' = s.modifyThread t (·.returns (.error .busy))

/-- In every world that some interleaving of any threads' calls reaches from a new arbiter,
the bus is used under mutual exclusion. -/
theorem bus_exclusion {config : SessionConfig} {master : Master σ} {hooks : Option η}
    {level : LogLevel} {s : World σ η}
    (hreach : Reaches L H (World.fresh config master hooks level) s) : BusExclusion L H s := by
  have hinv := (Exclusive.fresh config master hooks level).reaches hreach
  have howner : ∀ t, (s.threads t).usesBus → s.arbiter.owner = some t := by
    rintro t (hpc | hpc | hb)
    · exact (hinv.fits t).owner_of_pc (by simp [hpc])
    · exact (hinv.fits t).owner_of_pc (by simp [hpc])
    · exact (hinv.fits t).owner_of_borrowed hb
  exact {
    free_depth := fun h => (hinv.free h).1
    owner_unique := by
      intro hpos
      cases h : s.arbiter.owner with
      | none => exact absurd (hinv.free h).1 (by omega)
      | some t => exact ⟨t, rfl, fun u hu => (Option.some.inj hu).symm⟩
    owner_of_usesBus := howner
    usesBus_unique := fun t u ht hu => Option.some.inj ((howner t ht).symm.trans (howner u hu))
    step_owner := fun t act s' hstep hbus => hstep.owner_of_touchesBus hinv hbus
    step_other := fun t u act s' h hne hstep => hstep.arbiter_of_not_owner hinv h hne
    withMaster_other := fun t s' hnot hstep => hstep.withMaster_noSession hnot
    withMaster_nested := fun t s' hb hstep => hstep.withMaster_nested hinv hb
    borrow_nested := fun t s' hb hstep => hstep.borrow_nested hinv hb }

/-- A closure that unplugs the simulated line: opening it fails from then on. -/
def unplug : StateM (Master SimBus) Unit :=
  Master.onLine (modify fun b => { b with flags := b.flags.update true .failOpen })

/-- Thread 0 opens a session while thread 1 gives up waiting for it, and nests a second one.
Thread 1's end is ignored and its `withMaster` refused; thread 0's closure unplugs the line, and
a `withMaster` nested in it finds the master lent. -/
def contention : List (ThreadId × Action SimBus) :=
  [(0, .begin .forever), (1, .begin (.upTo 5)), (0, .setup), (0, .deepen), (0, .begin .forever),
    (1, .finish), (1, .withMaster), (0, .withMaster), (0, .borrow), (0, .useMaster unplug),
    (0, .withMaster), (0, .borrow)]

/-- Thread 0 gives the master back and closes both sessions while thread 1 gives up waiting
during the teardown; thread 0's extra end is ignored, and thread 1's begin fails in its setup,
as the line no longer opens. -/
def handover : List (ThreadId × Action SimBus) :=
  [(0, .giveBack (.ok ())), (0, .finish), (0, .finish), (1, .begin (.upTo 5)), (0, .teardown),
    (0, .release), (0, .finish), (1, .begin .forever), (1, .setup), (1, .release)]

theorem bus_exclusion_two_threads :
    ∃ s₁ s₂, (World.fresh {} { line := {} } (some {}) .info).run? SimBus.line
        CountingHooks.hooks contention = some s₁ ∧
      (World.fresh {} { line := {} } (some {}) .info).run? SimBus.line CountingHooks.hooks
        (contention ++ handover) = some s₂ ∧
      (s₁.arbiter.owner = some 0 ∧ s₁.arbiter.depth = 2 ∧ (s₁.threads 0).borrowed = true ∧
        (s₁.threads 0).answer = some (.error .busy) ∧
        (s₁.threads 1).answer = some (.error .noSession) ∧
        BusExclusion SimBus.line CountingHooks.hooks s₁) ∧
      (s₂.arbiter.owner = none ∧ (s₂.threads 1).answer = some (.error (.transport .notFound)) ∧
        BusExclusion SimBus.line CountingHooks.hooks s₂) := by
  have hrun₁ : (World.fresh {} { line := {} } (some {}) .info).run? SimBus.line
      CountingHooks.hooks contention = some _ := rfl
  have hrun₂ : (World.fresh {} { line := {} } (some {}) .info).run? SimBus.line
      CountingHooks.hooks (contention ++ handover) = some _ := rfl
  exact ⟨_, _, hrun₁, hrun₂,
    ⟨rfl, rfl, rfl, rfl, rfl, bus_exclusion (World.reaches_of_run? hrun₁)⟩,
    ⟨rfl, rfl, bus_exclusion (World.reaches_of_run? hrun₂)⟩⟩

end RtuBus
