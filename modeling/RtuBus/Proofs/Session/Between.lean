import RtuBus.Proofs.Session.Level

/-! # A thread between two of its calls

A thread between two of its calls holds `k ≥ 0` nested sessions (`Between`): when it holds the
window its sessions are open and it runs no closure of `withMaster`; when the window is free no
session is open, the master is not lent and no log level waits to be put back. Every idle
thread of every reachable world is so (`between_of_reaches`).

From such a state a call that opens a session and closes it again gives the thread back what it
had (`Restored`): the same owner, depth and lending of the window, the same log levels, and as
many successful prepares of the bus as flushes, none when the thread held the window. A failed
`enter` restores at once (`enter_error_restored`). After a successful `enter` the thread holds a
session, so `withMaster` lends it the master (`withMaster_held`), and whatever restores the state
after `enter` is restored by the `leave` that follows (`leave_after_enter`). So `withSession`
restores, and its closure runs whenever its session opens (`withSession_between`).
-/

namespace RtuBus

variable {σ η : Type}

namespace Arbiter

/-- Thread `me` between two of its calls, holding `k ≥ 0` nested sessions: when it holds the
window its sessions are open and the master is not lent; when the window is free no session is
open, the master is not lent and no log level waits to be put back. The depth others read is the
depth. -/
structure Between (me : ThreadId) (a : Arbiter σ η) : Prop where
  reported : a.reported = a.depth
  held : a.owner = some me → 0 < a.depth ∧ a.lent = false
  free : a.owner = none → a.depth = 0 ∧ a.lent = false ∧ a.restoreLevel = none

theorem Between.of_held {me : ThreadId} {a : Arbiter σ η} (hown : a.owner = some me)
    (hd : 0 < a.depth) (hl : a.lent = false) (hr : a.reported = a.depth) : Between me a :=
  ⟨hr, fun _ => ⟨hd, hl⟩, fun h => by simp [hown] at h⟩

theorem Between.of_free {me : ThreadId} {a : Arbiter σ η} (hown : a.owner = none)
    (hd : a.depth = 0) (hl : a.lent = false) (hlevel : a.restoreLevel = none)
    (hr : a.reported = a.depth) : Between me a :=
  ⟨hr, fun h => by simp [hown] at h, fun _ => ⟨hd, hl, hlevel⟩⟩

/-- What a call of thread `me` from `a` gives back in `a'`: the window with its owner, depth
and lending, and the log levels, as they were; and as many more successful prepares of the bus
as flushes, none when `me` held the window. -/
structure Restored (me : ThreadId) (a a' : Arbiter σ (Tallied η)) : Prop where
  window : SameWindow a a'
  level : a'.level = a.level
  restoreLevel : a'.restoreLevel = a.restoreLevel
  sessions : ∃ n, a'.counts = a.counts.map (fun c => (c.1 + n, c.2 + n)) ∧
    (a.owner = some me → n = 0)

theorem counts_add_zero (o : Option (Nat × Nat)) : o.map (fun c => (c.1 + 0, c.2 + 0)) = o := by
  cases o <;> simp

theorem counts_map_add (o : Option (Nat × Nat)) (n m : Nat) :
    (o.map fun c => (c.1 + n, c.2 + n)).map (fun c => (c.1 + m, c.2 + m)) =
      o.map fun c => (c.1 + (n + m), c.2 + (n + m)) := by
  cases o <;> simp [Nat.add_assoc]

namespace Restored

variable {me : ThreadId} {a b c : Arbiter σ (Tallied η)}

theorem refl (me : ThreadId) (a : Arbiter σ (Tallied η)) : Restored me a a where
  window := .refl a
  level := rfl
  restoreLevel := rfl
  sessions := ⟨0, (counts_add_zero a.counts).symm, fun _ => rfl⟩

theorem trans (h₁ : Restored me a b) (h₂ : Restored me b c) : Restored me a c := by
  obtain ⟨n₁, hc₁, hn₁⟩ := h₁.sessions
  obtain ⟨n₂, hc₂, hn₂⟩ := h₂.sessions
  refine ⟨h₁.window.trans h₂.window, h₂.level.trans h₁.level,
    h₂.restoreLevel.trans h₁.restoreLevel, n₁ + n₂, ?_, fun hown => ?_⟩
  · rw [hc₂, hc₁, counts_map_add]
  · -- the window stays `me`'s over the first call, so neither call set the bus up
    have hown' : b.owner = some me := h₁.window.owner.trans hown
    rw [hn₁ hown, hn₂ hown']

theorem master (me : ThreadId) (a : Arbiter σ (Tallied η)) (m : Master σ) :
    Restored me a { a with master := m } where
  window := ⟨rfl, rfl, rfl, rfl, rfl⟩
  level := rfl
  restoreLevel := rfl
  sessions := ⟨0, (counts_add_zero a.counts).symm, fun _ => rfl⟩

theorem between (h : Restored me a b) (hb : Between me a) : Between me b where
  reported := by rw [h.window.reported, h.window.depth, hb.reported]
  held hown := by
    rw [h.window.owner] at hown
    rw [h.window.depth, h.window.lent]
    exact hb.held hown
  free hown := by
    rw [h.window.owner] at hown
    rw [h.window.depth, h.window.lent, h.restoreLevel]
    exact hb.free hown

end Restored

/-- In every world that interleaved calls reach from a new arbiter, a thread between two of its
calls, not inside a closure of `withMaster`, is `Between`. -/
theorem between_of_reaches {L : Line σ} {H : Hooks η} {config : SessionConfig}
    {master : Master σ} {hooks : Option η} {base : LogLevel} {s : World σ η} {me : ThreadId}
    (hreach : Reaches L H (World.fresh config master hooks base) s)
    (hidle : (s.threads me).pc = .idle) (hfree : (s.threads me).borrowed = false) :
    Between me s.arbiter := by
  have hinv := (Exclusive.fresh config master hooks base).reaches hreach
  have hl := (Leveled.fresh config master hooks).reaches (Exclusive.fresh _ _ _ _)
    (Paired.fresh _ _ _ _) hreach
  refine ⟨hinv.reported, fun hown => ?_, fun hown => ?_⟩
  · have hfits := hinv.fits me
    rw [Fits, if_pos hown] at hfits
    -- an idle owner is inside its sessions, so the depth is not zero
    have hd : s.arbiter.depth ≠ 0 := fun hd => by
      simpa [hidle, Pc.outermost] using hfits.outermost.2 hd
    exact ⟨Nat.pos_of_ne_zero hd, hfits.lent.trans hfree⟩
  · obtain ⟨hd, hlent⟩ := hinv.free hown
    -- with the window free the bus is down, so no level waits to be put back
    have hdown : s.busUp = false := by
      simp [World.busUp, World.ownerAt_of_free hown, hd]
    exact ⟨hd, hlent, by rw [hl.restoreLevel, hdown, if_neg (by simp)]⟩

/-! ## Opening and closing a session -/

section Calls

variable (L : Line σ) (H : Hooks η) {me : ThreadId}

theorem enter_held {a : Arbiter σ η} (h : a.owner = some me) (hd : 0 < a.depth) :
    (enter L H me).run a = (.ok (), { a with depth := a.depth + 1, reported := a.depth + 1 }) := by
  have hacq : (acquire me).run a = (.ok false, a) := by
    rw [acquire_run, h]
    simp only [if_true]
    rw [decide_eq_false (by omega)]
  simp only [enter, arbiterM_run_bind, hacq, Bool.false_eq_true, ↓reduceIte]
  rfl

theorem enter_other {a : Arbiter σ η} {u : ThreadId} (h : a.owner = some u) (hu : u ≠ me) :
    (enter L H me).run a = (.error .timeout, a) := by
  have hacq : (acquire me).run a = (.error .timeout, a) := by
    rw [acquire_run, h]
    simp only [hu, if_false]
  simp only [enter, arbiterM_run_bind, hacq]
  rfl

theorem enter_free_ok {a a₁ : Arbiter σ η} (h : a.owner = none) (hd : a.depth = 0)
    (hs : (setup L H).run { a with owner := some me } = (.ok (), a₁)) :
    (enter L H me).run a =
      (.ok (), { a₁ with depth := a₁.depth + 1, reported := a₁.depth + 1 }) := by
  have hacq : (acquire me).run a = (.ok true, { a with owner := some me }) := by
    rw [acquire_run, h]
    simp only [hd, decide_true]
  simp only [enter, arbiterM_run_bind, hacq, ↓reduceIte, hs]
  rfl

theorem enter_free_error {a a₁ : Arbiter σ η} {e : BusError} (h : a.owner = none)
    (hd : a.depth = 0) (hs : (setup L H).run { a with owner := some me } = (.error e, a₁)) :
    (enter L H me).run a = (.error e, { a₁ with owner := none }) := by
  have hacq : (acquire me).run a = (.ok true, { a with owner := some me }) := by
    rw [acquire_run, h]
    simp only [hd, decide_true]
  simp only [enter, arbiterM_run_bind, hacq, ↓reduceIte, hs]
  rfl

theorem leave_nested {a : Arbiter σ η} (h : a.owner = some me) (hd : 1 < a.depth) :
    (leave L H me).run a = ((), { a with depth := a.depth - 1, reported := a.depth - 1 }) := by
  have hun : (unwind me).run a =
      (some false, { a with depth := a.depth - 1, reported := a.depth - 1 }) := by
    rw [unwind_run, if_neg (by simp only [h, ne_eq, not_true_eq_false, false_or]; omega)]
    rw [decide_eq_false (by omega)]
  simp only [leave, arbiterM_run_bind, hun]
  rfl

theorem leave_last {a : Arbiter σ η} (h : a.owner = some me) (hd : a.depth = 1) :
    (leave L H me).run a =
      ((), { ((teardown L H).run { a with depth := 0, reported := 0 }).2 with owner := none }) := by
  have hun : (unwind me).run a = (some true, { a with depth := 0, reported := 0 }) := by
    rw [unwind_run, if_neg (by simp only [h, ne_eq, not_true_eq_false, false_or]; omega), hd]
    rfl
  simp only [leave, arbiterM_run_bind, hun]
  rfl

/-- A thread that holds a session, with the master not lent, is lent the master: the program
runs on it and nothing else changes. -/
theorem withMaster_held {α : Type} {a : Arbiter σ η} (h : a.owner = some me) (hd : 0 < a.depth)
    (hl : a.lent = false) (f : StateM (Master σ) α) :
    (withMaster me f).run a =
      (.ok (f.run a.master).1, { a with master := (f.run a.master).2 }) := by
  have hcheck : (checkSession me).run a = (.ok (), a) := by
    rw [checkSession_run, if_neg (by simp only [h, ne_eq, not_true_eq_false, false_or]; omega)]
  have hborrow : borrow.run a = (.ok (), { a with lent := true }) := by
    rw [borrow_run, hl]
    rfl
  simp only [withMaster, lend, arbiterM_run_bind, hcheck, hborrow, onMaster_run, giveBack_run]
  rcases a
  cases hl
  rfl

/-- A successful `enter` from between calls leaves `me` holding a session, still between its
calls. -/
theorem enter_ok_held {a a₁ : Arbiter σ η} (hb : Between me a)
    (h : (enter L H me).run a = (.ok (), a₁)) : a₁.owner = some me ∧ Between me a₁ := by
  cases hown : a.owner with
  | none =>
    obtain ⟨hd, hl, -⟩ := hb.free hown
    rcases hs : (setup L H).run { a with owner := some me } with ⟨r, a₂⟩
    cases r with
    | error e => rw [enter_free_error L H hown hd hs] at h; cases h
    | ok u =>
      rw [enter_free_ok L H hown hd hs] at h
      cases h
      have hw := sameWindow_of_setup L H hs
      exact ⟨hw.owner, .of_held hw.owner (Nat.succ_pos _) (hw.lent.trans hl) rfl⟩
  | some u =>
    by_cases hu : u = me
    · subst hu
      obtain ⟨hd, hl⟩ := hb.held hown
      rw [enter_held L H hown hd] at h
      cases h
      exact ⟨hown, .of_held hown (Nat.succ_pos _) hl rfl⟩
    · rw [enter_other L H hown hu] at h
      cases h

end Calls

/-! ## What a session gives back -/

section Tallied

variable (L : Line σ) (H : Hooks η) {me : ThreadId} {a a₁ a₂ : Arbiter σ (Tallied η)}

/-- An `enter` from between calls that fails gives back what the thread had: another thread
held the window and nothing changed, or the setup failed and was undone. -/
theorem enter_error_restored (hb : Between me a) {e : BusError}
    (h : (enter L H.tallied me).run a = (.error e, a₁)) : Restored me a a₁ := by
  cases hown : a.owner with
  | none =>
    obtain ⟨hd, -, -⟩ := hb.free hown
    rcases hs : (setup L H.tallied).run { a with owner := some me } with ⟨r, a₂⟩
    cases r with
    | ok u => rw [enter_free_ok L H.tallied hown hd hs] at h; cases h
    | error e' =>
      rw [enter_free_error L H.tallied hown hd hs] at h
      cases h
      have hw := sameWindow_of_setup L H.tallied hs
      obtain ⟨hlev, hres⟩ := setup_error_levels L H.tallied hs
      have hcounts := counts_setup_error L H hs
      refine ⟨⟨hw.config, hown.symm, hw.depth, hw.reported, hw.lent⟩, hlev, hres, 0, ?_,
        fun _ => rfl⟩
      rw [counts_add_zero]
      exact hcounts
  | some u =>
    by_cases hu : u = me
    · subst hu
      obtain ⟨hd, -⟩ := hb.held hown
      rw [enter_held L H.tallied hown hd] at h
      cases h
    · rw [enter_other L H.tallied hown hu] at h
      cases h
      exact .refl me a

/-- Whatever gives back the state after a successful `enter` is given back to the state before
it by the `leave` that follows: one session fewer, and the teardown of the session the `enter`
set up, if it set one up. -/
theorem leave_after_enter (hb : Between me a) (h₁ : (enter L H.tallied me).run a = (.ok (), a₁))
    (h₂ : Restored me a₁ a₂) : Restored me a ((leave L H.tallied me).run a₂).2 := by
  obtain ⟨n, hc₂, hn⟩ := h₂.sessions
  cases hown : a.owner with
  | none =>
    obtain ⟨hd, hl, hr⟩ := hb.free hown
    rcases hs : (setup L H.tallied).run { a with owner := some me } with ⟨r, a₃⟩
    cases r with
    | error e => rw [enter_free_error L H.tallied hown hd hs] at h₁; cases h₁
    | ok u =>
      rw [enter_free_ok L H.tallied hown hd hs] at h₁
      cases h₁
      have hw := sameWindow_of_setup L H.tallied hs
      obtain ⟨hlev, hres⟩ := setup_ok_levels L H.tallied hs
      have hcounts := counts_setup_ok L H hs
      have hn0 : n = 0 := hn hw.owner
      have hown₂ : a₂.owner = some me := h₂.window.owner.trans hw.owner
      have hd₂ : a₂.depth = 1 := by rw [h₂.window.depth, hw.depth, hd]
      rw [leave_last L H.tallied hown₂ hd₂]
      have htw := sameWindow_teardown L H.tallied { a₂ with depth := 0, reported := 0 }
      obtain ⟨htl, htr⟩ := teardown_levels L H.tallied { a₂ with depth := 0, reported := 0 }
      have htc := counts_teardown L H { a₂ with depth := 0, reported := 0 }
      have hr₂ : a₂.restoreLevel = some a.level := h₂.restoreLevel.trans hres
      have hc₁ : a₂.counts = a.counts.map fun c => (c.1 + 1, c.2) := by
        rw [hc₂, hn0, counts_add_zero]
        exact hcounts
      refine ⟨⟨?_, hown.symm, ?_, ?_, ?_⟩, ?_, ?_, 1, ?_, fun h => by simp [hown] at h⟩
      · exact (htw.config.trans h₂.window.config).trans hw.config
      · exact htw.depth.trans hd.symm
      · exact htw.reported.trans (hb.reported.trans hd).symm
      · exact (htw.lent.trans h₂.window.lent).trans hw.lent
      · show ((teardown L H.tallied).run { a₂ with depth := 0, reported := 0 }).2.level = a.level
        rw [htl]
        show a₂.restoreLevel.getD a₂.level = a.level
        rw [hr₂]
        rfl
      · show ((teardown L H.tallied).run { a₂ with depth := 0, reported := 0 }).2.restoreLevel =
          a.restoreLevel
        rw [htr, hr]
      · calc _ = ({ a₂ with depth := 0, reported := 0 } : Arbiter σ (Tallied η)).counts.map
              (fun c => (c.1, c.2 + 1)) := htc
          _ = (a.counts.map fun c => (c.1 + 1, c.2)).map (fun c => (c.1, c.2 + 1)) := by
            rw [← hc₁]
            rfl
          _ = _ := by cases a.counts <;> simp
  | some u =>
    by_cases hu : u = me
    · subst hu
      obtain ⟨hd, -⟩ := hb.held hown
      rw [enter_held L H.tallied hown hd] at h₁
      cases h₁
      have hn0 : n = 0 := hn hown
      have hown₂ : a₂.owner = some u := h₂.window.owner.trans hown
      have hd₂ : a₂.depth = a.depth + 1 := h₂.window.depth
      rw [leave_nested L H.tallied hown₂ (by omega)]
      refine ⟨⟨h₂.window.config, hown₂.trans hown.symm, ?_, ?_, h₂.window.lent⟩,
        h₂.level, h₂.restoreLevel, 0, ?_, fun _ => rfl⟩
      · change a₂.depth - 1 = a.depth
        omega
      · change a₂.depth - 1 = a.reported
        rw [hb.reported]
        omega
      · rw [counts_add_zero]
        show a₂.counts = a.counts
        rw [hc₂, hn0, counts_add_zero]
        rfl
    · rw [enter_other L H.tallied hown hu] at h₁
      cases h₁

/-- A program run in a session of its own, from between calls, gives back what the thread had,
and runs whenever the session opens: its result is the program's on the master as the session
opened it, or the error of the `enter`. -/
theorem withSession_between {α : Type} (hb : Between me a) (f : StateM (Master σ) α) :
    Restored me a ((withSession L H.tallied me f).run a).2 ∧
      ((withSession L H.tallied me f).run a).1 =
        ((enter L H.tallied me).run a).1.map fun _ =>
          (f.run ((enter L H.tallied me).run a).2.master).1 := by
  rcases he : (enter L H.tallied me).run a with ⟨r, a₁⟩
  cases r with
  | error e =>
    have hrun : (withSession L H.tallied me f).run a = (.error e, a₁) := by
      simp only [withSession, arbiterM_run_bind, he]
      rfl
    rw [hrun]
    exact ⟨enter_error_restored L H hb he, rfl⟩
  | ok u =>
    obtain ⟨hown, hb₁⟩ := enter_ok_held L H.tallied hb he
    obtain ⟨hd, hl⟩ := hb₁.held hown
    have hrun : (withSession L H.tallied me f).run a =
        (.ok (f.run a₁.master).1,
          ((leave L H.tallied me).run { a₁ with master := (f.run a₁.master).2 }).2) := by
      simp only [withSession, arbiterM_run_bind, he, withMaster_held hown hd hl]
      rfl
    rw [hrun]
    exact ⟨leave_after_enter L H hb he (.master me a₁ _), rfl⟩

end Tallied

end Arbiter

end RtuBus
