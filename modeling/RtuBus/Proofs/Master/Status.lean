import RtuBus.Proofs.Master.Record
import RtuBus.Sim.Bus

/-! # The initialized flag and the state of the line

The calls made on a line, folded through a small machine, give the state the line is in
(`lineStatus`): closed; opened and not yet switched to receive; or parked, that is opened and
switched to receive. Over every run of operations from a new master, the initialized flag says
exactly whether the line is parked (`initialized_iff_parked`): the line is never opened while it
is parked, `init` on an initialized master and `deinit` on one that is not make no call, and
`deinit` leaves the master not initialized whatever closing returns.

The flag does not say whether the line is open. A line that opens but cannot be switched to
receive stays open while the master is not initialized, and the next `init` opens it again
(`init_leaves_line_open`).
-/

namespace RtuBus

/-- The state of a line, as far as the calls made on it tell. -/
inductive LineStatus where
  | closed
  | opened
  | parked
  deriving DecidableEq, Repr

namespace LineStatus

/-- The state after one call: opening opens, closing closes, and a line just opened is parked
by a successful switch to receive. -/
def next : LineStatus → LineCall → LineStatus
  | _, .connect (.ok ()) => .opened
  | .opened, .setTransmit false (.ok ()) => .parked
  | _, .disconnect _ => .closed
  | s, _ => s

def after (s : LineStatus) (calls : List LineCall) : LineStatus :=
  calls.foldl next s

@[simp] theorem after_nil (s : LineStatus) : s.after [] = s :=
  rfl

@[simp] theorem after_cons (s : LineStatus) (c : LineCall) (calls : List LineCall) :
    s.after (c :: calls) = (s.next c).after calls :=
  rfl

theorem after_append (s : LineStatus) (xs ys : List LineCall) :
    s.after (xs ++ ys) = (s.after xs).after ys :=
  List.foldl_append

end LineStatus

/-- The state of a line after the calls made on it since it was created. -/
def lineStatus (calls : List LineCall) : LineStatus :=
  LineStatus.closed.after calls

/-- No call opens the line while it is parked, from a line in state `s`. -/
def NoReopen (s : LineStatus) (calls : List LineCall) : Prop :=
  ∀ i r, calls[i]? = some (.connect r) → s.after (calls.take i) ≠ .parked

namespace NoReopen

variable {s : LineStatus} {xs ys : List LineCall}

theorem of_forall_not_connect (h : ∀ r, LineCall.connect r ∉ xs) : NoReopen s xs :=
  fun _ r hi => absurd (List.mem_of_getElem? hi) (h r)

theorem append (hx : NoReopen s xs) (hy : NoReopen (s.after xs) ys) : NoReopen s (xs ++ ys) := by
  intro i r hi
  rcases getElem?_append_cases hi with hi | ⟨k, rfl, hk⟩
  · have hlt : i < xs.length := (List.getElem?_eq_some_iff.mp hi).1
    rw [List.take_append_of_le_length (Nat.le_of_lt hlt)]
    exact hx i r hi
  · rw [List.take_append, List.take_of_length_le (by omega), Nat.add_sub_cancel_left,
      LineStatus.after_append]
    exact hy k r hk

end NoReopen

/-! ## Every block keeps the flag in step with the line -/

theorem Opening.eq_nil_of_initialized {cs : List LineCall} {b' : Bool} {r : Except BusError Unit}
    (h : Opening true cs b' r) : cs = [] := by
  cases h
  rfl

theorem Closing.eq_nil_of_not_initialized {cs : List LineCall} {r : Except BusError Unit}
    (h : Closing false cs r) : cs = [] := by
  cases h
  rfl

/-- From every line state the flag `b` tells, the calls `cs` lead to a state the flag `b'`
tells, and open no parked line on the way. -/
def Tracks (b : Bool) (cs : List LineCall) (b' : Bool) : Prop :=
  ∀ s : LineStatus, (b = true ↔ s = .parked) →
    (b' = true ↔ s.after cs = .parked) ∧ NoReopen s cs

theorem Tracks.append {b b₁ b₂ : Bool} {xs ys : List LineCall} (h₁ : Tracks b xs b₁)
    (h₂ : Tracks b₁ ys b₂) : Tracks b (xs ++ ys) b₂ := by
  intro s hs
  obtain ⟨hs₁, hopen₁⟩ := h₁ s hs
  obtain ⟨hs₂, hopen₂⟩ := h₂ _ hs₁
  exact ⟨by rwa [LineStatus.after_append], hopen₁.append hopen₂⟩

/-- `init` leaves the flag saying whether the line is parked, and opens the line only when it is
not parked. -/
theorem Opening.tracks {b b' : Bool} {cs : List LineCall} {r : Except BusError Unit}
    (h : Opening b cs b' r) : Tracks b cs b' := by
  intro s hs
  cases h with
  | already => exact ⟨hs, fun _ _ hi => by cases hi⟩
  | refused k =>
    have hne : s ≠ .parked := fun h => by cases hs.mpr h
    refine ⟨by cases s <;> simp_all [LineStatus.next], fun i r hi => ?_⟩
    rcases i with _ | i
    · exact hne
    · cases hi
  | opened r =>
    have hne : s ≠ .parked := fun h => by cases hs.mpr h
    refine ⟨by cases r <;> simp [LineStatus.next] <;> rfl, fun i r hi => ?_⟩
    rcases i with _ | _ | i
    · exact hne
    · cases hi
    · cases hi

theorem Closing.tracks {b : Bool} {cs : List LineCall} {r : Except BusError Unit}
    (h : Closing b cs r) : Tracks b cs false := by
  intro s hs
  refine ⟨?_, .of_forall_not_connect (by cases h <;> simp)⟩
  cases h with
  | idle => simpa using hs
  | closed r => simp [LineStatus.next]

/-- A transaction runs only on a parked line and leaves it parked. -/
theorem Exchange.tracks {frame : Bytes} {n t : Nat} {b : Bool} {cs : List LineCall}
    {r : Except BusError Bytes} (h : Exchange frame n t b cs r) : Tracks b cs b := by
  intro s hs
  refine ⟨?_, .of_forall_not_connect (by cases h <;> simp)⟩
  cases h with
  | refused => exact hs
  | _ =>
    -- the master is initialized, so the line is parked, and no call of a transaction moves it
    obtain rfl := hs.mp rfl
    simp [LineStatus.next]

theorem Blocks.tracks {len : Nat → Prop} {b b' : Bool} {cs : List LineCall}
    (h : Blocks len b cs b') : Tracks b cs b' := by
  induction h with
  | nil => exact fun _ hs => ⟨hs, fun _ _ hi => by cases hi⟩
  | opening ho _ ih => exact ho.tracks.append ih
  | closing hc _ ih => exact hc.tracks.append ih
  | exchange he _ _ ih => exact he.tracks.append ih

namespace Master

variable {σ : Type} (L : Line σ)

/-- Over every run of operations from a new master, on a line that behaves in any way, the
master is initialized exactly when its line is parked, and the line is never opened while it is
parked; `init` on an initialized master and `deinit` on one that is not make no call, and `deinit`
leaves every master not initialized. -/
theorem initialized_iff_parked (ops : List Op) (m : Master (Recorded σ))
    (hcalls : m.line.calls = []) (hinit : m.initialized = false) :
    ((((runOps L.recorded ops).run m).2.initialized = true ↔
        lineStatus ((runOps L.recorded ops).run m).2.line.calls = .parked) ∧
      ∀ i r, ((runOps L.recorded ops).run m).2.line.calls[i]? = some (.connect r) →
        lineStatus (((runOps L.recorded ops).run m).2.line.calls.take i) ≠ .parked) ∧
    (∀ m' : Master (Recorded σ), m'.initialized = true →
      ((init L.recorded).run.run m').2.line.calls = m'.line.calls) ∧
    (∀ m' : Master (Recorded σ), m'.initialized = false →
      ((deinit L.recorded).run.run m').2.line.calls = m'.line.calls) ∧
    ∀ m' : Master (Recorded σ), ((deinit L.recorded).run.run m').2.initialized = false := by
  refine ⟨?_, fun m' hm' => ?_, fun m' hm' => ?_, fun m' => ?_⟩
  · obtain ⟨cs, hcs, hblocks⟩ := runOps_blocks L ops m
    rw [hcalls, List.nil_append] at hcs
    rw [hcs]
    exact hblocks.tracks .closed (by simp [hinit])
  · obtain ⟨cs, ho, hcs⟩ := init_recorded L m'
    rw [hm'] at ho
    rw [hcs, ho.eq_nil_of_initialized, List.append_nil]
  · obtain ⟨cs, hc, hcs, -⟩ := deinit_recorded L m'
    rw [hm'] at hc
    rw [hcs, hc.eq_nil_of_not_initialized, List.append_nil]
  · obtain ⟨cs, -, -, hnot⟩ := deinit_recorded L m'
    exact hnot

end Master

theorem initialized_iff_parked_simulated :
    let m : Master (Recorded SimBus) := { line := { inner := {} } }
    let ops : List Master.Op := [.init, .readHolding 1 0 2 100, .deinit, .init]
    m.line.calls = [] ∧ m.initialized = false ∧
    ((((Master.runOps SimBus.line.recorded ops).run m).2.initialized = true ↔
        lineStatus ((Master.runOps SimBus.line.recorded ops).run m).2.line.calls = .parked) ∧
      ∀ i r, ((Master.runOps SimBus.line.recorded ops).run m).2.line.calls[i]? =
          some (.connect r) →
        lineStatus (((Master.runOps SimBus.line.recorded ops).run m).2.line.calls.take i) ≠
          .parked) ∧
    (∀ m' : Master (Recorded SimBus), m'.initialized = true →
      ((Master.init SimBus.line.recorded).run.run m').2.line.calls = m'.line.calls) ∧
    (∀ m' : Master (Recorded SimBus), m'.initialized = false →
      ((Master.deinit SimBus.line.recorded).run.run m').2.line.calls = m'.line.calls) ∧
    ∀ m' : Master (Recorded SimBus),
      ((Master.deinit SimBus.line.recorded).run.run m').2.initialized = false := by
  intro m ops
  exact ⟨rfl, rfl, Master.initialized_iff_parked SimBus.line ops m rfl rfl⟩

/-- A line that opens but cannot be switched to receive is left open while the master is not
initialized. -/
theorem init_leaves_line_open :
    ((Master.init SimBus.line.recorded).run.run
        { line := { inner := { flags := { failTransmitOff := true } } } }).2.initialized = false ∧
    ((Master.init SimBus.line.recorded).run.run
        { line := { inner := { flags := { failTransmitOff := true } } } }).2.line.calls =
      [.connect (.ok ()), .setTransmit false (.error .permissionDenied)] ∧
    lineStatus ((Master.init SimBus.line.recorded).run.run
        { line := { inner := { flags := { failTransmitOff := true } } } }).2.line.calls = .opened :=
  ⟨rfl, rfl, rfl⟩

end RtuBus
