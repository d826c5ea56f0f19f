import Mathlib.Data.List.Forall2
import RtuBus.Proofs.Registry.Dispatch

/-! # Polling is a best-effort fold over the reads

`pollAll` opens a session, reads each entry in turn and closes the session if it opened. What
it gives is what reading the entries in turn, with `List.mapM` over `dispatchRead`, gives
(`pollAll_run`): the measurements of the reads that succeeded, in entry order, with the driver
states threaded from one read to the next; a failed read stops nothing and gives no measurement,
and counts once against its entry's channel. Each count is a 32-bit word, so the failures are added
to it modulo 2^32. Every measurement carries its entry's channel (`readAll_channels`).
-/

namespace RtuBus

/-- The measurements of the reads that succeeded, in order. -/
def okMeasurements (results : List (Except DispatchError (List Measurement))) : List Measurement :=
  (results.filterMap Except.toOption).flatten

/-- How many reads of the channel `c` failed, when reading `entries` gave `results`. -/
def failedReads (c : UInt16) (entries : List SensorEntry)
    (results : List (Except DispatchError (List Measurement))) : Nat :=
  (entries.zip results).countP fun p => p.1.channel == c && !p.2.isOk

section Results

variable {δ : Type} {ms : List Measurement} {e : DispatchError}
  {results : List (Except DispatchError (List Measurement))} {entry : SensorEntry}
  {entries : List SensorEntry} {c : UInt16}

@[simp] theorem okMeasurements_nil : okMeasurements [] = [] := rfl

@[simp] theorem okMeasurements_cons_ok :
    okMeasurements (.ok ms :: results) = ms ++ okMeasurements results := rfl

@[simp] theorem okMeasurements_cons_error :
    okMeasurements (.error e :: results) = okMeasurements results := rfl

@[simp] theorem failedReads_nil : failedReads c [] results = 0 := rfl

@[simp] theorem failedReads_cons_ok :
    failedReads c (entry :: entries) (.ok ms :: results) = failedReads c entries results := by
  simp [failedReads, Except.isOk, Except.toBool]

@[simp] theorem failedReads_cons_error :
    failedReads c (entry :: entries) (.error e :: results) =
      failedReads c entries results + if entry.channel = c then 1 else 0 := by
  simp [failedReads, List.countP_cons, Except.isOk, Except.toBool]

/-- Failures added to a 32-bit count give the plain sum while it stays below 2^32. -/
theorem toNat_add_failures {x : UInt32} {n : Nat} (h : x.toNat + n < UInt32.size) :
    (x + n.toUInt32).toNat = x.toNat + n := by
  rw [UInt32.toNat_add, Nat.toUInt32, UInt32.toNat_ofNat', Nat.add_mod_mod]
  exact Nat.mod_eq_of_lt h

/-- Counting a failure of channel `c` adds one to `c`'s count and leaves the others alone. -/
@[simp] theorem Registry.countFailure_errors (r : Registry δ) (c c' : UInt16) :
    (r.countFailure c).errors c' = r.errors c' + if c = c' then 1 else 0 := by
  by_cases h : c = c'
  · simp [Registry.countFailure, h]
  · simp [Registry.countFailure, h, Ne.symm h]

end Results

namespace Registry

open Arbiter

variable {δ σ η : Type}

theorem registry_run_pure {α : Type} (x : α) (r : Registry δ) (a : Arbiter σ η) :
    ((pure x : RegistryM δ σ η α).run r).run a = ((x, r), a) :=
  rfl

theorem registry_run_modify (g : Registry δ → Registry δ) (r : Registry δ) (a : Arbiter σ η) :
    ((modify g : RegistryM δ σ η PUnit).run r).run a = ((⟨⟩, g r), a) :=
  rfl

variable [Driver δ] (L : Line σ) (H : Hooks η) (me : ThreadId)

/-- A read leaves the failure counts alone, and does the same whatever they are. -/
theorem dispatchRead_errors (entry : SensorEntry) (r : Registry δ) (a : Arbiter σ η)
    (f : UInt16 → UInt32) :
    ((dispatchRead L H me entry).run { r with errors := f }).run a =
      (((((dispatchRead L H me entry).run r).run a).1.1,
        { (((dispatchRead L H me entry).run r).run a).1.2 with errors := f }),
        (((dispatchRead L H me entry).run r).run a).2) ∧
    (((dispatchRead L H me entry).run r).run a).1.2.errors = r.errors := by
  rcases hf : findDriver entry.sensorType r.drivers with _ | ⟨i, d⟩
  · have hnone := findDriver_eq_none_iff.mp hf
    have hnone' : ∀ d ∈ { r with errors := f }.drivers, Driver.handles d entry.sensorType = false :=
      hnone
    rw [dispatchRead_unsupported L H me a hnone, dispatchRead_unsupported L H me a hnone']
    exact ⟨rfl, rfl⟩
  · have hfirst := findDriver_eq_some_iff.mp hf
    have hfirst' : FirstHandler entry.sensorType { r with errors := f }.drivers i d := hfirst
    rcases hw : (withSession L H me
      ((Driver.readValues (Master.registers L) entry.address).run d)).run a with ⟨o, a'⟩
    rcases o with e | ⟨e | v, d'⟩
    · rw [dispatchRead_session_error hfirst hw, dispatchRead_session_error hfirst' hw]
      exact ⟨rfl, rfl⟩
    · rw [dispatchRead_read_error hfirst hw, dispatchRead_read_error hfirst' hw]
      exact ⟨rfl, rfl⟩
    · rw [dispatchRead_values hfirst hw, dispatchRead_values hfirst' hw]
      exact ⟨rfl, rfl⟩

section ReadAll

variable {r r' : Registry δ} {a a' : Arbiter σ η}
  {results : List (Except DispatchError (List Measurement))}

theorem readAll_nil (h : (([].mapM (dispatchRead L H me)).run r).run a = ((results, r'), a')) :
    results = [] ∧ r' = r ∧ a' = a := by
  rw [List.mapM_nil, registry_run_pure] at h
  cases h
  exact ⟨rfl, rfl, rfl⟩

/-- Reading a list of entries reads the first, then the rest from where the first left the
registry and the arbiter. -/
theorem readAll_cons {entry : SensorEntry} {rest : List SensorEntry}
    (h : (((entry :: rest).mapM (dispatchRead L H me)).run r).run a = ((results, r'), a')) :
    ∃ x r₁ a₁ xs, ((dispatchRead L H me entry).run r).run a = ((x, r₁), a₁) ∧
      ((rest.mapM (dispatchRead L H me)).run r₁).run a₁ = ((xs, r'), a') ∧
      results = x :: xs := by
  rw [List.mapM_cons, registry_run_bind] at h
  rcases hd : ((dispatchRead L H me entry).run r).run a with ⟨⟨x, r₁⟩, a₁⟩
  rw [hd, registry_run_bind] at h
  rcases hm : ((rest.mapM (dispatchRead L H me)).run r₁).run a₁ with ⟨⟨xs, r₂⟩, a₂⟩
  rw [hm, registry_run_pure] at h
  cases h
  exact ⟨x, r₁, a₁, xs, rfl, hm, rfl⟩

/-- Reading entries in turn leaves the failure counts alone, and does the same whatever they
are. -/
theorem readAll_errors (entries : List SensorEntry) (f : UInt16 → UInt32)
    (h : ((entries.mapM (dispatchRead L H me)).run r).run a = ((results, r'), a')) :
    ((entries.mapM (dispatchRead L H me)).run { r with errors := f }).run a =
      ((results, { r' with errors := f }), a') ∧ r'.errors = r.errors := by
  induction entries generalizing r a results r' a' with
  | nil =>
    obtain ⟨rfl, rfl, rfl⟩ := readAll_nil L H me h
    exact ⟨rfl, rfl⟩
  | cons entry rest ih =>
    obtain ⟨x, r₁, a₁, xs, hd, hm, rfl⟩ := readAll_cons L H me h
    obtain ⟨hframe, herr⟩ := dispatchRead_errors L H me entry r a f
    rw [hd] at hframe herr
    obtain ⟨hm', herr'⟩ := ih hm
    rw [List.mapM_cons, registry_run_bind, hframe, registry_run_bind, hm', registry_run_pure]
    exact ⟨rfl, herr'.trans herr⟩

/-- Every measurement that a read gives carries the channel of its entry, and there is one
result per entry. -/
theorem readAll_channels (entries : List SensorEntry)
    (h : ((entries.mapM (dispatchRead L H me)).run r).run a = ((results, r'), a')) :
    List.Forall₂ (fun entry result => ∀ ms, result = .ok ms → ∀ m ∈ ms, m.channel = entry.channel)
      entries results := by
  induction entries generalizing r a results r' a' with
  | nil =>
    obtain ⟨rfl, -, -⟩ := readAll_nil L H me h
    exact .nil
  | cons entry rest ih =>
    obtain ⟨x, r₁, a₁, xs, hd, hm, rfl⟩ := readAll_cons L H me h
    refine .cons ?_ (ih hm)
    rintro ms rfl
    exact dispatchRead_channel L H me entry r a (by rw [hd])

/-- Polling entries one by one is reading them in turn: it gives the measurements of the reads
that succeeded, in order, and counts each failed read against its entry's channel. -/
theorem pollEach_run (entries : List SensorEntry)
    (h : ((entries.mapM (dispatchRead L H me)).run r).run a = ((results, r'), a')) :
    ((pollEach L H me entries).run r).run a =
      ((okMeasurements results,
        { r' with errors := fun c => r.errors c + (failedReads c entries results).toUInt32 }),
        a') := by
  induction entries generalizing r a results r' a' with
  | nil =>
    obtain ⟨rfl, rfl, rfl⟩ := readAll_nil L H me h
    simp only [pollEach, registry_run_pure, okMeasurements_nil, failedReads_nil]
    simp
  | cons entry rest ih =>
    obtain ⟨x, r₁, a₁, xs, hd, hm, rfl⟩ := readAll_cons L H me h
    have herr := (dispatchRead_errors L H me entry r a r.errors).2
    rw [hd] at herr
    dsimp only at herr
    rcases x with e | ms
    · have hcount : ((rest.mapM (dispatchRead L H me)).run
          (r₁.countFailure entry.channel)).run a₁ =
            ((xs, { r' with errors := (r₁.countFailure entry.channel).errors }), a') :=
        (readAll_errors L H me rest _ hm).1
      simp only [pollEach, registry_run_bind, hd, registry_run_modify, registry_run_pure]
      rw [ih hcount]
      dsimp only
      congr 3
      funext c
      simp only [countFailure_errors, failedReads_cons_error, herr]
      split
      · simp
        ac_rfl
      · simp
    · simp only [pollEach, registry_run_bind, hd, registry_run_pure]
      rw [ih hm]
      simp only [failedReads_cons_ok, herr, okMeasurements_cons_ok]

/-- A poll opens a session, polls the entries one by one in it, and closes it if it opened. -/
theorem pollAll_run (entries : List SensorEntry) {s : Except BusError Unit} {a₁ : Arbiter σ η}
    (he : (enter L H me).run a = (s, a₁))
    (h : ((entries.mapM (dispatchRead L H me)).run r).run a₁ = ((results, r'), a')) :
    (((pollAll L H me entries).run r).run a).1 =
      (okMeasurements results,
        { r' with errors := fun c => r.errors c + (failedReads c entries results).toUInt32 }) ∧
    (s = .ok () → (((pollAll L H me entries).run r).run a).2 = ((leave L H me).run a').2) ∧
    (∀ e, s = .error e → (((pollAll L H me entries).run r).run a).2 = a') := by
  simp only [pollAll, registry_run_bind, registry_run_lift, he, pollEach_run L H me entries h]
  cases s with
  | error e => exact ⟨rfl, fun h => (by cases h), fun _ _ => rfl⟩
  | ok u => exact ⟨rfl, fun _ => rfl, fun _ h => (by cases h)⟩

end ReadAll

end Registry

end RtuBus
