import RtuBus.Proofs.Device.CallLog

/-! # Reads on a bus that records its calls

On a bus that records its calls (`Registers.traced`), a driver that only reads leaves a list of
`BusCall.read`, and the scans of `ScanLog` say which reads they are:

* reading one word is one read, and gives what that read got (`RegisterRead.wordResult`);
* trying one register with a list of functions is a scan that stops at the first read that got a
  word, and otherwise gives the error of the last read that failed (`readOneOf_traced`);
* reading registers one after another is a scan that stops at the first read that got no word,
  and gives the words read or that read's error (`mapM_readWord_traced`).
-/

namespace RtuBus

namespace RegisterRead

/-- What a read of one register gives a driver: its first word, or the read's error; an answer
without a word is a short byte count. -/
def wordResult (q : RegisterRead) : Except BusError UInt16 :=
  match q.answer with
  | .ok (w :: _) => .ok w
  | .ok [] => .error (.byteCountMismatch 2 0)
  | .error e => .error e

/-- The error of a read that failed. -/
def failure? (q : RegisterRead) : Option BusError :=
  match q.answer with
  | .ok _ => none
  | .error e => some e

theorem wordResult_isOk (q : RegisterRead) : q.wordResult.isOk = q.givesWord := by
  rcases q with ⟨_, _, _, _, e | _ | ⟨w, ws⟩⟩ <;> rfl

theorem givesWord_of_ok {q : RegisterRead} {w : UInt16} (h : q.wordResult = .ok w) :
    q.givesWord = true := by
  rw [← q.wordResult_isOk, h]
  rfl

theorem givesWord_of_error {q : RegisterRead} {e : BusError} (h : q.wordResult = .error e) :
    q.givesWord = false := by
  rw [← q.wordResult_isOk, h]
  rfl

theorem wordResult_of_givesWord {q : RegisterRead} (h : q.givesWord = true) :
    ∃ w, q.wordResult = .ok w := by
  rcases q with ⟨_, _, _, _, e | _ | ⟨w, ws⟩⟩
  · cases h
  · cases h
  · exact ⟨w, rfl⟩

end RegisterRead

/-- The error of the last read of `qs` that failed, or `default` when none failed. -/
def lastFailure (qs : List RegisterRead) (default : BusError) : BusError :=
  (qs.reverse.findSome? RegisterRead.failure?).getD default

theorem lastFailure_cons (q : RegisterRead) (qs : List RegisterRead) (default : BusError) :
    lastFailure (q :: qs) default = lastFailure qs (q.failure?.getD default) := by
  simp only [lastFailure, List.reverse_cons, List.findSome?_append, List.findSome?_singleton]
  cases qs.reverse.findSome? RegisterRead.failure? <;> rfl

namespace ScanLog

variable {ks : List ReadKey} {rs : List RegisterRead}

theorem hit_eq_true {hit : RegisterRead → Bool} {q : RegisterRead}
    (h : ScanLog hit ks rs (some q)) : hit q = true :=
  List.find?_some h.find?_eq

theorem length_of_none {hit : RegisterRead → Bool} (h : ScanLog hit ks rs none) :
    rs.length = ks.length := by
  generalize hn : (none : Option RegisterRead) = n at h
  induction h with
  | done => rfl
  | found _ _ => cases hn
  | missed _ _ _ ih => simp [ih hn]

theorem getLast?_of_none {hit : RegisterRead → Bool} (h : ScanLog hit ks rs none)
    (hks : ks ≠ []) : ∃ q, rs.getLast? = some q := by
  apply Option.isSome_iff_exists.1
  rw [List.getLast?_isSome]
  intro hnil
  have hlen := h.length_of_none
  rw [hnil] at hlen
  exact hks (List.eq_nil_of_length_eq_zero hlen.symm)

/-- Reads that stop at the first one without a word, and found none, each got a word: one word
per key. -/
theorem words_of_none (h : ScanLog (fun q => !q.givesWord) ks rs none) :
    ∃ ws, rs.mapM RegisterRead.wordResult = .ok ws ∧ ws.length = ks.length := by
  generalize hn : (none : Option RegisterRead) = n at h
  induction h with
  | done => exact ⟨[], rfl, rfl⟩
  | found _ _ => cases hn
  | @missed k ks q qs r _ hq _ ih =>
    obtain ⟨w, hw⟩ := RegisterRead.wordResult_of_givesWord (by simpa using hq)
    obtain ⟨ws, hws, hlen⟩ := ih hn
    refine ⟨w :: ws, ?_, by simp [hlen]⟩
    rw [List.mapM_cons, hw, hws]
    rfl

/-- Reads that stop at the first one without a word, and stopped, give that read's error. -/
theorem error_of_some {r : RegisterRead} (h : ScanLog (fun q => !q.givesWord) ks rs (some r)) :
    ∃ e, r.wordResult = .error e ∧ rs.mapM RegisterRead.wordResult = .error e := by
  generalize hs : some r = o at h
  induction h with
  | done => cases hs
  | found _ hq =>
    cases hs
    cases hw : r.wordResult with
    | ok w => simp [RegisterRead.givesWord_of_ok hw] at hq
    | error e =>
      refine ⟨e, rfl, ?_⟩
      rw [List.mapM_cons, hw]
      rfl
  | @missed k ks q qs o _ hq _ ih =>
    obtain ⟨w, hw⟩ := RegisterRead.wordResult_of_givesWord (by simpa using hq)
    obtain ⟨e, he, hrs⟩ := ih hs
    refine ⟨e, he, ?_⟩
    rw [List.mapM_cons, hw, hrs]
    rfl

end ScanLog


section Runs

variable {β σ ε α γ : Type}

theorem exceptT_mk_bind_error {x : StateM σ (Except ε α)} {f : α → ExceptT ε (StateM σ) γ}
    {s s₁ : σ} {e : ε} (h : x.run s = (.error e, s₁)) :
    (ExceptT.mk x >>= f).run.run s = (.error e, s₁) := by
  simp only [ExceptT.run_bind, ExceptT.run_mk, StateT.run_bind, h]
  rfl

theorem exceptT_mk_bind_ok {x : StateM σ (Except ε α)} {f : α → ExceptT ε (StateM σ) γ}
    {s s₁ : σ} {a : α} (h : x.run s = (.ok a, s₁)) :
    (ExceptT.mk x >>= f).run.run s = (f a).run.run s₁ := by
  simp only [ExceptT.run_bind, ExceptT.run_mk, StateT.run_bind, h]
  rfl

theorem exceptT_bind_pure_run (y : ExceptT ε (StateM σ) α) (g : α → γ) (s : σ) :
    (y >>= fun a => pure (g a)).run.run s = ((y.run.run s).1.map g, (y.run.run s).2) := by
  rw [bind_pure_comp, ExceptT.run_map]
  rfl

end Runs

namespace Registers

variable {β : Type} (bus : Registers (StateM β))

theorem readWord_traced (slave : UInt8) (f : FunctionCode) (register : UInt16) (t : Nat)
    (l : Traced β) :
    ∃ q : RegisterRead, q.key = (slave, f, register, 1) ∧
      ((bus.traced.readWord slave f register t).run l).2.calls = l.calls ++ [.read q] ∧
      ((bus.traced.readWord slave f register t).run l).1 = q.wordResult := by
  refine ⟨⟨slave, f, register, 1, ((bus.read slave f register 1 t).run l.inner).1⟩, rfl, ?_⟩
  simp only [readWord, traced_run_bind, traced_read_run]
  rcases ((bus.read slave f register 1 t).run l.inner).1 with e | _ | ⟨w, ws⟩ <;>
    exact ⟨rfl, rfl⟩

/-- Trying one register with each function in turn is a scan that stops at the first read that
got a word, and gives that read's function and word; when no read got one, it gives the error of
the last read that failed, or `last` when none failed. -/
theorem readOneOf_traced (slave : UInt8) (register : UInt16) (t : Nat) (fs : List FunctionCode)
    (last : BusError) (l : Traced β) :
    ∃ qs hit, ScanLog RegisterRead.givesWord (fs.map fun f => (slave, f, register, 1)) qs hit ∧
      ((bus.traced.readOneOf slave register t fs last).run l).2.calls =
        l.calls ++ qs.map BusCall.read ∧
      ((bus.traced.readOneOf slave register t fs last).run l).1 =
        hit.elim (.error (lastFailure qs last)) fun q => q.wordResult.map (q.function, ·) := by
  induction fs generalizing last l with
  | nil => exact ⟨[], none, .done, (List.append_nil _).symm, rfl⟩
  | cons f rest ih =>
    simp only [readOneOf, traced_run_bind, traced_read_run]
    generalize ((bus.read slave f register 1 t).run l.inner).1 = a
    generalize ((bus.read slave f register 1 t).run l.inner).2 = b
    -- the read of `f` is passed over unless it got a word; the scan goes on from the state after it
    have hmiss : ∀ last', (⟨slave, f, register, 1, a⟩ : RegisterRead).givesWord = false →
        last' = (RegisterRead.failure? ⟨slave, f, register, 1, a⟩).getD last →
        ∃ qs hit,
          ScanLog RegisterRead.givesWord ((f :: rest).map fun f => (slave, f, register, 1))
            qs hit ∧
          ((readOneOf bus.traced slave register t rest last').run
              ⟨b, l.calls ++ [.read ⟨slave, f, register, 1, a⟩]⟩).2.calls =
            l.calls ++ qs.map BusCall.read ∧
          ((readOneOf bus.traced slave register t rest last').run
              ⟨b, l.calls ++ [.read ⟨slave, f, register, 1, a⟩]⟩).1 =
            hit.elim (.error (lastFailure qs last)) fun q => q.wordResult.map (q.function, ·) := by
      intro last' hq hlast
      obtain ⟨qs, hit, hscan, hcalls, hres⟩ :=
        ih last' ⟨b, l.calls ++ [.read ⟨slave, f, register, 1, a⟩]⟩
      refine ⟨_ :: qs, hit, .missed rfl hq hscan, ?_, ?_⟩
      · rw [hcalls, List.map_cons, List.append_assoc, List.singleton_append]
      · rw [hres, lastFailure_cons, ← hlast]
    rcases a with e | _ | ⟨w, ws⟩
    · exact hmiss e rfl rfl
    · exact hmiss last rfl rfl
    · exact ⟨[_], some _, .found rfl rfl, rfl, rfl⟩

/-- Reading registers one after another, stopping at the first failure, is a scan that stops at
the first read that got no word; its result is what those reads give, in order: their words, or
the error of the read that got none. -/
theorem mapM_readWord_traced (slave : UInt8) (f : FunctionCode) (t : Nat) (regs : List UInt16)
    (l : Traced β) :
    ∃ rs hit, ScanLog (fun q => !q.givesWord) (regs.map fun r => (slave, f, r, 1)) rs hit ∧
      ((regs.mapM fun r => (ExceptT.mk (bus.traced.readWord slave f r t) :
          ExceptT BusError (StateM (Traced β)) UInt16)).run.run l).2.calls =
        l.calls ++ rs.map BusCall.read ∧
      ((regs.mapM fun r => (ExceptT.mk (bus.traced.readWord slave f r t) :
          ExceptT BusError (StateM (Traced β)) UInt16)).run.run l).1 =
        rs.mapM RegisterRead.wordResult := by
  induction regs generalizing l with
  | nil => exact ⟨[], none, .done, (List.append_nil _).symm, rfl⟩
  | cons r rest ih =>
    obtain ⟨q, hk, hcalls, hres⟩ := bus.readWord_traced slave f r t l
    rcases hw : (bus.traced.readWord slave f r t).run l with ⟨w, l₁⟩
    rw [hw] at hcalls hres
    dsimp only at hcalls hres
    subst hres
    rw [List.mapM_cons]
    cases hq : q.wordResult with
    | error e =>
      rw [hq] at hw
      rw [exceptT_mk_bind_error hw]
      refine ⟨[q], some q, .found hk (by simp [RegisterRead.givesWord_of_error hq]), hcalls, ?_⟩
      rw [List.mapM_cons, hq]
      rfl
    | ok w =>
      rw [hq] at hw
      rw [exceptT_mk_bind_ok hw, exceptT_bind_pure_run]
      obtain ⟨rs, hit, hscan, hcalls', hres'⟩ := ih l₁
      refine ⟨q :: rs, hit, .missed hk (by simp [RegisterRead.givesWord_of_ok hq]) hscan, ?_,
        ?_⟩
      · rw [hcalls', hcalls, List.map_cons, List.append_assoc, List.singleton_append]
      · rw [hres', List.mapM_cons, hq]
        rfl

end Registers

end RtuBus
