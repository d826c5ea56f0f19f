import RtuBus.Proofs.Master.Calls

/-! # The calls a master makes on its line

A line that records every call made on it, with what the call returned, turns what a master
does on the line into a list. The calls come in blocks, each from the initialized flag before it
to the one after: opening the line (`Opening`), closing it (`Closing`), and one transaction
(`Exchange`). The blocks of `init`, `deinit` and `transact` are read off their runs once here;
the operations built from them are sequences of blocks (`Blocks`), so a property of the blocks is
a property of every run, whatever the line answers.
-/

namespace RtuBus

/-- A call made on a line, with what the line returned. -/
inductive LineCall where
  | connect (r : Except IoKind Unit)
  | disconnect (r : Except IoKind Unit)
  | setTransmit (on : Bool) (r : Except IoKind Unit)
  | send (frame : Bytes) (timeout : Nat) (r : Except IoKind Unit)
  | receive (maxLen timeout : Nat) (r : Except IoKind Bytes)

/-- A line's state with the calls made on it so far, oldest first. -/
structure Recorded (σ : Type) where
  inner : σ
  calls : List LineCall := []

namespace Recorded

variable {σ α : Type}

def record (x : StateM σ α) (entry : α → LineCall) : StateM (Recorded σ) α :=
  modifyGet fun s => let r := x.run s.inner; (r.1, ⟨r.2, s.calls ++ [entry r.1]⟩)

theorem record_calls {x : StateM σ α} {entry : α → LineCall} {s s' : Recorded σ} {a : α}
    (h : (record x entry).run s = (a, s')) : s'.calls = s.calls ++ [entry a] := by
  change ((x.run s.inner).1, (⟨(x.run s.inner).2, s.calls ++ [entry (x.run s.inner).1]⟩ :
    Recorded σ)) = (a, s') at h
  injection h with ha hs
  rw [← hs, ← ha]

end Recorded

/-- The line that records every call made on `L`. -/
def Line.recorded {σ : Type} (L : Line σ) : Line (Recorded σ) where
  connect := Recorded.record L.connect .connect
  disconnect := Recorded.record L.disconnect .disconnect
  setTransmit on := Recorded.record (L.setTransmit on) (.setTransmit on)
  send frame t := Recorded.record (L.send frame t) (.send frame t)
  receive n t := Recorded.record (L.receive n t) (.receive n t)

/-- The frames sent in a list of calls, in order. -/
def sentFrames (cs : List LineCall) : List Bytes :=
  cs.filterMap fun
    | .send frame _ _ => some frame
    | _ => none

@[simp] theorem sentFrames_append (xs ys : List LineCall) :
    sentFrames (xs ++ ys) = sentFrames xs ++ sentFrames ys :=
  List.filterMap_append

/-- The bytes of a request frame that could be built, as a list of at most one. -/
def framesOf : Except BusError RequestFrame → List Bytes
  | .ok frame => [frame.toBytes]
  | .error _ => []

/-! ## Positions in a list of calls -/

section Positions

variable {α : Type} {xs ys : List α} {i : Nat} {c : α}

theorem getElem?_append_cases (h : (xs ++ ys)[i]? = some c) :
    xs[i]? = some c ∨ ∃ k, i = xs.length + k ∧ ys[k]? = some c := by
  by_cases hi : i < xs.length
  · exact .inl (by rwa [List.getElem?_append_left hi] at h)
  · refine .inr ⟨i - xs.length, by omega, ?_⟩
    rwa [List.getElem?_append_right (by omega)] at h

theorem getElem?_append_of_left (h : xs[i]? = some c) : (xs ++ ys)[i]? = some c := by
  rw [List.getElem?_append_left (List.getElem?_eq_some_iff.mp h).1]
  exact h

theorem getElem?_append_of_right (h : ys[i]? = some c) : (xs ++ ys)[xs.length + i]? = some c := by
  rw [List.getElem?_append_right (by omega), Nat.add_sub_cancel_left]
  exact h

end Positions

/-! ## Blocks -/

/-- The calls of `init` from a master initialized or not, with the flag after and the result. -/
inductive Opening : Bool → List LineCall → Bool → Except BusError Unit → Prop
  | already : Opening true [] true (.ok ())
  | refused (k : IoKind) : Opening false [.connect (.error k)] false (.error (.transport k))
  /-- The line opens and is switched to receive; the master is initialized when the switch
  succeeded. -/
  | opened (r : Except IoKind Unit) :
    Opening false [.connect (.ok ()), .setTransmit false r] r.isOk (r.mapError .transport)

/-- The calls of `deinit` from a master initialized or not, with the result; the master is not
initialized after. -/
inductive Closing : Bool → List LineCall → Except BusError Unit → Prop
  | idle : Closing false [] (.ok ())
  | closed (r : Except IoKind Unit) : Closing true [.disconnect r] (r.mapError .transport)

/-- The calls of a transaction sending `frame` and receiving at most `maxLen` bytes, from a
master initialized or not, with the result. -/
inductive Exchange (frame : Bytes) (maxLen timeout : Nat) :
    Bool → List LineCall → Except BusError Bytes → Prop
  | refused : Exchange frame maxLen timeout false [] (.error .notInitialized)
  | assertFailed (k : IoKind) :
    Exchange frame maxLen timeout true [.setTransmit true (.error k)] (.error (.transport k))
  /-- Sending fails; the line is switched back all the same. -/
  | sendFailed (k : IoKind) (r : Except IoKind Unit) :
    Exchange frame maxLen timeout true
      [.setTransmit true (.ok ()), .send frame timeout (.error k), .setTransmit false r]
      (.error (.transport k))
  /-- The frame is sent, and switching back fails. -/
  | releaseFailed (k : IoKind) :
    Exchange frame maxLen timeout true
      [.setTransmit true (.ok ()), .send frame timeout (.ok ()), .setTransmit false (.error k)]
      (.error (.transport k))
  | received (r : Except IoKind Bytes) :
    Exchange frame maxLen timeout true
      [.setTransmit true (.ok ()), .send frame timeout (.ok ()), .setTransmit false (.ok ()),
        .receive maxLen timeout r]
      (Master.response r)

namespace Opening

variable {b b' : Bool} {cs : List LineCall} {r : Except BusError Unit}

theorem sentFrames_eq (h : Opening b cs b' r) : sentFrames cs = [] := by
  cases h <;> rfl

theorem isValidation_of_error (h : Opening b cs b' r) : ∀ e, r = .error e → e.isValidation := by
  intro e he
  cases h with
  | already => cases he
  | refused k => cases he; rfl
  | opened r =>
    cases r with
    | ok u => cases he
    | error k => cases he; rfl

theorem failed (h : Opening b cs b' r) {e : BusError} (hr : r = .error e) :
    b = false ∧ b' = false ∧
      ((∃ k, cs = [.connect (.error k)]) ∨ ∃ k, cs = [.connect (.ok ()), .setTransmit false (.error k)]) := by
  cases h with
  | already => cases hr
  | refused k => exact ⟨rfl, rfl, .inl ⟨k, rfl⟩⟩
  | opened r =>
    cases r with
    | ok u => cases hr
    | error k => exact ⟨rfl, rfl, .inr ⟨k, rfl⟩⟩

theorem succeeded (h : Opening b cs b' r) (hr : r = .ok ()) :
    b' = true ∧ ((b = true ∧ cs = []) ∨
      (b = false ∧ cs = [.connect (.ok ()), .setTransmit false (.ok ())])) := by
  cases h with
  | already => exact ⟨rfl, .inl ⟨rfl, rfl⟩⟩
  | refused k => cases hr
  | opened r =>
    cases r with
    | ok u => exact ⟨rfl, .inr ⟨rfl, rfl⟩⟩
    | error k => cases hr

end Opening

namespace Closing

variable {b : Bool} {cs : List LineCall} {r : Except BusError Unit}

theorem sentFrames_eq (h : Closing b cs r) : sentFrames cs = [] := by
  cases h <;> rfl

theorem isValidation_of_error (h : Closing b cs r) : ∀ e, r = .error e → e.isValidation := by
  intro e he
  cases h with
  | idle => cases he
  | closed r =>
    cases r with
    | ok u => cases he
    | error k => cases he; rfl

theorem of_initialized (h : Closing true cs r) : ∃ r', cs = [.disconnect r'] := by
  cases h with
  | closed r' => exact ⟨r', rfl⟩

end Closing

namespace Exchange

variable {frame : Bytes} {n t : Nat} {b : Bool} {cs : List LineCall} {r : Except BusError Bytes}

theorem sent (h : Exchange frame n t b cs r) : (sentFrames cs).Sublist [frame] := by
  cases h <;> simp [sentFrames]

/-- A transaction fails because the master is not initialized, having made no call, or with an
error found while waiting for the response. -/
theorem error_cases (h : Exchange frame n t b cs r) :
    ∀ e, r = .error e → (e = .notInitialized ∧ cs = []) ∨ e.isValidation := by
  intro e he
  cases h with
  | refused => cases he; exact .inl ⟨rfl, rfl⟩
  | assertFailed k | sendFailed k _ | releaseFailed k => cases he; exact .inr rfl
  | received r =>
    -- nothing received, or nothing at all, is a timeout
    right
    cases r with
    | error k => cases he; rfl
    | ok bytes =>
      cases bytes with
      | nil => cases he; rfl
      | cons x xs => cases he

end Exchange

/-- The calls of a master, block by block, from the initialized flag before them to the one
after; the response length of every transaction satisfies `len`. -/
inductive Blocks (len : Nat → Prop) : Bool → List LineCall → Bool → Prop
  | nil (b : Bool) : Blocks len b [] b
  | opening {b b' b'' : Bool} {cs rest : List LineCall} {r : Except BusError Unit} :
    Opening b cs b' r → Blocks len b' rest b'' → Blocks len b (cs ++ rest) b''
  | closing {b b'' : Bool} {cs rest : List LineCall} {r : Except BusError Unit} :
    Closing b cs r → Blocks len false rest b'' → Blocks len b (cs ++ rest) b''
  | exchange {frame : Bytes} {n t : Nat} {b b'' : Bool} {cs rest : List LineCall}
    {r : Except BusError Bytes} :
    Exchange frame n t b cs r → len n → Blocks len b rest b'' → Blocks len b (cs ++ rest) b''

namespace Blocks

variable {len len' : Nat → Prop} {b b' b'' : Bool} {cs xs ys : List LineCall}

theorem append (hx : Blocks len b xs b') (hy : Blocks len b' ys b'') :
    Blocks len b (xs ++ ys) b'' := by
  induction hx with
  | nil => exact hy
  | opening ho _ ih => rw [List.append_assoc]; exact .opening ho (ih hy)
  | closing hc _ ih => rw [List.append_assoc]; exact .closing hc (ih hy)
  | exchange he hn _ ih => rw [List.append_assoc]; exact .exchange he hn (ih hy)

theorem mono (h : ∀ n, len n → len' n) (hb : Blocks len b cs b') : Blocks len' b cs b' := by
  induction hb with
  | nil => exact .nil _
  | opening ho _ ih => exact .opening ho ih
  | closing hc _ ih => exact .closing hc ih
  | exchange he hn _ ih => exact .exchange he (h _ hn) ih

theorem of_opening {r : Except BusError Unit} (h : Opening b cs b' r) : Blocks len b cs b' :=
  List.append_nil cs ▸ .opening h (.nil b')

theorem of_closing {r : Except BusError Unit} (h : Closing b cs r) : Blocks len b cs false :=
  List.append_nil cs ▸ .closing h (.nil false)

theorem of_exchange {frame : Bytes} {n t : Nat} {r : Except BusError Bytes}
    (h : Exchange frame n t b cs r) (hn : len n) : Blocks len b cs b :=
  List.append_nil cs ▸ .exchange h hn (.nil b)

end Blocks

/-! ## Errors found after sending

A response is checked only after a frame went out; every failure of those checks is one found
while checking a response, never a refused argument or a master that is not initialized.
-/

theorem exceptOk_bind {ε α β : Type} (a : α) (g : α → Except ε β) :
    (Except.ok a >>= g) = g a :=
  rfl

theorem exceptError_bind {ε α β : Type} (e : ε) (g : α → Except ε β) :
    (Except.error e >>= g) = .error e :=
  rfl

theorem exceptMap_eq_error {ε α β : Type} {g : α → β} {r : Except ε α} {e : ε}
    (h : r.map g = .error e) : r = .error e := by
  cases r with
  | error e' => cases h; rfl
  | ok a => cases h

theorem verifyCrc_isValidation {adu : Bytes} {e : BusError} (h : verifyCrc adu = .error e) :
    e.isValidation := by
  unfold verifyCrc at h
  split at h
  · cases h; rfl
  · dsimp only at h
    split at h
    · split at h
      · cases h
      · cases h; rfl
    · cases h; rfl

theorem parseReadResponse_isValidation {adu : Bytes} {slave : UInt8} {f : FunctionCode}
    {count : UInt16} {e : BusError} (hc : isReadCount count = true)
    (h : parseReadResponse adu slave f count = .error e) : e.isValidation := by
  unfold parseReadResponse at h
  simp only [hc, Bool.not_true, Bool.false_eq_true, ↓reduceIte] at h
  split at h
  · split at h <;> cases h <;> rfl
  · cases hv : verifyCrc adu with
    | error e' =>
      rw [hv, exceptError_bind] at h
      cases h
      exact verifyCrc_isValidation hv
    | ok u =>
      rw [hv, exceptOk_bind] at h
      split at h
      · repeat' split at h
        all_goals first | (cases h; rfl) | cases h
      · cases h; rfl

theorem parseWriteSingleResponse_isValidation {adu : Bytes} {request : RequestFrame}
    {e : BusError} (h : parseWriteSingleResponse adu request = .error e) : e.isValidation := by
  unfold parseWriteSingleResponse at h
  dsimp only at h
  split at h
  · split at h <;> cases h <;> rfl
  · cases hv : verifyCrc adu with
    | error e' =>
      rw [hv, exceptError_bind] at h
      cases h
      exact verifyCrc_isValidation hv
    | ok u =>
      rw [hv, exceptOk_bind] at h
      split at h
      · repeat' split at h
        all_goals first | (cases h; rfl) | cases h
      · cases h; rfl

/-- A read request is built exactly when the function reads registers, the slave is unicast and
the count is one a read may ask for. -/
theorem buildReadRequest?_eq (slave : UInt8) (f : FunctionCode) (start count : UInt16) :
    buildReadRequest? slave f start count =
      if (f = .readHolding ∨ f = .readInput) ∧ isUnicast slave ∧ isReadCount count then
        .ok (RequestFrame.ofHeader slave f.value start count)
      else .error .invalidArgument := by
  have hb : buildReadRequest? slave f start count =
      (Request.read? f start count).bind (·.encode? slave) := rfl
  rw [hb]
  by_cases h₃ : f = .readHolding
  · subst h₃
    rw [show Request.read? .readHolding start count = .ok (.readHolding start count) from rfl,
      Master.bind_ok_eq]
    cases hs : isUnicast slave <;> cases hc : isReadCount count <;>
      simp [Request.encode?, Request.function, Request.start, hs, hc]
  · by_cases h₄ : f = .readInput
    · subst h₄
      rw [show Request.read? .readInput start count = .ok (.readInput start count) from rfl,
        Master.bind_ok_eq]
      cases hs : isUnicast slave <;> cases hc : isReadCount count <;>
        simp [Request.encode?, Request.function, Request.start, hs, hc]
    · simp [Request.read?, h₃, h₄]
      rfl

theorem buildWriteSingle?_error {slave : UInt8} {register value : UInt16} {e : BusError}
    (h : buildWriteSingle? slave register value = .error e) : e = .invalidArgument := by
  unfold buildWriteSingle? Request.encode? at h
  split at h
  · cases h; rfl
  · cases h

namespace Master

variable {σ : Type} (L : Line σ)

/-! ## The blocks of `init`, `deinit` and `transact` -/

theorem init_recorded (m : Master (Recorded σ)) :
    ∃ cs, Opening m.initialized cs ((init L.recorded).run.run m).2.initialized
        ((init L.recorded).run.run m).1 ∧
      ((init L.recorded).run.run m).2.line.calls = m.line.calls ++ cs := by
  rcases init_cases L.recorded m with ⟨hi, h⟩ | ⟨hi, k, l₁, h₁, h⟩ |
    ⟨hi, l₁, r, l₂, h₁, h₂, h⟩ <;> rw [h, hi]
  · exact ⟨[], .already, (List.append_nil _).symm⟩
  · exact ⟨_, .refused k, Recorded.record_calls h₁⟩
  · refine ⟨_, .opened r, ?_⟩
    rw [Recorded.record_calls h₂, Recorded.record_calls h₁, List.append_assoc]
    rfl

theorem deinit_recorded (m : Master (Recorded σ)) :
    ∃ cs, Closing m.initialized cs ((deinit L.recorded).run.run m).1 ∧
      ((deinit L.recorded).run.run m).2.line.calls = m.line.calls ++ cs ∧
      ((deinit L.recorded).run.run m).2.initialized = false := by
  rw [deinit_run]
  cases hi : m.initialized with
  | false => exact ⟨[], .idle, (List.append_nil _).symm, hi⟩
  | true =>
    rcases h : L.recorded.disconnect.run m.line with ⟨r, l⟩
    exact ⟨_, .closed r, Recorded.record_calls h, rfl⟩

theorem transact_recorded (frame : RequestFrame) (n t : Nat) (m : Master (Recorded σ)) :
    ∃ cs, Exchange frame.toBytes n t m.initialized cs
        ((transact L.recorded frame n t).run.run m).1 ∧
      ((transact L.recorded frame n t).run.run m).2.line.calls = m.line.calls ++ cs ∧
      ((transact L.recorded frame n t).run.run m).2.initialized = m.initialized := by
  rcases transact_cases L.recorded frame n t m with ⟨hi, h⟩ | ⟨hi, k, l₁, h₁, h⟩ |
    ⟨hi, l₁, sent, l₂, released, l₃, k, h₁, h₂, h₃, hk, h⟩ |
    ⟨hi, l₁, l₂, l₃, received, l₄, h₁, h₂, h₃, h₄, h⟩ <;> rw [h, hi]
  · exact ⟨[], .refused, (List.append_nil _).symm, rfl⟩
  · exact ⟨_, .assertFailed k, Recorded.record_calls h₁, rfl⟩
  · have hcalls : l₃.calls = m.line.calls ++
        [.setTransmit true (.ok ()), .send frame.toBytes t sent, .setTransmit false released] := by
      rw [Recorded.record_calls h₃, Recorded.record_calls h₂, Recorded.record_calls h₁]
      simp
    rcases hk with rfl | ⟨rfl, rfl⟩
    · exact ⟨_, .sendFailed k released, hcalls, rfl⟩
    · exact ⟨_, .releaseFailed k, hcalls, rfl⟩
  · refine ⟨_, .received received, ?_, rfl⟩
    rw [Recorded.record_calls h₄, Recorded.record_calls h₃, Recorded.record_calls h₂,
      Recorded.record_calls h₁]
    simp

/-! ## Traces of programs -/

/-- What a program did on the recorded line, from master `m` to `m'`: it added the calls `cs`,
which are blocks from `m`'s initialized flag to `m'`'s whose transactions expect a length that
`len` allows, and it sent at most the frames `frames`, in their order. -/
structure Trace (len : Nat → Prop) (frames : List Bytes) (m m' : Master (Recorded σ))
    (cs : List LineCall) : Prop where
  calls_eq : m'.line.calls = m.line.calls ++ cs
  blocks : Blocks len m.initialized cs m'.initialized
  sent : (sentFrames cs).Sublist frames

namespace Trace

variable {len : Nat → Prop} {frames frames₁ frames₂ : List Bytes}
  {m m₁ m₂ : Master (Recorded σ)} {cs cs₁ cs₂ : List LineCall}

theorem refl (m : Master (Recorded σ)) : Trace len frames m m [] :=
  ⟨(List.append_nil _).symm, .nil _, List.nil_sublist _⟩

theorem trans (h₁ : Trace len frames₁ m m₁ cs₁) (h₂ : Trace len frames₂ m₁ m₂ cs₂) :
    Trace len (frames₁ ++ frames₂) m m₂ (cs₁ ++ cs₂) where
  calls_eq := by rw [h₂.calls_eq, h₁.calls_eq, List.append_assoc]
  blocks := h₁.blocks.append h₂.blocks
  sent := by
    rw [sentFrames_append]
    exact h₁.sent.append h₂.sent

theorem weaken (h : Trace len frames₁ m m₁ cs) (hf : frames₁.Sublist frames₂) :
    Trace len frames₂ m m₁ cs :=
  ⟨h.calls_eq, h.blocks, h.sent.trans hf⟩

theorem setHints (h : Trace len frames m m₁ cs) (hints : HintCache) :
    Trace len frames m { m₁ with hints := hints } cs :=
  ⟨h.calls_eq, h.blocks, h.sent⟩

end Trace

theorem init_trace {len : Nat → Prop} (m : Master (Recorded σ)) :
    ∃ cs, Trace len [] m ((init L.recorded).run.run m).2 cs ∧
      Opening m.initialized cs ((init L.recorded).run.run m).2.initialized
        ((init L.recorded).run.run m).1 := by
  obtain ⟨cs, ho, hcalls⟩ := init_recorded L m
  exact ⟨cs, ⟨hcalls, .of_opening ho, ho.sentFrames_eq ▸ .slnil⟩, ho⟩

/-- The errors of an operation whose request was valid: the master was not initialized, and no
call was made, or the error was found while waiting for or checking the response. -/
def Checked (r : Except BusError α) (cs : List LineCall) : Prop :=
  ∀ e, r = .error e → (e = .notInitialized ∧ cs = []) ∨ e.isValidation

/-- A read makes at most one transaction, with the frame of its request, and none when the
request cannot be built, which is then its error. -/
theorem read_recorded (slave : UInt8) (f : FunctionCode) (start count : UInt16) (t : Nat)
    (m : Master (Recorded σ)) :
    ∃ cs, Trace (· = 5 + count.toNat * 2) (framesOf (buildReadRequest? slave f start count)) m
        ((read L.recorded slave f start count t).run.run m).2 cs ∧
      (framesOf (buildReadRequest? slave f start count) = [] →
        ((read L.recorded slave f start count t).run.run m).1 = .error .invalidArgument ∧
          cs = []) ∧
      (framesOf (buildReadRequest? slave f start count) ≠ [] →
        Checked ((read L.recorded slave f start count t).run.run m).1 cs) := by
  rw [read_run]
  cases hb : buildReadRequest? slave f start count with
  | error e =>
    have he : e = .invalidArgument := by
      rw [buildReadRequest?_eq] at hb
      split at hb <;> cases hb
      rfl
    refine ⟨[], .refl m, fun _ => ⟨by rw [he], rfl⟩, fun h => absurd rfl h⟩
  | ok frame =>
    have hcount : isReadCount count = true := by
      rw [buildReadRequest?_eq] at hb
      split at hb
      · rename_i hvalid
        exact hvalid.2.2
      · cases hb
    dsimp only
    obtain ⟨cs, hx, hcalls, hinit⟩ := transact_recorded L frame (5 + count.toNat * 2) t m
    refine ⟨cs, ⟨hcalls, by rw [hinit]; exact .of_exchange hx rfl, hx.sent⟩, fun h => (by cases h), fun _ e he => ?_⟩
    rcases hr : ((transact L.recorded frame (5 + count.toNat * 2) t).run.run m).1 with
      e' | response
    · rw [hr] at he hx
      cases he
      exact hx.error_cases e rfl
    · rw [hr] at he
      exact .inr (parseReadResponse_isValidation hcount he)

/-- A write makes at most one transaction, with the frame of its request, and none when the
request cannot be built, which is then its error. -/
theorem writeSingle_recorded (slave : UInt8) (register value : UInt16) (t : Nat)
    (m : Master (Recorded σ)) :
    ∃ cs, Trace (· = 8) (framesOf (buildWriteSingle? slave register value)) m
        ((writeSingle L.recorded slave register value t).run.run m).2 cs ∧
      (framesOf (buildWriteSingle? slave register value) = [] →
        ((writeSingle L.recorded slave register value t).run.run m).1 =
          .error .invalidArgument ∧ cs = []) ∧
      (framesOf (buildWriteSingle? slave register value) ≠ [] →
        Checked ((writeSingle L.recorded slave register value t).run.run m).1 cs) := by
  rw [writeSingle_run]
  cases hb : buildWriteSingle? slave register value with
  | error e =>
    refine ⟨[], .refl m, fun _ => ⟨by rw [buildWriteSingle?_error hb], rfl⟩, fun h => absurd rfl h⟩
  | ok frame =>
    dsimp only
    obtain ⟨cs, hx, hcalls, hinit⟩ := transact_recorded L frame 8 t m
    refine ⟨cs, ⟨hcalls, by rw [hinit]; exact .of_exchange hx rfl, hx.sent⟩, fun h => (by cases h), fun _ e he => ?_⟩
    rcases hr : ((transact L.recorded frame 8 t).run.run m).1 with e' | response
    · rw [hr] at he hx
      cases he
      exact hx.error_cases e rfl
    · rw [hr] at he
      exact .inr (parseWriteSingleResponse_isValidation he)

theorem Checked.of_transfer {β : Type} {r : Except BusError β} {cs : List LineCall}
    {frames : List Bytes} (hbad : frames = [] → r = .error .invalidArgument ∧ cs = [])
    (hgood : frames ≠ [] → Checked r cs) :
    (r = .error .invalidArgument → cs = []) ∧ (r = .error .notInitialized → cs = []) := by
  by_cases hf : frames = []
  · exact ⟨fun _ => (hbad hf).2, fun _ => (hbad hf).2⟩
  · refine ⟨fun he => ?_, fun he => ?_⟩ <;> rcases hgood hf _ he with ⟨h, hcs⟩ | h
    · cases h
    · cases h
    · exact hcs
    · cases h

/-! ## Pings -/

/-- The frames a list of ping candidates may send, in order: one for each candidate whose
request can be built. -/
def candidateFrames (slave : UInt8) (cands : List (FunctionCode × UInt16)) : List Bytes :=
  cands.flatMap fun c => framesOf (buildReadRequest? slave c.1 c.2 1)

/-- A ping candidate sends at most its frame, once, also when the master is initialized on the
way; with a valid request it does not fail with a refused argument. -/
theorem attempt_recorded (slave : UInt8) (t : Nat) (f : FunctionCode) (register : UInt16)
    (may : Bool) (m : Master (Recorded σ)) :
    ∃ cs, Trace (· = 7) (framesOf (buildReadRequest? slave f register 1)) m
        ((attempt L.recorded slave t f register may).run m).2 cs ∧
      (framesOf (buildReadRequest? slave f register 1) ≠ [] →
        ((attempt L.recorded slave t f register may).run m).1.1 ≠ .error .invalidArgument) := by
  have h7 : 5 + (1 : UInt16).toNat * 2 = 7 := rfl
  obtain ⟨cs₁, h₁, hbad₁, hgood₁⟩ := read_recorded L slave f register 1 t m
  rw [h7] at h₁
  rcases attempt_cases L.recorded slave t f register may m with ⟨hfirst, -, h⟩ | ⟨-, h⟩ <;>
    rw [h]
  · have hvalid : framesOf (buildReadRequest? slave f register 1) ≠ [] := by
      intro hnil
      rw [(hbad₁ hnil).1] at hfirst
      cases hfirst
    have hcs₁ : cs₁ = [] := by
      rcases hgood₁ hvalid _ hfirst with ⟨-, h⟩ | h
      · exact h
      · cases h
    subst hcs₁
    have h₁' : Trace (· = 7) [] m ((read L.recorded slave f register 1 t).run.run m).2 [] :=
      ⟨h₁.calls_eq, h₁.blocks, .slnil⟩
    obtain ⟨cs₂, h₂, ho⟩ :=
      @init_trace σ L (· = 7) ((read L.recorded slave f register 1 t).run.run m).2
    rw [run_bind]
    rcases hi : (init L.recorded).run.run ((read L.recorded slave f register 1 t).run.run m).2
      with ⟨ri, m₂⟩
    rw [hi] at h₂ ho
    cases ri with
    | error e =>
      have h₁₂ := (h₁'.trans h₂).weaken (List.nil_sublist
        (framesOf (buildReadRequest? slave f register 1)))
      refine ⟨cs₂, (by simpa only [List.nil_append] using h₁₂), fun _ he => ?_⟩
      cases he
      cases ho.isValidation_of_error _ rfl
    | ok u =>
      obtain ⟨cs₃, h₃, -, hgood₃⟩ := read_recorded L slave f register 1 t m₂
      rw [h7] at h₃
      have h₁₂₃ := (h₁'.trans h₂).trans h₃
      refine ⟨cs₂ ++ cs₃, (by simpa only [List.nil_append] using h₁₂₃), fun _ he => ?_⟩
      rcases hgood₃ hvalid _ he with ⟨h, -⟩ | h <;> cases h
  · refine ⟨cs₁, h₁, fun hvalid he => ?_⟩
    rcases hgood₁ hvalid _ he with ⟨h, -⟩ | h <;> cases h

/-- Trying candidates sends at most one frame per candidate, in their order; when the last
candidate has a valid request, or there is none and the error to return is not a refused
argument, no refused argument is returned. -/
theorem tryCandidates_recorded (slave : UInt8) (t : Nat) (cands : List (FunctionCode × UInt16))
    (may : Bool) (last : BusError) (m : Master (Recorded σ)) :
    ∃ cs, Trace (· = 7) (candidateFrames slave cands) m
        ((tryCandidates L.recorded slave t cands may last).run m).2 cs ∧
      ((cands = [] → last ≠ .invalidArgument) →
        (∀ c, cands.getLast? = some c → framesOf (buildReadRequest? slave c.1 c.2 1) ≠ []) →
        ((tryCandidates L.recorded slave t cands may last).run m).1.1 ≠
          .error .invalidArgument) := by
  induction cands generalizing may last m with
  | nil => exact ⟨[], .refl m, fun hlast _ he => hlast rfl (Except.error.inj he)⟩
  | cons c rest ih =>
    obtain ⟨f, register⟩ := c
    obtain ⟨cs₁, h₁, hvalid₁⟩ := attempt_recorded L slave t f register may m
    rw [tryCandidates_cons, StateT.run_bind]
    rcases hatt : (attempt L.recorded slave t f register may).run m with
      ⟨⟨result, may'⟩, m₁⟩
    rw [hatt] at h₁ hvalid₁
    cases result with
    | ok ws =>
      exact ⟨cs₁, (h₁.setHints _).weaken (List.sublist_append_left _ _), fun _ _ he => by
        cases he⟩
    | error e =>
      obtain ⟨cs₂, h₂, hinv⟩ := ih may' e m₁
      refine ⟨cs₁ ++ cs₂, h₁.trans h₂, fun _ hlastc => hinv (fun hnil => ?_) (fun c hc => ?_)⟩
      · subst hnil
        exact fun he => hvalid₁ (hlastc _ rfl) (congrArg Except.error he)
      · exact hlastc c (by simp [List.getLast?_cons, hc])

/-- A ping sends at most one frame per candidate, in their order, and is refused only before
any call. -/
theorem ping_recorded (slave : UInt8) (t : Nat) (m : Master (Recorded σ)) :
    ∃ cs, Trace (· = 7) (candidateFrames slave (pingCandidates m.hints slave)) m
        ((ping L.recorded slave t).run.run m).2 cs ∧
      (((ping L.recorded slave t).run.run m).1 = .error .invalidArgument → cs = []) := by
  rw [ping_run]
  cases hs : isUnicast slave with
  | false => exact ⟨[], .refl m, fun _ => rfl⟩
  | true =>
    rw [if_pos rfl]
    dsimp only
    obtain ⟨cs, h, hinv⟩ :=
      tryCandidates_recorded L slave t (pingCandidates m.hints slave) true .timeout m
    refine ⟨cs, h, fun he => absurd (exceptMap_eq_error he) (hinv (fun _ => by decide) ?_)⟩
    -- the last candidate is the last fallback one, which a unicast slave accepts
    intro c hc
    rw [pingCandidates, List.getLast?_append] at hc
    cases hc
    rw [buildReadRequest?_eq, if_pos ⟨.inl rfl, hs, by decide⟩]
    exact List.cons_ne_nil _ _

/-! ## Operations -/

/-- The length of the response each transaction of an operation waits for: the complete response
to a read of `count` registers, the echo of a write, and a one-register read for each ping
candidate. -/
def Op.responseLen : Op → Nat
  | .init | .deinit => 0
  | .read _ _ _ count _ | .readHolding _ _ count _ | .readInput _ _ count _ =>
    5 + count.toNat * 2
  | .writeSingle .. => 8
  | .ping .. => 7

/-- The frames an operation may send, in the order it may send them, given the functions the
master remembers: the frame of a read or write request that can be built, and one frame per
ping candidate. -/
def Op.frames (hints : HintCache) : Op → List Bytes
  | .init | .deinit => []
  | .read s f a n _ => framesOf (buildReadRequest? s f a n)
  | .readHolding s a n _ => framesOf (buildReadRequest? s .readHolding a n)
  | .readInput s a n _ => framesOf (buildReadRequest? s .readInput a n)
  | .writeSingle s r v _ => framesOf (buildWriteSingle? s r v)
  | .ping s _ => candidateFrames s (pingCandidates hints s)

def Op.isTransfer : Op → Bool
  | .read .. | .readHolding .. | .readInput .. | .writeSingle .. => true
  | .init | .deinit | .ping .. => false

theorem Op.recorded_of_map {β : Type} (op : Op) (g : β → Reply) (x : MasterM (Recorded σ) β)
    (m : Master (Recorded σ)) (hop : op.run L.recorded = g <$> x)
    (h : ∃ cs, Trace (· = op.responseLen) (op.frames m.hints) m (x.run.run m).2 cs ∧
      ((x.run.run m).1 = .error .invalidArgument → cs = []) ∧
      (op.isTransfer = true → (x.run.run m).1 = .error .notInitialized → cs = [])) :
    ∃ cs, Trace (· = op.responseLen) (op.frames m.hints) m ((op.run L.recorded).run.run m).2 cs ∧
      (((op.run L.recorded).run.run m).1 = .error .invalidArgument → cs = []) ∧
      (op.isTransfer = true → ((op.run L.recorded).run.run m).1 = .error .notInitialized →
        cs = []) := by
  rw [hop, map_run]
  obtain ⟨cs, ht, hinvalid, hnot⟩ := h
  exact ⟨cs, ht, fun he => hinvalid (exceptMap_eq_error he),
    fun hop he => hnot hop (exceptMap_eq_error he)⟩

/-- What every operation does on the recorded line: its calls are blocks whose transactions wait
for the operation's response length; it sends at most its frames, in their order; a refused
argument makes no call; and a read or write that finds the master not initialized makes no
call. -/
theorem Op.recorded (op : Op) (m : Master (Recorded σ)) :
    ∃ cs, Trace (· = op.responseLen) (op.frames m.hints) m ((op.run L.recorded).run.run m).2 cs ∧
      (((op.run L.recorded).run.run m).1 = .error .invalidArgument → cs = []) ∧
      (op.isTransfer = true → ((op.run L.recorded).run.run m).1 = .error .notInitialized →
        cs = []) := by
  cases op with
  | init =>
    refine Op.recorded_of_map L .init _ (Master.init L.recorded) m rfl ?_
    obtain ⟨cs, h, ho⟩ := init_trace L m
    exact ⟨cs, h, fun he => (by cases ho.isValidation_of_error _ he), fun h => (by cases h)⟩
  | deinit =>
    refine Op.recorded_of_map L .deinit _ (Master.deinit L.recorded) m rfl ?_
    obtain ⟨cs, hc, hcalls, hinit⟩ := deinit_recorded L m
    refine ⟨cs, ⟨hcalls, by rw [hinit]; exact .of_closing hc, hc.sentFrames_eq ▸ .slnil⟩,
      fun he => (by cases hc.isValidation_of_error _ he), fun h => (by cases h)⟩
  | read s f a n t =>
    refine Op.recorded_of_map L (.read s f a n t) _ (Master.read L.recorded s f a n t) m rfl ?_
    obtain ⟨cs, h, hbad, hgood⟩ := read_recorded L s f a n t m
    exact ⟨cs, h, (Checked.of_transfer hbad hgood).1, fun _ => (Checked.of_transfer hbad hgood).2⟩
  | readHolding s a n t =>
    refine Op.recorded_of_map L (.readHolding s a n t) _
      (Master.read L.recorded s FunctionCode.readHolding a n t) m rfl ?_
    obtain ⟨cs, h, hbad, hgood⟩ := read_recorded L s FunctionCode.readHolding a n t m
    exact ⟨cs, h, (Checked.of_transfer hbad hgood).1, fun _ => (Checked.of_transfer hbad hgood).2⟩
  | readInput s a n t =>
    refine Op.recorded_of_map L (.readInput s a n t) _
      (Master.read L.recorded s FunctionCode.readInput a n t) m rfl ?_
    obtain ⟨cs, h, hbad, hgood⟩ := read_recorded L s FunctionCode.readInput a n t m
    exact ⟨cs, h, (Checked.of_transfer hbad hgood).1, fun _ => (Checked.of_transfer hbad hgood).2⟩
  | writeSingle s r v t =>
    refine Op.recorded_of_map L (.writeSingle s r v t) _
      (Master.writeSingle L.recorded s r v t) m rfl ?_
    obtain ⟨cs, h, hbad, hgood⟩ := writeSingle_recorded L s r v t m
    exact ⟨cs, h, (Checked.of_transfer hbad hgood).1, fun _ => (Checked.of_transfer hbad hgood).2⟩
  | ping s t =>
    refine Op.recorded_of_map L (.ping s t) _ (Master.ping L.recorded s t) m rfl ?_
    obtain ⟨cs, h, hinvalid⟩ := ping_recorded L s t m
    exact ⟨cs, h, hinvalid, fun h => (by cases h)⟩

/-- The calls of every run of operations are blocks, from the initialized flag before the run to
the one after. -/
theorem runOps_blocks (ops : List Op) (m : Master (Recorded σ)) :
    ∃ cs, ((runOps L.recorded ops).run m).2.line.calls = m.line.calls ++ cs ∧
      Blocks (fun _ => True) m.initialized cs ((runOps L.recorded ops).run m).2.initialized := by
  induction ops generalizing m with
  | nil => exact ⟨[], by rw [runOps_nil, List.append_nil], by rw [runOps_nil]; exact .nil _⟩
  | cons op rest ih =>
    rw [runOps_cons]
    obtain ⟨cs₁, h₁, -, -⟩ := Op.recorded L op m
    obtain ⟨cs₂, hcalls₂, hblocks₂⟩ := ih ((op.run L.recorded).run.run m).2
    exact ⟨cs₁ ++ cs₂, by rw [hcalls₂, h₁.calls_eq, List.append_assoc],
      (h₁.blocks.mono fun _ _ => trivial).append hblocks₂⟩

end Master

end RtuBus
