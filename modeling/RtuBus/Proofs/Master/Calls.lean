import RtuBus.Master.Ping

/-! # What each master operation does

Each operation of a master, stated as how it ends, with the results of the line calls it made
and the master it leaves. `init` opens the line and switches it to receive, and marks the master
initialized only when both worked (`init_cases`); a transaction ends in one of four ways, each
fixed by the results of the line calls made so far (`transact_cases`); a read and a write are a
transaction between building the request and checking the response (`read_run`,
`writeSingle_run`); and a ping tries the remembered candidates and the fallback ones as one
sequence (`ping_run`), one `attempt` each.

Later proofs cite these equations and never unfold the operations. The operations a user calls,
and runs of them one after another, close the module.
-/

namespace RtuBus

namespace Master

variable {σ α β : Type} (L : Line σ)

/-! ## Running the building blocks -/

theorem run_bind (x : MasterM σ α) (f : α → MasterM σ β) (m : Master σ) :
    (x >>= f).run.run m =
      match (x.run.run m).1 with
      | .ok a => (f a).run.run (x.run.run m).2
      | .error e => (.error e, (x.run.run m).2) := by
  rw [ExceptT.run_bind, StateT.run_bind]
  rcases x.run.run m with ⟨r, m'⟩
  cases r <;> rfl

theorem map_run (f : α → β) (x : MasterM σ α) (m : Master σ) :
    (f <$> x).run.run m = ((x.run.run m).1.map f, (x.run.run m).2) := by
  rw [ExceptT.run_map, StateT.run_map]
  rcases x.run.run m with ⟨r, m'⟩
  cases r <;> rfl

theorem call_run (x : StateM σ (Except IoKind α)) (m : Master σ) :
    (call x).run.run m =
      ((x.run m.line).1.mapError .transport, { m with line := (x.run m.line).2 }) :=
  rfl

theorem lift_run (x : StateM σ α) (m : Master σ) :
    (ExceptT.lift (onLine x) : MasterM σ α).run.run m =
      (.ok (x.run m.line).1, { m with line := (x.run m.line).2 }) :=
  rfl

theorem check_run (r : Except BusError α) (m : Master σ) :
    (check r : MasterM σ α).run.run m = (r, m) :=
  rfl

theorem mapError_ok_eq {ε ε' : Type} (f : ε → ε') (a : α) :
    (Except.ok a : Except ε α).mapError f = .ok a :=
  rfl

theorem bind_ok_eq {ε : Type} (a : α) (g : α → Except ε β) :
    (Except.ok a : Except ε α).bind g = g a :=
  rfl

/-! ## Opening and closing the line -/

/-- The ways `init` ends: an initialized master is left alone; otherwise the line is opened and,
if that worked, switched to receive, and the master counts as initialized only when both
worked. -/
theorem init_cases (m : Master σ) :
    (m.initialized = true ∧ (init L).run.run m = (.ok (), m)) ∨
    (m.initialized = false ∧ ∃ k l₁, L.connect.run m.line = (.error k, l₁) ∧
      (init L).run.run m = (.error (.transport k), { m with line := l₁ })) ∨
    (m.initialized = false ∧ ∃ l₁ r l₂, L.connect.run m.line = (.ok (), l₁) ∧
      (L.setTransmit false).run l₁ = (r, l₂) ∧
      (init L).run.run m = (r.mapError .transport, { m with line := l₂, initialized := r.isOk })) := by
  rcases m with ⟨line, initialized, hints⟩
  cases initialized with
  | true => exact .inl ⟨rfl, rfl⟩
  | false =>
    have hrun : (init L).run.run ⟨line, false, hints⟩ =
        (call L.connect >>= fun _ => call (L.setTransmit false) >>= fun _ =>
          modify fun m => { m with initialized := true }).run.run ⟨line, false, hints⟩ := rfl
    rcases h₁ : L.connect.run line with ⟨r₁, l₁⟩
    cases r₁ with
    | error k =>
      refine .inr (.inl ⟨rfl, k, l₁, rfl, ?_⟩)
      rw [hrun, run_bind, call_run, h₁]
      rfl
    | ok u =>
      rcases h₂ : (L.setTransmit false).run l₁ with ⟨r₂, l₂⟩
      refine .inr (.inr ⟨rfl, l₁, r₂, l₂, rfl, h₂, ?_⟩)
      rw [hrun, run_bind, call_run, h₁]
      change (call (L.setTransmit false) >>= fun _ =>
        modify fun m => { m with initialized := true }).run.run ⟨l₁, false, hints⟩ = _
      rw [run_bind, call_run]
      simp only [h₂]
      cases r₂ <;> rfl

theorem deinit_run (m : Master σ) :
    (deinit L).run.run m =
      if m.initialized then
        ((L.disconnect.run m.line).1.mapError .transport,
          { m with line := (L.disconnect.run m.line).2, initialized := false })
      else (.ok (), m) := by
  rcases m with ⟨line, initialized, hints⟩
  cases initialized <;> rfl

/-! ## Transactions -/

/-- The response a transaction returns for what the line received: no response, or an empty
one, is a timeout. -/
def response : Except IoKind Bytes → Except BusError Bytes
  | .ok bytes => if bytes.isEmpty then .error .timeout else .ok bytes
  | .error _ => .error .timeout

/-- The ways a transaction ends: on a master that is not initialized, at once; when the switch
to transmit fails; after the frame was sent and the line switched back, when one of the two
failed (the switch back is made whatever sending returned); or with what was received. -/
theorem transact_cases (frame : RequestFrame) (n t : Nat) (m : Master σ) :
    (m.initialized = false ∧ (transact L frame n t).run.run m = (.error .notInitialized, m)) ∨
    (m.initialized = true ∧ ∃ k l₁, (L.setTransmit true).run m.line = (.error k, l₁) ∧
      (transact L frame n t).run.run m = (.error (.transport k), { m with line := l₁ })) ∨
    (m.initialized = true ∧ ∃ l₁ sent l₂ released l₃ k,
      (L.setTransmit true).run m.line = (.ok (), l₁) ∧
      (L.send frame.toBytes t).run l₁ = (sent, l₂) ∧
      (L.setTransmit false).run l₂ = (released, l₃) ∧
      (sent = .error k ∨ (sent = .ok () ∧ released = .error k)) ∧
      (transact L frame n t).run.run m = (.error (.transport k), { m with line := l₃ })) ∨
    (m.initialized = true ∧ ∃ l₁ l₂ l₃ received l₄,
      (L.setTransmit true).run m.line = (.ok (), l₁) ∧
      (L.send frame.toBytes t).run l₁ = (.ok (), l₂) ∧
      (L.setTransmit false).run l₂ = (.ok (), l₃) ∧
      (L.receive n t).run l₃ = (received, l₄) ∧
      (transact L frame n t).run.run m = (response received, { m with line := l₄ })) := by
  rcases m with ⟨line, initialized, hints⟩
  cases initialized with
  | false => exact .inl ⟨rfl, rfl⟩
  | true =>
    right
    have hrun : (transact L frame n t).run.run ⟨line, true, hints⟩ =
        (call (L.setTransmit true) >>= fun _ =>
          ExceptT.lift (onLine (L.send frame.toBytes t)) >>= fun sent =>
          ExceptT.lift (onLine (L.setTransmit false)) >>= fun released =>
          check (sent.mapError .transport) >>= fun _ =>
          check (released.mapError .transport) >>= fun _ =>
          ExceptT.lift (onLine (L.receive n t)) >>= fun received =>
          match received with
          | .ok bytes => if bytes.isEmpty then throw .timeout else pure bytes
          | .error _ => throw .timeout).run.run ⟨line, true, hints⟩ := rfl
    have hlast : ∀ received (m' : Master σ), (match received with
        | .ok bytes => if bytes.isEmpty then throw .timeout else pure bytes
        | .error _ => throw .timeout : MasterM σ Bytes).run.run m' = (response received, m') := by
      intro received m'
      cases received with
      | error k => rfl
      | ok bytes => cases bytes <;> rfl
    rcases h₁ : (L.setTransmit true).run line with ⟨r₁, l₁⟩
    cases r₁ with
    | error k =>
      refine .inl ⟨rfl, k, l₁, rfl, ?_⟩
      rw [hrun, run_bind, call_run, h₁]
      rfl
    | ok u =>
      right
      rcases h₂ : (L.send frame.toBytes t).run l₁ with ⟨sent, l₂⟩
      rcases h₃ : (L.setTransmit false).run l₂ with ⟨released, l₃⟩
      rcases h₄ : (L.receive n t).run l₃ with ⟨received, l₄⟩
      -- sending and switching back both run before either result is looked at
      have hsent : (transact L frame n t).run.run ⟨line, true, hints⟩ =
          (check (sent.mapError .transport) >>= fun _ =>
            check (released.mapError .transport) >>= fun _ =>
            ExceptT.lift (onLine (L.receive n t)) >>= fun received =>
            match received with
            | .ok bytes => if bytes.isEmpty then throw .timeout else pure bytes
            | .error _ => throw .timeout).run.run ⟨l₃, true, hints⟩ := by
        rw [hrun, run_bind, call_run, h₁]
        simp only [mapError_ok_eq, run_bind, lift_run, h₂, h₃]
      cases sent with
      | error k =>
        refine .inl ⟨rfl, l₁, .error k, l₂, released, l₃, k, rfl, h₂, h₃, .inl rfl, ?_⟩
        rw [hsent, run_bind, check_run]
        rfl
      | ok u₂ =>
        cases released with
        | error k =>
          refine .inl ⟨rfl, l₁, .ok (), l₂, .error k, l₃, k, rfl, h₂, h₃, .inr ⟨rfl, rfl⟩, ?_⟩
          rw [hsent, run_bind, check_run]
          simp only [mapError_ok_eq, run_bind, check_run]
          rfl
        | ok u₃ =>
          refine .inr ⟨rfl, l₁, l₂, l₃, received, l₄, rfl, h₂, h₃, h₄, ?_⟩
          rw [hsent]
          simp only [mapError_ok_eq, run_bind, check_run, lift_run, h₄]
          exact hlast _ _

/-! ## Reads and writes -/

theorem read?_responseLen {f : FunctionCode} {start count : UInt16} {req : Request}
    (h : Request.read? f start count = .ok req) : req.responseLen = 5 + count.toNat * 2 := by
  unfold Request.read? at h
  split at h
  · cases h; rfl
  · split at h
    · cases h; rfl
    · cases h

/-- A read builds its request frame, runs the transaction for a response of `5 + 2·count`
bytes, and reads the registers out of the response. -/
theorem read_run (slave : UInt8) (f : FunctionCode) (start count : UInt16) (t : Nat)
    (m : Master σ) :
    (read L slave f start count t).run.run m =
      match buildReadRequest? slave f start count with
      | .error e => (.error e, m)
      | .ok frame =>
        let r := (transact L frame (5 + count.toNat * 2) t).run.run m
        (r.1.bind fun response => parseReadResponse response slave f count, r.2) := by
  have hrun : (read L slave f start count t).run.run m =
      (check (Request.read? f start count) >>= fun request =>
        check (request.encode? slave) >>= fun frame =>
        transact L frame request.responseLen t >>= fun response =>
        check (parseReadResponse response slave f count)).run.run m := rfl
  have hbuild : buildReadRequest? slave f start count =
      (Request.read? f start count).bind (·.encode? slave) := rfl
  rw [hrun, run_bind, check_run, hbuild]
  cases hreq : Request.read? f start count with
  | error e => rfl
  | ok req =>
    simp only [run_bind, check_run, read?_responseLen hreq]
    cases henc : req.encode? slave with
    | error e => simp only [bind_ok_eq, henc]
    | ok frame =>
      simp only [bind_ok_eq, henc]
      rcases (transact L frame (5 + count.toNat * 2) t).run.run m with ⟨r, m'⟩
      cases r <;> rfl

/-- A write builds its request frame, runs the transaction for the eight-byte echo, and checks
the echo. -/
theorem writeSingle_run (slave : UInt8) (register value : UInt16) (t : Nat) (m : Master σ) :
    (writeSingle L slave register value t).run.run m =
      match buildWriteSingle? slave register value with
      | .error e => (.error e, m)
      | .ok frame =>
        let r := (transact L frame 8 t).run.run m
        (r.1.bind fun response => parseWriteSingleResponse response frame, r.2) := by
  have hrun : (writeSingle L slave register value t).run.run m =
      (check (buildWriteSingle? slave register value) >>= fun frame =>
        transact L frame 8 t >>= fun response =>
        check (parseWriteSingleResponse response frame)).run.run m := rfl
  rw [hrun, run_bind, check_run]
  cases buildWriteSingle? slave register value with
  | error e => rfl
  | ok frame =>
    simp only [run_bind, check_run]
    rcases (transact L frame 8 t).run.run m with ⟨r, m'⟩
    cases r <;> rfl

/-! ## Pings -/

/-- One candidate of a ping: one register read with its function, and, when the master turns
out not to be initialized while that may still be mended, `init` and the same read again. -/
def attempt (slave : UInt8) (timeout : Nat) (f : FunctionCode) (register : UInt16)
    (mayReinit : Bool) : StateM (Master σ) (Except BusError (List UInt16) × Bool) := do
  let first ← (read L slave f register 1 timeout).run
  match first, mayReinit with
  | .error .notInitialized, true => do
    let again ← (do init L; read L slave f register 1 timeout).run
    pure (again, false)
  | r, may => pure (r, may)

/-- The two ways an attempt goes: the read finds the master not initialized while that may still
be mended, and `init` and the read run again; or the read's result stands. -/
theorem attempt_cases (slave : UInt8) (t : Nat) (f : FunctionCode) (register : UInt16)
    (may : Bool) (m : Master σ) :
    let first := (read L slave f register 1 t).run.run m
    (first.1 = .error .notInitialized ∧ may = true ∧
      (attempt L slave t f register may).run m =
        ((((init L >>= fun _ => read L slave f register 1 t).run.run first.2).1, false),
          ((init L >>= fun _ => read L slave f register 1 t).run.run first.2).2)) ∨
    (¬(first.1 = .error .notInitialized ∧ may = true) ∧
      (attempt L slave t f register may).run m = ((first.1, may), first.2)) := by
  rcases hfirst : (read L slave f register 1 t).run.run m with ⟨r, m₁⟩
  have hrun : (attempt L slave t f register may).run m =
      (match r, may with
        | .error .notInitialized, true => do
          let again ← (do init L; read L slave f register 1 t).run
          pure (again, false)
        | r, may => pure (r, may) : StateM (Master σ) _).run m₁ := by
    simp only [attempt, StateT.run_bind, hfirst]
    rfl
  rw [hrun]
  split
  · exact .inl ⟨rfl, rfl, rfl⟩
  · rename_i hnot
    exact .inr ⟨fun ⟨hr, hm⟩ => hnot hr hm, rfl⟩

theorem tryCandidates_nil (slave : UInt8) (t : Nat) (may : Bool) (last : BusError) :
    tryCandidates L slave t [] may last = pure (.error last, may) :=
  rfl

theorem tryCandidates_cons (slave : UInt8) (t : Nat) (f : FunctionCode) (register : UInt16)
    (rest : List (FunctionCode × UInt16)) (may : Bool) (last : BusError) :
    tryCandidates L slave t ((f, register) :: rest) may last = (do
      let (result, may') ← attempt L slave t f register may
      match result with
      | .ok _ =>
        modify fun m => { m with hints := m.hints.set slave f }
        pure (.ok f, may')
      | .error e => tryCandidates L slave t rest may' e) := by
  simp only [tryCandidates, attempt, bind_assoc]
  refine congrArg _ (funext fun first => ?_)
  -- both sides match on the read's result in the same way, and agree once it is a constructor
  cases may <;> rcases first with e | ws
  · cases e <;> rfl
  · rfl
  · cases e <;> rfl
  · rfl

/-- Trying two lists of candidates one after the other is trying the first, and the second
only if none of the first answered. -/
theorem tryCandidates_append (slave : UInt8) (t : Nat) (xs ys : List (FunctionCode × UInt16))
    (may : Bool) (last : BusError) :
    tryCandidates L slave t (xs ++ ys) may last = (do
      let (r, may') ← tryCandidates L slave t xs may last
      match r with
      | .ok f => pure (.ok f, may')
      | .error e => tryCandidates L slave t ys may' e) := by
  induction xs generalizing may last with
  | nil => simp [tryCandidates_nil]
  | cons c xs ih =>
    obtain ⟨f, register⟩ := c
    simp only [List.cons_append, tryCandidates_cons, bind_assoc]
    refine congrArg _ (funext fun x => ?_)
    obtain ⟨result, may'⟩ := x
    cases result with
    | ok _ => simp
    | error e => simp [ih]

/-- The candidates a ping tries, in order: the remembered function at registers 0 and 1, then
the fallback ones. -/
def pingCandidates (hints : HintCache) (slave : UInt8) : List (FunctionCode × UInt16) :=
  (match hints.get slave with
    | some f => [(f, 0x0000), (f, 0x0001)]
    | none => []) ++ pingFallback

/-- A ping of a unicast slave tries its candidates as one sequence and returns the code of the
function that answered; any other address is refused at once. -/
theorem ping_run (slave : UInt8) (t : Nat) (m : Master σ) :
    (ping L slave t).run.run m =
      if isUnicast slave then
        let r := (tryCandidates L slave t (pingCandidates m.hints slave) true .timeout).run m
        (r.1.1.map (·.value), r.2)
      else (.error .invalidArgument, m) := by
  cases hs : isUnicast slave with
  | false => simp only [ping, hs]; rfl
  | true =>
    simp only [ping, hs, pingCandidates, tryCandidates_append, Bool.not_true, Bool.false_eq_true,
      if_false, if_true, ExceptT.run_mk, StateT.run_bind, StateT.run_get, pure_bind]
    cases hh : m.hints.get slave with
    | none =>
      simp only [tryCandidates_nil]
      rfl
    | some f =>
      rcases h₁ : (tryCandidates L slave t [(f, 0), (f, 1)] true .timeout).run m with
        ⟨⟨r, may⟩, m₁⟩
      simp only [StateT.run_bind, h₁]
      -- the fallback candidates ignore the error the hinted ones ended with
      cases r with
      | ok g => rfl
      | error e => rfl

/-! ## Sequences of operations -/

/-- An operation a user calls on a master. -/
inductive Op where
  | init
  | deinit
  | read (slave : UInt8) (f : FunctionCode) (start count : UInt16) (timeout : Nat)
  | readHolding (slave : UInt8) (start count : UInt16) (timeout : Nat)
  | readInput (slave : UInt8) (start count : UInt16) (timeout : Nat)
  | writeSingle (slave : UInt8) (register value : UInt16) (timeout : Nat)
  | ping (slave : UInt8) (timeout : Nat)

/-- What an operation returns. -/
inductive Reply where
  | done
  | words (ws : List UInt16)
  | code (value : UInt8)

/-- Carries out an operation. -/
def Op.run : Op → MasterM σ Reply
  | .init => (fun () => .done) <$> Master.init L
  | .deinit => (fun () => .done) <$> Master.deinit L
  | .read s f a n t => .words <$> Master.read L s f a n t
  | .readHolding s a n t => .words <$> Master.readHolding L s a n t
  | .readInput s a n t => .words <$> Master.readInput L s a n t
  | .writeSingle s r v t => (fun () => .done) <$> Master.writeSingle L s r v t
  | .ping s t => .code <$> Master.ping L s t

/-- Carries out operations one after another and returns each with its reply, oldest first. -/
def runOps : List Op → StateM (Master σ) (List (Op × Except BusError Reply))
  | [] => pure []
  | op :: rest => do
    let r ← (op.run L).run
    let history ← runOps rest
    pure ((op, r) :: history)

theorem runOps_nil (m : Master σ) : (runOps L []).run m = ([], m) :=
  rfl

theorem runOps_cons (op : Op) (rest : List Op) (m : Master σ) :
    (runOps L (op :: rest)).run m =
      (((op, ((op.run L).run.run m).1) :: ((runOps L rest).run ((op.run L).run.run m).2).1),
        ((runOps L rest).run ((op.run L).run.run m).2).2) :=
  rfl

end Master

end RtuBus
