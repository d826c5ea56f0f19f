import RtuBus.Proofs.Responses

/-! # Request frames

Building a request is exact and injective (`request_frames_exact`). A read is built exactly when
its function is one of the two read functions, its slave is unicast and its count is `1..=125`;
a write exactly when its slave is unicast. Every frame built is the six header bytes (slave,
function, start register and payload word, both words high byte first) followed by their check
word (`Encodes`). It passes the check word, and its fields read back from its bytes as the
request's, so two requests that give the same bytes are the same request.
-/

namespace RtuBus

theorem isUnicast_iff {s : UInt8} : isUnicast s = true ↔ 1 ≤ s ∧ s ≤ 247 := by
  unfold isUnicast
  rw [Bool.and_eq_true, decide_eq_true_iff, decide_eq_true_iff]
  rfl

theorem isReadCount_iff {n : UInt16} : isReadCount n = true ↔ 1 ≤ n ∧ n ≤ 125 := by
  simp only [isReadCount, maxReadCount, bne_iff_ne, ne_eq, Bool.and_eq_true, decide_eq_true_eq,
    UInt16.le_iff_toNat_le, ← UInt16.toNat_inj]
  simp only [UInt16.toNat_ofNat]
  omega

namespace RequestFrame

/-- The fields of a frame read back: slave, function byte, start register and payload word. -/
def fields (r : RequestFrame) : UInt8 × UInt8 × UInt16 × UInt16 :=
  (r.slave, r.function, wordOf r.payload.1 r.payload.2.1, wordOf r.payload.2.2.1 r.payload.2.2.2)

theorem ofBytes?_toBytes (r : RequestFrame) : ofBytes? r.toBytes = some r := rfl

theorem fields_ofHeader (slave function : UInt8) (start payload : UInt16) :
    (ofHeader slave function start payload).fields = (slave, function, start, payload) := by
  simp [fields, ofHeader, wordOf_wordBytes]

end RequestFrame

/-- `fr` is the frame of a request to `slave` with function byte `f`, start register `start` and
payload word `p`: the six header bytes, both words high byte first, then their check word low
byte first. It passes the check word, and its fields read back from its bytes are the
request's. -/
structure Encodes (fr : RequestFrame) (slave f : UInt8) (start p : UInt16) : Prop where
  bytes : fr.toBytes = Crc.withCheck ([slave, f] ++ wordBytes start ++ wordBytes p)
  checked : verifyCrc fr.toBytes = .ok ()
  readBack : (RequestFrame.ofBytes? fr.toBytes).map RequestFrame.fields = some (slave, f, start, p)

theorem encodes_ofHeader (slave f : UInt8) (start p : UInt16) :
    Encodes (RequestFrame.ofHeader slave f start p) slave f start p where
  bytes := RequestFrame.toBytes_ofHeader slave f start p
  checked := by
    rw [RequestFrame.toBytes_ofHeader]
    exact verifyCrc_withCheck (List.cons_ne_nil _ _)
  readBack := by
    rw [RequestFrame.ofBytes?_toBytes, Option.map_some, RequestFrame.fields_ofHeader]

theorem Encodes.fields_eq {fr₁ fr₂ : RequestFrame} {s₁ s₂ f₁ f₂ : UInt8} {a₁ a₂ p₁ p₂ : UInt16}
    (h₁ : Encodes fr₁ s₁ f₁ a₁ p₁) (h₂ : Encodes fr₂ s₂ f₂ a₂ p₂)
    (h : fr₁.toBytes = fr₂.toBytes) : (s₁, f₁, a₁, p₁) = (s₂, f₂, a₂, p₂) := by
  have hread := h₁.readBack
  rw [h, h₂.readBack] at hread
  exact (Option.some.inj hread).symm

namespace Request

theorem eq_of_fields {q₁ q₂ : Request} (hf : q₁.function.value = q₂.function.value)
    (ha : q₁.start = q₂.start) (hp : q₁.payload = q₂.payload) : q₁ = q₂ := by
  cases q₁ <;> cases q₂ <;> simp_all [function, start, payload, FunctionCode.readHolding,
    FunctionCode.readInput, FunctionCode.writeSingle]

/-- Whether a request passes the check of its own: a read needs a valid count. -/
def Admissible : Request → Prop
  | readHolding _ n | readInput _ n => isReadCount n = true
  | writeSingle .. => True

theorem encode?_eq_ok {slave : UInt8} {q : Request} {fr : RequestFrame}
    (h : q.encode? slave = .ok fr) :
    isUnicast slave = true ∧ q.Admissible ∧
      fr = RequestFrame.ofHeader slave q.function.value q.start q.payload := by
  unfold encode? at h
  split at h
  · cases h
  · rename_i hs
    simp only [Bool.not_eq_true', Bool.not_eq_false] at hs
    cases q with
    | readHolding a n | readInput a n =>
      simp only at h
      split at h
      · cases h
      · rename_i hn
        cases h
        exact ⟨hs, by simpa [Admissible] using hn, rfl⟩
    | writeSingle a v =>
      cases h
      exact ⟨hs, trivial, rfl⟩

theorem encode?_of_admissible {slave : UInt8} {q : Request} (hs : isUnicast slave = true)
    (hq : q.Admissible) :
    q.encode? slave = .ok (RequestFrame.ofHeader slave q.function.value q.start q.payload) := by
  cases q <;> simp_all [encode?, Admissible, start, payload]

/-- Two requests that encode to the same bytes are the same request, to the same slave. -/
theorem encode?_injective {s₁ s₂ : UInt8} {q₁ q₂ : Request} {fr₁ fr₂ : RequestFrame}
    (h₁ : q₁.encode? s₁ = .ok fr₁) (h₂ : q₂.encode? s₂ = .ok fr₂)
    (h : fr₁.toBytes = fr₂.toBytes) : s₁ = s₂ ∧ q₁ = q₂ := by
  obtain ⟨-, -, rfl⟩ := encode?_eq_ok h₁
  obtain ⟨-, -, rfl⟩ := encode?_eq_ok h₂
  have hfields := (encodes_ofHeader ..).fields_eq (encodes_ofHeader ..) h
  simp only [Prod.mk.injEq] at hfields
  obtain ⟨hs, hf, ha, hp⟩ := hfields
  exact ⟨hs, eq_of_fields hf ha hp⟩

/-- A read is made exactly with one of the two read functions, as the read of that function. -/
theorem read?_eq_ok_iff {f : FunctionCode} {start count : UInt16} {q : Request} :
    read? f start count = .ok q ↔
      f = .readHolding ∧ q = readHolding start count ∨
        f = .readInput ∧ q = readInput start count := by
  unfold read?
  split
  · rename_i hf
    subst hf
    simp [FunctionCode.readHolding, FunctionCode.readInput, eq_comm]
  · split
    · rename_i hf
      subst hf
      simp [FunctionCode.readHolding, FunctionCode.readInput, eq_comm]
    · simp [*]

end Request

theorem buildReadRequest?_eq_ok_iff {s : UInt8} {f : FunctionCode} {a n : UInt16}
    {fr : RequestFrame} :
    buildReadRequest? s f a n = .ok fr ↔
      ∃ q, Request.read? f a n = .ok q ∧ q.encode? s = .ok fr := by
  unfold buildReadRequest?
  cases Request.read? f a n <;> simp [bind, Except.bind]

/-- A read request is built exactly for a read function, a unicast slave and a valid count. -/
theorem buildReadRequest?_ok_iff {s : UInt8} {f : FunctionCode} {a n : UInt16} :
    (∃ fr, buildReadRequest? s f a n = .ok fr) ↔
      f.isRead = true ∧ isUnicast s = true ∧ isReadCount n = true := by
  simp only [buildReadRequest?_eq_ok_iff]
  constructor
  · rintro ⟨fr, q, hq, h⟩
    obtain ⟨hs, hadm, -⟩ := Request.encode?_eq_ok h
    -- the request is the read of `f`, so its own check is the count's
    rcases Request.read?_eq_ok_iff.mp hq with ⟨rfl, rfl⟩ | ⟨rfl, rfl⟩
    · exact ⟨rfl, hs, hadm⟩
    · exact ⟨rfl, hs, hadm⟩
  · rintro ⟨hf, hs, hn⟩
    simp only [FunctionCode.isRead, Bool.or_eq_true, decide_eq_true_eq] at hf
    rcases hf with rfl | rfl
    · exact ⟨_, _, rfl, Request.encode?_of_admissible (q := .readHolding a n) hs hn⟩
    · exact ⟨_, _, rfl, Request.encode?_of_admissible (q := .readInput a n) hs hn⟩

theorem buildReadRequest?_encodes {s : UInt8} {f : FunctionCode} {a n : UInt16}
    {fr : RequestFrame} (h : buildReadRequest? s f a n = .ok fr) : Encodes fr s f.value a n := by
  obtain ⟨q, hq, h⟩ := buildReadRequest?_eq_ok_iff.mp h
  obtain ⟨-, -, rfl⟩ := Request.encode?_eq_ok h
  rcases Request.read?_eq_ok_iff.mp hq with ⟨rfl, rfl⟩ | ⟨rfl, rfl⟩ <;> exact encodes_ofHeader ..

theorem buildWriteSingle?_ok_iff {s : UInt8} {a v : UInt16} :
    (∃ fr, buildWriteSingle? s a v = .ok fr) ↔ isUnicast s = true :=
  ⟨fun ⟨_, h⟩ => (Request.encode?_eq_ok h).1, fun hs => ⟨_, buildWriteSingle?_eq hs a v⟩⟩

theorem buildWriteSingle?_encodes {s : UInt8} {a v : UInt16} {fr : RequestFrame}
    (h : buildWriteSingle? s a v = .ok fr) : Encodes fr s 0x06 a v := by
  obtain ⟨-, -, rfl⟩ := Request.encode?_eq_ok h
  exact encodes_ofHeader ..

/-- Building requests, for every slave, function, start register, count and value. A read is
built exactly when the function is `0x03` or `0x04`, the slave is in `1..=247` and the count in
`1..=125`; a write exactly when the slave is in `1..=247`. Every frame built encodes its request
(`Encodes`): the bytes `[s, f, a_hi, a_lo, p_hi, p_lo, crc_lo, crc_hi]` with the count of a read or
the value of a write (function `0x06`) as `p`, a good check word, and the fields read back as
given. Two requests that encode to the same bytes are the same request to the same slave. -/
theorem request_frames_exact (s : UInt8) (f : FunctionCode) (a n v : UInt16) :
    ((∃ fr, buildReadRequest? s f a n = .ok fr) ↔
      (f = .readHolding ∨ f = .readInput) ∧ (1 ≤ s ∧ s ≤ 247) ∧ (1 ≤ n ∧ n ≤ 125)) ∧
    ((∃ fr, buildWriteSingle? s a v = .ok fr) ↔ 1 ≤ s ∧ s ≤ 247) ∧
    (∀ fr, buildReadRequest? s f a n = .ok fr → Encodes fr s f.value a n) ∧
    (∀ fr, buildWriteSingle? s a v = .ok fr → Encodes fr s 0x06 a v) ∧
    (∀ (s₁ s₂ : UInt8) (q₁ q₂ : Request) fr₁ fr₂, q₁.encode? s₁ = .ok fr₁ →
      q₂.encode? s₂ = .ok fr₂ → fr₁.toBytes = fr₂.toBytes → s₁ = s₂ ∧ q₁ = q₂) := by
  refine ⟨?_, ?_, fun _ => buildReadRequest?_encodes, fun _ => buildWriteSingle?_encodes,
    fun _ _ _ _ _ _ => Request.encode?_injective⟩
  · rw [buildReadRequest?_ok_iff, isUnicast_iff, isReadCount_iff]
    simp [FunctionCode.isRead]
  · rw [buildWriteSingle?_ok_iff, isUnicast_iff]

end RtuBus
