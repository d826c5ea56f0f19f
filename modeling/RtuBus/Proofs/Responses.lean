import RtuBus.Proofs.Master.Record
import RtuBus.Proofs.Frames

/-! # Write echoes and refusals

A slave answers a write of one register with the request itself, and refuses any request with a
five-byte frame: its address, the function with the high bit set, one of nine exception codes
and the check word. Two laws of the codec are proved here.

* A write response is accepted exactly when it is the request, byte for byte
  (`writeSingle_accepts_echo`). The parser never compares the check word with the request's: it
  checks that the response's own check word is good and compares the six bytes before it, and
  the request's check word is the one those six bytes determine.
* A refusal is decoded exactly from the frame the slave's encoder writes for it, and only for a
  function below `0x80` (`refusal_frames`). Both parsers look for a refusal only when a response
  has another length than the one they expect, and a refusal never has that length, so they
  report a refusal on exactly these frames.
-/

namespace RtuBus

namespace RequestFrame

def header (r : RequestFrame) : Bytes :=
  [r.slave, r.function, r.payload.1, r.payload.2.1, r.payload.2.2.1, r.payload.2.2.2]

theorem toBytes_ofHeader (slave function : UInt8) (start payload : UInt16) :
    (ofHeader slave function start payload).toBytes =
      Crc.withCheck (ofHeader slave function start payload).header := rfl

end RequestFrame

theorem buildWriteSingle?_eq {slave : UInt8} (hs : isUnicast slave = true) (register value : UInt16) :
    buildWriteSingle? slave register value =
      .ok (RequestFrame.ofHeader slave FunctionCode.writeSingle.value register value) := by
  simp [buildWriteSingle?, Request.encode?, hs, Request.function]

theorem eq_withCheck_of_append_pair {body : Bytes} {x y : UInt8}
    (h : verifyCrc (body ++ [x, y]) = .ok ()) : body ++ [x, y] = Crc.withCheck body := by
  obtain ⟨-, h⟩ := eq_withCheck_of_verifyCrc h
  rwa [show (body ++ [x, y]).take ((body ++ [x, y]).length - 2) = body by simp] at h

theorem verifyCrc_ne_exception (adu : Bytes) (g : FunctionCode) (e : Exception) :
    verifyCrc adu ≠ .error (.exception g e) := by
  unfold verifyCrc
  split
  · simp
  · dsimp only
    split
    · split <;> simp
    · simp

/-! ## The echo of a write -/

section Echo

variable {adu : Bytes} {request : RequestFrame}

/-- An eight-byte write response: its check word, then its address, function and the four bytes
of the echo, in this order. -/
theorem parseWriteSingleResponse_octet (s fn a b c d x y : UInt8) (request : RequestFrame) :
    parseWriteSingleResponse [s, fn, a, b, c, d, x, y] request =
      (verifyCrc [s, fn, a, b, c, d, x, y]).bind fun _ =>
        if s ≠ request.slave then .error (.addressMismatch request.slave s)
        else if fn ≠ request.function then .error (.functionMismatch request.function fn)
        else if (a, b, c, d) ≠ request.payload then .error .echoMismatch
        else .ok () := by
  simp only [parseWriteSingleResponse]
  rw [if_neg (by simp)]
  cases verifyCrc [s, fn, a, b, c, d, x, y] with
  | error e => rfl
  | ok u =>
    by_cases hs : s = request.slave <;> by_cases hf : fn = request.function <;>
      by_cases he : (a, b, c, d) = request.payload <;>
      simp [hs, hf, he, bind, Except.bind, throw, throwThe, MonadExceptOf.throw, pure,
        Except.pure]

theorem parseWriteSingleResponse_of_refusal (h : adu.length ≠ 8) {r : ExceptionReply}
    (hr : decodeException? adu request.slave ⟨request.function⟩ = some r) :
    parseWriteSingleResponse adu request = .error (.exception r.function r.exception) := by
  simp only [parseWriteSingleResponse, if_pos h, hr]

theorem parseWriteSingleResponse_of_not_refusal (h : adu.length ≠ 8)
    (hr : decodeException? adu request.slave ⟨request.function⟩ = none) :
    parseWriteSingleResponse adu request = .error (.lengthMismatch 8 adu.length) := by
  simp only [parseWriteSingleResponse, if_pos h, hr]

theorem eq_octet_of_length (h : adu.length = 8) :
    ∃ s fn a b c d x y, adu = [s, fn, a, b, c, d, x, y] := by
  match adu, h with
  | [s, fn, a, b, c, d, x, y], _ => exact ⟨s, fn, a, b, c, d, x, y, rfl⟩

/-- A write response is accepted exactly when it is the request's six header bytes followed by
two bytes that make a good check word. -/
theorem parseWriteSingleResponse_eq_ok_iff :
    parseWriteSingleResponse adu request = .ok () ↔
      ∃ x y, adu = request.header ++ [x, y] ∧ verifyCrc adu = .ok () := by
  constructor
  · intro h
    by_cases hlen : adu.length = 8
    · obtain ⟨s, fn, a, b, c, d, x, y, rfl⟩ := eq_octet_of_length hlen
      rw [parseWriteSingleResponse_octet] at h
      cases hv : verifyCrc [s, fn, a, b, c, d, x, y] with
      | error e => rw [hv] at h; cases h
      | ok u =>
        rw [hv] at h
        -- each comparison that fails is an error, so all three hold
        simp only [Except.bind, ne_eq, ite_not] at h
        split at h
        · split at h
          · split at h
            · rename_i hs hf he
              subst hs hf
              exact ⟨x, y, by simp [RequestFrame.header, ← he], rfl⟩
            · cases h
          · cases h
        · cases h
    · cases hr : decodeException? adu request.slave ⟨request.function⟩ with
      | some r => rw [parseWriteSingleResponse_of_refusal hlen hr] at h; cases h
      | none => rw [parseWriteSingleResponse_of_not_refusal hlen hr] at h; cases h
  · rintro ⟨x, y, rfl, hv⟩
    simp only [RequestFrame.header, List.cons_append, List.nil_append] at hv ⊢
    rw [parseWriteSingleResponse_octet, hv]
    simp [Except.bind]

theorem parseWriteSingleResponse_eq_ok_iff_eq (hsealed : request.toBytes = Crc.withCheck request.header) :
    parseWriteSingleResponse adu request = .ok () ↔ adu = request.toBytes := by
  rw [parseWriteSingleResponse_eq_ok_iff, hsealed]
  constructor
  · rintro ⟨x, y, rfl, hv⟩
    exact eq_withCheck_of_append_pair hv
  · rintro rfl
    exact ⟨_, _, rfl, verifyCrc_withCheck (List.cons_ne_nil _ _)⟩

end Echo

/-- A write to a unicast slave is answered with success exactly by its own request frame. -/
theorem writeSingle_accepts_echo {slave : UInt8} (hs : isUnicast slave = true)
    (register value : UInt16) :
    ∃ request, buildWriteSingle? slave register value = .ok request ∧
      ∀ adu, parseWriteSingleResponse adu request = .ok () ↔ adu = request.toBytes :=
  ⟨_, buildWriteSingle?_eq hs register value, fun _ =>
    parseWriteSingleResponse_eq_ok_iff_eq (RequestFrame.toBytes_ofHeader _ _ _ _)⟩

theorem writeSingle_echo_at_seventeen :
    isUnicast 0x11 = true ∧ ∃ request, buildWriteSingle? 0x11 0x0001 0x0003 = .ok request ∧
      ∀ adu, parseWriteSingleResponse adu request = .ok () ↔ adu = request.toBytes :=
  ⟨by decide, writeSingle_accepts_echo (by decide) 0x0001 0x0003⟩

/-! ## Refusals -/

namespace Exception

theorem ofCode?_eq_some_iff {c : UInt8} {e : Exception} : ofCode? c = some e ↔ c = e.code := by
  constructor
  · intro h
    unfold ofCode? at h
    apply UInt8.toNat_inj.mp
    split at h <;> cases h <;> simp_all [code]
  · rintro rfl
    exact ofCode?_code e

end Exception

namespace ExceptionReply

/-- The two bytes after the address read as a refusal exactly when the first is a function below
`0x80` with the high bit set and the second is the code of an exception. -/
theorem ofBytes?_eq_some_iff {marked code : UInt8} {r : ExceptionReply} :
    ofBytes? [marked, code] = some r ↔
      r.function.value < 0x80 ∧ marked = r.function.value + 0x80 ∧ code = r.exception.code := by
  rcases r with ⟨⟨v⟩, e⟩
  simp only [ofBytes?]
  split
  · rename_i hm
    simp only [reduceCtorEq, false_iff, not_and]
    intro hv hmv
    subst hmv
    grind
  · rename_i hm
    simp only [Option.map_eq_some_iff, mk.injEq, FunctionCode.mk.injEq]
    constructor
    · rintro ⟨e', he', rfl, rfl⟩
      exact ⟨by grind, by grind, Exception.ofCode?_eq_some_iff.mp he'⟩
    · rintro ⟨hv, rfl, rfl⟩
      exact ⟨e, Exception.ofCode?_code e, by grind, rfl⟩

end ExceptionReply

section Refusals

variable {adu : Bytes} {slave : UInt8} {f : FunctionCode} {r : ExceptionReply}

theorem passes_eq_true_iff {c : Except BusError Unit} : passes c = true ↔ c = .ok () := by
  cases c <;> simp [passes]

theorem length_of_decodeException? (h : decodeException? adu slave f = some r) :
    adu.length = 5 := by
  unfold decodeException? at h
  split at h
  · rfl
  · cases h

/-- A refusal is decoded exactly from the frame the slave writes for it, and only for a function
below `0x80`. -/
theorem decodeException?_eq_some_iff :
    decodeException? adu slave f = some r ↔
      r.function = f ∧ f.value < 0x80 ∧ adu = r.encode slave := by
  constructor
  · intro h
    unfold decodeException? at h
    split at h
    · rename_i s marked code lo hi
      split at h
      · cases h
      · rename_i hcheck
        simp only [Bool.or_eq_true, Bool.not_eq_eq_eq_not, Bool.not_true, bne_iff_ne, ne_eq,
          not_or, Decidable.not_not, Bool.not_eq_false, passes_eq_true_iff] at hcheck
        obtain ⟨hv, rfl⟩ := hcheck
        split at h
        · rename_i r' hr'
          split at h
          · cases h
            rename_i hf
            obtain ⟨hlow, rfl, rfl⟩ := ExceptionReply.ofBytes?_eq_some_iff.mp hr'
            exact ⟨hf, hf ▸ hlow, @eq_withCheck_of_append_pair [s, _, _] lo hi hv⟩
          · cases h
        · cases h
    · cases h
  · rintro ⟨rfl, hlow, rfl⟩
    have hv : verifyCrc (r.encode slave) = .ok () := verifyCrc_withCheck (List.cons_ne_nil _ _)
    obtain ⟨lo, hi, hq⟩ : ∃ lo hi,
        r.encode slave = [slave, r.function.value + 0x80, r.exception.code, lo, hi] := ⟨_, _, rfl⟩
    rw [hq] at hv ⊢
    have hr : ExceptionReply.ofBytes? [r.function.value + 0x80, r.exception.code] = some r :=
      ExceptionReply.ofBytes?_eq_some_iff.mpr ⟨hlow, rfl, rfl⟩
    simp [decodeException?, hv, passes, hr]

/-- A read response of the length the count asks for is never read as a refusal. -/
theorem parseReadResponse_ne_exception {count : UInt16} (hc : isReadCount count = true)
    (hlen : adu.length = 5 + count.toNat * 2) (g : FunctionCode) (e : Exception) :
    parseReadResponse adu slave f count ≠ .error (.exception g e) := by
  intro h
  simp only [parseReadResponse, hc, Bool.not_true, Bool.false_eq_true, ↓reduceIte] at h
  rw [if_neg (by omega)] at h
  cases hv : verifyCrc adu with
  | error e' =>
    rw [hv, exceptError_bind] at h
    cases h
    exact verifyCrc_ne_exception adu g e hv
  | ok u =>
    rw [hv, exceptOk_bind] at h
    split at h
    · repeat' split at h
      all_goals cases h
    · cases h

/-- A write response of eight bytes is never read as a refusal. -/
theorem parseWriteSingleResponse_ne_exception {request : RequestFrame} (hlen : adu.length = 8)
    (g : FunctionCode) (e : Exception) :
    parseWriteSingleResponse adu request ≠ .error (.exception g e) := by
  intro h
  obtain ⟨s, fn, a, b, c, d, x, y, rfl⟩ := eq_octet_of_length hlen
  rw [parseWriteSingleResponse_octet] at h
  cases hv : verifyCrc [s, fn, a, b, c, d, x, y] with
  | error e' =>
    rw [hv] at h
    cases h
    exact verifyCrc_ne_exception _ g e hv
  | ok u =>
    rw [hv] at h
    simp only [Except.bind] at h
    repeat' split at h
    all_goals cases h

theorem isReadCount_pos {count : UInt16} (hc : isReadCount count = true) : 0 < count.toNat := by
  simp only [isReadCount, bne_iff_ne, ne_eq, Bool.and_eq_true, decide_eq_true_eq] at hc
  exact Nat.pos_of_ne_zero fun h => hc.1 (UInt16.toNat_inj.mp h)

/-- A read response is reported as a refusal exactly when it decodes as one. A refusal has five
bytes, never the length of the response to a valid count. -/
theorem parseReadResponse_eq_exception_iff {count : UInt16} (hc : isReadCount count = true)
    {g : FunctionCode} {e : Exception} :
    parseReadResponse adu slave f count = .error (.exception g e) ↔
      decodeException? adu slave f = some ⟨g, e⟩ := by
  by_cases hlen : adu.length = 5 + count.toNat * 2
  · refine ⟨fun h => absurd h (parseReadResponse_ne_exception hc hlen g e), fun hd => ?_⟩
    have := length_of_decodeException? hd
    have := isReadCount_pos hc
    omega
  · simp only [parseReadResponse, hc, Bool.not_true, Bool.false_eq_true, ↓reduceIte, if_pos hlen]
    cases decodeException? adu slave f with
    | none => simp
    | some r =>
      rcases r with ⟨g', e'⟩
      simp [eq_comm]

/-- A write response is reported as a refusal exactly when it decodes as a refusal of the
request's function by the request's slave. -/
theorem parseWriteSingleResponse_eq_exception_iff {request : RequestFrame} {g : FunctionCode}
    {e : Exception} :
    parseWriteSingleResponse adu request = .error (.exception g e) ↔
      decodeException? adu request.slave ⟨request.function⟩ = some ⟨g, e⟩ := by
  by_cases hlen : adu.length = 8
  · refine ⟨fun h => absurd h (parseWriteSingleResponse_ne_exception hlen g e), fun hd => ?_⟩
    have := length_of_decodeException? hd
    omega
  · cases hd : decodeException? adu request.slave ⟨request.function⟩ with
    | none => simp [parseWriteSingleResponse_of_not_refusal hlen hd]
    | some r =>
      rcases r with ⟨g', e'⟩
      simp [parseWriteSingleResponse_of_refusal hlen hd, eq_comm]

end Refusals

/-- `adu` is the frame in which `slave` refuses the function `v` with the exception `e`: the
address, `v + 0x80`, a code that reads as `e`, and the check word of these three bytes. -/
def IsRefusal (adu : Bytes) (slave v : UInt8) (e : Exception) : Prop :=
  ∃ c, Exception.ofCode? c = some e ∧ adu = Crc.withCheck [slave, v + 0x80, c]

theorem isRefusal_iff {adu : Bytes} {slave v : UInt8} {e : Exception} :
    IsRefusal adu slave v e ↔ adu = ExceptionReply.encode slave ⟨⟨v⟩, e⟩ := by
  constructor
  · rintro ⟨c, hc, rfl⟩
    rw [Exception.ofCode?_eq_some_iff.mp hc]
    rfl
  · rintro rfl
    exact ⟨e.code, Exception.ofCode?_code e, rfl⟩

/-- For a function below `0x80`, what decodes is a refusal of that function, from its frame. -/
theorem decodeException?_eq_some_iff_isRefusal {adu : Bytes} {slave v : UInt8} (hv : v < 0x80)
    {r : ExceptionReply} :
    decodeException? adu slave ⟨v⟩ = some r ↔ r.function = ⟨v⟩ ∧ IsRefusal adu slave v r.exception := by
  rw [decodeException?_eq_some_iff, isRefusal_iff]
  constructor
  · rintro ⟨hf, -, rfl⟩
    rcases r with ⟨g, e⟩
    cases hf
    exact ⟨rfl, rfl⟩
  · rintro ⟨hf, rfl⟩
    rcases r with ⟨g, e⟩
    cases hf
    exact ⟨rfl, hv, rfl⟩

/-- Refusals are decoded exactly. For a function `v` below `0x80`, a frame decodes as a refusal
of `v` by `slave` exactly when it is the frame of such a refusal, and decodes as nothing else;
from `0x80` on nothing decodes. A read response for a valid count and a write response to a
request to `slave` with function `v` are reported as a refusal on exactly these frames, never as a
length error. -/
theorem refusal_frames (adu : Bytes) (slave v : UInt8) :
    (v < 0x80 → ∀ r, decodeException? adu slave ⟨v⟩ = some r ↔
      r.function = ⟨v⟩ ∧ IsRefusal adu slave v r.exception) ∧
    (0x80 ≤ v → decodeException? adu slave ⟨v⟩ = none) ∧
    (v < 0x80 → ∀ count, isReadCount count = true → ∀ g e,
      parseReadResponse adu slave ⟨v⟩ count = .error (.exception g e) ↔
        g = ⟨v⟩ ∧ IsRefusal adu slave v e) ∧
    (v < 0x80 → ∀ request : RequestFrame, request.slave = slave → request.function = v → ∀ g e,
      parseWriteSingleResponse adu request = .error (.exception g e) ↔
        g = ⟨v⟩ ∧ IsRefusal adu slave v e) := by
  refine ⟨fun hv r => decodeException?_eq_some_iff_isRefusal hv, fun hv => ?_,
    fun hv count hc g e => ?_, fun hv request hs hf g e => ?_⟩
  · -- a decoded function is below `0x80`
    cases hd : decodeException? adu slave ⟨v⟩ with
    | none => rfl
    | some r =>
      obtain ⟨-, hlow, -⟩ := decodeException?_eq_some_iff.mp hd
      exact absurd hlow (by simpa using hv)
  · rw [parseReadResponse_eq_exception_iff hc, decodeException?_eq_some_iff_isRefusal hv]
  · rw [parseWriteSingleResponse_eq_exception_iff, hs, hf,
      decodeException?_eq_some_iff_isRefusal hv]

theorem refusal_of_input_read :
    (0x04 : UInt8) < 0x80 ∧ isReadCount 2 = true ∧
      parseReadResponse (ExceptionReply.encode 0x0A ⟨.readInput, .illegalDataAddress⟩) 0x0A
        ⟨0x04⟩ 2 = .error (.exception ⟨0x04⟩ .illegalDataAddress) :=
  ⟨by decide, by decide, ((refusal_frames _ 0x0A 0x04).2.2.1 (by decide) 2 (by decide) _ _).2
    ⟨rfl, 0x02, rfl, rfl⟩⟩

end RtuBus
