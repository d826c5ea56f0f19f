import RtuBus.Frame.Checked
import RtuBus.Proofs.Responses
import Mathlib.Data.List.Basic

/-! # The response checks stay in bounds

Every check of a response, run step by step with each index, range and arithmetic result
checked (`Checked`), never stops the program and gives exactly what the codec gives
(`response_checks_never_fault`), for byte strings of every length, every slave, function, count
and request. Each step rests on a guard taken before it: the check word is read only from at
least three bytes, a refusal only from exactly five, the header bytes and the data of a read
response only once its length is the one its count asks for, the byte count is computed only
for a count of at most 125, so it fits in a byte, and the marked function byte loses its high
bit only when it has it.
-/

namespace RtuBus

open Checked

theorem verifyCrc_in_bounds (adu : Bytes) :
    Checked.verifyCrc adu = .ok (RtuBus.verifyCrc adu) := by
  by_cases hshort : adu.length < 3
  · simp [Checked.verifyCrc, RtuBus.verifyCrc, hshort, pure, Except.pure]
  · -- the split leaves the two bytes of the check word, which are read back as it
    obtain ⟨lo, hi, htail⟩ : ∃ lo hi, adu.drop (adu.length - 2) = [lo, hi] :=
      List.length_eq_two.mp (by simp; omega)
    simp only [Checked.verifyCrc, RtuBus.verifyCrc, hshort, ↓reduceIte,
      subSize_of_le (show 2 ≤ adu.length by omega), exceptOk_bind,
      splitAt_of_le (show adu.length - 2 ≤ adu.length by omega), htail, readLE_pair]
    by_cases hc : Crc.ofTrailer lo hi = Crc.ofBytes (adu.take (adu.length - 2)) <;>
      simp [hc, pure, Except.pure]

theorem exceptionOfBytes_in_bounds (bytes : Bytes) :
    exceptionOfBytes bytes = .ok (ExceptionReply.ofBytes? bytes) := by
  match bytes with
  | marked :: code :: rest =>
    by_cases hm : marked < 0x80
    · simp [exceptionOfBytes, ExceptionReply.ofBytes?, hm, pure, Except.pure]
    · -- the high bit is set, so taking it off stays within a byte
      simp [exceptionOfBytes, ExceptionReply.ofBytes?, hm, subByte_of_le (UInt8.not_lt.mp hm),
        exceptOk_bind, pure, Except.pure]
  | [] | [_] => rfl

theorem decodeException_in_bounds (adu : Bytes) (slave : UInt8) (f : FunctionCode) :
    Checked.decodeException adu slave f = .ok (decodeException? adu slave f) := by
  by_cases hlen : adu.length = 5
  · obtain ⟨s, marked, code, lo, hi, rfl⟩ :
        ∃ s marked code lo hi, adu = [s, marked, code, lo, hi] := by
      rcases adu with _ | ⟨s, _ | ⟨marked, _ | ⟨code, _ | ⟨lo, _ | ⟨hi, _ | ⟨z, rest⟩⟩⟩⟩⟩⟩ <;>
        simp at hlen
      exact ⟨s, marked, code, lo, hi, rfl⟩
    by_cases hs : s = slave
    · subst hs
      cases hp : passes (RtuBus.verifyCrc [s, marked, code, lo, hi])
      · simp [Checked.decodeException, decodeException?, verifyCrc_in_bounds, hp, exceptOk_bind,
          pure, Except.pure]
      · cases hr : ExceptionReply.ofBytes? [marked, code] <;>
          simp [Checked.decodeException, decodeException?, verifyCrc_in_bounds, hp, hr,
            Checked.get, slice, exceptionOfBytes_in_bounds, exceptOk_bind, pure, Except.pure]
    · simp [Checked.decodeException, decodeException?, verifyCrc_in_bounds, hs, Checked.get,
        exceptOk_bind, pure, Except.pure]
  · have hnone : decodeException? adu slave f = none := by
      cases h : decodeException? adu slave f with
      | none => rfl
      | some r => exact absurd (length_of_decodeException? h) hlen
    simp [Checked.decodeException, hlen, hnone, pure, Except.pure]

theorem parseReadResponse_in_bounds (adu : Bytes) (slave : UInt8) (f : FunctionCode)
    (count : UInt16) :
    Checked.parseReadResponse adu slave f count = .ok (parseReadResponse adu slave f count) := by
  cases hc : isReadCount count with
  | false => simp [Checked.parseReadResponse, parseReadResponse, hc, pure, Except.pure]
  | true =>
    have hn : count.toNat ≤ 125 := by
      simp only [isReadCount, maxReadCount, Bool.and_eq_true, decide_eq_true_eq,
        UInt16.le_iff_toNat_le] at hc
      exact hc.2
    have hsize : 5 + count.toNat * 2 < sizeLimit := by
      simp only [sizeLimit, Nat.pow_eq]; omega
    simp only [Checked.parseReadResponse, parseReadResponse, hc, Bool.not_true,
      Bool.false_eq_true, ↓reduceIte, mulSize_of_lt (show count.toNat * 2 < sizeLimit by omega),
      exceptOk_bind, addSize_of_lt hsize]
    by_cases hlen : adu.length = 5 + count.toNat * 2
    · -- a frame of the expected length: its three header bytes and the data all lie inside it
      obtain ⟨s, fn, bc, rest, rfl⟩ : ∃ s fn bc rest, adu = s :: fn :: bc :: rest := by
        rcases adu with _ | ⟨s, _ | ⟨fn, _ | ⟨bc, rest⟩⟩⟩
        all_goals simp only [List.length_cons, List.length_nil] at hlen
        · omega
        · omega
        · omega
        · exact ⟨s, fn, bc, rest, rfl⟩
      have hword : mulWord count 2 = .ok (count * 2) := mulWord_of_lt (by simp; omega)
      have hbyte : narrow (count * 2) = .ok (count * 2).toUInt8 :=
        narrow_of_lt (by rw [UInt16.toNat_mul]; simp; omega)
      have hsub : subSize (5 + count.toNat * 2) 2 = .ok (count.toNat * 2 + 3) := by
        rw [subSize_of_le (by omega)]
        congr 1
        omega
      have hdata : slice (s :: fn :: bc :: rest) 3 (count.toNat * 2 + 3) =
          .ok (rest.take (count.toNat * 2)) := by
        rw [slice_of_le (by omega) (by simp at hlen ⊢; omega)]
        simp
      rw [if_neg (not_not.mpr hlen), if_neg (not_not.mpr hlen), verifyCrc_in_bounds,
        exceptOk_bind]
      cases RtuBus.verifyCrc (s :: fn :: bc :: rest) with
      | error e => rfl
      | ok u =>
        simp only [Checked.get, List.getElem?_cons_zero, List.getElem?_cons_succ, hword, hbyte,
          hsub, hdata, exceptOk_bind]
        by_cases hs : s = slave <;> by_cases hf : fn = f.value <;>
          by_cases hb : bc = (count * 2).toUInt8 <;>
          simp only [hs, hf, hb, ne_eq, bne_iff_ne, not_true_eq_false, not_false_eq_true,
            ↓reduceIte, throw, throwThe, MonadExceptOf.throw, exceptError_bind,
            pure, Except.pure]
    · rw [if_pos hlen, if_pos hlen, decodeException_in_bounds, exceptOk_bind]
      cases decodeException? adu slave f <;> rfl

theorem parseWriteSingleResponse_in_bounds (adu : Bytes) (request : RequestFrame) :
    Checked.parseWriteSingleResponse adu request =
      .ok (parseWriteSingleResponse adu request) := by
  obtain ⟨rs, rf, ⟨p₁, p₂, p₃, p₄⟩, check⟩ := request
  by_cases hlen : adu.length = 8
  · obtain ⟨s, fn, a, b, c, d, x, y, rfl⟩ := eq_octet_of_length hlen
    rw [parseWriteSingleResponse_octet]
    simp only [Checked.parseWriteSingleResponse, RequestFrame.toBytes, Checked.get,
      List.getElem?_cons_zero, List.getElem?_cons_succ, exceptOk_bind, hlen, ne_eq,
      not_true_eq_false, ↓reduceIte, verifyCrc_in_bounds]
    -- the echo is compared as the four bytes after the address and function on both sides
    have hecho : slice [s, fn, a, b, c, d, x, y] 2 6 = .ok [a, b, c, d] := rfl
    have hsent : slice [rs, rf, p₁, p₂, p₃, p₄, check.1, check.2] 2 6 =
        .ok [p₁, p₂, p₃, p₄] := rfl
    cases verifyCrc [s, fn, a, b, c, d, x, y] with
    | error e => rfl
    | ok u =>
      by_cases hs : s = rs <;> by_cases hf : fn = rf <;>
        by_cases he : (a, b, c, d) = (p₁, p₂, p₃, p₄) <;>
        simp_all [exceptOk_bind, Except.bind, pure, Except.pure]
  · simp only [Checked.parseWriteSingleResponse, parseWriteSingleResponse, RequestFrame.toBytes,
      Checked.get, List.getElem?_cons_zero, List.getElem?_cons_succ, exceptOk_bind, hlen, ne_eq,
      not_false_eq_true, ↓reduceIte, decodeException_in_bounds]
    cases decodeException? adu rs ⟨rf⟩ <;> rfl

/-- The response checks never stop the program, for every byte string of every length, every
slave byte, function code, count and request frame: the check word, the refusal of a five-byte
frame, the refusal read from two bytes, a read response and a write response, each run with its
indices, ranges and arithmetic checked, give exactly what the codec gives. -/
theorem response_checks_never_fault (adu bytes : Bytes) (slave : UInt8) (f : FunctionCode)
    (count : UInt16) (request : RequestFrame) :
    Checked.verifyCrc adu = .ok (verifyCrc adu) ∧
    Checked.decodeException adu slave f = .ok (decodeException? adu slave f) ∧
    exceptionOfBytes bytes = .ok (ExceptionReply.ofBytes? bytes) ∧
    Checked.parseReadResponse adu slave f count = .ok (parseReadResponse adu slave f count) ∧
    Checked.parseWriteSingleResponse adu request = .ok (parseWriteSingleResponse adu request) :=
  ⟨verifyCrc_in_bounds adu, decodeException_in_bounds adu slave f,
    exceptionOfBytes_in_bounds bytes, parseReadResponse_in_bounds adu slave f count,
    parseWriteSingleResponse_in_bounds adu request⟩

end RtuBus
