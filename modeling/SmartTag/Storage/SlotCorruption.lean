import SmartTag.Lib.Crc
import SmartTag.Storage.Slot

/-!
# Corrupted slots

What the validity check of a slot detects, with the CRC that the host tests define: a change of any
two neighbouring bytes under the CRC, and any change of the header alone.

* `detects_crcByte`: the CRC tells two neighbouring bytes apart.
* `slotValid_buildSlot_corrupted`: a built slot is valid, and its corruptions are not.
-/

namespace SmartTag

/-! ## The CRC as a shift register -/

/-- The polynomial of `crc16_ccitt`. -/
def crcPoly : BitVec 16 := 0x1021

theorem top_bit_iff (crc : UInt16) : crc &&& 0x8000 ≠ 0 ↔ crc.toBitVec.msb = true := by
  have hbits : (crc &&& 0x8000).toBitVec = crc.toBitVec &&& BitVec.twoPow 16 15 := rfl
  rw [Ne, ← UInt16.toBitVec_inj, hbits, BitVec.and_twoPow, BitVec.msb_eq_getLsbD_last]
  cases crc.toBitVec.getLsbD 15 <;> decide

theorem toBitVec_crcBit (crc : UInt16) :
    (crcBit crc).toBitVec = Crc.shift crcPoly crc.toBitVec := by
  unfold crcBit Crc.shift
  by_cases h : crc &&& 0x8000 ≠ 0
  · rw [if_pos h, if_pos ((top_bit_iff crc).mp h)]
    rfl
  · rw [if_neg h, if_neg fun h' => h ((top_bit_iff crc).mpr h')]
    rfl

theorem toBitVec_crcByte (crc : UInt16) (b : UInt8) :
    (crcByte crc b).toBitVec = Crc.push crcPoly 8 crc.toBitVec b.toBitVec := by
  have hfold (c : UInt16) :
      ((List.range 8).foldl (fun c _ => crcBit c) c).toBitVec =
        Crc.shifts crcPoly 8 c.toBitVec := by
    have hiterate : (List.range 8).foldl (fun c _ => crcBit c) c = crcBit^[8] c := rfl
    rw [hiterate, Crc.shifts]
    exact Function.Semiconj.iterate_right (fun c => toBitVec_crcBit c) 8 c
  rw [crcByte, hfold]
  rfl

/-- **The CRC detects a change of two neighbouring bytes.** -/
theorem detects_crcByte : Crc.Detects crcByte := by
  have hpush := Crc.detects_push crcPoly (by decide) (n := 8) (by decide)
  constructor
  · intro crc crc' b h
    have hbits := congrArg UInt16.toBitVec h
    rw [toBitVec_crcByte, toBitVec_crcByte] at hbits
    exact UInt16.toBitVec_inj.mp (hpush.state hbits)
  · intro crc a b a' b' h
    have hbits := congrArg UInt16.toBitVec h
    simp only [toBitVec_crcByte] at hbits
    obtain ⟨ha, hb⟩ := hpush.pair hbits
    exact ⟨UInt8.toBitVec_inj.mp ha, UInt8.toBitVec_inj.mp hb⟩

/-! ## Slots -/

/-- An image of the same size that differs from `image`, either in no byte but two neighbouring
ones under the CRC, or in no byte but those of the header. -/
structure Corrupts (image corrupted : List UInt8) : Prop where
  length : corrupted.length = image.length
  differs : corrupted ≠ image
  extent :
    (∃ i, flashLogHeaderSize ≤ i ∧ Crc.SameOutside i image corrupted) ∨
      corrupted.drop flashLogHeaderSize = image.drop flashLogHeaderSize

theorem take_eq_of_sameOutside {i : Nat} {xs ys : List UInt8} (h : Crc.SameOutside i xs ys)
    {n : Nat} (hn : n ≤ i) : xs.take n = ys.take n := by
  refine List.ext_getElem? fun j => ?_
  rw [List.getElem?_take, List.getElem?_take]
  split_ifs with hj
  · exact h.same j (by omega) (by omega)
  · rfl

theorem sameOutside_drop {i : Nat} {xs ys : List UInt8} (h : Crc.SameOutside i xs ys) {n : Nat}
    (hn : n ≤ i) : Crc.SameOutside (i - n) (xs.drop n) (ys.drop n) := by
  have hlength := h.length
  have hinside := h.inside
  refine ⟨by simp [hlength], by simp; omega, ?_⟩
  intro j hj hj'
  rw [List.getElem?_drop, List.getElem?_drop]
  exact h.same _ (by omega) (by omega)

variable {s : Slot} {corrupted : List UInt8}

/-- Under the CRC, a change that the check does not notice is none. -/
theorem eq_of_slotValid_protected (hvalid : slotValid s = true) {i : Nat}
    (hi : flashLogHeaderSize ≤ i) (hsame : Crc.SameOutside i s.toBytes corrupted)
    (h : slotValid (Slot.ofBytes corrupted) = true) : corrupted = s.toBytes := by
  have hsize : 8 ≤ s.toBytes.length := by simp [Slot.length_toBytes]
  have htake := take_eq_of_sameOutside hsame hi
  have hhdr : (Slot.ofBytes corrupted).hdr = s.hdr := by
    rw [← Slot.hdr_ofBytes_congr htake, Slot.ofBytes_toBytes]
  rw [slotValid, Bool.and_eq_true, beq_iff_eq, beq_iff_eq] at hvalid h
  have hcrc : slotCrc s = slotCrc (Slot.ofBytes corrupted) := by
    rw [← hvalid.2, ← h.2, hhdr]
  unfold slotCrc at hcrc
  rw [Slot.protectedBytes_ofBytes (hsame.length ▸ hsize), ← Slot.drop_toBytes] at hcrc
  have hdrop := Crc.foldl_eq_of_window detects_crcByte (sameOutside_drop hsame hi) hcrc
  calc
    corrupted = corrupted.take 4 ++ corrupted.drop 4 := (List.take_append_drop 4 corrupted).symm
    _ = s.toBytes.take 4 ++ s.toBytes.drop 4 := by
      rw [show s.toBytes.take 4 = corrupted.take 4 from htake,
        show s.toBytes.drop 4 = corrupted.drop 4 from hdrop]
    _ = s.toBytes := List.take_append_drop 4 s.toBytes

/-- A valid slot's header is determined by the rest of it. -/
theorem eq_of_slotValid_header (hvalid : slotValid s = true)
    (hlength : corrupted.length = s.toBytes.length)
    (hsame : corrupted.drop flashLogHeaderSize = s.toBytes.drop flashLogHeaderSize)
    (h : slotValid (Slot.ofBytes corrupted) = true) : corrupted = s.toBytes := by
  have hsize : 8 ≤ corrupted.length := by simp [hlength, Slot.length_toBytes]
  have hprotected : (Slot.ofBytes corrupted).protectedBytes = s.protectedBytes := by
    rw [Slot.protectedBytes_ofBytes hsize, ← Slot.drop_toBytes]
    exact hsame
  rw [slotValid, Bool.and_eq_true, beq_iff_eq, beq_iff_eq] at hvalid h
  have hcrc : slotCrc (Slot.ofBytes corrupted) = slotCrc s := by
    rw [slotCrc, slotCrc, hprotected]
  have hhdr : (Slot.ofBytes corrupted).hdr = s.hdr :=
    SlotHeader.ext (h.1.trans hvalid.1.symm) (h.2.trans (hcrc.trans hvalid.2.symm))
  rw [← Slot.toBytes_ofBytes_of_le hsize, Slot.toBytes, Slot.toBytes, hhdr, hprotected]

/-- **The slot built for a record is valid, and its corruptions are not.** Neither is an erased
slot. -/
theorem slotValid_buildSlot_corrupted (payloadSize seq : Nat) (record : List UInt8) :
    slotValid (Slot.ofBytes (buildSlot payloadSize seq record).toBytes) = true ∧
      (∀ corrupted, Corrupts (buildSlot payloadSize seq record).toBytes corrupted →
        slotValid (Slot.ofBytes corrupted) = false) ∧
      slotValid (Slot.ofBytes (Nor.blank flashLogSlotSize)) = false := by
  have hvalid := slotValid_buildSlot payloadSize seq record
  refine ⟨?_, ?_, not_slotValid_blank⟩
  · rw [Slot.ofBytes_toBytes]
    exact hvalid
  · intro corrupted h
    by_contra hcorrupted
    rw [Bool.not_eq_false] at hcorrupted
    rcases h.extent with ⟨i, hi, hsame⟩ | hsame
    · exact h.differs (eq_of_slotValid_protected hvalid hi hsame hcorrupted)
    · exact h.differs (eq_of_slotValid_header hvalid h.length hsame hcorrupted)

end SmartTag
