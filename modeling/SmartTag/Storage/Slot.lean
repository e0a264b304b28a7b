import SmartTag.Lib.LittleEndian
import SmartTag.Lib.Nor

/-!
# Log slots

A log record lives in a slot of 32 bytes: a magic, a CRC over the sequence number and the
payload, the sequence number, the payload. The record is shorter than the payload area and is
padded with zeros.

The CRC routine belongs to the RTOS and is a parameter here (`Crc16`): nothing about the log
depends on which function it is. `hostCrc16` is the routine the host tests link instead.

* `Slot.ofBytes_toBytes`: a slot image reads back as the slot.
* `slotValid_buildSlot`: a freshly built slot is valid.
* `not_slotValid_of_magic`: an erased slot is not.
* `covers_of_readable`: a record programmed over old bytes is readable only if they cover it.
-/

namespace SmartTag

/-- The size of every slot, `FLASH_LOG_SLOT_SIZE`. -/
def flashLogSlotSize : Nat := 32

/-- The magic and CRC in front, `FLASH_LOG_HEADER_SIZE`. -/
def flashLogHeaderSize : Nat := 4

/-- What is left for the sequence number and the payload, `FLASH_LOG_MAX_PAYLOAD`. -/
def flashLogMaxPayload : Nat := flashLogSlotSize - flashLogHeaderSize

/-- The payload area of a slot, `MAX_PAYLOAD`. -/
def maxPayload : Nat := flashLogMaxPayload - 4

def recordMagic : UInt16 := 0x5a47

@[ext]
structure SlotHeader where
  magic : UInt16
  crc : UInt16
deriving DecidableEq, Repr

@[ext]
structure Slot where
  hdr : SlotHeader
  seq : UInt32
  payload : List UInt8
deriving DecidableEq, Repr

namespace Slot

/-- The part of the slot the CRC protects. -/
def protectedBytes (s : Slot) : List UInt8 := LittleEndian.toBytes 4 s.seq.toNat ++ s.payload

/-- The packed image of a slot. -/
def toBytes (s : Slot) : List UInt8 :=
  LittleEndian.toBytes 2 s.hdr.magic.toNat ++ (LittleEndian.toBytes 2 s.hdr.crc.toNat ++
    s.protectedBytes)

/-- Read a packed image. -/
def ofBytes (bs : List UInt8) : Slot where
  hdr :=
    { magic := UInt16.ofNat (LittleEndian.ofBytes (bs.take 2))
      crc := UInt16.ofNat (LittleEndian.ofBytes ((bs.drop 2).take 2)) }
  seq := UInt32.ofNat (LittleEndian.ofBytes ((bs.drop 4).take 4))
  payload := bs.drop 8

theorem length_toBytes (s : Slot) : s.toBytes.length = 8 + s.payload.length := by
  simp only [toBytes, protectedBytes, List.length_append, LittleEndian.length_toBytes]
  omega

theorem ofBytes_toBytes (s : Slot) : ofBytes s.toBytes = s := by
  have hmagic := s.hdr.magic.toNat_lt
  have hcrc := s.hdr.crc.toNat_lt
  have hseq := s.seq.toNat_lt
  have h2 (n : Nat) (xs : List UInt8) :
      (LittleEndian.toBytes 2 n ++ xs).take 2 = LittleEndian.toBytes 2 n :=
    List.take_left' (LittleEndian.length_toBytes 2 n)
  have h2' (n : Nat) (xs : List UInt8) : (LittleEndian.toBytes 2 n ++ xs).drop 2 = xs :=
    List.drop_left' (LittleEndian.length_toBytes 2 n)
  have h4 (n : Nat) (xs : List UInt8) :
      (LittleEndian.toBytes 4 n ++ xs).take 4 = LittleEndian.toBytes 4 n :=
    List.take_left' (LittleEndian.length_toBytes 4 n)
  have h4' (n : Nat) (xs : List UInt8) : (LittleEndian.toBytes 4 n ++ xs).drop 4 = xs :=
    List.drop_left' (LittleEndian.length_toBytes 4 n)
  have hd4 (bs : List UInt8) : bs.drop 4 = (bs.drop 2).drop 2 := by simp
  have hd8 (bs : List UInt8) : bs.drop 8 = ((bs.drop 2).drop 2).drop 4 := by simp
  rw [ofBytes, hd8, hd4, toBytes, h2, h2', h2, h2', protectedBytes, h4, h4',
    LittleEndian.ofBytes_toBytes_of_lt (by simpa using hmagic),
    LittleEndian.ofBytes_toBytes_of_lt (by simpa using hcrc),
    LittleEndian.ofBytes_toBytes_of_lt (by simpa using hseq),
    UInt16.ofNat_toNat, UInt16.ofNat_toNat, UInt32.ofNat_toNat]

/-- Every image that has room for the header and the number is that of a slot. -/
theorem toBytes_ofBytes_of_le {bs : List UInt8} (h : 8 ≤ bs.length) : (ofBytes bs).toBytes = bs := by
  have hfield (xs : List UInt8) (w : Nat) (hlen : xs.length = w) {m : Nat} (hm : m = 256 ^ w) :
      LittleEndian.toBytes w (LittleEndian.ofBytes xs % m) = xs := by
    have hlt := LittleEndian.ofBytes_lt xs
    rw [hlen, ← hm] at hlt
    rw [Nat.mod_eq_of_lt hlt, ← hlen]
    exact LittleEndian.toBytes_ofBytes xs
  have hmagic := hfield (bs.take 2) 2 (by simp; omega) (m := 2 ^ 16) (by norm_num)
  have hcrc := hfield ((bs.drop 2).take 2) 2 (by simp; omega) (m := 2 ^ 16) (by norm_num)
  have hseq := hfield ((bs.drop 4).take 4) 4 (by simp; omega) (m := 2 ^ 32) (by norm_num)
  simp only [toBytes, ofBytes, protectedBytes, UInt16.toNat_ofNat', UInt32.toNat_ofNat',
    hmagic, hcrc, hseq]
  have h8 : bs.drop 8 = (bs.drop 4).drop 4 := by simp
  have h4 : bs.drop 4 = (bs.drop 2).drop 2 := by simp
  rw [h8, List.take_append_drop, h4, List.take_append_drop, List.take_append_drop]

/-- Every image of the right size is that of a slot. -/
theorem toBytes_ofBytes {bs : List UInt8} (h : bs.length = flashLogSlotSize) :
    (ofBytes bs).toBytes = bs :=
  toBytes_ofBytes_of_le (h.symm ▸ by decide)

/-- The header is in front of the bytes the CRC protects. -/
theorem drop_toBytes (s : Slot) : s.toBytes.drop 4 = s.protectedBytes := by
  rw [toBytes, ← List.append_assoc]
  exact List.drop_left' (by simp [LittleEndian.length_toBytes])

theorem protectedBytes_ofBytes {bs : List UInt8} (h : 8 ≤ bs.length) :
    (ofBytes bs).protectedBytes = bs.drop 4 := by
  rw [← drop_toBytes, toBytes_ofBytes_of_le h]

/-- The header is read from the first four bytes. -/
theorem hdr_ofBytes_congr {bs bs' : List UInt8} (h : bs.take 4 = bs'.take 4) :
    (ofBytes bs).hdr = (ofBytes bs').hdr := by
  have hmagic (xs : List UInt8) : xs.take 2 = (xs.take 4).take 2 := by
    rw [List.take_take]
    rfl
  have hcrc (xs : List UInt8) : (xs.drop 2).take 2 = (xs.take 4).drop 2 := by
    rw [List.drop_take]
  simp only [ofBytes]
  rw [hmagic bs, hcrc bs, h, ← hmagic, ← hcrc]

end Slot

/-! ## Validity -/

/-- The RTOS's CRC routine, `crc16_ccitt`. -/
class Crc16 where
  crc16Ccitt : UInt16 → List UInt8 → UInt16

section

variable [Crc16]

def slotCrc (s : Slot) : UInt16 := Crc16.crc16Ccitt 0xffff s.protectedBytes

def slotValid (s : Slot) : Bool := s.hdr.magic == recordMagic && s.hdr.crc == slotCrc s

/-- The payload area holding `record`, of which `payloadSize` bytes are copied. -/
def slotPayload (payloadSize : Nat) (record : List UInt8) : List UInt8 :=
  record.take payloadSize ++ List.replicate (maxPayload - (record.take payloadSize).length) 0

/-- The slot `flash_log_append` writes for `record` under sequence number `seq`. -/
def buildSlot (payloadSize seq : Nat) (record : List UInt8) : Slot :=
  let s : Slot :=
    { hdr := { magic := recordMagic, crc := 0xffff }
      seq := UInt32.ofNat seq
      payload := slotPayload payloadSize record }
  { s with hdr := { s.hdr with crc := slotCrc s } }

theorem slotValid_buildSlot (payloadSize seq : Nat) (record : List UInt8) :
    slotValid (buildSlot payloadSize seq record) = true := by
  simp [slotValid, buildSlot, slotCrc, Slot.protectedBytes]

theorem seq_buildSlot {payloadSize seq : Nat} (record : List UInt8) (h : seq < 2 ^ 32) :
    (buildSlot payloadSize seq record).seq.toNat = seq := by
  simp only [buildSlot, UInt32.toNat_ofNat']
  exact Nat.mod_eq_of_lt h

theorem length_buildSlot {payloadSize : Nat} (seq : Nat) (record : List UInt8)
    (h : payloadSize ≤ maxPayload) :
    (buildSlot payloadSize seq record).toBytes.length = flashLogSlotSize := by
  have hlen : (record.take payloadSize).length ≤ maxPayload := by
    rw [List.length_take]
    omega
  have hpay : (slotPayload payloadSize record).length = maxPayload := by
    rw [slotPayload, List.length_append, List.length_replicate]
    omega
  rw [Slot.length_toBytes]
  show 8 + (slotPayload payloadSize record).length = flashLogSlotSize
  rw [hpay]
  rfl

/-- The copy back out of a slot returns the record that was appended. -/
theorem payload_buildSlot {payloadSize : Nat} (seq : Nat) {record : List UInt8}
    (h : record.length = payloadSize) :
    (buildSlot payloadSize seq record).payload.take payloadSize = record := by
  show (slotPayload payloadSize record).take payloadSize = record
  rw [slotPayload, List.take_of_length_le (Nat.le_of_eq h), List.take_left' h]

/-- A slot whose first byte is not the magic's is not valid, whatever its CRC. -/
theorem not_slotValid_of_magic {bs : List UInt8} (h : (Slot.ofBytes bs).hdr.magic ≠ recordMagic) :
    slotValid (Slot.ofBytes bs) = false := by
  simp [slotValid, h]

theorem not_slotValid_blank : slotValid (Slot.ofBytes (Nor.blank flashLogSlotSize)) = false :=
  not_slotValid_of_magic (by decide)

/-! ## Programming over old bytes -/

section

variable {payloadSize seq : Nat} {record old new : List UInt8}
  (hback : Slot.ofBytes new = buildSlot payloadSize seq record)

include hback

/-- Clearing bits can only lower the number, so one that is not below is unchanged. -/
theorem seq_and_of_le (hseq : seq < 2 ^ 32) (hold : old.length = flashLogSlotSize)
    (hnew : new.length = flashLogSlotSize)
    (hge : seq ≤ (Slot.ofBytes (Nor.and old new)).seq.toNat) :
    (Slot.ofBytes (Nor.and old new)).seq = (buildSlot payloadSize seq record).seq := by
  have hold : old.length = 32 := hold
  have hnew : new.length = 32 := hnew
  have hle := LittleEndian.ofBytes_and_le ((old.drop 4).take 4) ((new.drop 4).take 4)
    (by simp [hold, hnew])
  have hlt := LittleEndian.ofBytes_lt ((new.drop 4).take 4)
  have hw : ((new.drop 4).take 4).length = 4 := by simp [hnew]
  have hn : LittleEndian.ofBytes ((new.drop 4).take 4) = seq := by
    have hval := congrArg (fun s => s.seq.toNat) hback
    rw [hw] at hlt
    simp only [seq_buildSlot record hseq, Slot.ofBytes, UInt32.toNat_ofNat'] at hval
    rwa [Nat.mod_eq_of_lt (by omega)] at hval
  apply UInt32.toNat_inj.1
  rw [seq_buildSlot record hseq]
  simp only [Slot.ofBytes, Nor.and, List.drop_zipWith, List.take_zipWith,
    UInt32.toNat_ofNat'] at hge ⊢
  rw [hn] at hle
  rw [Nat.mod_eq_of_lt (by omega)] at hge ⊢
  omega

/-- The padding has no bit to clear, so a payload that starts with the record is unchanged. -/
theorem payload_and_of_take (hps : payloadSize ≤ maxPayload)
    (hrec : record.length = payloadSize) (hold : old.length = flashLogSlotSize)
    (hpay : (Slot.ofBytes (Nor.and old new)).payload.take payloadSize = record) :
    (Slot.ofBytes (Nor.and old new)).payload = (buildSlot payloadSize seq record).payload := by
  have hold : old.length = 32 := hold
  have hp : new.drop 8 = slotPayload payloadSize record := congrArg Slot.payload hback
  have hsplit := List.take_append_drop payloadSize (Slot.ofBytes (Nor.and old new)).payload
  rw [hpay] at hsplit
  rw [← hsplit]
  show record ++ ((Nor.and old new).drop 8).drop payloadSize = slotPayload payloadSize record
  rw [Nor.and, List.drop_zipWith, hp, List.drop_zipWith]
  rw [slotPayload, List.take_of_length_le hrec.le, List.drop_left' hrec]
  congr 1
  refine List.ext_getElem ?_ fun i hi hi' => ?_
  · simp [hold, maxPayload, flashLogMaxPayload, flashLogSlotSize, flashLogHeaderSize] at hps ⊢
    omega
  · simp

end

/-- Programming a slot image over old bytes leaves a valid slot with this number and record only
if no bit the image needs had been cleared. -/
theorem covers_of_readable {payloadSize seq : Nat} {record old : List UInt8}
    (hps : payloadSize ≤ maxPayload) (hrec : record.length = payloadSize) (hseq : seq < 2 ^ 32)
    (hold : old.length = flashLogSlotSize)
    (hv : slotValid (Slot.ofBytes (Nor.and old (buildSlot payloadSize seq record).toBytes)) = true)
    (hge : seq ≤ (Slot.ofBytes (Nor.and old (buildSlot payloadSize seq record).toBytes)).seq.toNat)
    (hpay : (Slot.ofBytes (Nor.and old (buildSlot payloadSize seq record).toBytes)).payload.take
      payloadSize = record) :
    Nor.Covers old (buildSlot payloadSize seq record).toBytes := by
  have hnew := length_buildSlot seq record hps
  generalize hb : (buildSlot payloadSize seq record).toBytes = new at *
  have hback : Slot.ofBytes new = buildSlot payloadSize seq record := by
    rw [← hb, Slot.ofBytes_toBytes]
  have hlen : (Nor.and old new).length = flashLogSlotSize := by simp [hold, hnew]
  have hseq' := seq_and_of_le hback hseq hold hnew hge
  have hpay' := payload_and_of_take hback hps hrec hold hpay
  have hhdr : (Slot.ofBytes (Nor.and old new)).hdr = (buildSlot payloadSize seq record).hdr := by
    have hcrc : slotCrc (Slot.ofBytes (Nor.and old new)) =
        slotCrc (buildSlot payloadSize seq record) := by
      rw [slotCrc, slotCrc, Slot.protectedBytes, Slot.protectedBytes, hseq', hpay']
    have hv' := slotValid_buildSlot payloadSize seq record
    rw [slotValid, Bool.and_eq_true, beq_iff_eq, beq_iff_eq] at hv hv'
    exact SlotHeader.ext (hv.1.trans hv'.1.symm) (hv.2.trans (hcrc.trans hv'.2.symm))
  rw [Nor.Covers, ← Slot.toBytes_ofBytes hlen, Slot.ext hhdr hseq' hpay', hb]

end

/-! ## The host tests' CRC -/

/-- One bit of the CRC-16 shift register. -/
def crcBit (crc : UInt16) : UInt16 :=
  if crc &&& 0x8000 ≠ 0 then (crc <<< 1) ^^^ 0x1021 else crc <<< 1

/-- One byte: eight bits, most significant first. -/
def crcByte (crc : UInt16) (b : UInt8) : UInt16 :=
  (List.range 8).foldl (fun c _ => crcBit c) (crc ^^^ (b.toUInt16 <<< 8))

/-- CRC-16-CCITT, polynomial `0x1021`, as the host tests define it. -/
instance hostCrc16 : Crc16 where
  crc16Ccitt seed src := src.foldl crcByte seed

end SmartTag
