import SmartTag.Basic
import SmartTag.Storage.Slot

/-!
# The flash manager

A circular log over a flash partition, following `src/storage/flash_manager.c`: fixed-size
slots, appended in order, the sector the head enters erased first. The RAM state is rebuilt at
boot by scanning the partition.

The partition is `FlashArea`. Its medium is NOR flash, and it says how the coming erase and
write calls end: `results` lists their return codes, and an exhausted list means success. A
call that returns an error leaves the medium as it was.
-/

namespace SmartTag

/-! ## The partition -/

/-- A flash partition as the flash map presents it. -/
structure FlashArea where
  /-- Its size in bytes, a 32-bit `size_t`. -/
  faSize : Nat
  faSize_lt : faSize < 2 ^ 32
  /-- The page (sector) size the driver reports at its offset. -/
  pageSize : Nat
  mem : Nor.Memory
  /-- What `flash_area_open` and `flash_get_page_info_by_offs` return. -/
  openErr : Int
  pageErr : Int
  deviceReady : Bool
  /-- Return codes of the coming erase and write calls. -/
  results : List Int

/-- `flash_area_read`: a range outside the partition is refused. -/
def flashAreaRead (fa : FlashArea) (off len : Nat) : Except Int (List UInt8) :=
  if fa.faSize < off + len then .error (-EINVAL) else .ok (Nor.read fa.mem off len)

/-- The return code of an erase or write call, and the partition with that call taken. -/
def FlashArea.takeResult (fa : FlashArea) : Int × FlashArea :=
  (fa.results.headD 0, { fa with results := fa.results.tail })

/-- `flash_area_write`: programs the bytes, or fails and leaves the medium alone. -/
def flashAreaWrite (fa : FlashArea) (off : Nat) (bs : List UInt8) : Int × FlashArea :=
  if fa.faSize < off + bs.length then (-EINVAL, fa)
  else
    let (err, fa) := fa.takeResult
    if err ≠ 0 then (err, fa) else (0, { fa with mem := Nor.program fa.mem off bs })

/-- `flash_area_erase`: erases the range, or fails and leaves the medium alone. -/
def flashAreaErase (fa : FlashArea) (off len : Nat) : Int × FlashArea :=
  if fa.faSize < off + len then (-EINVAL, fa)
  else
    let (err, fa) := fa.takeResult
    if err ≠ 0 then (err, fa) else (0, { fa with mem := Nor.erase fa.mem off len })

/-! ## The log -/

/-- `struct flash_log`. -/
structure FlashLog where
  payloadSize : Nat
  area : FlashArea
  sectorSize : Nat
  totalSlots : Nat
  slotsPerSector : Nat
  headSlot : Nat
  tailSlot : Nat
  usedSlots : Nat
  nextSeq : Nat
  ready : Bool

/-- `struct flash_log_info`. -/
structure FlashLogInfo where
  recordCount : Nat
  capacity : Nat
  oldestSeq : Nat
  newestSeq : Nat
  recordSize : Nat
  ready : Bool
deriving DecidableEq, Repr

/-- What a log owner declares before `flash_log_init`: the payload size, nothing in RAM yet. -/
def FlashLog.declare (payloadSize : Nat) (area : FlashArea) : FlashLog where
  payloadSize := payloadSize
  area := area
  sectorSize := 0
  totalSlots := 0
  slotsPerSector := 0
  headSlot := 0
  tailSlot := 0
  usedSlots := 0
  nextSeq := 0
  ready := false

section

variable [Crc16]

/-- `read_slot`. -/
def readSlot (log : FlashLog) (index : Nat) : Except Int Slot :=
  match flashAreaRead log.area (index * flashLogSlotSize) flashLogSlotSize with
  | .error err => .error err
  | .ok bs => .ok (Slot.ofBytes bs)

/-- The slot at `index` when it can be read and is valid: the test every loop over slots
makes first. -/
def readValid (log : FlashLog) (index : Nat) : Option Slot :=
  match readSlot log index with
  | .error _ => none
  | .ok s => if slotValid s then some s else none

/-! ### Boot -/

/-- The locals of `scan`, with the tail and the count it keeps in the log. -/
structure ScanState where
  usedSlots : Nat
  newestSeq : Nat
  newestSlot : Nat
  oldestSeq : Nat
  tailSlot : Nat
deriving DecidableEq, Repr

/-- One iteration of the loop of `scan`. -/
def scanSlot (log : FlashLog) (st : ScanState) (i : Nat) : ScanState :=
  match readValid log i with
  | none => st
  | some s =>
    let st := { st with usedSlots := st.usedSlots + 1 }
    let st :=
      if st.newestSeq < s.seq.toNat then { st with newestSeq := s.seq.toNat, newestSlot := i }
      else st
    if s.seq.toNat < st.oldestSeq then { st with oldestSeq := s.seq.toNat, tailSlot := i }
    else st

/-- The loop of `scan` over the first `slots` slots. -/
def scanLoop (log : FlashLog) (slots : Nat) : ScanState :=
  (List.range slots).foldl (scanSlot log)
    { usedSlots := 0, newestSeq := 0, newestSlot := 0, oldestSeq := uint32Max, tailSlot := 0 }

/-- `scan`: the newest and oldest sequence numbers on flash identify the head and the tail. -/
def scan (log : FlashLog) : FlashLog :=
  let st := scanLoop log log.totalSlots
  if st.usedSlots = 0 then
    { log with headSlot := 0, tailSlot := st.tailSlot, usedSlots := 0, nextSeq := 1 }
  else
    { log with
      headSlot := u32 (st.newestSlot + 1) % log.totalSlots
      tailSlot := st.tailSlot
      usedSlots := st.usedSlots
      nextSeq := u32 (st.newestSeq + 1) }

def flashLogInit (log : FlashLog) : Int × FlashLog :=
  let log := { log with ready := false }
  if log.payloadSize = 0 ∨ maxPayload < log.payloadSize then (-EINVAL, log)
  else if log.area.openErr ≠ 0 then (log.area.openErr, log)
  else if ¬ log.area.deviceReady then (-ENODEV, log)
  else if log.area.pageErr ≠ 0 then (log.area.pageErr, log)
  else
    let log := { log with
      sectorSize := log.area.pageSize
      slotsPerSector := u32 (log.area.pageSize / flashLogSlotSize)
      totalSlots := u32 (log.area.faSize / flashLogSlotSize) }
    if log.slotsPerSector = 0 ∨ log.totalSlots < log.slotsPerSector then (-EINVAL, log)
    else
      -- The ring is a whole number of sectors, so wrapping stays aligned.
      let log := { log with totalSlots := log.totalSlots - log.totalSlots % log.slotsPerSector }
      (0, { scan log with ready := true })

/-! ### Appending -/

/-- `make_room`: erases the sector the head is entering. -/
def makeRoom (log : FlashLog) : Int × FlashLog :=
  if log.headSlot % log.slotsPerSector ≠ 0 then (0, log)
  else
    let lost := (List.range log.slotsPerSector).countP fun i =>
      (readValid log (u32 (log.headSlot + i))).isSome
    let (err, area) := flashAreaErase log.area (log.headSlot * flashLogSlotSize) log.sectorSize
    let log := { log with area := area }
    if err ≠ 0 then (err, log)
    else if 0 < lost then
      (0, { log with
        usedSlots := log.usedSlots - min log.usedSlots lost
        tailSlot := u32 (log.headSlot + log.slotsPerSector) % log.totalSlots })
    else (0, log)

/-- The slot `flash_log_append` is about to write. -/
def nextSlot (log : FlashLog) (record : List UInt8) : Slot :=
  buildSlot log.payloadSize log.nextSeq record

/-- `flash_log_append`: the sequence number given to the record, or the error. -/
def flashLogAppend (log : FlashLog) (record : List UInt8) : Except Int Nat × FlashLog :=
  if ¬ log.ready then (.error (-ENODEV), log)
  else
    let (err, log) := makeRoom log
    if err ≠ 0 then (.error err, log)
    else
      let (err, area) := flashAreaWrite log.area (log.headSlot * flashLogSlotSize)
        (nextSlot log record).toBytes
      let log := { log with area := area }
      if err ≠ 0 then (.error err, log)
      else
        let log := if log.usedSlots = 0 then { log with tailSlot := log.headSlot } else log
        (.ok log.nextSeq,
          { log with
            nextSeq := u32 (log.nextSeq + 1)
            usedSlots := u32 (log.usedSlots + 1)
            headSlot := u32 (log.headSlot + 1) % log.totalSlots })

/-! ### Reading -/

/-- How far past the tail `flash_log_read` starts: the seek by subtraction. -/
def seekFirst (log : FlashLog) (startSeq : Nat) : Nat :=
  if 0 < log.usedSlots then
    match readValid log log.tailSlot with
    | some s => if s.seq.toNat < startSeq then startSeq - s.seq.toNat else 0
    | none => 0
  else 0

/-- The loop of `flash_log_read` over the offsets still to visit, with the slots found. -/
def readLoop (log : FlashLog) (startSeq max : Nat) : List Nat → List Slot → List Slot
  | [], found => found
  | i :: is, found =>
    if found.length < max then
      match readValid log (u32 (log.tailSlot + i) % log.totalSlots) with
      | none => readLoop log startSeq max is found
      | some s =>
        if s.seq.toNat < startSeq then readLoop log startSeq max is found
        else readLoop log startSeq max is (found ++ [s])
    else found

/-- The slots whose payloads `flash_log_read` copies out. -/
def readSlots (log : FlashLog) (startSeq max : Nat) : List Slot :=
  let first := seekFirst log startSeq
  readLoop log startSeq max (List.range' first (log.usedSlots - first)) []

/-- `flash_log_read`: the records copied out (their number is the return value). -/
def flashLogRead (log : FlashLog) (startSeq max : Nat) : Except Int (List (List UInt8)) :=
  if ¬ log.ready then .error (-ENODEV)
  else .ok ((readSlots log startSeq max).map fun s => s.payload.take log.payloadSize)

def flashLogGetOldest (log : FlashLog) : Except Int (List UInt8) :=
  if ¬ log.ready then .error (-ENODEV)
  else if 0 < log.usedSlots then
    match readValid log log.tailSlot with
    | some s => .ok (s.payload.take log.payloadSize)
    | none => .error (-ENOENT)
  else .error (-ENOENT)

def flashLogGetInfo (log : FlashLog) : FlashLogInfo :=
  if ¬ log.ready then
    { recordCount := 0, capacity := 0, oldestSeq := 0, newestSeq := 0
      recordSize := log.payloadSize, ready := false }
  else
    { recordCount := log.usedSlots
      capacity := log.totalSlots
      oldestSeq :=
        if 0 < log.usedSlots then
          match readValid log log.tailSlot with
          | some s => s.seq.toNat
          | none => 0
        else 0
      newestSeq := if 0 < log.usedSlots then u32 (log.nextSeq + uint32Max) else 0
      recordSize := log.payloadSize
      ready := true }

/-! ### Erasing -/

/-- The loop of `flash_log_erase`, one sector at a time. `fuel` bounds the iterations. -/
def eraseLoop (sectorSize total : Nat) : Nat → FlashArea → Nat → Int × FlashArea
  | 0, area, _ => (0, area)
  | fuel + 1, area, offset =>
    if offset < total then
      let chunk := min sectorSize (total - offset)
      let (err, area) := flashAreaErase area offset chunk
      if err ≠ 0 then (err, area) else eraseLoop sectorSize total fuel area (offset + chunk)
    else (0, area)

def flashLogErase (log : FlashLog) : Int × FlashLog :=
  if ¬ log.ready then (-ENODEV, log)
  else
    let total := log.totalSlots * flashLogSlotSize
    let (err, area) := eraseLoop log.sectorSize total log.totalSlots log.area 0
    let log := { log with area := area }
    if err = 0 then (0, { log with headSlot := 0, tailSlot := 0, usedSlots := 0, nextSeq := 1 })
    else (err, log)

/-- What the next boot finds after a power loss: the partition survives, the RAM does not. -/
def powerOn (log : FlashLog) : FlashLog :=
  (flashLogInit (FlashLog.declare log.payloadSize log.area)).2

end

end SmartTag
