import SmartTag.App.Types

/-!
# Settings blobs

Encoding and decoding of the persistent structures, following `src/storage/config_migrate.c`. A
value in NVS is a header (schema and body size) and the body; the protocol v3 firmware stored
the body alone, and such a value is told by its length.

* `tagStatsDecode_tagStatsEncode`, `tagConfigDecode_tagConfigEncode`: what is encoded decodes.
-/

namespace SmartTag

def tagConfigSchema : UInt16 := 1
def tagStatsSchema : UInt16 := 1

def tagConfigV0Size : Nat := 40
def tagStatsV0Size : Nat := 40

/-- `struct tag_settings_header`. -/
structure TagSettingsHeader where
  schema : UInt16
  bodySize : UInt16
deriving DecidableEq, Repr

namespace TagSettingsHeader

/-- `sizeof(struct tag_settings_header)`. -/
def size : Nat := 4

def toBytes (h : TagSettingsHeader) : List UInt8 :=
  Packed.pack [(2, h.schema.toNat), (2, h.bodySize.toNat)]

def ofBytes (bs : List UInt8) : TagSettingsHeader where
  schema := Packed.getU16 bs 0
  bodySize := Packed.getU16 bs 2

@[simp] theorem length_toBytes (h : TagSettingsHeader) : h.toBytes.length = size := by
  simp [toBytes, size, Packed.length_pack]

theorem ofBytes_toBytes_append (h : TagSettingsHeader) (body : List UInt8) :
    ofBytes (h.toBytes ++ body) = h := by
  have hlen : h.toBytes.length = 4 := length_toBytes h
  rw [ofBytes, Packed.getU16_append (by omega), Packed.getU16_append (by omega)]
  simp [toBytes]

end TagSettingsHeader

/-- `struct tag_stats_v0`. -/
structure TagStatsV0 where
  bootCount : UInt32
  totalUptimeS : UInt32
  motionCount : UInt32
  shockCount : UInt32
  freeFallCount : UInt32
  eventCount : UInt32
  movementDurationS : UInt32
  maxShockMg : UInt16
  minBatteryMv : UInt16
  zigbeeReports : UInt16
  bleConnections : UInt16
  sensorFaults : UInt16
  reserved : UInt16
deriving DecidableEq, Repr

def TagStatsV0.ofBytes (bs : List UInt8) : TagStatsV0 where
  bootCount := Packed.getU32 bs 0
  totalUptimeS := Packed.getU32 bs 4
  motionCount := Packed.getU32 bs 8
  shockCount := Packed.getU32 bs 12
  freeFallCount := Packed.getU32 bs 16
  eventCount := Packed.getU32 bs 20
  movementDurationS := Packed.getU32 bs 24
  maxShockMg := Packed.getU16 bs 28
  minBatteryMv := Packed.getU16 bs 30
  zigbeeReports := Packed.getU16 bs 32
  bleConnections := Packed.getU16 bs 34
  sensorFaults := Packed.getU16 bs 36
  reserved := Packed.getU16 bs 38

/-! ## Encoding -/

/-- `encode`: the bytes written, none when they do not fit in `max`. -/
def encode (schema : UInt16) (body : List UInt8) (max : Nat) : List UInt8 :=
  let header : TagSettingsHeader := { schema := schema, bodySize := UInt16.ofNat body.length }
  if max < TagSettingsHeader.size + body.length then [] else header.toBytes ++ body

def tagConfigEncode (config : TagConfig) (max : Nat) : List UInt8 :=
  encode tagConfigSchema config.toBytes max

def tagStatsEncode (stats : TagStatistics) (max : Nat) : List UInt8 :=
  encode tagStatsSchema stats.toBytes max

/-! ## Decoding -/

/-- `copy_onto_defaults`: the first `bodySize` bytes of `body`, then those of `defaults`. -/
def copyOntoDefaults (body : List UInt8) (bodySize : Nat) (defaults : List UInt8) : List UInt8 :=
  let n := min bodySize defaults.length
  body.take n ++ defaults.drop n

/-- The framed case of the two decoders: a header of a known schema whose body is all there. -/
def decodeFramed (schema : UInt16) (blob defaults : List UInt8) : Except Int (List UInt8) :=
  if blob.length < TagSettingsHeader.size then .error (-EINVAL)
  else
    let header := TagSettingsHeader.ofBytes blob
    if header.schema = 0 ∨ schema < header.schema then .error (-EINVAL)
    else if blob.length < TagSettingsHeader.size + header.bodySize.toNat then .error (-EINVAL)
    else .ok (copyOntoDefaults (blob.drop TagSettingsHeader.size) header.bodySize.toNat defaults)

def tagConfigDecode (blob : List UInt8) (out : TagConfig) : Int × TagConfig :=
  if blob.length = 0 then (-EINVAL, out)
  -- Protocol v3: the body was stored with no header.
  else if blob.length = tagConfigV0Size then
    (0, TagConfig.ofBytes (copyOntoDefaults blob blob.length TagConfig.defaults.toBytes))
  else
    match decodeFramed tagConfigSchema blob TagConfig.defaults.toBytes with
    | .error err => (err, out)
    | .ok image => (0, TagConfig.ofBytes image)

def tagStatsDecode (blob : List UInt8) (out : TagStatistics) : Int × TagStatistics :=
  if blob.length = 0 then (-EINVAL, out)
  -- Protocol v3: a trailing reserved field stood where the boot epoch is now.
  else if blob.length = tagStatsV0Size then
    let v0 := TagStatsV0.ofBytes blob
    (0,
      { bootCount := v0.bootCount
        totalUptimeS := v0.totalUptimeS
        motionCount := v0.motionCount
        shockCount := v0.shockCount
        freeFallCount := v0.freeFallCount
        eventCount := v0.eventCount
        movementDurationS := v0.movementDurationS
        maxShockMg := v0.maxShockMg
        minBatteryMv := v0.minBatteryMv
        zigbeeReports := v0.zigbeeReports
        bleConnections := v0.bleConnections
        sensorFaults := v0.sensorFaults
        bootEpochUtc := 0 })
  else
    match decodeFramed tagStatsSchema blob TagStatistics.zero.toBytes with
    | .error err => (err, out)
    | .ok image => (0, TagStatistics.ofBytes image)

/-! ## Round trips -/

theorem encode_of_le {schema : UInt16} {body : List UInt8} {max : Nat}
    (h : TagSettingsHeader.size + body.length ≤ max) :
    encode schema body max =
      (TagSettingsHeader.mk schema (UInt16.ofNat body.length)).toBytes ++ body :=
  if_neg (Nat.not_lt.2 h)

theorem length_encode {schema : UInt16} {body : List UInt8} {max : Nat}
    (h : TagSettingsHeader.size + body.length ≤ max) :
    (encode schema body max).length = TagSettingsHeader.size + body.length := by
  rw [encode_of_le h, List.length_append, TagSettingsHeader.length_toBytes]

/-- A body of the structure's own size decodes to itself. -/
theorem decodeFramed_encode {schema : UInt16} {body defaults : List UInt8} {max : Nat}
    (hschema : schema ≠ 0) (hsize : body.length < 2 ^ 16) (hlen : defaults.length = body.length)
    (h : TagSettingsHeader.size + body.length ≤ max) :
    decodeFramed schema (encode schema body max) defaults = .ok body := by
  have hbody : (UInt16.ofNat body.length).toNat = body.length := by
    rw [UInt16.toNat_ofNat', Nat.mod_eq_of_lt hsize]
  have hknown : ¬ (schema = 0 ∨ schema < schema) := by
    rintro (h0 | hlt)
    · exact hschema h0
    · exact UInt16.lt_irrefl _ hlt
  rw [decodeFramed, length_encode h, if_neg (by omega), encode_of_le h,
    TagSettingsHeader.ofBytes_toBytes_append]
  dsimp only
  rw [if_neg hknown, hbody, if_neg (Nat.lt_irrefl _),
    List.drop_left' (TagSettingsHeader.length_toBytes _), copyOntoDefaults, hlen, Nat.min_self,
    List.take_length, ← hlen, List.drop_length, List.append_nil]

theorem tagConfigDecode_tagConfigEncode {max : Nat} (h : 44 ≤ max) (config out : TagConfig) :
    tagConfigDecode (tagConfigEncode config max) out = (0, config) := by
  have hbody := config.length_toBytes
  have hfits : TagSettingsHeader.size + config.toBytes.length ≤ max := by rwa [hbody]
  have hlen : (tagConfigEncode config max).length = 44 := by
    rw [tagConfigEncode, length_encode hfits, hbody, TagSettingsHeader.size]
  rw [tagConfigDecode, if_neg (by omega), if_neg (by rw [hlen]; decide), tagConfigEncode,
    decodeFramed_encode (by decide) (by omega) (by rw [hbody, TagConfig.length_toBytes]) hfits]
  simp only [TagConfig.ofBytes_toBytes]

theorem tagStatsDecode_tagStatsEncode {max : Nat} (h : 46 ≤ max) (stats out : TagStatistics) :
    tagStatsDecode (tagStatsEncode stats max) out = (0, stats) := by
  have hbody := stats.length_toBytes
  have hfits : TagSettingsHeader.size + stats.toBytes.length ≤ max := by rwa [hbody]
  have hlen : (tagStatsEncode stats max).length = 46 := by
    rw [tagStatsEncode, length_encode hfits, hbody, TagSettingsHeader.size]
  rw [tagStatsDecode, if_neg (by omega), if_neg (by rw [hlen]; decide), tagStatsEncode,
    decodeFramed_encode (by decide) (by omega) (by rw [hbody, TagStatistics.length_toBytes]) hfits]
  simp only [TagStatistics.ofBytes_toBytes]

end SmartTag
