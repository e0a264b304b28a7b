import SmartTag.Lib.ByteMemory
import SmartTag.Storage.ConfigMigrate

/-!
# The settings format

Which blobs the decoders of `src/storage/config_migrate.c` accept, what they read and write, and
what they make of a framed body. The decoders are given a second time over memory, access by
access, where an access outside a block has no result.

* `settings_decoders_format`: the blobs accepted, the bounds of the accesses, and what the result
  depends on.
* `framed_decode_iff`: a framed body of any length decodes onto the defaults, except where the
  blob has the length of a legacy one.
-/

namespace SmartTag

open ByteMemory

/-! ## The decoders over memory -/

/-- `copy_onto_defaults`, with the body at `offset` of the blob. -/
def copyOntoDefaultsMem (out : List UInt8) (outSize : Nat) (blob : List UInt8)
    (offset bodySize : Nat) (defaults : List UInt8) : Option (Int × List UInt8) := do
  let out ← store out 0 (← load defaults 0 outSize)
  let out ← store out 0 (← load blob offset (min bodySize outSize))
  return (0, out)

def decodeFramedMem (schema : UInt16) (blob out : List UInt8) (outSize : Nat)
    (defaults : List UInt8) : Option (Int × List UInt8) := do
  if blob.length < TagSettingsHeader.size then
    return (-EINVAL, out)
  else
    let headerSchema ← loadU16 blob 0
    if headerSchema = 0 ∨ schema < headerSchema then
      return (-EINVAL, out)
    else
      let bodySize ← loadU16 blob 2
      if blob.length < TagSettingsHeader.size + bodySize.toNat then
        return (-EINVAL, out)
      else
        copyOntoDefaultsMem out outSize blob TagSettingsHeader.size bodySize.toNat defaults

/-- `tag_config_decode` into the block `out`. -/
def tagConfigDecodeMem (blob out : List UInt8) : Option (Int × List UInt8) :=
  if blob.length = 0 then some (-EINVAL, out)
  else if blob.length = tagConfigV0Size then
    copyOntoDefaultsMem out 40 blob 0 blob.length TagConfig.defaults.toBytes
  else decodeFramedMem tagConfigSchema blob out 40 TagConfig.defaults.toBytes

/-- `tag_stats_decode` into the block `out`. -/
def tagStatsDecodeMem (blob out : List UInt8) : Option (Int × List UInt8) :=
  if blob.length = 0 then some (-EINVAL, out)
  else if blob.length = tagStatsV0Size then do
    let v0 ← store (List.replicate 40 0) 0 (← load blob 0 (min blob.length 40))
    let v0 := TagStatsV0.ofBytes v0
    let out ← store out 0 (List.replicate 42 0)
    let stats : TagStatistics :=
      { bootCount := v0.bootCount
        totalUptimeS := v0.totalUptimeS
        motionCount := v0.motionCount
        shockCount := v0.shockCount
        freeFallCount := v0.freeFallCount
        eventCount := v0.eventCount
        movementDurationS := v0.movementDurationS
        maxShockMg := v0.maxShockMg
        minBatteryMv := v0.minBatteryMv
        zigbeeReports := v0.zigbeeReports
        bleConnections := v0.bleConnections
        sensorFaults := v0.sensorFaults
        bootEpochUtc := 0 }
    let out ← store out 0 stats.toBytes
    return (0, out)
  else decodeFramedMem tagStatsSchema blob out 42 TagStatistics.zero.toBytes

/-! ## The accesses -/

theorem loadU16_eq {mem : List UInt8} {offset : Nat} (h : offset + 2 ≤ mem.length) :
    loadU16 mem offset = some (Packed.getU16 mem offset) := by
  rw [loadU16, load_eq h]
  rfl

/-- A store over the first part of a block leaves what follows. -/
theorem store_front {front bytes : List UInt8} (h : bytes.length ≤ front.length)
    (beyond : List UInt8) :
    store (front ++ beyond) 0 bytes = some (bytes ++ front.drop bytes.length ++ beyond) := by
  rw [store_zero (h.trans (by simp)), List.drop_append_of_le_length h, List.append_assoc]

theorem store_front_of_length_eq {front bytes : List UInt8} (h : bytes.length = front.length)
    (beyond : List UInt8) : store (front ++ beyond) 0 bytes = some (bytes ++ beyond) := by
  rw [store_front h.le, h, List.drop_length, List.append_nil]

theorem copyOntoDefaultsMem_eq {front blob defaults : List UInt8} {offset bodySize : Nat}
    (hdefaults : defaults.length = front.length) (hblob : offset + bodySize ≤ blob.length)
    (beyond : List UInt8) :
    copyOntoDefaultsMem (front ++ beyond) front.length blob offset bodySize defaults =
      some (0, copyOntoDefaults (blob.drop offset) bodySize defaults ++ beyond) := by
  have hdrop : bodySize ≤ (blob.drop offset).length := by
    rw [List.length_drop]
    omega
  have hbody : ((blob.drop offset).take (min bodySize front.length)).length =
      min bodySize front.length := by
    rw [List.length_take]
    omega
  have hload : load defaults 0 front.length = some defaults := by
    rw [load_eq (by omega), List.drop_zero, ← hdefaults, List.take_length]
  rw [copyOntoDefaultsMem, hload, load_eq (by omega)]
  show (store (front ++ beyond) 0 defaults).bind _ = _
  rw [store_front_of_length_eq hdefaults]
  show (store (defaults ++ beyond) 0 _).bind _ = _
  rw [store_front (by omega), hbody, ← hdefaults]
  rfl

/-! ## The blobs accepted -/

/-- A header of schema 1 and all of its body. -/
structure Framed (blob : List UInt8) : Prop where
  header : TagSettingsHeader.size ≤ blob.length
  schema : (TagSettingsHeader.ofBytes blob).schema = 1
  body : TagSettingsHeader.size + (TagSettingsHeader.ofBytes blob).bodySize.toNat ≤ blob.length

instance (blob : List UInt8) : Decidable (Framed blob) :=
  decidable_of_iff (_ ∧ _ ∧ _)
    ⟨fun h => ⟨h.1, h.2.1, h.2.2⟩, fun h => ⟨h.header, h.schema, h.body⟩⟩

/-- The image that a framed blob decodes to. -/
def framedImage (blob defaults : List UInt8) : List UInt8 :=
  copyOntoDefaults (blob.drop TagSettingsHeader.size)
    (TagSettingsHeader.ofBytes blob).bodySize.toNat defaults

/-- No schema but 1 passes the check for a known one. -/
theorem unknown_schema_iff (schema : UInt16) : schema = 0 ∨ 1 < schema ↔ schema ≠ 1 := by
  rw [Ne, ← UInt16.toNat_inj, ← UInt16.toNat_inj, UInt16.lt_iff_toNat_lt]
  show _ = 0 ∨ 1 < _ ↔ ¬ _ = 1
  omega

theorem decodeFramed_eq (blob defaults : List UInt8) :
    decodeFramed 1 blob defaults =
      if Framed blob then .ok (framedImage blob defaults) else .error (-EINVAL) := by
  have hschema := unknown_schema_iff (TagSettingsHeader.ofBytes blob).schema
  unfold decodeFramed
  by_cases hframed : Framed blob
  · rw [if_pos hframed, if_neg (Nat.not_lt.2 hframed.header)]
    dsimp only
    rw [if_neg (not_not.2 hframed.schema ∘ hschema.1), if_neg (Nat.not_lt.2 hframed.body)]
    rfl
  · rw [if_neg hframed]
    dsimp only
    split_ifs with hheader hknown hbody
    · rfl
    · rfl
    · rfl
    · rw [hschema, not_not] at hknown
      exact absurd ⟨Nat.not_lt.1 hheader, hknown, Nat.not_lt.1 hbody⟩ hframed

theorem decodeFramedMem_eq {front defaults : List UInt8}
    (hdefaults : defaults.length = front.length) (blob beyond : List UInt8) :
    decodeFramedMem 1 blob (front ++ beyond) front.length defaults =
      some (if Framed blob then (0, framedImage blob defaults ++ beyond)
        else (-EINVAL, front ++ beyond)) := by
  have hschema := unknown_schema_iff (Packed.getU16 blob 0)
  by_cases hheader : blob.length < TagSettingsHeader.size
  · rw [decodeFramedMem, if_pos hheader, if_neg fun h : Framed blob => Nat.not_lt.2 h.header hheader]
    rfl
  have hlength : 4 ≤ blob.length := Nat.not_lt.1 hheader
  rw [decodeFramedMem, if_neg hheader, loadU16_eq (by omega), loadU16_eq (by omega)]
  simp only [Option.bind_eq_bind, Option.bind_some]
  by_cases hframed : Framed blob
  · have hbody : ¬ blob.length < TagSettingsHeader.size + (Packed.getU16 blob 2).toNat :=
      Nat.not_lt.2 hframed.body
    rw [if_neg (not_not.2 hframed.schema ∘ hschema.1), if_neg hbody, if_pos hframed]
    exact copyOntoDefaultsMem_eq hdefaults hframed.body beyond
  · rw [if_neg hframed]
    split_ifs with hknown hbody
    · rfl
    · rfl
    · rw [hschema, not_not] at hknown
      exact absurd ⟨Nat.not_lt.1 hheader, hknown, Nat.not_lt.1 hbody⟩ hframed

theorem length_copyOntoDefaults {body : List UInt8} {bodySize : Nat} (h : bodySize ≤ body.length)
    (defaults : List UInt8) : (copyOntoDefaults body bodySize defaults).length = defaults.length := by
  rw [copyOntoDefaults, List.length_append, List.length_take, List.length_drop]
  omega

theorem Framed.length_framedImage {blob : List UInt8} (h : Framed blob) (defaults : List UInt8) :
    (framedImage blob defaults).length = defaults.length := by
  have hbody := h.body
  refine length_copyOntoDefaults ?_ defaults
  rw [List.length_drop]
  omega

theorem not_framed_nil {blob : List UInt8} (h : blob.length = 0) : ¬ Framed blob := by
  intro hframed
  have hheader : 4 ≤ blob.length := hframed.header
  omega

/-! ## The two decoders -/

theorem tagConfigDecode_framed {blob : List UInt8} (h : blob.length ≠ 40) (out : TagConfig) :
    tagConfigDecode blob out =
      if Framed blob then (0, TagConfig.ofBytes (framedImage blob TagConfig.defaults.toBytes))
      else (-EINVAL, out) := by
  have hlegacy : ¬ blob.length = tagConfigV0Size := h
  unfold tagConfigDecode
  split_ifs with hempty hframed hframed
  · exact absurd hframed (not_framed_nil hempty)
  · rfl
  · rw [tagConfigSchema, decodeFramed_eq, if_pos hframed]
  · rw [tagConfigSchema, decodeFramed_eq, if_neg hframed]

theorem tagStatsDecode_framed {blob : List UInt8} (h : blob.length ≠ 40) (out : TagStatistics) :
    tagStatsDecode blob out =
      if Framed blob then (0, TagStatistics.ofBytes (framedImage blob TagStatistics.zero.toBytes))
      else (-EINVAL, out) := by
  have hlegacy : ¬ blob.length = tagStatsV0Size := h
  unfold tagStatsDecode
  split_ifs with hempty hframed hframed
  · exact absurd hframed (not_framed_nil hempty)
  · rfl
  · rw [tagStatsSchema, decodeFramed_eq, if_pos hframed]
  · rw [tagStatsSchema, decodeFramed_eq, if_neg hframed]

theorem tagConfigDecodeMem_eq (blob : List UInt8) (out : TagConfig) (beyond : List UInt8) :
    tagConfigDecodeMem blob (out.toBytes ++ beyond) =
      some ((tagConfigDecode blob out).1, (tagConfigDecode blob out).2.toBytes ++ beyond) := by
  have hout := out.length_toBytes
  have hsize := TagConfig.defaults.length_toBytes
  have hdefaults : TagConfig.defaults.toBytes.length = out.toBytes.length := by
    rw [hout, hsize]
  by_cases hlegacy : blob.length = tagConfigV0Size
  · have hempty : ¬ blob.length = 0 := by
      rw [hlegacy]
      decide
    have hblob : 0 + blob.length ≤ blob.length := (Nat.zero_add blob.length).le
    have hcopy := copyOntoDefaultsMem_eq hdefaults hblob beyond
    rw [hout, List.drop_zero] at hcopy
    rw [tagConfigDecodeMem, tagConfigDecode, if_neg hempty, if_neg hempty, if_pos hlegacy,
      if_pos hlegacy, hcopy,
      TagConfig.toBytes_ofBytes ((length_copyOntoDefaults le_rfl _).trans hsize)]
  · have hframed := decodeFramedMem_eq hdefaults blob beyond
    rw [hout] at hframed
    rw [tagConfigDecode_framed hlegacy, tagConfigDecodeMem, if_neg hlegacy, tagConfigSchema,
      hframed]
    split_ifs with hempty hyes hyes
    · exact absurd hyes (not_framed_nil hempty)
    · rfl
    · rw [TagConfig.toBytes_ofBytes ((hyes.length_framedImage _).trans hsize)]
    · rfl

theorem tagStatsDecodeMem_eq (blob : List UInt8) (out : TagStatistics) (beyond : List UInt8) :
    tagStatsDecodeMem blob (out.toBytes ++ beyond) =
      some ((tagStatsDecode blob out).1, (tagStatsDecode blob out).2.toBytes ++ beyond) := by
  have hout := out.length_toBytes
  have hsize := TagStatistics.zero.length_toBytes
  have hdefaults : TagStatistics.zero.toBytes.length = out.toBytes.length := by
    rw [hout, hsize]
  by_cases hlegacy : blob.length = tagStatsV0Size
  · have hempty : ¬ blob.length = 0 := by
      rw [hlegacy]
      decide
    have hlength : blob.length = 40 := hlegacy
    have hload : load blob 0 (min blob.length 40) = some blob := by
      rw [load_eq (by omega), List.drop_zero, hlength, Nat.min_self, List.take_of_length_le hlength.le]
    have hv0 : store (List.replicate 40 0) 0 blob = some blob := by
      rw [store_zero (by rw [hlength, List.length_replicate]), hlength]
      exact congrArg some (List.append_nil blob)
    have hzero : (List.replicate 42 (0 : UInt8)).length = out.toBytes.length := by
      rw [hout, List.length_replicate]
    rw [tagStatsDecodeMem, tagStatsDecode, if_neg hempty, if_neg hempty, if_pos hlegacy,
      if_pos hlegacy, hload]
    simp only [Option.bind_eq_bind, Option.bind_some, hv0, store_front_of_length_eq hzero]
    rw [store_front_of_length_eq (by rw [TagStatistics.length_toBytes, List.length_replicate])]
    rfl
  · have hframed := decodeFramedMem_eq hdefaults blob beyond
    rw [hout] at hframed
    rw [tagStatsDecode_framed hlegacy, tagStatsDecodeMem, if_neg hlegacy, tagStatsSchema,
      hframed]
    split_ifs with hempty hyes hyes
    · exact absurd hyes (not_framed_nil hempty)
    · rfl
    · rw [TagStatistics.toBytes_ofBytes ((hyes.length_framedImage _).trans hsize)]
    · rfl

/-! ## What the result depends on -/

/-- The header and the first `size` bytes of the body are the same in both blobs. -/
structure SameStart (size : Nat) (blob blob' : List UInt8) : Prop where
  header : TagSettingsHeader.ofBytes blob = TagSettingsHeader.ofBytes blob'
  body :
    let n := min (TagSettingsHeader.ofBytes blob).bodySize.toNat size
    (blob.drop TagSettingsHeader.size).take n = (blob'.drop TagSettingsHeader.size).take n

theorem framedImage_congr {blob blob' defaults : List UInt8}
    (h : SameStart defaults.length blob blob') :
    framedImage blob defaults = framedImage blob' defaults := by
  have hbody := h.body
  simp only [framedImage, copyOntoDefaults] at hbody ⊢
  rw [hbody, h.header]

/-- A decoder of a structure of `size` bytes: it takes the blobs of the format and no others, its
accesses stay inside the blob and the structure, a refused blob leaves the structure as it was,
and a framed one is told by its header and its body. -/
structure DecodesFormat {T : Type} (size : Nat) (toBytes : T → List UInt8)
    (decode : List UInt8 → T → Int × T)
    (decodeMem : List UInt8 → List UInt8 → Option (Int × List UInt8)) : Prop where
  accepts : ∀ blob out, (decode blob out).1 = 0 ↔ blob.length = 40 ∨ Framed blob
  bounded : ∀ blob out beyond, (toBytes out).length = size ∧
    decodeMem blob (toBytes out ++ beyond) =
      some ((decode blob out).1, toBytes (decode blob out).2 ++ beyond)
  refused : ∀ blob out, (decode blob out).1 ≠ 0 → (decode blob out).2 = out
  depends : ∀ blob blob' out out', blob.length ≠ 40 → blob'.length ≠ 40 →
    (decode blob out).1 = 0 → (decode blob' out').1 = 0 → SameStart size blob blob' →
      decode blob out = decode blob' out'

section

variable {T : Type} {decode : List UInt8 → T → Int × T} {ofBytes : List UInt8 → T}
  {defaults : List UInt8}

/-- A decoder that takes the legacy blobs, and the framed ones onto its defaults. -/
theorem accepts_of_framed (hlegacy : ∀ blob out, blob.length = 40 → (decode blob out).1 = 0)
    (hframed : ∀ blob out, blob.length ≠ 40 → decode blob out =
      if Framed blob then (0, ofBytes (framedImage blob defaults)) else (-EINVAL, out))
    (blob : List UInt8) (out : T) :
    ((decode blob out).1 = 0 ↔ blob.length = 40 ∨ Framed blob) ∧
      ((decode blob out).1 ≠ 0 → (decode blob out).2 = out) := by
  by_cases hlength : blob.length = 40
  · have hzero := hlegacy blob out hlength
    exact ⟨iff_of_true hzero (Or.inl hlength), fun h => absurd hzero h⟩
  · rw [hframed blob out hlength]
    split_ifs with hyes
    · exact ⟨iff_of_true rfl (Or.inr hyes), fun h => absurd rfl h⟩
    · exact ⟨iff_of_false (show -EINVAL ≠ 0 by decide) (not_or.2 ⟨hlength, hyes⟩), fun _ => rfl⟩

theorem depends_of_framed
    (hframed : ∀ blob out, blob.length ≠ 40 → decode blob out =
      if Framed blob then (0, ofBytes (framedImage blob defaults)) else (-EINVAL, out))
    {blob blob' : List UInt8} {out out' : T} (hlength : blob.length ≠ 40)
    (hlength' : blob'.length ≠ 40) (h : (decode blob out).1 = 0) (h' : (decode blob' out').1 = 0)
    (hsame : SameStart defaults.length blob blob') : decode blob out = decode blob' out' := by
  rw [hframed blob out hlength] at h ⊢
  rw [hframed blob' out' hlength'] at h' ⊢
  split_ifs at h h' ⊢
  · rw [framedImage_congr hsame]
  · exact absurd h' (show -EINVAL ≠ 0 by decide)
  · exact absurd h (show -EINVAL ≠ 0 by decide)
  · exact absurd h (show -EINVAL ≠ 0 by decide)

end

/-- For every blob, both decoders: the blobs accepted are those of 40 bytes and those with a header
of schema 1 and all of its body, no access leaves the blob or the structure, a refused blob changes
nothing, and bytes past the body taken do not matter. -/
theorem settings_decoders_format :
    DecodesFormat 40 TagConfig.toBytes tagConfigDecode tagConfigDecodeMem ∧
      DecodesFormat 42 TagStatistics.toBytes tagStatsDecode tagStatsDecodeMem := by
  have hconfig : ∀ (blob : List UInt8) (out : TagConfig), blob.length = 40 →
      (tagConfigDecode blob out).1 = 0 := by
    intro blob out hlength
    rw [tagConfigDecode, if_neg (by omega), if_pos (show blob.length = tagConfigV0Size from hlength)]
  have hstats : ∀ (blob : List UInt8) (out : TagStatistics), blob.length = 40 →
      (tagStatsDecode blob out).1 = 0 := by
    intro blob out hlength
    rw [tagStatsDecode, if_neg (by omega), if_pos (show blob.length = tagStatsV0Size from hlength)]
  constructor
  · exact {
      accepts := fun blob out =>
        (accepts_of_framed hconfig (fun _ out h => tagConfigDecode_framed h out) blob out).1
      bounded := fun blob out beyond =>
        ⟨out.length_toBytes, tagConfigDecodeMem_eq blob out beyond⟩
      refused := fun blob out =>
        (accepts_of_framed hconfig (fun _ out h => tagConfigDecode_framed h out) blob out).2
      depends := fun _ _ _ _ => depends_of_framed fun _ out h => tagConfigDecode_framed h out }
  · exact {
      accepts := fun blob out =>
        (accepts_of_framed hstats (fun _ out h => tagStatsDecode_framed h out) blob out).1
      bounded := fun blob out beyond =>
        ⟨out.length_toBytes, tagStatsDecodeMem_eq blob out beyond⟩
      refused := fun blob out =>
        (accepts_of_framed hstats (fun _ out h => tagStatsDecode_framed h out) blob out).2
      depends := fun _ _ _ _ => depends_of_framed fun _ out h => tagStatsDecode_framed h out }

/-! ## Framed bodies -/

/-- `body` behind a header of schema 1 and its size. -/
def frame (body : List UInt8) : List UInt8 :=
  (TagSettingsHeader.mk 1 (UInt16.ofNat body.length)).toBytes ++ body

/-- The body decodes onto the configuration defaults. -/
def DecodesConfig (body : List UInt8) (out : TagConfig) : Prop :=
  (tagConfigDecode (frame body) out).1 = 0 ∧
    (tagConfigDecode (frame body) out).2.toBytes =
      body.take 40 ++ TagConfig.defaults.toBytes.drop body.length

/-- The body decodes onto zeros. -/
def DecodesStats (body : List UInt8) (out : TagStatistics) : Prop :=
  (tagStatsDecode (frame body) out).1 = 0 ∧
    (tagStatsDecode (frame body) out).2.toBytes =
      body.take 42 ++ List.replicate (42 - body.length) 0

instance (body : List UInt8) (out : TagConfig) : Decidable (DecodesConfig body out) :=
  inferInstanceAs (Decidable (_ ∧ _))

instance (body : List UInt8) (out : TagStatistics) : Decidable (DecodesStats body out) :=
  inferInstanceAs (Decidable (_ ∧ _))

theorem length_frame (body : List UInt8) : (frame body).length = 4 + body.length := by
  rw [frame, List.length_append, TagSettingsHeader.length_toBytes]
  rfl

section

variable {body : List UInt8} (h : body.length < 2 ^ 16)

include h

theorem bodySize_frame : (TagSettingsHeader.ofBytes (frame body)).bodySize.toNat = body.length := by
  rw [frame, TagSettingsHeader.ofBytes_toBytes_append]
  exact UInt16.toNat_ofNat_of_lt' h

theorem framed_frame : Framed (frame body) where
  header := by
    rw [length_frame]
    exact Nat.le_add_right 4 _
  schema := by rw [frame, TagSettingsHeader.ofBytes_toBytes_append]
  body := by
    rw [bodySize_frame h, length_frame]
    exact le_rfl

theorem framedImage_frame (defaults : List UInt8) :
    framedImage (frame body) defaults =
      body.take defaults.length ++ defaults.drop body.length := by
  have hbody : (frame body).drop TagSettingsHeader.size = body :=
    List.drop_left' (TagSettingsHeader.length_toBytes _)
  rw [framedImage, bodySize_frame h, hbody, copyOntoDefaults]
  rcases Nat.le_total body.length defaults.length with hle | hle
  · rw [Nat.min_eq_left hle, List.take_length, List.take_of_length_le hle]
  · rw [Nat.min_eq_right hle, List.drop_length, List.drop_of_length_le hle]

theorem decodesConfig_of_ne (hne : body.length ≠ 36) (out : TagConfig) :
    DecodesConfig body out := by
  have hlength : (frame body).length ≠ 40 := by
    rw [length_frame]
    omega
  have hsize := ((framed_frame h).length_framedImage _).trans TagConfig.defaults.length_toBytes
  rw [DecodesConfig, tagConfigDecode_framed hlength, if_pos (framed_frame h)]
  refine ⟨rfl, ?_⟩
  rw [TagConfig.toBytes_ofBytes hsize, framedImage_frame h, TagConfig.length_toBytes]

theorem decodesStats_of_ne (hne : body.length ≠ 36) (out : TagStatistics) :
    DecodesStats body out := by
  have hlength : (frame body).length ≠ 40 := by
    rw [length_frame]
    omega
  have hsize := ((framed_frame h).length_framedImage _).trans TagStatistics.zero.length_toBytes
  have hzero : TagStatistics.zero.toBytes = List.replicate 42 0 := by decide
  rw [DecodesStats, tagStatsDecode_framed hlength, if_pos (framed_frame h)]
  refine ⟨rfl, ?_⟩
  rw [TagStatistics.toBytes_ofBytes hsize, framedImage_frame h, TagStatistics.length_toBytes, hzero,
    List.drop_replicate]

end

/-! ## A framed body of the legacy length -/

/-- The bytes of a legacy blob that the statistics keep. -/
theorem take_tagStatsDecode_legacy {blob : List UInt8} (h : blob.length = 40)
    (out : TagStatistics) : (tagStatsDecode blob out).2.toBytes.take 38 = blob.take 38 := by
  obtain ⟨front, rest, rfl, hfront⟩ : ∃ front rest, blob = front ++ rest ∧ front.length = 38 :=
    ⟨blob.take 38, blob.drop 38, (List.take_append_drop 38 blob).symm, by
      rw [List.length_take, h]
      rfl⟩
  have himage : (front ++ List.replicate 4 0).length = 42 := by
    rw [List.length_append, hfront, List.length_replicate]
  have hepoch : Packed.getU32 (front ++ List.replicate 4 0) 38 = 0 := by
    rw [Packed.getU32, Packed.field, List.drop_left' hfront]
    decide
  have hstats : (tagStatsDecode (front ++ rest) out).2 =
      TagStatistics.ofBytes (front ++ List.replicate 4 0) := by
    have hlegacy : (front ++ rest).length = tagStatsV0Size := h
    rw [tagStatsDecode, if_neg (by omega), if_pos hlegacy, TagStatistics.ofBytes, hepoch]
    simp (disch := omega) only [TagStatsV0.ofBytes, Packed.getU32_append, Packed.getU16_append]
  rw [hstats, TagStatistics.toBytes_ofBytes himage, List.take_left' hfront,
    List.take_left' hfront]

/-- Read past its header, a body of 36 bytes is not followed by zero: its first byte would be that
of the header, and so every fourth byte after it. -/
theorem take_frame_ne {body : List UInt8} (h : body.length = 36) :
    (frame body).take 37 ≠ body ++ [0] := by
  intro heq
  have hframe : frame body = [1, 0, 36, 0] ++ body := by
    rw [frame, h]
    rfl
  have hget : ∀ i < 37, ([1, 0, 36, 0] ++ body)[i]? = (body ++ [0])[i]? := by
    intro i hi
    rw [← heq, hframe, List.getElem?_take_of_lt hi]
  have hones : ∀ k ≤ 8, body[4 * k]? = some 1 := by
    intro k
    induction k with
    | zero =>
      intro _
      have hfirst := hget 0 (by decide)
      rw [List.getElem?_append_left (by simp), List.getElem?_append_left (by omega)] at hfirst
      exact hfirst.symm
    | succ k ih =>
      intro hk
      have hnext := hget (4 * (k + 1)) (by omega)
      rw [List.getElem?_append_right (by simp), List.getElem?_append_left (by omega)] at hnext
      exact hnext.symm.trans (ih (by omega))
  have hlast := hget 36 (by decide)
  rw [List.getElem?_append_right (by decide), List.getElem?_append_right h.le, h] at hlast
  exact absurd ((hones 8 le_rfl).symm.trans hlast) (by decide)

theorem not_decodesConfig {body : List UInt8} (h : body.length = 36) (out : TagConfig) :
    ¬ DecodesConfig body out := by
  have hlength : (frame body).length = 40 := by
    rw [length_frame, h]
  have himage : copyOntoDefaults (frame body) (frame body).length TagConfig.defaults.toBytes =
      frame body := by
    rw [copyOntoDefaults, hlength, TagConfig.length_toBytes, Nat.min_self,
      List.take_of_length_le hlength.le,
      List.drop_of_length_le (TagConfig.defaults.length_toBytes).le, List.append_nil]
  have hbytes : (tagConfigDecode (frame body) out).2.toBytes = frame body := by
    rw [tagConfigDecode, if_neg (by omega),
      if_pos (show (frame body).length = tagConfigV0Size from hlength), himage,
      TagConfig.toBytes_ofBytes hlength]
  have hdefaults : TagConfig.defaults.toBytes.drop 36 = [0, 1, 1, 0] := by decide
  rintro ⟨-, hdecodes⟩
  rw [hbytes, h, hdefaults, List.take_of_length_le (by omega)] at hdecodes
  refine take_frame_ne h ?_
  rw [hdecodes, show 37 = body.length + 1 by omega, List.take_length_add_append]
  rfl

theorem not_decodesStats {body : List UInt8} (h : body.length = 36) (out : TagStatistics) :
    ¬ DecodesStats body out := by
  have hlength : (frame body).length = 40 := by
    rw [length_frame, h]
  have hlegacy := take_tagStatsDecode_legacy hlength out
  rintro ⟨-, hdecodes⟩
  rw [hdecodes, h, List.take_of_length_le (show body.length ≤ 42 by omega)] at hlegacy
  have hshort := congrArg (List.take 37) hlegacy
  rw [List.take_take, List.take_take, show min 37 38 = body.length + 1 by omega,
    List.take_length_add_append] at hshort
  refine take_frame_ne h ?_
  rw [show 37 = body.length + 1 by omega, ← hshort]
  rfl

/-- For every body that fits: both decoders put it onto their defaults, exactly when its length is
not 36. With that length the blob has the 40 bytes of a legacy one, and its header is taken for the
first fields. -/
theorem framed_decode_iff (body : List UInt8) (h : 4 + body.length ≤ 64) (config : TagConfig)
    (stats : TagStatistics) :
    (DecodesConfig body config ↔ body.length ≠ 36) ∧
      (DecodesStats body stats ↔ body.length ≠ 36) := by
  have hlength : body.length < 2 ^ 16 := by omega
  refine ⟨⟨fun hdecodes hcollides => ?_, fun hne => ?_⟩, fun hdecodes hcollides => ?_,
    fun hne => ?_⟩
  · exact not_decodesConfig hcollides config hdecodes
  · exact decodesConfig_of_ne hlength hne config
  · exact not_decodesStats hcollides stats hdecodes
  · exact decodesStats_of_ne hlength hne stats

/-- A body of 20 bytes decodes onto the defaults. -/
theorem framed_decode_iff_short :
    4 + (List.replicate 20 (7 : UInt8)).length ≤ 64 ∧
      (DecodesConfig (List.replicate 20 7) TagConfig.defaults ↔
        (List.replicate 20 (7 : UInt8)).length ≠ 36) ∧
      (DecodesStats (List.replicate 20 7) TagStatistics.zero ↔
        (List.replicate 20 (7 : UInt8)).length ≠ 36) :=
  ⟨by decide, framed_decode_iff (List.replicate 20 7) (by decide) TagConfig.defaults
    TagStatistics.zero⟩

/-- A body of 36 zero bytes is accepted, and its header becomes a sampling interval of 1 s. -/
theorem framed_decode_collides :
    4 + (List.replicate 36 (0 : UInt8)).length ≤ 64 ∧
      (tagConfigDecode (frame (List.replicate 36 0)) TagConfig.defaults).1 = 0 ∧
      (tagConfigDecode (frame (List.replicate 36 0)) TagConfig.defaults).2.samplingIntervalS = 1 ∧
      ¬ DecodesConfig (List.replicate 36 0) TagConfig.defaults ∧
      ¬ DecodesStats (List.replicate 36 0) TagStatistics.zero := by
  decide +kernel

end SmartTag
