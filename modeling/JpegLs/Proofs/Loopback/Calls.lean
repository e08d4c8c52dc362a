import JpegLs.Codec.Loopback
import JpegLs.Proofs.Success

namespace JpegLs

namespace Call

variable {σ α β : Type}

theorem pure_apply (value : α) (state : σ) :
    (pure value : Call σ α) state = (.ok value, state) := rfl

theorem modify_apply (f : σ → σ) (state : σ) :
    (modify f : Call σ PUnit) state = (.ok ⟨⟩, f state) := rfl

end Call

namespace Loopback

def Unmoved (before after : Record) : Prop :=
  after.created = before.created ∧ after.destroyed = before.destroyed

theorem Unmoved.trans {before between after : Record} (h : Unmoved before between)
    (hrest : Unmoved between after) : Unmoved before after :=
  ⟨hrest.1.trans h.1, hrest.2.trans h.2⟩

def patchesFrom (position : Nat) : List (List UInt8) → List Patch
  | [] => []
  | segment :: rest => ⟨position, segment⟩ :: patchesFrom (position + segment.length) rest

variable {config : Config} (hconfig : config.failAt = none)

include hconfig

theorem enter_apply (step : Step) (record : Record) :
    enter config step record = (.ok (), { record with calls := record.calls ++ [step] }) := by
  rw [enter, run_bind, Call.modify_apply]
  simp only [hconfig]
  rfl

theorem createDecoder_ok (record : Record) :
    ∃ left, (codec config).createDecoder record = (.ok {}, left) := by
  simp only [codec, run_bind, enter_apply hconfig, Call.modify_apply, Call.pure_apply]
  exact ⟨_, rfl⟩

theorem setSource_ok (decoder : Decoder) (source : List UInt8) (record : Record) :
    ∃ left, (codec config).setSource decoder source record =
      (.ok { decoder with source := some source }, left) := by
  simp only [codec, run_bind, enter_apply hconfig, Call.pure_apply]
  exact ⟨_, rfl⟩

theorem readHeader_ok (decoder : Decoder) {source : List UInt8} {stored : StoredFrame}
    (hsource : decoder.source = some source) (hfound : findFrame source = .ok stored)
    (record : Record) :
    ∃ left, (codec config).readHeader decoder record =
      (.ok { decoder with stored := some stored }, left) := by
  simp only [codec, run_bind, enter_apply hconfig, Decoder.readHeader, hsource, expect,
    Call.pure_apply, hfound]
  exact ⟨_, rfl⟩

theorem frameInfo_ok (decoder : Decoder) {stored : StoredFrame}
    (hstored : decoder.stored = some stored) (record : Record) :
    ∃ left, (codec config).frameInfo decoder record = (.ok stored.frame, left) := by
  simp only [codec, run_bind, enter_apply hconfig, hstored, expect, Call.pure_apply]
  exact ⟨_, rfl⟩

theorem interleave_ok (decoder : Decoder) {stored : StoredFrame}
    (hstored : decoder.stored = some stored) (record : Record) :
    ∃ left, (codec config).interleave decoder record = (.ok stored.interleave, left) := by
  simp only [codec, run_bind, enter_apply hconfig, hstored, expect, Call.pure_apply]
  exact ⟨_, rfl⟩

theorem destinationSize_ok (decoder : Decoder) {stored : StoredFrame}
    (hstored : decoder.stored = some stored) (record : Record) :
    ∃ left, (codec config).destinationSize decoder record =
      (.ok (imageSize stored.frame), left) := by
  simp only [codec, run_bind, enter_apply hconfig, hstored, expect, Call.pure_apply]
  exact ⟨_, rfl⟩

theorem decodeInto_ok (decoder : Decoder) {source : List UInt8} {stored : StoredFrame}
    (hsource : decoder.source = some source) (hstored : decoder.stored = some stored)
    (hlength : stored.offset + imageSize stored.frame ≤ source.length) (record : Record) :
    ∃ left, (codec config).decodeInto decoder (imageSize stored.frame) record =
      (.ok ((source.drop stored.offset).take (imageSize stored.frame)), left) := by
  simp only [codec, run_bind, enter_apply hconfig, Decoder.decode, hsource, hstored,
    expect, Call.pure_apply]
  rw [if_neg (Nat.lt_irrefl _), if_neg (Nat.not_lt.mpr hlength)]
  exact ⟨_, rfl⟩

theorem createEncoder_ok (record : Record) :
    ∃ left, (codec config).createEncoder record = (.ok {}, left) ∧
      left.created = record.created + 1 ∧ left.destroyed = record.destroyed := by
  simp only [codec, run_bind, enter_apply hconfig, Call.modify_apply, Call.pure_apply]
  exact ⟨_, rfl, rfl, rfl⟩

theorem setFrameInfo_ok (encoder : Encoder) {frame : FrameInfo}
    (hfault : frameFault? frame = none) (record : Record) :
    ∃ left, (codec config).setFrameInfo encoder frame record =
      (.ok { encoder with frame := some frame }, left) ∧ Unmoved record left := by
  simp only [codec, run_bind, enter_apply hconfig, hfault, Call.pure_apply]
  exact ⟨_, rfl, rfl, rfl⟩

theorem setFrameInfo_error (encoder : Encoder) {frame : FrameInfo} {fault : CodecFault}
    (hfault : frameFault? frame = some fault) (record : Record) :
    ∃ left, (codec config).setFrameInfo encoder frame record = (.error fault.status, left) := by
  simp only [codec, run_bind, enter_apply hconfig, hfault]
  exact ⟨_, rfl⟩

theorem setInterleave_ok (encoder : Encoder) (mode : Interleave) (record : Record) :
    ∃ left, (codec config).setInterleave encoder mode record =
      (.ok { encoder with interleave := mode }, left) ∧ Unmoved record left := by
  simp only [codec, run_bind, enter_apply hconfig, Call.modify_apply, Call.pure_apply]
  exact ⟨_, rfl, rfl, rfl⟩

theorem estimatedSize_ok (encoder : Encoder) {frame : FrameInfo}
    (hframe : encoder.frame = some frame) (record : Record) :
    ∃ left, (codec config).estimatedSize encoder record = (.ok (estimate frame), left) ∧
      Unmoved record left := by
  simp only [codec, run_bind, enter_apply hconfig, hframe, expect, Call.modify_apply,
    Call.pure_apply]
  exact ⟨_, rfl, rfl, rfl⟩

theorem setDestination_ok (encoder : Encoder) {frame : FrameInfo}
    (hframe : encoder.frame = some frame) (length : Nat) (record : Record) :
    ∃ left, (codec config).setDestination encoder length record =
      (.ok { encoder with capacity := some length, position := 0 }, left) ∧
        Unmoved record left := by
  simp only [codec, run_bind, enter_apply hconfig, hframe, expect, Call.pure_apply]
  exact ⟨_, rfl, rfl, rfl⟩

omit hconfig in
theorem write_ok {encoder : Encoder} {capacity : Nat} {bytes : List UInt8}
    (hcapacity : encoder.capacity = some capacity)
    (hroom : encoder.position + bytes.length ≤ capacity) :
    encoder.write bytes =
      .ok ({ encoder with position := encoder.position + bytes.length },
        ⟨encoder.position, bytes⟩) := by
  simp only [Encoder.write, hcapacity, if_neg (Nat.not_lt.mpr hroom)]

omit hconfig in
theorem writeAll_ok {encoder : Encoder} {capacity : Nat} {segments : List (List UInt8)}
    (hcapacity : encoder.capacity = some capacity)
    (hroom : encoder.position + segments.flatten.length ≤ capacity) :
    encoder.writeAll segments =
      (.ok { encoder with position := encoder.position + segments.flatten.length },
        patchesFrom encoder.position segments) := by
  induction segments generalizing encoder with
  | nil => rfl
  | cons segment rest ih =>
      rw [List.flatten_cons, List.length_append, ← Nat.add_assoc] at hroom ⊢
      have hrest := @ih { encoder with position := encoder.position + segment.length } hcapacity
        hroom
      rw [Encoder.writeAll, write_ok hcapacity (Nat.le_of_add_right_le hroom)]
      simp only [hrest]
      rfl

omit hconfig in
/-- The segments in front of the first one that does not fit stay in the destination. -/
theorem writeAll_full {encoder : Encoder} {capacity : Nat} {front : List (List UInt8)}
    {segment : List UInt8} (hcapacity : encoder.capacity = some capacity)
    (hroom : encoder.position + front.flatten.length ≤ capacity)
    (hfull : capacity < encoder.position + front.flatten.length + segment.length)
    (rest : List (List UInt8)) :
    encoder.writeAll (front ++ segment :: rest) =
      (.error CodecFault.destinationBufferTooSmall.status, patchesFrom encoder.position front) := by
  induction front generalizing encoder with
  | nil =>
      rw [List.nil_append, Encoder.writeAll, Encoder.write, hcapacity]
      simp only [if_pos (show capacity < encoder.position + segment.length from hfull)]
      rfl
  | cons first others ih =>
      rw [List.flatten_cons, List.length_append, ← Nat.add_assoc] at hroom hfull
      have hrest := @ih { encoder with position := encoder.position + first.length } hcapacity
        hroom hfull
      rw [List.cons_append, Encoder.writeAll, write_ok hcapacity (Nat.le_of_add_right_le hroom)]
      simp only [hrest]
      rfl

theorem writeSpiff_ok (encoder : Encoder) {frame : FrameInfo} {capacity : Nat}
    (hframe : encoder.frame = some frame) (hposition : encoder.position = 0)
    (hcapacity : encoder.capacity = some capacity) (hroom : Spiff.headerLength ≤ capacity)
    (space : Spiff.ColorSpace) (units : Spiff.ResolutionUnits) (vertical horizontal : UInt32)
    (record : Record) :
    ∃ left, (codec config).writeSpiff encoder space units vertical horizontal record =
      ((.ok { encoder with position := Spiff.headerLength },
        patchesFrom 0 [(Spiff.Header.standard frame.width frame.height
          (UInt8.ofNat frame.bits.toNat) (UInt8.ofNat frame.components.toNat)
          space units vertical horizontal).toBytes]), left) ∧ Unmoved record left := by
  simp only [codec, Call.storing, run_bind, enter_apply hconfig, Encoder.writeSpiff, hframe,
    expect, Call.pure_apply]
  rw [if_neg (not_not_intro hposition), writeAll_ok hcapacity]
  · rw [List.flatten_singleton, Spiff.Header.length_toBytes, hposition, Nat.zero_add, ← hframe]
    exact ⟨_, rfl, rfl, rfl⟩
  · rwa [List.flatten_singleton, Spiff.Header.length_toBytes, hposition, Nat.zero_add]

theorem encodeFrom_ok (encoder : Encoder) {frame : FrameInfo} {capacity : Nat}
    {source : List UInt8} {segments : List (List UInt8)} (hframe : encoder.frame = some frame)
    (hlength : source.length = imageSize frame) (hcapacity : encoder.capacity = some capacity)
    (hsegments : segments = (if encoder.position = 0 then [startOfImage] else []) ++
      frameSegments frame encoder.interleave source)
    (hroom : encoder.position + segments.flatten.length ≤ capacity) (record : Record) :
    ∃ left, (codec config).encodeFrom encoder source record =
      ((.ok { encoder with position := encoder.position + segments.flatten.length },
        patchesFrom encoder.position segments), left) ∧ Unmoved record left := by
  simp only [codec, Call.storing, run_bind, enter_apply hconfig, Encoder.encode, hframe, expect,
    Call.modify_apply, Call.pure_apply]
  rw [if_neg (not_not_intro hlength), ← hsegments, writeAll_ok hcapacity hroom, ← hframe]
  exact ⟨_, rfl, rfl, rfl⟩

theorem bytesWritten_ok (encoder : Encoder) (record : Record) :
    ∃ left, (codec config).bytesWritten encoder record =
      (.ok (encoder.position + config.overReport), left) ∧ Unmoved record left := by
  simp only [codec, run_bind, enter_apply hconfig, Call.pure_apply]
  exact ⟨_, rfl, rfl, rfl⟩

end Loopback

end JpegLs
