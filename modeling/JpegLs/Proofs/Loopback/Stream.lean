import JpegLs.Codec.Loopback
import JpegLs.Proofs.Container.Implied

namespace JpegLs

namespace Loopback

def lead (metadata : Metadata) : List UInt8 :=
  match metadata.impliedSpiff? with
  | some header => header.toBytes
  | none => startOfImage

def frameBytes (frame : FrameInfo) (interleave : Interleave) (samples : List UInt8) :
    List UInt8 :=
  frameSegment frame ++ [UInt8.ofNat interleave.code.toNat] ++ samples

theorem flatten_frameSegments (frame : FrameInfo) (interleave : Interleave)
    (samples : List UInt8) :
    (frameSegments frame interleave samples).flatten = frameBytes frame interleave samples := by
  simp [frameSegments, frameBytes]

def stream (metadata : Metadata) (samples : List UInt8) : List UInt8 :=
  lead metadata ++ frameBytes metadata.frame metadata.interleave samples

/-- A frame whose sides fit the sixteen bits of a frame segment. -/
structure Small (frame : FrameInfo) : Prop where
  width_le : frame.width.toNat ≤ 65535
  height_le : frame.height.toNat ≤ 65535

theorem small_of_frameFault? {frame : FrameInfo} (hfault : frameFault? frame = none) :
    Small frame := by
  unfold frameFault? at hfault
  by_cases hwidth : frame.width = 0 ∨ 65535 < frame.width
  · rw [if_pos hwidth] at hfault
    cases hfault
  · rw [if_neg hwidth] at hfault
    by_cases hheight : frame.height = 0 ∨ 65535 < frame.height
    · rw [if_pos hheight] at hfault
      cases hfault
    · have hwidth_le : ¬65535 < frame.width := fun h => hwidth (.inr h)
      have hheight_le : ¬65535 < frame.height := fun h => hheight (.inr h)
      rw [UInt32.lt_iff_toNat_lt] at hwidth_le hheight_le
      exact ⟨Nat.le_of_not_lt hwidth_le, Nat.le_of_not_lt hheight_le⟩

theorem side_read {side : UInt32} (hside : side.toNat ≤ 65535) :
    UInt32.ofNat (ofBigEndian16 (UInt8.ofNat ((UInt16.ofNat side.toNat).toNat / 256))
      (UInt8.ofNat (UInt16.ofNat side.toNat).toNat)).toNat = side := by
  rw [ofBigEndian16_bytes, UInt16.toNat_ofNat', Nat.mod_eq_of_lt (by omega), UInt32.ofNat_toNat]

theorem bits_read {frame : FrameInfo} (hframe : frame.Valid) :
    ((UInt8.ofNat frame.bits.toNat).toNat : Int) = frame.bits := by
  have hone := hframe.one_le_bits
  have hle := hframe.bits_le
  rw [UInt8.toNat_ofNat']
  omega

theorem components_read {frame : FrameInfo} (hframe : frame.Valid) :
    ((UInt8.ofNat frame.components.toNat).toNat : Int) = frame.components := by
  have hone_or_three := hframe.components
  rw [UInt8.toNat_ofNat']
  omega

theorem length_tables (count : Nat) :
    ((List.range count).flatMap fun index => [UInt8.ofNat (index + 1), 0x11, 0]).length =
      3 * count := by
  induction count with
  | zero => rfl
  | succ count ih =>
      rw [List.range_succ, List.flatMap_append, List.length_append, ih]
      simp only [List.flatMap_cons, List.flatMap_nil, List.append_nil, List.length_cons,
        List.length_nil]
      omega

theorem length_frameSegment {frame : FrameInfo} (hframe : frame.Valid) :
    (frameSegment frame).length = 10 + 3 * frame.components.toNat := by
  have hcomponents := components_read hframe
  have hcount : (UInt8.ofNat frame.components.toNat).toNat = frame.components.toNat := by omega
  simp only [frameSegment, List.length_append, length_tables, length_bigEndian16, hcount,
    List.length_cons, List.length_nil]

theorem frame?_stream {frame : FrameInfo} (hframe : frame.Valid) (hsmall : Small frame)
    (interleave : Interleave) (samples : List UInt8) :
    Container.frame? (startOfImage ++ frameBytes frame interleave samples) = some frame := by
  have hlength : 12 ≤ (startOfImage ++ frameBytes frame interleave samples).length := by
    simp only [frameBytes, List.length_append, length_frameSegment hframe]
    simp only [startOfImage, List.length_cons, List.length_nil]
    omega
  have hmagic : Container.frameMagic <+: startOfImage ++ frameBytes frame interleave samples :=
    ⟨_, rfl⟩
  rw [Container.frame?, dif_pos hlength]
  simp only
  rw [if_pos hmagic]
  refine congrArg some ?_
  rw [FrameInfo.mk.injEq]
  exact ⟨side_read hsmall.width_le, side_read hsmall.height_le, bits_read hframe,
    components_read hframe⟩

theorem not_magic_bare (frame : FrameInfo) (interleave : Interleave) (samples : List UInt8) :
    ¬Spiff.magic <+: startOfImage ++ frameBytes frame interleave samples := by
  rintro ⟨rest, hrest⟩
  have hfourth : some (0xE8 : UInt8) = some 0xF7 := congrArg (fun bytes => bytes[3]?) hrest
  exact absurd hfourth (by decide)

theorem ofBytes?_bare (frame : FrameInfo) (interleave : Interleave) (samples : List UInt8) :
    Spiff.Header.ofBytes? (startOfImage ++ frameBytes frame interleave samples) = none := by
  unfold Spiff.Header.ofBytes?
  split
  · rw [if_neg (fun h => not_magic_bare frame interleave samples h.1)]
  · rfl

theorem metadata_stream {metadata : Metadata} (hframe : metadata.frame.Valid)
    (hsmall : Small metadata.frame) (hdeclared : metadata.Declared) (samples : List UInt8) :
    Container.metadata (stream metadata samples) = .ok { metadata with interleave := .planar } := by
  cases hdeclared with
  | spiff space units resolution hspace hunits hresolution =>
      have himplied := Metadata.impliedSpiff?_eq_some_iff.mpr
        ⟨space, units, resolution, hspace, hunits, hresolution, rfl⟩
      rw [stream, lead, himplied]
      exact Container.metadata_implied hframe himplied _
  | bare hspace hunits hresolution =>
      have himplied : metadata.impliedSpiff? = none := by
        simp [Metadata.impliedSpiff?, Metadata.declaredSpiff?, hspace]
      rw [stream, lead, himplied]
      simp only
      rw [Container.metadata, ofBytes?_bare]
      simp only
      rw [frame?_stream hframe hsmall]
      simp only
      rw [Metadata.ofFrame_of_valid hframe .planar, Metadata.plain_frame, hspace, hunits,
        hresolution]

theorem segmentOffset?_stream (metadata : Metadata) (samples : List UInt8) :
    segmentOffset? (stream metadata samples) = some (lead metadata).length := by
  rw [stream, lead]
  cases metadata.impliedSpiff? with
  | none => rw [segmentOffset?, if_neg (not_magic_bare _ _ _), if_pos (List.prefix_append _ _)]
  | some header => rw [segmentOffset?, if_pos (header.magic_isPrefix _), header.length_toBytes]

theorem code_read (interleave : Interleave) :
    Interleave.ofCode? (UInt8.ofNat interleave.code.toNat).toNat = some interleave := by
  cases interleave <;> rfl

def samplesOffset (metadata : Metadata) : Nat :=
  (lead metadata).length + (frameSegment metadata.frame).length + 1

theorem drop_samplesOffset (metadata : Metadata) (samples : List UInt8) :
    (stream metadata samples).drop (samplesOffset metadata) = samples := by
  have hfront : samplesOffset metadata = (lead metadata ++ frameSegment metadata.frame ++
      [UInt8.ofNat metadata.interleave.code.toNat]).length := by
    simp [samplesOffset, Nat.add_assoc]
  have hstream : stream metadata samples = lead metadata ++ frameSegment metadata.frame ++
      [UInt8.ofNat metadata.interleave.code.toNat] ++ samples := by
    simp [stream, frameBytes]
  rw [hfront, hstream, List.drop_left]

theorem frameBytes_eq (frame : FrameInfo) (interleave : Interleave) (samples : List UInt8) :
    ∃ tail, frameBytes frame interleave samples =
      [0xFF, 0xF7] ++
        bigEndian16 (UInt16.ofNat (8 + 3 * (UInt8.ofNat frame.components.toNat).toNat)) ++
        [UInt8.ofNat frame.bits.toNat] ++
        bigEndian16 (UInt16.ofNat frame.height.toNat) ++
        bigEndian16 (UInt16.ofNat frame.width.toNat) ++
        [UInt8.ofNat frame.components.toNat] ++ tail := by
  simp only [frameBytes, frameSegment, List.append_assoc]
  exact ⟨_, rfl⟩

theorem findFrame_stream {metadata : Metadata} (hframe : metadata.frame.Valid)
    (hsmall : Small metadata.frame) (samples : List UInt8) :
    findFrame (stream metadata samples) =
      .ok ⟨metadata.frame, metadata.interleave, samplesOffset metadata⟩ := by
  have hsegment : (lead metadata).length + 2 + (UInt16.ofNat
      (8 + 3 * (UInt8.ofNat metadata.frame.components.toNat).toNat)).toNat =
        (lead metadata).length + (frameSegment metadata.frame).length := by
    have hread := components_read hframe
    have hone_or_three := hframe.components
    rw [length_frameSegment hframe, UInt16.toNat_ofNat']
    omega
  have hmode : (stream metadata samples)[(lead metadata).length +
      (frameSegment metadata.frame).length]? =
        some (UInt8.ofNat metadata.interleave.code.toNat) := by
    simp [stream, frameBytes]
  have hdrop : (stream metadata samples).drop (lead metadata).length =
      frameBytes metadata.frame metadata.interleave samples := by
    rw [stream, List.drop_left]
  obtain ⟨tail, hbytes⟩ := frameBytes_eq metadata.frame metadata.interleave samples
  rw [findFrame, segmentOffset?_stream]
  simp only
  rw [hdrop, hbytes]
  simp only [bigEndian16, List.cons_append, List.nil_append]
  rw [ofBigEndian16_bytes, hsegment, hmode]
  simp only [Option.bind_some, code_read]
  rw [side_read hsmall.width_le, side_read hsmall.height_le, bits_read hframe,
    components_read hframe]
  rfl

end Loopback

end JpegLs
