import JpegLs.Proofs.Loopback.Decode

/-!
The frame of a stream has two readers.  The container reads it at fixed places from the start of
the stream, a codec without compression in the segment that stands behind whatever comes first.
They find the same frame unless a SPIFF header describes another than the segment does.
-/

namespace JpegLs

namespace Container

variable {bytes : List UInt8} {form : Form} {metadata : Metadata}

theorem number_drop (bytes : List UInt8) (offset place count : Nat) :
    number (bytes.drop offset) place count = number bytes (offset + place) count := by
  rw [number, number, List.drop_drop]

theorem frame_of_metadata (hmagic : form.magic <+: bytes)
    (hmetadata : Container.metadata bytes = .ok metadata) :
    metadata.frame = form.frame bytes ∧ (form.frame bytes).Valid ∧
      form.leastLength ≤ bytes.length := by
  obtain ⟨found, hreads⟩ := metadata_eq_ok_iff.mp hmetadata
  obtain rfl : form = found := Form.eq_of_magic hmagic hreads.magic
  have hdescribed : metadata = form.described bytes := hreads.eq_described
  rw [metadata_of_readable hmagic ⟨hreads.long, hreads.compression⟩] at hmetadata
  obtain ⟨plain, hplain, -⟩ := map_eq_ok_iff.mp hmetadata
  have hvalid := (Metadata.valid_of_ofFrame hplain).1
  refine ⟨?_, hvalid, hreads.long⟩
  rw [hdescribed]
  exact Metadata.frame_plain hvalid .planar

end Container

namespace Loopback

open Container (number Form)

variable {config : Config} {source : List UInt8} {container : Metadata} {stored : StoredFrame}

/-- The frame in a segment from `offset` on, whatever the length the segment tells. -/
def segmentFrame (bytes : List UInt8) (offset : Nat) : FrameInfo where
  width := UInt32.ofNat (number bytes (offset + 7) 2)
  height := UInt32.ofNat (number bytes (offset + 5) 2)
  bits := number bytes (offset + 4) 1
  components := number bytes (offset + 9) 1

theorem of_findFrame {offset : Nat} (hoffset : segmentOffset? source = some offset)
    (hfound : findFrame source = .ok stored) :
    offset + 10 ≤ source.length ∧ stored.frame = segmentFrame source offset := by
  simp only [findFrame, hoffset] at hfound
  split at hfound
  · rename_i l1 l0 bits h1 h0 w1 w0 components rest hsegment
    have hlength : offset + 10 ≤ source.length := by
      have hlengths := congrArg List.length hsegment
      simp only [List.length_drop, List.length_cons] at hlengths
      omega
    split at hfound
    · cases hfound
      refine ⟨hlength, ?_⟩
      -- A place in the segment is one in the stream, counted from where the segment starts.
      simp only [segmentFrame, ← Container.number_drop, hsegment]
      simp [number, toNat_ofBigEndian16]
    · cases hfound
  · cases hfound

theorem segmentOffset?_of_bare (hmagic : Form.bare.magic <+: source) :
    segmentOffset? source = some 2 := by
  have hspiff : ¬Spiff.magic <+: source := fun hspiff =>
    absurd (@Form.eq_of_magic source .spiff .bare hspiff hmagic) (by decide)
  have hstart : startOfImage <+: source := List.IsPrefix.trans ⟨_, rfl⟩ hmagic
  rw [segmentOffset?, if_neg hspiff, if_pos hstart]
  rfl

theorem segmentOffset?_of_spiff (hmagic : Form.spiff.magic <+: source) :
    segmentOffset? source = some 36 :=
  if_pos hmagic

theorem frame?_of_findFrame (hmagic : Form.bare.magic <+: source)
    (hfound : findFrame source = .ok stored) : Container.frame? source = some stored.frame := by
  obtain ⟨hlong, hframe⟩ := of_findFrame (segmentOffset?_of_bare hmagic) hfound
  rw [hframe]
  exact Form.frame?_of_bare hmagic hlong

theorem frame_of_bare (hmagic : Form.bare.magic <+: source)
    (hcontainer : Container.metadata source = .ok container)
    (hfound : findFrame source = .ok stored) :
    container.frame = stored.frame ∧ stored.frame.Valid := by
  obtain ⟨hframe, hvalid, hlong⟩ := Container.frame_of_metadata hmagic hcontainer
  have hstored := frame?_of_findFrame hmagic hfound
  rw [Form.frame?_of_bare hmagic hlong] at hstored
  rw [← Option.some.inj hstored]
  exact ⟨hframe, hvalid⟩

theorem frameMismatch_notMem (status : Status) (first second : FrameInfo) :
    .frameMismatch first second ∉ status.warnings := by
  rw [Status.warnings]
  by_cases hunknown : status.isUnknown
  · simp [hunknown]
  · simp [hunknown]

theorem no_mismatch_of_bare {outcome : DecodeOutcome Record} (hmagic : Form.bare.magic <+: source)
    (hends : Decoding source outcome) (first second : FrameInfo) :
    .frameMismatch first second ∉ outcome.warnings := by
  cases hends with
  | refused error hcontainer hanswer hwarnings => simp [hwarnings]
  | failed status hanswer hwarnings => exact hwarnings ▸ frameMismatch_notMem status first second
  | unfit stored error hfound hframe hanswer hwarnings => simp [hwarnings]
  | decoded container stored hcontainer hfound hframe hwithin hanswer hwarnings =>
      have hsame := (frame_of_bare hmagic hcontainer hfound).1
      simp [hwarnings, StoredFrame.mismatch, hsame]

theorem error_of_bare {outcome : DecodeOutcome Record} (hmagic : Form.bare.magic <+: source)
    (hcontainer : Container.metadata source = .ok container) (hends : Decoding source outcome)
    {error : Error} (herror : outcome.answer = .error error) : ∃ fault, error = .codec fault := by
  cases hends with
  | refused refusal hrefused hanswer hwarnings => rw [hcontainer] at hrefused; cases hrefused
  | failed status hanswer hwarnings =>
      rw [hanswer] at herror
      cases herror
      exact ⟨_, rfl⟩
  | unfit stored refusal hfound hframe hanswer hwarnings =>
      have hvalid := (frame_of_bare hmagic hcontainer hfound).2
      rw [Metadata.ofFrame_of_valid hvalid] at hframe
      cases hframe
  | decoded found stored hfound hstored hframe hwithin hanswer hwarnings =>
      rw [hanswer] at herror
      cases herror

/-- The header describes another frame than the segment behind it. -/
def Disagrees (bytes : List UInt8) : Prop :=
  number bytes 16 4 ≠ number bytes 41 2 ∨ number bytes 20 4 ≠ number bytes 43 2 ∨
    number bytes 25 1 ≠ number bytes 40 1 ∨ number bytes 15 1 ≠ number bytes 45 1

instance (bytes : List UInt8) : Decidable (Disagrees bytes) :=
  inferInstanceAs (Decidable (_ ∨ _))

structure FromSegment (bytes : List UInt8) (metadata : Metadata) : Prop where
  width : metadata.width.toNat = number bytes 43 2
  height : metadata.height.toNat = number bytes 41 2
  bits : metadata.bits.toNat = number bytes 40 1
  components : metadata.components.toNat = number bytes 45 1
  colorSpace : metadata.colorSpace.map UInt8.toNat = some (number bytes 24 1)
  units : metadata.units.map UInt8.toNat = some (number bytes 27 1)
  verticalResolution :
    metadata.verticalResolution.map UInt32.toNat = some (number bytes 28 4)

theorem disagrees_iff (hheader : Form.spiff.leastLength ≤ source.length)
    (hsegment : 36 + 10 ≤ source.length) :
    Disagrees source ↔ Form.spiff.frame source ≠ segmentFrame source 36 := by
  have hwidth : (UInt32.ofNat (number source (36 + 7) 2)).toNat = number source 43 2 :=
    Container.toNat_two (by omega)
  have hheight : (UInt32.ofNat (number source (36 + 5) 2)).toNat = number source 41 2 :=
    Container.toNat_two (by omega)
  have hsame : Form.spiff.frame source = segmentFrame source 36 ↔
      number source 20 4 = number source 43 2 ∧ number source 16 4 = number source 41 2 ∧
        number source 25 1 = number source 40 1 ∧ number source 15 1 = number source 45 1 := by
    rw [Form.frame, segmentFrame, FrameInfo.mk.injEq, ← UInt32.toNat_inj, ← UInt32.toNat_inj,
      Form.toNat_width hheader, Form.toNat_height hheader, hwidth, hheight, Int.natCast_inj,
      Int.natCast_inj]
    rfl
  rw [Disagrees, ne_eq (Form.spiff.frame source), hsame]
  tauto

theorem fromSegment_image (hmagic : Form.spiff.magic <+: source)
    (hcontainer : Container.metadata source = .ok container)
    (hfound : findFrame source = .ok stored) (hframe : stored.frame.Valid) :
    FromSegment source (stored.image container source).metadata := by
  obtain ⟨hlong, hsegment⟩ := of_findFrame (segmentOffset?_of_spiff hmagic) hfound
  obtain ⟨form, hreads⟩ := Container.metadata_eq_ok_iff.mp hcontainer
  obtain rfl : form = .spiff := Form.eq_of_magic hreads.magic hmagic
  have hbits := Metadata.bits_plain hframe stored.interleave
  have hcomponents := Metadata.components_plain hframe stored.interleave
  exact {
    width := (congrArg (fun frame => frame.width.toNat) hsegment).trans
      (Container.toNat_two (by omega))
    height := (congrArg (fun frame => frame.height.toNat) hsegment).trans
      (Container.toNat_two (by omega))
    bits := hbits.trans (congrArg (fun frame => frame.bits.toNat) hsegment)
    components := hcomponents.trans (congrArg (fun frame => frame.components.toNat) hsegment)
    colorSpace := hreads.colorSpace
    units := hreads.units
    verticalResolution := hreads.verticalResolution }

theorem mismatch_of_spiff (hmagic : Form.spiff.magic <+: source)
    (hcontainer : Container.metadata source = .ok container)
    (hfound : findFrame source = .ok stored) :
    stored.mismatch container =
      if Disagrees source then [.frameMismatch container.frame stored.frame] else [] := by
  obtain ⟨hlong, hsegment⟩ := of_findFrame (segmentOffset?_of_spiff hmagic) hfound
  obtain ⟨hframe, -, hheader⟩ := Container.frame_of_metadata hmagic hcontainer
  rw [StoredFrame.mismatch, ← ite_not]
  simp only [disagrees_iff hheader hlong, hframe, hsegment]

theorem decoded_of_spiff {outcome : DecodeOutcome Record} (hmagic : Form.spiff.magic <+: source)
    (hcontainer : Container.metadata source = .ok container) (hends : Decoding source outcome)
    {decoded : DecodedImage} (hdecoded : outcome.answer = .ok decoded) :
    outcome.warnings =
        (if Disagrees source then [.frameMismatch container.frame decoded.metadata.frame]
        else []) ∧
      FromSegment source decoded.metadata := by
  obtain ⟨found, stored, hfound, hstored, hframe, -, rfl, hwarnings⟩ := hends.of_ok hdecoded
  obtain rfl := Except.ok.inj (hcontainer.symm.trans hfound)
  have hgeometry : (stored.image container source).metadata.frame = stored.frame :=
    Metadata.frame_plain hframe stored.interleave
  rw [hwarnings, hgeometry]
  exact ⟨mismatch_of_spiff hmagic hcontainer hstored,
    fromSegment_image hmagic hcontainer hstored hframe⟩

/-- Where the frame segment comes first, the codec reports the frame that the container has read,
so that no decoding warns of another frame or refuses it.  Behind a SPIFF header the segment decides
the geometry, and a decoding warns if the header describes another. -/
theorem readers_agree (config : Config) (source : List UInt8) :
    (Container.frameMagic <+: source →
      (∀ (decoder found : Decoder) (record left : Record), decoder.source = some source →
        (codec config).readHeader decoder record = (.ok found, left) →
        ∃ frame, Container.frame? source = some frame ∧
          ∀ asked : Record,
            (∀ reported, ((codec config).frameInfo found asked).1 = .ok reported →
              reported = frame) ∧
            (config.failAt = none → ((codec config).frameInfo found asked).1 = .ok frame)) ∧
      ∀ (record : Record) (warnings : List Warning),
        let run := decode (codec config) source ⟨record, warnings⟩
        (∃ added, run.2.warnings = warnings ++ added ∧
          ∀ first second, .frameMismatch first second ∉ added) ∧
        ∀ container, Container.metadata source = .ok container →
          ∀ error, run.1 = .error error → ∃ fault, error = .codec fault) ∧
    (Spiff.magic <+: source →
      ∀ container, Container.metadata source = .ok container →
      ∀ (record : Record) (warnings : List Warning),
        let run := decode (codec config) source ⟨record, warnings⟩
        ∀ decoded, run.1 = .ok decoded →
          run.2.warnings = warnings ++
            (if Disagrees source then [.frameMismatch container.frame decoded.metadata.frame]
            else []) ∧
          FromSegment source decoded.metadata) := by
  constructor
  · intro hmagic
    constructor
    · intro decoder found record left hsource hread
      obtain ⟨stored, hfound, rfl⟩ := of_readHeader hsource hread
      refine ⟨stored.frame, frame?_of_findFrame hmagic hfound, fun asked => ⟨?_, ?_⟩⟩
      · intro reported hreported
        exact of_frameInfo rfl (Prod.ext hreported rfl)
      · intro hconfig
        obtain ⟨after, hinfo⟩ :=
          frameInfo_ok hconfig { decoder with stored := some stored } rfl asked
        rw [hinfo]
    · intro record warnings run
      have hends := decoding config source record
      simp only [run, decode_apply]
      exact ⟨⟨_, rfl, no_mismatch_of_bare hmagic hends⟩,
        fun container hcontainer error herror => error_of_bare hmagic hcontainer hends herror⟩
  · intro hmagic container hcontainer record warnings run decoded hdecoded
    simp only [run, decode_apply] at hdecoded ⊢
    obtain ⟨hwarnings, hsegment⟩ :=
      decoded_of_spiff hmagic hcontainer (decoding config source record) hdecoded
    exact ⟨congrArg (warnings ++ ·) hwarnings, hsegment⟩

theorem readers_agree_turned :
    let source : List UInt8 := [
      0xFF, 0xD8, 0xFF, 0xE8, 0, 32, 0x53, 0x50, 0x49, 0x46, 0x46, 0, 2, 0, 0, 1,
      0, 0, 0, 1, 0, 0, 0, 2, 8, 8, 6, 1, 0, 0, 0, 72, 0, 0, 0, 72,
      0xFF, 0xF7, 0, 11, 8, 0, 2, 0, 1, 1, 1, 0x11, 0, 0, 7, 9]
    let decoded : DecodedImage := ⟨⟨1, 2, 8, 1, .planar, some 8, some 1, some 72⟩, .eight [7, 9]⟩
    let run := decode (codec {}) source ⟨{}, []⟩
    run.1 = .ok decoded ∧ run.2.warnings = [.frameMismatch ⟨2, 1, 8, 1⟩ ⟨1, 2, 8, 1⟩] ∧
      FromSegment source decoded.metadata := by
  intro source decoded
  have hcontainer : Container.metadata source =
      .ok ⟨2, 1, 8, 1, .planar, some 8, some 1, some 72⟩ := by decide +kernel
  have hdecoded : (decode (codec {}) source ⟨{}, []⟩).1 = .ok decoded := by decide +kernel
  have hdisagrees : Disagrees source := by decide +kernel
  obtain ⟨hwarnings, hsegment⟩ :=
    (readers_agree {} source).2 ⟨_, rfl⟩ _ hcontainer {} [] decoded hdecoded
  rw [if_pos hdisagrees] at hwarnings
  exact ⟨hdecoded, hwarnings, hsegment⟩

end Loopback

end JpegLs
