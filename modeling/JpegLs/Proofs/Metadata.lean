import JpegLs.Metadata

namespace JpegLs

theorem PixelMode.ofComponents_eq_ok_iff {components bits : Nat} {mode : PixelMode} :
    ofComponents components bits = .ok mode ↔
      (1 ≤ bits ∧ bits ≤ 16) ∧ mode.components = components ∧ mode.width = .ofBits bits := by
  unfold ofComponents
  by_cases hbits : 1 ≤ bits ∧ bits ≤ 16
  · rw [if_pos hbits]
    rcases hmode : of? components (.ofBits bits) with _ | found
    · have hnone : ¬(mode.components = components ∧ mode.width = .ofBits bits) := by
        rw [← of?_eq_some_iff, hmode]
        simp
      simp [hnone]
    · have hsome : found = mode ↔ mode.components = components ∧ mode.width = .ofBits bits := by
        rw [← of?_eq_some_iff, hmode, Option.some_inj]
      simp [← hsome, hbits]
  · simp [hbits]

theorem PixelMode.components_eq (mode : PixelMode) :
    mode.components = 1 ∨ mode.components = 3 := by
  cases mode <;> simp [components]

theorem PixelMode.ofComponents_of_not {components bits : Nat}
    (h : ¬((components = 1 ∨ components = 3) ∧ 1 ≤ bits ∧ bits ≤ 16)) :
    ofComponents components bits = .error (.unsupportedMode components bits) := by
  unfold ofComponents
  by_cases hbits : 1 ≤ bits ∧ bits ≤ 16
  · rw [if_pos hbits]
    cases hmode : of? components (.ofBits bits) with
    | none => rfl
    | some mode =>
        obtain ⟨rfl, -⟩ := of?_eq_some_iff.mp hmode
        exact absurd ⟨mode.components_eq, hbits⟩ h
  · rw [if_neg hbits]

structure FrameInfo.Valid (frame : FrameInfo) : Prop where
  components : frame.components = 1 ∨ frame.components = 3
  one_le_bits : 1 ≤ frame.bits
  bits_le : frame.bits ≤ 16
  width_ne : frame.width ≠ 0
  height_ne : frame.height ≠ 0
  samples_lt : frame.samples < UInt64.size

theorem PixelMode.exists_ofComponents {frame : FrameInfo}
    (hcomponents : frame.components = 1 ∨ frame.components = 3) (hone : 1 ≤ frame.bits)
    (hle : frame.bits ≤ 16) :
    ∃ mode, ofComponents frame.components.toNat frame.bits.toNat = .ok mode := by
  have hbits : 1 ≤ frame.bits.toNat ∧ frame.bits.toNat ≤ 16 := by omega
  simp only [ofComponents_eq_ok_iff, hbits, true_and]
  rcases hcomponents with hone | hthree <;>
    rcases SampleWidth.ofBits frame.bits.toNat with _ | _
  · exact ⟨.l8, by simp [hone, PixelMode.components, PixelMode.width]⟩
  · exact ⟨.l16, by simp [hone, PixelMode.components, PixelMode.width]⟩
  · exact ⟨.rgb8, by simp [hthree, PixelMode.components, PixelMode.width]⟩
  · exact ⟨.rgb16, by simp [hthree, PixelMode.components, PixelMode.width]⟩

theorem FrameInfo.Valid.exists_mode {frame : FrameInfo} (hframe : frame.Valid) :
    ∃ mode, PixelMode.ofComponents frame.components.toNat frame.bits.toNat = .ok mode :=
  PixelMode.exists_ofComponents hframe.components hframe.one_le_bits hframe.bits_le

namespace Metadata

theorem ofFrame_of_valid {frame : FrameInfo} (hframe : frame.Valid) (interleave : Interleave) :
    ofFrame frame interleave = .ok (plain frame interleave) := by
  obtain ⟨mode, hmode⟩ := hframe.exists_mode
  have hcount : frame.sampleCount? = some frame.samples :=
    FrameInfo.sampleCount?_eq_some_iff.mpr ⟨rfl, hframe.samples_lt⟩
  simp [ofFrame, hmode, hframe.width_ne, hframe.height_ne, hcount, plain]

/-- What is wrong with a frame, in the order it is looked for. -/
theorem ofFrame_eq (frame : FrameInfo) (interleave : Interleave) :
    ofFrame frame interleave =
      if ¬((frame.components = 1 ∨ frame.components = 3) ∧ 1 ≤ frame.bits ∧ frame.bits ≤ 16) then
        .error (.unsupportedMode frame.components.toNat frame.bits.toNat)
      else if frame.width = 0 ∨ frame.height = 0 then .error (.format .zeroDimension)
      else if UInt64.size ≤ frame.samples then .error (.format .tooLarge)
      else .ok (plain frame interleave) := by
  by_cases hmode : (frame.components = 1 ∨ frame.components = 3) ∧ 1 ≤ frame.bits ∧ frame.bits ≤ 16
  · rw [if_neg (not_not_intro hmode)]
    obtain ⟨hcomponents, hone, hle⟩ := hmode
    obtain ⟨mode, hmode⟩ := PixelMode.exists_ofComponents hcomponents hone hle
    by_cases hzero : frame.width = 0 ∨ frame.height = 0
    · simp only [ofFrame, hmode, if_pos hzero]
    · rw [if_neg hzero]
      by_cases hlarge : UInt64.size ≤ frame.samples
      · have hcount : frame.sampleCount? = none := if_neg (Nat.not_lt.mpr hlarge)
        simp only [ofFrame, hmode, if_neg hzero, hcount, Option.isNone_none, if_pos hlarge,
          if_true]
      · rw [if_neg hlarge]
        exact ofFrame_of_valid {
          components := hcomponents
          one_le_bits := hone
          bits_le := hle
          width_ne := fun hwidth => hzero (.inl hwidth)
          height_ne := fun hheight => hzero (.inr hheight)
          samples_lt := Nat.lt_of_not_le hlarge } interleave
  · rw [if_pos hmode, ofFrame, PixelMode.ofComponents_of_not (by omega)]

theorem valid_of_ofFrame {frame : FrameInfo} {interleave : Interleave} {metadata : Metadata}
    (h : ofFrame frame interleave = .ok metadata) :
    frame.Valid ∧ metadata = plain frame interleave := by
  rw [ofFrame_eq] at h
  by_cases hmode : (frame.components = 1 ∨ frame.components = 3) ∧ 1 ≤ frame.bits ∧ frame.bits ≤ 16
  · rw [if_neg (not_not_intro hmode)] at h
    by_cases hzero : frame.width = 0 ∨ frame.height = 0
    · rw [if_pos hzero] at h
      cases h
    · rw [if_neg hzero] at h
      by_cases hlarge : UInt64.size ≤ frame.samples
      · rw [if_pos hlarge] at h
        cases h
      · rw [if_neg hlarge] at h
        cases h
        exact ⟨{
          components := hmode.1
          one_le_bits := hmode.2.1
          bits_le := hmode.2.2
          width_ne := fun hwidth => hzero (.inl hwidth)
          height_ne := fun hheight => hzero (.inr hheight)
          samples_lt := Nat.lt_of_not_le hlarge }, rfl⟩
  · rw [if_pos hmode] at h
    cases h

theorem error_of_ofFrame {frame : FrameInfo} {interleave : Interleave} {error : Error}
    (h : ofFrame frame interleave = .error error) :
    (∃ components bits, error = .unsupportedMode components bits) ∨
      ∃ fault, error = .format fault := by
  rw [ofFrame_eq] at h
  split at h
  · cases h
    exact .inl ⟨_, _, rfl⟩
  · split at h
    · cases h
      exact .inr ⟨_, rfl⟩
    · split at h
      · cases h
        exact .inr ⟨_, rfl⟩
      · cases h

theorem map_ofFrame_congr {α : Type} {frame : FrameInfo} {interleave : Interleave}
    {f g : Metadata → α} (h : f (plain frame interleave) = g (plain frame interleave)) :
    (ofFrame frame interleave).map f = (ofFrame frame interleave).map g := by
  cases hframe : ofFrame frame interleave with
  | error error => rfl
  | ok metadata =>
      obtain ⟨-, rfl⟩ := valid_of_ofFrame hframe
      exact congrArg Except.ok h

theorem bits_plain {frame : FrameInfo} (hframe : frame.Valid) (interleave : Interleave) :
    (plain frame interleave).bits.toNat = frame.bits.toNat := by
  have hle := hframe.bits_le
  rw [plain, UInt8.toNat_ofNat']
  omega

theorem components_plain {frame : FrameInfo} (hframe : frame.Valid) (interleave : Interleave) :
    (plain frame interleave).components.toNat = frame.components.toNat := by
  have hone_or_three := hframe.components
  rw [plain, UInt8.toNat_ofNat']
  omega

theorem frame_plain {frame : FrameInfo} (hframe : frame.Valid) (interleave : Interleave) :
    (plain frame interleave).frame = frame := by
  have hbits : (frame.bits.toNat : Int) = frame.bits := by
    have hone := hframe.one_le_bits
    omega
  have hcomponents : (frame.components.toNat : Int) = frame.components := by
    have hone_or_three := hframe.components
    omega
  simp only [Metadata.frame, bits_plain hframe, components_plain hframe, hbits, hcomponents]
  rfl

theorem plain_frame (metadata : Metadata) (interleave : Interleave) :
    plain metadata.frame interleave =
      { metadata with
        interleave := interleave
        colorSpace := none
        units := none
        verticalResolution := none } := by
  simp [plain, Metadata.frame]

/-- Metadata that say everything a SPIFF header declares, or nothing of it. -/
inductive Declared (metadata : Metadata) : Prop where
  | spiff (space : Spiff.ColorSpace) (units : Spiff.ResolutionUnits) (resolution : UInt32)
      (hspace : metadata.colorSpace = some space.code)
      (hunits : metadata.units = some units.code)
      (hresolution : metadata.verticalResolution = some resolution)
  | bare (hspace : metadata.colorSpace = none) (hunits : metadata.units = none)
      (hresolution : metadata.verticalResolution = none)

end Metadata

end JpegLs
