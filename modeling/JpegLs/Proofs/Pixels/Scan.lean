import Mathlib.Data.List.Basic
import JpegLs.Proofs.Pixels.Transpose

namespace JpegLs

namespace PixelBuffer

variable {buffer scan : PixelBuffer} {components rowLength : Nat} {mode : Interleave}

theorem transposed_transposed (h : rowLength ∣ buffer.length) {rows : Nat}
    (hrows : rows = buffer.length / rowLength)
    (hback : rows ∣ (buffer.transposed rowLength h).length) :
    (buffer.transposed rowLength h).transposed rows hback = buffer := by
  cases buffer with
  | eight samples => exact congrArg eight (transpose_transpose h hrows hback)
  | sixteen samples => exact congrArg sixteen (transpose_transpose h hrows hback)

theorem onWholePixels_of_dvd (hcomponents : components ≠ 0) (hdvd : components ∣ buffer.length)
    (arrange : components ∣ buffer.length → PixelBuffer) :
    buffer.onWholePixels components arrange = .ok (arrange hdvd) := by
  rw [onWholePixels, if_neg hcomponents, dif_pos hdvd]

theorem whole_of_onWholePixels {arrange : components ∣ buffer.length → PixelBuffer}
    (h : buffer.onWholePixels components arrange = .ok scan) :
    components ≠ 0 ∧ ∃ hdvd, arrange hdvd = scan := by
  unfold onWholePixels at h
  by_cases hzero : components = 0
  · rw [if_pos hzero] at h
    cases h
  · rw [if_neg hzero] at h
    by_cases hdvd : components ∣ buffer.length
    · rw [dif_pos hdvd] at h
      cases h
      exact ⟨hzero, hdvd, rfl⟩
    · rw [dif_neg hdvd] at h
      cases h

theorem length_onWholePixels {arrange : components ∣ buffer.length → PixelBuffer}
    (h : buffer.onWholePixels components arrange = .ok scan)
    (harrange : ∀ hdvd, (arrange hdvd).length = buffer.length) :
    scan.length = buffer.length := by
  obtain ⟨-, hdvd, rfl⟩ := whole_of_onWholePixels h
  exact harrange hdvd

theorem width_onWholePixels {arrange : components ∣ buffer.length → PixelBuffer}
    (h : buffer.onWholePixels components arrange = .ok scan)
    (harrange : ∀ hdvd, (arrange hdvd).width = buffer.width) :
    scan.width = buffer.width := by
  obtain ⟨-, hdvd, rfl⟩ := whole_of_onWholePixels h
  exact harrange hdvd

theorem length_toScan (h : buffer.toScan components mode = .ok scan) :
    scan.length = buffer.length := by
  apply length_onWholePixels h
  intro hdvd
  split
  · exact length_transposed buffer components hdvd
  · rfl

theorem width_toScan (h : buffer.toScan components mode = .ok scan) :
    scan.width = buffer.width := by
  apply width_onWholePixels h
  intro hdvd
  split
  · exact width_transposed buffer components hdvd
  · rfl

theorem length_ofScan (h : scan.ofScan components mode = .ok buffer) :
    buffer.length = scan.length := by
  apply length_onWholePixels h
  intro hdvd
  split
  · exact length_transposed scan _ _
  · rfl

theorem width_ofScan (h : scan.ofScan components mode = .ok buffer) :
    buffer.width = scan.width := by
  apply width_onWholePixels h
  intro hdvd
  split
  · exact width_transposed scan _ _
  · rfl

theorem arrange_back {hrow : rowLength ∣ buffer.length}
    (harrange : (if buffer.Reordered components mode then buffer.transposed rowLength hrow
      else buffer) = scan)
    {rows : Nat} (hrows : buffer.length ≠ 0 → rows = buffer.length / rowLength)
    (hback : rows ∣ scan.length) :
    (if scan.Reordered components mode then scan.transposed rows hback else scan) = buffer := by
  by_cases hbuffer : buffer.Reordered components mode
  · rw [if_pos hbuffer] at harrange
    subst harrange
    have hreordered : (buffer.transposed rowLength hrow).Reordered components mode := by
      rwa [Reordered, length_transposed]
    rw [if_pos hreordered, transposed_transposed hrow (hrows hbuffer.2.2)]
  · rw [if_neg hbuffer] at harrange
    subst harrange
    rw [if_neg hbuffer]

theorem ofScan_toScan (h : buffer.toScan components mode = .ok scan) :
    scan.ofScan components mode = .ok buffer := by
  have hlength := length_toScan h
  obtain ⟨hcomponents, hdvd, harrange⟩ := whole_of_onWholePixels h
  have hscan : components ∣ scan.length := by rwa [hlength]
  rw [ofScan, onWholePixels_of_dvd hcomponents hscan]
  exact congrArg Except.ok (arrange_back harrange (fun _ => by rw [hlength]) _)

theorem toScan_ofScan (h : scan.ofScan components mode = .ok buffer) :
    buffer.toScan components mode = .ok scan := by
  have hlength := length_ofScan h
  obtain ⟨hcomponents, hdvd, harrange⟩ := whole_of_onWholePixels h
  have hbuffer : components ∣ buffer.length := by rwa [hlength]
  rw [toScan, onWholePixels_of_dvd hcomponents hbuffer]
  refine congrArg Except.ok (arrange_back harrange (fun hsamples => ?_) _)
  exact (Nat.div_div_self hdvd hsamples).symm

end PixelBuffer

def gather {α : Type} (place : Nat → Nat) (samples : List α) : List α :=
  (List.range samples.length).filterMap fun index => samples[place index]?

theorem gather_id {α : Type} (samples : List α) : gather id samples = samples := by
  induction samples with
  | nil => rfl
  | cons sample rest ih =>
      rw [gather, List.length_cons, List.range_succ_eq_map, List.filterMap_cons,
        List.filterMap_map]
      exact congrArg (sample :: ·) ih

/-- Where planes that follow each other keep the sample of pixel order. -/
def planePlace (count components index : Nat) : Nat :=
  index % components * (count / components) + index / components

theorem gather_planes_one {α : Type} (samples : List α) :
    gather (planePlace samples.length 1) samples = samples := by
  have hid : planePlace samples.length 1 = id := by
    funext index
    simp [planePlace, Nat.mod_one]
  rw [hid, gather_id]

theorem transpose_planes {α : Type} {samples : List α} {components : Nat}
    (hdvd : components ∣ samples.length)
    (hplanes : samples.length / components ∣ samples.length) :
    transpose samples (samples.length / components) hplanes =
      gather (planePlace samples.length components) samples := by
  have hrows (hpos : 0 < samples.length) :
      samples.length / (samples.length / components) = components :=
    Nat.div_div_self hdvd (by omega)
  rw [← gather_id (transpose samples _ hplanes), gather, length_transpose]
  apply List.filterMap_congr
  intro index hindex
  have hlt := List.mem_range.mp hindex
  rw [id_eq, getElem?_transpose hplanes hlt, hrows (by omega), planePlace]

namespace PixelBuffer

variable {buffer : PixelBuffer} {components : Nat}

/-- Samples in the order a codec wrote, pixel by pixel: a pixel has one sample in each plane. -/
def pixelOrder (buffer : PixelBuffer) (components : Nat) (mode : Interleave) : PixelBuffer :=
  match mode, buffer with
  | .planar, eight samples => eight (gather (planePlace samples.length components) samples)
  | .planar, sixteen samples => sixteen (gather (planePlace samples.length components) samples)
  | .line, buffer | .sample, buffer => buffer

theorem pixelOrder_of_not_reordered {mode : Interleave}
    (h : ¬buffer.Reordered components mode) : buffer.pixelOrder components mode = buffer := by
  cases mode with
  | line => rfl
  | sample => rfl
  | planar =>
      by_cases hone : components = 1
      · subst hone
        cases buffer <;> simp only [pixelOrder, gather_planes_one]
      · have hempty : buffer.length = 0 := by
          by_contra hsamples
          exact h ⟨hone, rfl, hsamples⟩
        cases buffer with
        | eight samples => rw [List.eq_nil_of_length_eq_zero hempty]; rfl
        | sixteen samples => rw [List.eq_nil_of_length_eq_zero hempty]; rfl

theorem ofScan_eq (hcomponents : components ≠ 0) (hdvd : components ∣ buffer.length)
    (mode : Interleave) :
    buffer.ofScan components mode = .ok (buffer.pixelOrder components mode) := by
  rw [ofScan, onWholePixels_of_dvd hcomponents hdvd]
  by_cases hreordered : buffer.Reordered components mode
  · rw [if_pos hreordered]
    obtain ⟨-, rfl, -⟩ := hreordered
    cases buffer with
    | eight samples =>
        exact congrArg (fun samples => Except.ok (eight samples))
          (transpose_planes hdvd _)
    | sixteen samples =>
        exact congrArg (fun samples => Except.ok (sixteen samples))
          (transpose_planes hdvd _)
  · rw [if_neg hreordered, pixelOrder_of_not_reordered hreordered]

theorem length_pixelOrder (hcomponents : components ≠ 0) (hdvd : components ∣ buffer.length)
    (mode : Interleave) : (buffer.pixelOrder components mode).length = buffer.length :=
  length_ofScan (ofScan_eq hcomponents hdvd mode)

theorem width_pixelOrder (hcomponents : components ≠ 0) (hdvd : components ∣ buffer.length)
    (mode : Interleave) : (buffer.pixelOrder components mode).width = buffer.width :=
  width_ofScan (ofScan_eq hcomponents hdvd mode)

end PixelBuffer

end JpegLs
