import Mathlib.Data.List.Basic
import JpegLs.Proofs.Pixels.Scan

namespace JpegLs

variable {α : Type}

def plane (components : Nat) (samples : List α) (component : Nat) : List α :=
  (List.range (samples.length / components)).filterMap fun pixel =>
    samples[pixel * components + component]?

def planes (components : Nat) (samples : List α) : List α :=
  (List.range components).flatMap (plane components samples)

theorem range_mul (count length : Nat) :
    List.range (count * length) =
      (List.range count).flatMap fun block => (List.range length).map (block * length + ·) := by
  induction count with
  | zero => simp
  | succ count ih =>
      rw [Nat.succ_mul, List.range_add, List.range_succ, List.flatMap_append, ih]
      simp

theorem transpose_pixels {samples : List α} {components : Nat}
    (hdvd : components ∣ samples.length) :
    transpose samples components hdvd = planes components samples := by
  rw [← gather_id (transpose samples components hdvd), gather, length_transpose]
  have hlength : samples.length = components * (samples.length / components) :=
    (Nat.mul_div_cancel' hdvd).symm
  generalize hpixels : samples.length / components = pixels at hlength
  -- An index of the transposed list is a pixel of one of the planes.
  rw [hlength, range_mul, List.filterMap_flatMap, planes]
  apply List.flatMap_congr
  intro component hcomponent
  rw [plane, hpixels, List.filterMap_map]
  apply List.filterMap_congr
  intro pixel hpixel
  have hcomponent := List.mem_range.mp hcomponent
  have hpixel := List.mem_range.mp hpixel
  rw [← hpixels] at hpixel ⊢
  exact getElem?_transpose_column hdvd hpixel hcomponent

theorem planes_one (samples : List α) : planes 1 samples = samples := by
  have hplane : plane 1 samples 0 = gather id samples := by
    simp [plane, gather]
  simp [planes, hplane, gather_id]

namespace PixelBuffer

variable {buffer : PixelBuffer} {components : Nat}

def scanOrder (buffer : PixelBuffer) (components : Nat) (mode : Interleave) : PixelBuffer :=
  match mode, buffer with
  | .planar, eight samples => eight (planes components samples)
  | .planar, sixteen samples => sixteen (planes components samples)
  | .line, buffer | .sample, buffer => buffer

theorem scanOrder_one (buffer : PixelBuffer) (mode : Interleave) :
    buffer.scanOrder 1 mode = buffer := by
  cases mode with
  | line => rfl
  | sample => rfl
  | planar => cases buffer <;> simp only [scanOrder, planes_one]

theorem scanOrder_of_empty (hempty : buffer.length = 0) (mode : Interleave) :
    buffer.scanOrder components mode = buffer := by
  cases mode with
  | line => rfl
  | sample => rfl
  | planar =>
      cases buffer with
      | eight samples =>
          rw [List.eq_nil_of_length_eq_zero hempty]
          simp [scanOrder, planes, plane]
      | sixteen samples =>
          rw [List.eq_nil_of_length_eq_zero hempty]
          simp [scanOrder, planes, plane]

theorem toScan_eq (hcomponents : components ≠ 0) (hdvd : components ∣ buffer.length)
    (mode : Interleave) :
    buffer.toScan components mode = .ok (buffer.scanOrder components mode) := by
  rw [toScan, onWholePixels_of_dvd hcomponents hdvd]
  by_cases hreordered : buffer.Reordered components mode
  · rw [if_pos hreordered]
    obtain ⟨-, rfl, -⟩ := hreordered
    cases buffer with
    | eight samples =>
        exact congrArg (fun samples => Except.ok (eight samples)) (transpose_pixels hdvd)
    | sixteen samples =>
        exact congrArg (fun samples => Except.ok (sixteen samples)) (transpose_pixels hdvd)
  · rw [if_neg hreordered]
    by_cases hone : components = 1
    · rw [hone, scanOrder_one]
    · cases mode with
      | line => rfl
      | sample => rfl
      | planar =>
          have hempty : buffer.length = 0 := by
            by_contra hsamples
            exact hreordered ⟨hone, rfl, hsamples⟩
          rw [scanOrder_of_empty hempty]

end PixelBuffer

end JpegLs
