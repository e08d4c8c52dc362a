import Mathlib.Data.List.Basic
import JpegLs.Proofs.Pixels.Buffer
import JpegLs.Proofs.Pixels.Scan

/-!
Pixel order and scan order are inverse to each other.  In planar order the plane of each component
has one sample of each pixel; rows of no sample and ragged rows are never transposed.
-/

namespace JpegLs

theorem transposeChecked_of_dvd {α : Type} {samples : List α} {rowLength : Nat}
    (hlength : rowLength ≠ 0) (hdvd : rowLength ∣ samples.length) :
    transposeChecked samples rowLength = .ok (transpose samples rowLength hdvd) :=
  dif_pos ⟨hlength, hdvd⟩

namespace PixelBuffer

variable {buffer scan : PixelBuffer} {components rowLength : Nat} {mode : Interleave}

theorem transposedChecked_of_dvd (hlength : rowLength ≠ 0) (hdvd : rowLength ∣ buffer.length) :
    buffer.transposedChecked rowLength = .ok (buffer.transposed rowLength hdvd) := by
  cases buffer with
  | eight samples => exact congrArg (Except.map eight) (transposeChecked_of_dvd hlength hdvd)
  | sixteen samples => exact congrArg (Except.map sixteen) (transposeChecked_of_dvd hlength hdvd)

/-- A change of order by rows of `rowLength` samples, where only the number of components has been
checked.  Rows that do not fit the buffer are a fault of their own. -/
def reorderChecked (buffer : PixelBuffer) (components : Nat) (mode : Interleave)
    (rowLength : Nat) : Except RaggedRows (Except Error PixelBuffer) :=
  if components = 0 then
    .ok (.error (.geometry .zeroComponents))
  else if buffer.length % components ≠ 0 then
    .ok (.error (.bufferSize (wholePixels buffer.length components) buffer.length))
  else if components = 1 ∨ mode ≠ .planar ∨ buffer.isEmpty then
    .ok (.ok buffer)
  else
    (buffer.transposedChecked rowLength).map .ok

def toScanChecked (buffer : PixelBuffer) (components : Nat) (mode : Interleave) :
    Except RaggedRows (Except Error PixelBuffer) :=
  buffer.reorderChecked components mode components

def ofScanChecked (buffer : PixelBuffer) (components : Nat) (mode : Interleave) :
    Except RaggedRows (Except Error PixelBuffer) :=
  buffer.reorderChecked components mode (buffer.length / components)

theorem not_reordered_iff :
    ¬buffer.Reordered components mode ↔ components = 1 ∨ mode ≠ .planar ∨ buffer.length = 0 := by
  rw [Reordered, not_and_or, not_and_or, not_not, not_not]

theorem reorderChecked_eq (hrow : components ∣ buffer.length → rowLength ∣ buffer.length)
    (hlength : components ≠ 0 → components ∣ buffer.length → buffer.length ≠ 0 → rowLength ≠ 0) :
    buffer.reorderChecked components mode rowLength =
      .ok (buffer.onWholePixels components fun hdvd =>
        if buffer.Reordered components mode then buffer.transposed rowLength (hrow hdvd)
        else buffer) := by
  rw [reorderChecked, onWholePixels]
  by_cases hcomponents : components = 0
  · rw [if_pos hcomponents, if_pos hcomponents]
  rw [if_neg hcomponents, if_neg hcomponents]
  by_cases hdvd : components ∣ buffer.length
  · rw [if_neg (not_not_intro (Nat.mod_eq_zero_of_dvd hdvd)), dif_pos hdvd]
    have hempty : buffer.isEmpty = true ↔ buffer.length = 0 := by simp [isEmpty]
    by_cases hreordered : buffer.Reordered components mode
    · rw [if_neg (by rwa [hempty, ← not_reordered_iff, not_not]), if_pos hreordered,
        transposedChecked_of_dvd (hlength hcomponents hdvd hreordered.2.2) (hrow hdvd)]
      rfl
    · rw [if_pos (by rwa [hempty, ← not_reordered_iff]), if_neg hreordered]
  · rw [if_pos (fun hmod => hdvd (Nat.dvd_of_mod_eq_zero hmod)), dif_neg hdvd]

theorem toScanChecked_eq (buffer : PixelBuffer) (components : Nat) (mode : Interleave) :
    buffer.toScanChecked components mode = .ok (buffer.toScan components mode) :=
  reorderChecked_eq id fun hcomponents _ _ => hcomponents

theorem ofScanChecked_eq (buffer : PixelBuffer) (components : Nat) (mode : Interleave) :
    buffer.ofScanChecked components mode = .ok (buffer.ofScan components mode) := by
  apply reorderChecked_eq Nat.div_dvd_of_dvd
  intro hcomponents hdvd hsamples
  exact Nat.div_ne_zero_iff.mpr ⟨hcomponents, Nat.le_of_dvd (by omega) hdvd⟩

theorem onWholePixels_zero (arrange : 0 ∣ buffer.length → PixelBuffer) :
    buffer.onWholePixels 0 arrange = .error (.geometry .zeroComponents) :=
  if_pos rfl

theorem onWholePixels_of_partial (hcomponents : components ≠ 0)
    (hdvd : ¬components ∣ buffer.length) (arrange : components ∣ buffer.length → PixelBuffer) :
    buffer.onWholePixels components arrange =
      .error (.bufferSize (wholePixels buffer.length components) buffer.length) := by
  rw [onWholePixels, if_neg hcomponents, dif_neg hdvd]

theorem values_transposed (hdvd : rowLength ∣ buffer.length)
    (hvalues : rowLength ∣ buffer.values.length) :
    (buffer.transposed rowLength hdvd).values = transpose buffer.values rowLength hvalues := by
  cases buffer with
  | eight samples => exact (transpose_map UInt8.toNat hdvd hvalues).symm
  | sixteen samples => exact (transpose_map UInt16.toNat hdvd hvalues).symm

theorem getElem?_values_toScan (h : buffer.toScan components .planar = .ok scan)
    {component pixel : Nat} (hcomponent : component < components)
    (hpixel : pixel < buffer.length / components) :
    scan.values[component * (buffer.length / components) + pixel]? =
      buffer.values[pixel * components + component]? := by
  obtain ⟨-, hdvd, harrange⟩ := whole_of_onWholePixels h
  by_cases hreordered : buffer.Reordered components .planar
  · rw [if_pos hreordered] at harrange
    subst harrange
    have hvalues : components ∣ buffer.values.length := by rwa [length_values]
    rw [values_transposed hdvd hvalues]
    rw [← length_values] at hpixel ⊢
    exact getElem?_transpose_column hvalues hpixel hcomponent
  · rw [if_neg hreordered] at harrange
    subst harrange
    have hsamples : buffer.length ≠ 0 := fun hzero => by simp [hzero] at hpixel
    have hone : components = 1 := by
      by_contra hone
      exact hreordered ⟨hone, rfl, hsamples⟩
    subst hone
    obtain rfl : component = 0 := by omega
    simp

/-- What the two orders of whole pixels have to do with each other: `scan` holds the samples of
`buffer` taken for pixels, and `pixels` those of `buffer` taken for a scan. -/
structure InverseOrders (buffer : PixelBuffer) (components : Nat) (mode : Interleave)
    (scan pixels : PixelBuffer) : Prop where
  toScan : buffer.toScan components mode = .ok scan
  ofScan_toScan : scan.ofScan components mode = .ok buffer
  ofScan : buffer.ofScan components mode = .ok pixels
  toScan_ofScan : pixels.toScan components mode = .ok buffer
  width_scan : scan.width = buffer.width
  length_scan : scan.length = buffer.length
  width_pixels : pixels.width = buffer.width
  length_pixels : pixels.length = buffer.length
  planes : mode = .planar →
    ∀ component < components, ∀ pixel < buffer.length / components, ∃ value,
      scan.values[component * (buffer.length / components) + pixel]? = some value ∧
        buffer.values[pixel * components + component]? = some value
  unplanes : mode = .planar →
    ∀ component < components, ∀ pixel < buffer.length / components, ∃ value,
      pixels.values[pixel * components + component]? = some value ∧
        buffer.values[component * (buffer.length / components) + pixel]? = some value
  same : components = 1 ∨ mode ≠ .planar ∨ buffer.length = 0 → scan = buffer ∧ pixels = buffer

theorem exists_inverseOrders (hcomponents : components ≠ 0) (hdvd : components ∣ buffer.length)
    (mode : Interleave) : ∃ scan pixels, InverseOrders buffer components mode scan pixels := by
  obtain ⟨scan, hscan⟩ : ∃ scan, buffer.toScan components mode = .ok scan :=
    ⟨_, onWholePixels_of_dvd hcomponents hdvd _⟩
  obtain ⟨pixels, hpixels⟩ : ∃ pixels, buffer.ofScan components mode = .ok pixels :=
    ⟨_, onWholePixels_of_dvd hcomponents hdvd _⟩
  have hforth := PixelBuffer.toScan_ofScan hpixels
  have hlength : pixels.length = buffer.length := length_ofScan hpixels
  refine ⟨scan, pixels, hscan, PixelBuffer.ofScan_toScan hscan, hpixels, hforth,
    width_toScan hscan, length_toScan hscan, width_ofScan hpixels, hlength, ?_, ?_, ?_⟩
  · rintro rfl component hcomponent pixel hpixel
    obtain ⟨value, hvalue⟩ := exists_value buffer (row_place_lt hdvd hpixel hcomponent)
    exact ⟨value, (getElem?_values_toScan hscan hcomponent hpixel).trans hvalue, hvalue⟩
  · rintro rfl component hcomponent pixel hpixel
    obtain ⟨value, hvalue⟩ := exists_value buffer (column_place_lt hdvd hpixel hcomponent)
    have hplane := getElem?_values_toScan hforth hcomponent (by rwa [hlength])
    rw [hlength, hvalue] at hplane
    exact ⟨value, hplane.symm, hvalue⟩
  · intro hsame
    have hreordered : ¬buffer.Reordered components mode := not_reordered_iff.mpr hsame
    rw [PixelBuffer.toScan, onWholePixels_of_dvd hcomponents hdvd, if_neg hreordered] at hscan
    rw [PixelBuffer.ofScan, onWholePixels_of_dvd hcomponents hdvd, if_neg hreordered] at hpixels
    exact ⟨(Except.ok.inj hscan).symm, (Except.ok.inj hpixels).symm⟩

/-- The two orders undo each other on whole pixels, both refuse anything else with the same error,
and neither transposes rows that do not fit. -/
theorem orders_inverse (buffer : PixelBuffer) (components : Nat) (mode : Interleave) :
    (components ≠ 0 → components ∣ buffer.length →
      ∃ scan pixels, InverseOrders buffer components mode scan pixels) ∧
    (components = 0 →
      buffer.toScan components mode = .error (.geometry .zeroComponents) ∧
        buffer.ofScan components mode = .error (.geometry .zeroComponents)) ∧
    (components ≠ 0 → ¬components ∣ buffer.length →
      buffer.toScan components mode =
          .error (.bufferSize (wholePixels buffer.length components) buffer.length) ∧
        buffer.ofScan components mode =
          .error (.bufferSize (wholePixels buffer.length components) buffer.length)) ∧
    buffer.toScanChecked components mode = .ok (buffer.toScan components mode) ∧
    buffer.ofScanChecked components mode = .ok (buffer.ofScan components mode) := by
  refine ⟨fun hcomponents hdvd => exists_inverseOrders hcomponents hdvd mode, ?_, ?_,
    toScanChecked_eq buffer components mode, ofScanChecked_eq buffer components mode⟩
  · rintro rfl
    exact ⟨onWholePixels_zero _, onWholePixels_zero _⟩
  · intro hcomponents hdvd
    exact ⟨onWholePixels_of_partial hcomponents hdvd _, onWholePixels_of_partial hcomponents hdvd _⟩

theorem orders_inverse_two_pixels :
    (∃ scan pixels, InverseOrders (sixteen [1, 2, 3, 4, 5, 6]) 3 .planar scan pixels) ∧
      (sixteen [1, 2, 3, 4, 5, 6]).toScan 3 .planar = .ok (sixteen [1, 4, 2, 5, 3, 6]) ∧
      (sixteen [1, 2, 3, 4, 5, 6]).ofScan 3 .planar = .ok (sixteen [1, 3, 5, 2, 4, 6]) :=
  ⟨(orders_inverse (sixteen [1, 2, 3, 4, 5, 6]) 3 .planar).1 (by decide) (by decide),
    by decide, by decide⟩

end PixelBuffer

end JpegLs
