import Mathlib.Data.List.Basic
import JpegLs.Pixels.Buffer
import JpegLs.Proofs.Bytes

namespace JpegLs

theorem SampleWidth.bytes_ofBits (bits : Nat) :
    (ofBits bits).bytes = if bits ≤ 8 then 1 else 2 := by
  rw [ofBits]
  split
  · rfl
  · rfl

theorem SampleWidth.div_bytes_eq_iff {width : SampleWidth} {length count : Nat} :
    length / width.bytes = count ↔ length = count * width.bytes ∨
      (width = .sixteen ∧ length = count * width.bytes + 1) := by
  cases width with
  | eight => simp [bytes]
  | sixteen =>
      simp only [bytes, true_and]
      omega

namespace PixelBuffer

theorem ofBytes_take {bytes : List UInt8} {width : SampleWidth} {count : Nat}
    (hcount : bytes.length / width.bytes = count) :
    ofBytes (bytes.take (count * width.bytes)) width = ofBytes bytes width := by
  subst hcount
  cases width with
  | eight => simp [ofBytes, SampleWidth.bytes]
  | sixteen =>
      rw [SampleWidth.bytes, Nat.mul_comm]
      exact congrArg sixteen (unpackWords_take bytes)

theorem ofBytes_toBytes (buffer : PixelBuffer) : ofBytes buffer.toBytes buffer.width = buffer := by
  cases buffer with
  | eight samples => rfl
  | sixteen samples => exact congrArg sixteen (unpackWords_packWords samples)

theorem toBytes_ofBytes {bytes : List UInt8} {width : SampleWidth}
    (hwhole : width.bytes ∣ bytes.length) : (ofBytes bytes width).toBytes = bytes := by
  cases width with
  | eight => rfl
  | sixteen => exact packWords_unpackWords bytes hwhole

theorem toBytes_ofBytes_take (bytes : List UInt8) (width : SampleWidth) :
    (ofBytes bytes width).toBytes = bytes.take (bytes.length / width.bytes * width.bytes) := by
  rw [← ofBytes_take rfl]
  apply toBytes_ofBytes
  rw [List.length_take, Nat.min_eq_left (Nat.div_mul_le_self _ _)]
  exact Nat.dvd_mul_left _ _

theorem toBytes_ofBytes_odd {bytes : List UInt8} (hodd : ¬2 ∣ bytes.length) :
    (ofBytes bytes .sixteen).toBytes = bytes.dropLast := by
  have hcount : bytes.length / 2 * 2 = bytes.length - 1 := by omega
  rw [toBytes_ofBytes_take, List.dropLast_eq_take]
  exact congrArg bytes.take hcount

theorem length_withBits (buffer : PixelBuffer) (bits : Nat) :
    (buffer.withBits bits).length = buffer.length :=
  length_withWidth buffer _

theorem width_withBits (buffer : PixelBuffer) (bits : Nat) :
    (buffer.withBits bits).width = .ofBits bits :=
  width_withWidth buffer _

theorem withBits_of_width {buffer : PixelBuffer} {bits : Nat}
    (hwidth : SampleWidth.ofBits bits = buffer.width) : buffer.withBits bits = buffer := by
  rw [withBits, hwidth]
  cases buffer with
  | eight samples => rfl
  | sixteen samples => rfl

def values : PixelBuffer → List Nat
  | eight samples => samples.map UInt8.toNat
  | sixteen samples => samples.map UInt16.toNat

theorem values_widened (samples : List UInt8) :
    ((eight samples).withWidth .sixteen).values = (eight samples).values := by
  simp only [withWidth, values, List.map_map]
  apply List.map_congr_left
  intro sample _
  rfl

theorem values_narrowed (samples : List UInt16) :
    ((sixteen samples).withWidth .eight).values =
      (sixteen samples).values.map (· % 256) := by
  simp only [withWidth, values, List.map_map]
  apply List.map_congr_left
  intro sample _
  exact UInt16.toNat_toUInt8 sample

theorem map_mod_eq_iff {modulus : Nat} (hmodulus : modulus ≠ 0) (values : List Nat) :
    values.map (· % modulus) = values ↔ ∀ value ∈ values, value < modulus := by
  induction values with
  | nil => simp
  | cons value rest ih =>
      rw [List.map_cons, List.cons.injEq, ih, List.forall_mem_cons, Nat.mod_eq_iff_lt hmodulus]

theorem values_eight_lt (samples : List UInt8) :
    ∀ value ∈ (eight samples).values, value < 256 := by
  intro value hvalue
  obtain ⟨sample, -, rfl⟩ := List.mem_map.mp hvalue
  exact sample.toNat_lt

theorem values_narrow {bits : Nat} (hbits : bits ≤ 8) (buffer : PixelBuffer) :
    (buffer.withBits bits).values = buffer.values.map (· % 256) := by
  have hwidth : SampleWidth.ofBits bits = .eight := if_pos hbits
  rw [withBits, hwidth]
  cases buffer with
  | eight samples => exact ((map_mod_eq_iff (by decide) _).mpr (values_eight_lt samples)).symm
  | sixteen samples => exact values_narrowed samples

theorem values_wide {bits : Nat} (hbits : 8 < bits) (buffer : PixelBuffer) :
    (buffer.withBits bits).values = buffer.values := by
  have hwidth : SampleWidth.ofBits bits = .sixteen := if_neg (Nat.not_le.mpr hbits)
  rw [withBits, hwidth]
  cases buffer with
  | eight samples => exact values_widened samples
  | sixteen samples => rfl

theorem values_withBits (buffer : PixelBuffer) (bits : Nat) :
    (buffer.withBits bits).values = buffer.values ↔
      8 < bits ∨ ∀ value ∈ buffer.values, value < 256 := by
  by_cases hbits : 8 < bits
  · exact iff_of_true (values_wide hbits buffer) (.inl hbits)
  · rw [values_narrow (Nat.le_of_not_lt hbits), map_mod_eq_iff (by decide), or_iff_right hbits]

theorem length_values (buffer : PixelBuffer) : buffer.values.length = buffer.length := by
  cases buffer with
  | eight samples => exact List.length_map UInt8.toNat
  | sixteen samples => exact List.length_map UInt16.toNat

theorem exists_value (buffer : PixelBuffer) {index : Nat} (hindex : index < buffer.length) :
    ∃ value, buffer.values[index]? = some value :=
  ⟨_, List.getElem?_eq_getElem (by rwa [length_values])⟩

end PixelBuffer

/-- The bytes a value is stored in, its low byte first.  One byte holds no more than that. -/
def SampleWidth.stored (value : Nat) : SampleWidth → List UInt8
  | eight => [UInt8.ofNat value]
  | sixteen => [UInt8.ofNat value, UInt8.ofNat (value / 256)]

theorem PixelBuffer.stored_withBits {buffer : PixelBuffer} {index value : Nat}
    (hvalue : buffer.values[index]? = some value) (bits : Nat) :
    ∃ changed, (buffer.withBits bits).values[index]? = some changed ∧
      (SampleWidth.ofBits bits).stored changed = (SampleWidth.ofBits bits).stored value := by
  by_cases hbits : bits ≤ 8
  · have hwidth : SampleWidth.ofBits bits = .eight := if_pos hbits
    refine ⟨value % 256, ?_, ?_⟩
    · rw [values_narrow hbits, List.getElem?_map, hvalue]
      rfl
    · rw [hwidth, SampleWidth.stored, SampleWidth.stored]
      exact congrArg (fun byte => [byte]) UInt8.ofNat_mod_size
  · exact ⟨value, by rw [values_wide (Nat.lt_of_not_le hbits), hvalue], rfl⟩

theorem PixelBuffer.take_toBytes {buffer : PixelBuffer} {index value : Nat}
    (hvalue : buffer.values[index]? = some value) :
    (buffer.toBytes.drop (buffer.width.bytes * index)).take buffer.width.bytes =
      buffer.width.stored value := by
  cases buffer with
  | eight samples =>
      rw [values, List.getElem?_map] at hvalue
      obtain ⟨sample, hsample, rfl⟩ := Option.map_eq_some_iff.mp hvalue
      obtain ⟨hindex, rfl⟩ := List.getElem?_eq_some_iff.mp hsample
      rw [width, SampleWidth.bytes, Nat.one_mul, toBytes, List.drop_eq_getElem_cons hindex,
        SampleWidth.stored, UInt8.ofNat_toNat]
      rfl
  | sixteen samples =>
      rw [values, List.getElem?_map] at hvalue
      obtain ⟨sample, hsample, rfl⟩ := Option.map_eq_some_iff.mp hvalue
      exact take_packWords hsample

/-- Samples come back from their bytes.  Bytes come back from the samples read off them, less a last
one that completes no sample. -/
theorem PixelBuffer.bytes_inverse (bits : Nat) :
    (∀ buffer : PixelBuffer, SampleWidth.ofBits bits = buffer.width →
      ofBytes buffer.toBytes (.ofBits bits) = buffer) ∧
    (∀ buffer : PixelBuffer, buffer.toBytes.length = buffer.length * buffer.width.bytes ∧
      ∀ index value, buffer.values[index]? = some value →
        (buffer.toBytes.drop (buffer.width.bytes * index)).take buffer.width.bytes =
          buffer.width.stored value) ∧
    (∀ bytes : List UInt8, (ofBytes bytes (.ofBits bits)).toBytes =
      if bits ≤ 8 ∨ 2 ∣ bytes.length then bytes else bytes.dropLast) := by
  refine ⟨?_, fun buffer => ⟨length_toBytes buffer, fun _ _ => take_toBytes⟩, ?_⟩
  · intro buffer hwidth
    rw [hwidth, ofBytes_toBytes]
  · intro bytes
    by_cases hbits : bits ≤ 8
    · have hwidth : SampleWidth.ofBits bits = .eight := if_pos hbits
      rw [hwidth, if_pos (.inl hbits)]
      rfl
    have hwidth : SampleWidth.ofBits bits = .sixteen := if_neg hbits
    rw [hwidth]
    by_cases heven : 2 ∣ bytes.length
    · rw [if_pos (.inr heven), toBytes_ofBytes heven]
    · rw [if_neg (not_or.mpr ⟨hbits, heven⟩), toBytes_ofBytes_odd heven]

theorem PixelBuffer.bytes_inverse_twelve_bits :
    ofBytes (sixteen [258, 4095]).toBytes (.ofBits 12) = sixteen [258, 4095] ∧
      (sixteen [258, 4095]).toBytes = [2, 1, 255, 15] ∧
      (ofBytes [2, 1, 255] (.ofBits 12)).toBytes = [2, 1] := by
  obtain ⟨hsamples, -, hbytes⟩ := bytes_inverse 12
  exact ⟨hsamples (sixteen [258, 4095]) rfl, by decide, hbytes [2, 1, 255]⟩

end JpegLs
