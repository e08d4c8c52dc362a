import Mathlib.Order.Bounds.Basic
import JpegLs.Proofs.Pixels.Orders

/-!
The number of samples that would complete a partial last pixel, reckoned in 64 bits.  A buffer has
fewer than `2 ^ 63` samples, which keeps the product of pixels and components from wrapping around.
-/

namespace JpegLs

def roundedUp64 (count divisor : UInt64) : UInt64 :=
  if 0 < count % divisor then count / divisor + 1 else count / divisor

/-- Sum and product wrap around. -/
def wholePixels64 (count components : UInt64) : UInt64 :=
  roundedUp64 count components * components

namespace PixelBuffer

variable {count components : Nat}

theorem le_wholePixels (hcomponents : components ≠ 0) : count ≤ wholePixels count components := by
  have hlt := Nat.lt_div_mul_add (a := count + components - 1) (Nat.pos_of_ne_zero hcomponents)
  rw [wholePixels]
  omega

theorem wholePixels_isLeast (hcomponents : components ≠ 0) :
    IsLeast {total | components ∣ total ∧ count ≤ total} (wholePixels count components) := by
  refine ⟨⟨Nat.dvd_mul_left _ _, le_wholePixels hcomponents⟩, ?_⟩
  rintro _ ⟨⟨pixels, rfl⟩, htotal⟩
  rw [wholePixels, Nat.mul_comm]
  apply Nat.mul_le_mul_left
  -- One component more would be another pixel.
  apply Nat.le_of_lt_succ
  apply Nat.div_lt_of_lt_mul
  rw [Nat.mul_succ]
  omega

theorem wholePixels_lt {limit : Nat} (hcomponents : components ≠ 0) (hcount : count < limit / 2)
    (hlimit : components < limit) : wholePixels count components < limit := by
  by_cases hsingle : count ≤ components
  · have hleast := (wholePixels_isLeast hcomponents).2 ⟨Nat.dvd_refl components, hsingle⟩
    exact Nat.lt_of_le_of_lt hleast hlimit
  · have hrest : wholePixels count components ≤ count + components - 1 := Nat.div_mul_le_self _ _
    omega

theorem roundedUp_eq {divisor : Nat} (hdivisor : divisor ≠ 0) :
    (count + divisor - 1) / divisor =
      if 0 < count % divisor then count / divisor + 1 else count / divisor := by
  have hcount := Nat.div_add_mod' count divisor
  have hrest := Nat.mod_lt count (Nat.pos_of_ne_zero hdivisor)
  by_cases hpartial : 0 < count % divisor
  · rw [if_pos hpartial]
    apply Nat.div_eq_of_lt_le
    · rw [Nat.succ_mul]
      omega
    · rw [Nat.succ_mul, Nat.succ_mul]
      omega
  · rw [if_neg hpartial]
    apply Nat.div_eq_of_lt_le
    · omega
    · rw [Nat.succ_mul]
      omega

theorem toNat_roundedUp64 {count divisor : UInt64} (hdivisor : divisor ≠ 0) :
    (roundedUp64 count divisor).toNat =
      (count.toNat + divisor.toNat - 1) / divisor.toNat := by
  have hne : divisor.toNat ≠ 0 := fun hzero => hdivisor (UInt64.toNat.inj hzero)
  rw [roundedUp_eq hne, roundedUp64]
  have hpartial : 0 < count % divisor ↔ 0 < count.toNat % divisor.toNat := by
    rw [UInt64.lt_iff_toNat_lt, UInt64.toNat_mod]
    rfl
  by_cases hrest : 0 < count.toNat % divisor.toNat
  · -- Nothing is left over by a divisor of one, so the quotient is at most half of the number.
    have htwo : 2 ≤ divisor.toNat := by
      by_contra hsmall
      have hone : divisor.toNat = 1 := by omega
      rw [hone, Nat.mod_one] at hrest
      exact Nat.lt_irrefl 0 hrest
    have hhalf : count.toNat / divisor.toNat ≤ count.toNat / 2 :=
      Nat.div_le_div_left htwo (by decide)
    have hlt := count.toNat_lt
    rw [if_pos (hpartial.mpr hrest), if_pos hrest, UInt64.toNat_add, UInt64.toNat_div]
    apply Nat.mod_eq_of_lt
    rw [UInt64.toNat_one]
    omega
  · rw [if_neg (mt hpartial.mp hrest), if_neg hrest, UInt64.toNat_div]

theorem toNat_wholePixels64 {count components : UInt64} (hcomponents : components ≠ 0)
    (hlt : wholePixels count.toNat components.toNat < UInt64.size) :
    (wholePixels64 count components).toNat = wholePixels count.toNat components.toNat := by
  rw [wholePixels64, UInt64.toNat_mul, toNat_roundedUp64 hcomponents]
  exact Nat.mod_eq_of_lt hlt

/-- A partial last pixel is reported against the least number of samples that make whole pixels, and
that number is reckoned in 64 bits without wrapping around. -/
theorem partial_pixel_reported (buffer : PixelBuffer) (components : UInt64) (mode : Interleave)
    (hlength : buffer.length < UInt64.size / 2) (hcomponents : components ≠ 0)
    (hpartial : ¬components.toNat ∣ buffer.length) :
    ∃ expected,
      buffer.toScan components.toNat mode = .error (.bufferSize expected buffer.length) ∧
      buffer.ofScan components.toNat mode = .error (.bufferSize expected buffer.length) ∧
      IsLeast {total | components.toNat ∣ total ∧ buffer.length ≤ total} expected ∧
      expected < UInt64.size ∧
      (roundedUp64 (.ofNat buffer.length) components).toNat * components.toNat = expected ∧
      (wholePixels64 (.ofNat buffer.length) components).toNat = expected := by
  have hne : components.toNat ≠ 0 := fun hzero => hcomponents (UInt64.toNat.inj hzero)
  have hcount : (UInt64.ofNat buffer.length).toNat = buffer.length :=
    UInt64.toNat_ofNat_of_lt (by omega)
  have hlt := wholePixels_lt hne hlength components.toNat_lt
  refine ⟨wholePixels buffer.length components.toNat, onWholePixels_of_partial hne hpartial _,
    onWholePixels_of_partial hne hpartial _, wholePixels_isLeast hne, hlt, ?_, ?_⟩
  · rw [toNat_roundedUp64 hcomponents, hcount]
    rfl
  · rw [toNat_wholePixels64 hcomponents (by rwa [hcount]), hcount]

theorem partial_pixel_reported_largest :
    (sixteen [7, 8, 9]).length < UInt64.size / 2 ∧
      ¬(18446744073709551615 : UInt64).toNat ∣ (sixteen [7, 8, 9]).length ∧
      ∃ expected,
        (sixteen [7, 8, 9]).toScan (18446744073709551615 : UInt64).toNat .planar =
            .error (.bufferSize expected 3) ∧
          (wholePixels64 3 18446744073709551615).toNat = expected ∧
          expected = 18446744073709551615 := by
  have hlength : (sixteen [7, 8, 9]).length < UInt64.size / 2 := by decide
  have hpartial : ¬(18446744073709551615 : UInt64).toNat ∣ (sixteen [7, 8, 9]).length := by decide
  obtain ⟨expected, hscan, -, -, -, -, hwhole⟩ :=
    partial_pixel_reported (sixteen [7, 8, 9]) 18446744073709551615 .planar hlength (by decide)
      hpartial
  exact ⟨hlength, hpartial, expected, hscan, hwhole, hwhole.symm.trans (by decide)⟩

end PixelBuffer

end JpegLs
