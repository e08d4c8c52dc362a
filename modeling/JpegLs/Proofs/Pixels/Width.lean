import Mathlib.Data.List.Basic
import JpegLs.Proofs.Pixels.Orders

/-!
Changes of width, against changes of order and among themselves.  Where a sample goes does not
depend on how wide it is; what many changes of width leave of it is told by the last of them and by
whether one of them has narrowed it.
-/

namespace JpegLs

namespace PixelBuffer

variable {buffer other : PixelBuffer} {components rowLength : Nat} {mode : Interleave}
  {width : SampleWidth}

theorem transposed_withWidth (hdvd : rowLength ∣ buffer.length)
    (hchanged : rowLength ∣ (buffer.withWidth width).length) :
    (buffer.withWidth width).transposed rowLength hchanged =
      (buffer.transposed rowLength hdvd).withWidth width := by
  cases buffer with
  | eight samples =>
      cases width with
      | eight => rfl
      | sixteen => exact congrArg sixteen (transpose_map UInt8.toUInt16 hdvd hchanged)
  | sixteen samples =>
      cases width with
      | eight => exact congrArg eight (transpose_map UInt16.toUInt8 hdvd hchanged)
      | sixteen => rfl

theorem reordered_withWidth :
    (buffer.withWidth width).Reordered components mode ↔ buffer.Reordered components mode := by
  rw [Reordered, Reordered, length_withWidth]

theorem arrange_withWidth (hdvd : rowLength ∣ buffer.length)
    (hchanged : rowLength ∣ (buffer.withWidth width).length) :
    (if (buffer.withWidth width).Reordered components mode then
        (buffer.withWidth width).transposed rowLength hchanged
      else buffer.withWidth width) =
      (if buffer.Reordered components mode then buffer.transposed rowLength hdvd
        else buffer).withWidth width := by
  by_cases hreordered : buffer.Reordered components mode
  · rw [if_pos (reordered_withWidth.mpr hreordered), if_pos hreordered, transposed_withWidth hdvd]
  · rw [if_neg (mt reordered_withWidth.mp hreordered), if_neg hreordered]

theorem onWholePixels_withWidth
    {changed : components ∣ (buffer.withWidth width).length → PixelBuffer}
    {arrange : components ∣ buffer.length → PixelBuffer}
    (harrange : ∀ hchanged hdvd, changed hchanged = (arrange hdvd).withWidth width) :
    (buffer.withWidth width).onWholePixels components changed =
      (buffer.onWholePixels components arrange).map (·.withWidth width) := by
  by_cases hcomponents : components = 0
  · subst hcomponents
    rw [onWholePixels_zero, onWholePixels_zero]
    rfl
  by_cases hdvd : components ∣ buffer.length
  · have hchanged : components ∣ (buffer.withWidth width).length := by rwa [length_withWidth]
    rw [onWholePixels_of_dvd hcomponents hchanged, onWholePixels_of_dvd hcomponents hdvd,
      harrange hchanged hdvd]
    rfl
  · have hchanged : ¬components ∣ (buffer.withWidth width).length := by rwa [length_withWidth]
    rw [onWholePixels_of_partial hcomponents hchanged,
      onWholePixels_of_partial hcomponents hdvd, length_withWidth]
    rfl

theorem toScan_withWidth :
    (buffer.withWidth width).toScan components mode =
      (buffer.toScan components mode).map (·.withWidth width) :=
  onWholePixels_withWidth fun hchanged hdvd => arrange_withWidth hdvd hchanged

theorem ofScan_withWidth :
    (buffer.withWidth width).ofScan components mode =
      (buffer.ofScan components mode).map (·.withWidth width) := by
  apply onWholePixels_withWidth
  intro hchanged hdvd
  simp only [length_withWidth]
  exact arrange_withWidth _ _

theorem eq_of_values (hwidth : buffer.width = other.width) (hvalues : buffer.values = other.values) :
    buffer = other := by
  cases buffer with
  | eight samples =>
      cases other with
      | eight others =>
          exact congrArg eight (List.map_injective_iff.mpr (fun _ _ => UInt8.toNat.inj) hvalues)
      | sixteen others => cases hwidth
  | sixteen samples =>
      cases other with
      | eight others => cases hwidth
      | sixteen others =>
          exact congrArg sixteen (List.map_injective_iff.mpr (fun _ _ => UInt16.toNat.inj) hvalues)

def withEach (buffer : PixelBuffer) (depths : List Nat) : PixelBuffer :=
  depths.foldl withBits buffer

@[simp] theorem withEach_nil (buffer : PixelBuffer) : buffer.withEach [] = buffer := rfl

@[simp] theorem withEach_cons (buffer : PixelBuffer) (bits : Nat) (rest : List Nat) :
    buffer.withEach (bits :: rest) = (buffer.withBits bits).withEach rest := rfl

end PixelBuffer

namespace SampleWidth

def Cuts (width : SampleWidth) (bits : Nat) : Prop :=
  width = .sixteen ∧ ofBits bits = .eight

/-- Whether one of the changes for `depths` in turn cuts samples that have had this width first. -/
def SomeCuts : SampleWidth → List Nat → Prop
  | _, [] => False
  | width, bits :: rest => width.Cuts bits ∨ (ofBits bits).SomeCuts rest

instance (width : SampleWidth) (bits : Nat) : Decidable (width.Cuts bits) :=
  inferInstanceAs (Decidable (_ ∧ _))

instance decidableSomeCuts : (width : SampleWidth) → (depths : List Nat) →
    Decidable (width.SomeCuts depths)
  | _, [] => inferInstanceAs (Decidable False)
  | width, bits :: rest =>
      have := decidableSomeCuts (ofBits bits) rest
      inferInstanceAs (Decidable (width.Cuts bits ∨ (ofBits bits).SomeCuts rest))

end SampleWidth

namespace PixelBuffer

variable {buffer : PixelBuffer}

/-- A change of width takes from a value all but its low byte if it cuts the sample, and nothing
otherwise. -/
theorem values_withBits_eq (buffer : PixelBuffer) (bits : Nat) :
    (buffer.withBits bits).values =
      if buffer.width.Cuts bits then buffer.values.map (· % 256) else buffer.values := by
  by_cases hbits : bits ≤ 8
  · cases buffer with
    | eight samples =>
        have hkept : SampleWidth.ofBits bits = (eight samples).width := if_pos hbits
        rw [withBits_of_width hkept, if_neg (fun hcuts => by cases hcuts.1)]
    | sixteen samples => rw [values_narrow hbits, if_pos ⟨rfl, if_pos hbits⟩]
  · have hwide : SampleWidth.ofBits bits = .sixteen := if_neg hbits
    rw [values_wide (Nat.lt_of_not_le hbits), if_neg (fun hcuts => by cases hwide ▸ hcuts.2)]

theorem map_mod_map_mod (values : List Nat) (modulus : Nat) :
    (values.map (· % modulus)).map (· % modulus) = values.map (· % modulus) := by
  rw [List.map_map]
  apply List.map_congr_left
  intro value _
  exact Nat.mod_mod value modulus

theorem values_withEach (buffer : PixelBuffer) (depths : List Nat) :
    (buffer.withEach depths).values =
      if buffer.width.SomeCuts depths then buffer.values.map (· % 256) else buffer.values := by
  induction depths generalizing buffer with
  | nil => exact (if_neg id).symm
  | cons bits rest ih =>
      rw [withEach_cons, ih, width_withBits, values_withBits_eq]
      -- What one change has cut off, no later one can cut off again.
      by_cases hcuts : buffer.width.Cuts bits
      · rw [if_pos hcuts, map_mod_map_mod, ite_self, if_pos (.inl hcuts)]
      · simp only [SampleWidth.SomeCuts, hcuts, false_or, if_false]

theorem width_withEach (buffer : PixelBuffer) (depths : List Nat) :
    (buffer.withEach depths).width =
      (depths.getLast?.map SampleWidth.ofBits).getD buffer.width := by
  induction depths generalizing buffer with
  | nil => rfl
  | cons bits rest ih =>
      rw [withEach_cons, ih, width_withBits, List.getLast?_cons]
      cases rest.getLast? with
      | none => rfl
      | some last => rfl

/-- Of changes in a row only two things show: the width of the last one, and whether one of them has
cut the samples. -/
theorem withEach_congr {depths others : List Nat}
    (hlast : depths.getLast?.map SampleWidth.ofBits = others.getLast?.map SampleWidth.ofBits)
    (hcuts : buffer.width.SomeCuts depths ↔ buffer.width.SomeCuts others) :
    buffer.withEach depths = buffer.withEach others := by
  apply eq_of_values
  · rw [width_withEach, width_withEach, hlast]
  · rw [values_withEach, values_withEach, if_congr hcuts rfl rfl]

theorem widened_narrowed {wide narrow : Nat} (hwide : 8 < wide) (hnarrow : narrow ≤ 8)
    (hwidth : buffer.width = .eight) : (buffer.withBits wide).withBits narrow = buffer := by
  apply eq_of_values
  · rw [width_withBits, hwidth]
    exact if_pos hnarrow
  · cases buffer with
    | eight samples =>
        rw [values_narrow hnarrow, values_wide hwide]
        exact (map_mod_eq_iff (by decide) _).mpr (values_eight_lt samples)
    | sixteen samples => cases hwidth

theorem narrowed_widened {narrow wide : Nat} (hnarrow : narrow ≤ 8) (hwide : 8 < wide)
    (buffer : PixelBuffer) :
    ((buffer.withBits narrow).withBits wide).width = .sixteen ∧
      ((buffer.withBits narrow).withBits wide).values = buffer.values.map (· % 256) := by
  constructor
  · rw [width_withBits]
    exact if_neg (Nat.not_le.mpr hwide)
  · rw [values_wide hwide, values_narrow hnarrow]

/-- Width and order are changed independently of each other, whether the samples can be reordered or
not.  Changes of width in a row keep the values of all samples, or the low bytes of all of them once
one change has cut them. -/
theorem widths_and_orders (buffer : PixelBuffer) (bits components : Nat) (mode : Interleave) :
    (buffer.withBits bits).toScan components mode =
        (buffer.toScan components mode).map (·.withBits bits) ∧
      (buffer.withBits bits).ofScan components mode =
        (buffer.ofScan components mode).map (·.withBits bits) ∧
      (buffer.withBits bits).withBits bits = buffer.withBits bits ∧
      (∀ wide narrow, 8 < wide → narrow ≤ 8 → buffer.width = .eight →
        (buffer.withBits wide).withBits narrow = buffer) ∧
      (∀ narrow wide, narrow ≤ 8 → 8 < wide →
        ((buffer.withBits narrow).withBits wide).width = .sixteen ∧
          ((buffer.withBits narrow).withBits wide).values = buffer.values.map (· % 256)) ∧
      (∀ depths, (buffer.withEach depths).values =
        if buffer.width.SomeCuts depths then buffer.values.map (· % 256) else buffer.values) ∧
      (∀ depths others,
        depths.getLast?.map SampleWidth.ofBits = others.getLast?.map SampleWidth.ofBits →
        (buffer.width.SomeCuts depths ↔ buffer.width.SomeCuts others) →
        buffer.withEach depths = buffer.withEach others) := by
  refine ⟨toScan_withWidth, ofScan_withWidth, ?_, ?_, ?_, values_withEach buffer, ?_⟩
  · exact withBits_of_width (width_withBits buffer bits).symm
  · intro wide narrow hwide hnarrow hwidth
    exact widened_narrowed hwide hnarrow hwidth
  · intro narrow wide hnarrow hwide
    exact narrowed_widened hnarrow hwide buffer
  · intro depths others hlast hcuts
    exact withEach_congr hlast hcuts

theorem widths_and_orders_two_pixels :
    ((eight [7, 200]).withBits 12).withBits 5 = eight [7, 200] ∧
      ((sixteen [1, 258, 3, 1027, 5, 774]).withBits 8).toScan 3 .planar =
        ((sixteen [1, 258, 3, 1027, 5, 774]).toScan 3 .planar).map (·.withBits 8) ∧
      ((sixteen [1, 258, 3, 1027, 5, 774]).withBits 8).toScan 3 .planar =
        .ok (eight [1, 3, 2, 5, 3, 6]) ∧
      (((sixteen [1, 258, 3, 1027, 5, 774]).withBits 8).withBits 16).values =
        [1, 2, 3, 3, 5, 6] ∧
      (sixteen [1, 258, 3, 1027, 5, 774]).withEach [8, 12, 16] =
        (sixteen [1, 258, 3, 1027, 5, 774]).withEach [12, 5, 9] := by
  obtain ⟨-, -, -, hwidened, -⟩ := widths_and_orders (eight [7, 200]) 8 1 .planar
  obtain ⟨hscan, -, -, -, hnarrowed, -, hrows⟩ :=
    widths_and_orders (sixteen [1, 258, 3, 1027, 5, 774]) 8 3 .planar
  refine ⟨hwidened 12 5 (by decide) (by decide) rfl, hscan, by decide, ?_, ?_⟩
  · rw [(hnarrowed 8 16 (by decide) (by decide)).2]
    rfl
  · exact hrows [8, 12, 16] [12, 5, 9] rfl (by decide)

end PixelBuffer

end JpegLs
