import JpegLs.Container
import JpegLs.Proofs.Metadata
import JpegLs.Proofs.Spiff.Header

namespace JpegLs.Container

/-- The number in `count` bytes from `offset` on, most significant byte first. -/
def number (bytes : List UInt8) (offset count : Nat) : Nat :=
  ((bytes.drop offset).take count).foldl (fun high byte => high * 256 + byte.toNat) 0

inductive Form where
  | spiff
  | bare
deriving DecidableEq, Repr

namespace Form

def magic : Form → List UInt8
  | spiff => [0xFF, 0xD8, 0xFF, 0xE8]
  | bare => [0xFF, 0xD8, 0xFF, 0xF7]

def leastLength : Form → Nat
  | spiff => 32
  | bare => 12

def truncated : Form → FormatFault
  | spiff => .truncatedSpiffHeader
  | bare => .truncatedFrameSegment

def components (bytes : List UInt8) : Form → Nat
  | spiff => number bytes 15 1
  | bare => number bytes 11 1

def bits (bytes : List UInt8) : Form → Nat
  | spiff => number bytes 25 1
  | bare => number bytes 6 1

def height (bytes : List UInt8) : Form → Nat
  | spiff => number bytes 16 4
  | bare => number bytes 7 2

def width (bytes : List UInt8) : Form → Nat
  | spiff => number bytes 20 4
  | bare => number bytes 9 2

def declared (bytes : List UInt8) (offset count : Nat) : Form → Option Nat
  | spiff => some (number bytes offset count)
  | bare => none

def samples (bytes : List UInt8) (form : Form) : Nat :=
  form.width bytes * form.height bytes * form.components bytes

/-- A pixel mode can represent the image. -/
def Representable (bytes : List UInt8) (form : Form) : Prop :=
  (form.components bytes = 1 ∨ form.components bytes = 3) ∧
    1 ≤ form.bits bytes ∧ form.bits bytes ≤ 16

instance (bytes : List UInt8) (form : Form) : Decidable (form.Representable bytes) :=
  inferInstanceAs (Decidable (_ ∧ _))

def of? (bytes : List UInt8) : Option Form :=
  if spiff.magic <+: bytes then some spiff
  else if bare.magic <+: bytes then some bare
  else none

end Form

/-- Bytes of a form, with all that `metadata` says at its place. -/
structure Reads (bytes : List UInt8) (form : Form) (metadata : Metadata) : Prop where
  magic : form.magic <+: bytes
  long : form.leastLength ≤ bytes.length
  compression : form = .spiff → number bytes 26 1 = 6
  representable : form.Representable bytes
  width_ne : form.width bytes ≠ 0
  height_ne : form.height bytes ≠ 0
  samples_lt : form.samples bytes < UInt64.size
  width : metadata.width.toNat = form.width bytes
  height : metadata.height.toNat = form.height bytes
  bits : metadata.bits.toNat = form.bits bytes
  components : metadata.components.toNat = form.components bytes
  interleave : metadata.interleave = .planar
  colorSpace : metadata.colorSpace.map UInt8.toNat = form.declared bytes 24 1
  units : metadata.units.map UInt8.toNat = form.declared bytes 27 1
  verticalResolution :
    metadata.verticalResolution.map UInt32.toNat = form.declared bytes 28 4

/-- What can be wrong with bytes of a form, in the order it is looked for. -/
def Form.faults (bytes : List UInt8) (form : Form) : List (Bool × Error) := [
  (bytes.length < form.leastLength, .format form.truncated),
  (form = .spiff ∧ number bytes 26 1 ≠ 6, .format .otherCompression),
  (¬form.Representable bytes, .unsupportedMode (form.components bytes) (form.bits bytes)),
  (form.width bytes = 0 ∨ form.height bytes = 0, .format .zeroDimension),
  (UInt64.size ≤ form.samples bytes, .format .tooLarge)]

def Form.fault? (bytes : List UInt8) (form : Form) : Option Error :=
  ((form.faults bytes).find? Prod.fst).map Prod.snd

def fault? (bytes : List UInt8) : Option Error :=
  match Form.of? bytes with
  | none => some (.format .unrecognizedMagic)
  | some form => form.fault? bytes

section

variable {bytes : List UInt8} {offset : Nat}

theorem number_one (h : offset < bytes.length) : number bytes offset 1 = bytes[offset].toNat := by
  rw [number, List.drop_eq_getElem_cons h]
  simp only [List.take_succ_cons, List.take_zero, List.foldl_cons, List.foldl_nil]
  omega

theorem number_two (h : offset + 1 < bytes.length) :
    number bytes offset 2 = (ofBigEndian16 bytes[offset] bytes[offset + 1]).toNat := by
  rw [number, List.drop_eq_getElem_cons (by omega), List.drop_eq_getElem_cons h,
    toNat_ofBigEndian16]
  simp only [List.take_succ_cons, List.take_zero, List.foldl_cons, List.foldl_nil]
  omega

theorem number_four (h : offset + 3 < bytes.length) :
    number bytes offset 4 =
      (ofBigEndian32 bytes[offset] bytes[offset + 1] bytes[offset + 2]
        bytes[offset + 3]).toNat := by
  rw [number, List.drop_eq_getElem_cons (by omega), List.drop_eq_getElem_cons (by omega),
    List.drop_eq_getElem_cons (by omega), List.drop_eq_getElem_cons h, toNat_ofBigEndian32]
  simp only [List.take_succ_cons, List.take_zero, List.foldl_cons, List.foldl_nil,
    Nat.add_assoc, Nat.reduceAdd]
  omega

theorem toNat_two (h : offset + 1 < bytes.length) :
    (UInt32.ofNat (number bytes offset 2)).toNat = number bytes offset 2 := by
  rw [number_two h]
  exact UInt32.toNat_ofNat_of_lt' (Nat.lt_trans (UInt16.toNat_lt _) (by decide))

theorem toNat_four (h : offset + 3 < bytes.length) :
    (UInt32.ofNat (number bytes offset 4)).toNat = number bytes offset 4 := by
  rw [number_four h, UInt32.ofNat_toNat]

theorem number_take {count length : Nat} (h : offset + count ≤ length) :
    number (bytes.take length) offset count = number bytes offset count := by
  rw [number, number, List.drop_take, List.take_take, Nat.min_eq_left (by omega)]

end

namespace Form

variable {bytes : List UInt8} {form : Form}

def frame (bytes : List UInt8) (form : Form) : FrameInfo where
  width := UInt32.ofNat (form.width bytes)
  height := UInt32.ofNat (form.height bytes)
  bits := form.bits bytes
  components := form.components bytes

def described (bytes : List UInt8) (form : Form) : Metadata :=
  { Metadata.plain (form.frame bytes) .planar with
    colorSpace := (form.declared bytes 24 1).map UInt8.ofNat
    units := (form.declared bytes 27 1).map UInt8.ofNat
    verticalResolution := (form.declared bytes 28 4).map UInt32.ofNat }

theorem toNat_width (hlong : form.leastLength ≤ bytes.length) :
    (UInt32.ofNat (form.width bytes)).toNat = form.width bytes := by
  cases form with
  | spiff => exact toNat_four (Nat.lt_of_lt_of_le (by decide) hlong)
  | bare => exact toNat_two (Nat.lt_of_lt_of_le (by decide) hlong)

theorem toNat_height (hlong : form.leastLength ≤ bytes.length) :
    (UInt32.ofNat (form.height bytes)).toNat = form.height bytes := by
  cases form with
  | spiff => exact toNat_four (Nat.lt_of_lt_of_le (by decide) hlong)
  | bare => exact toNat_two (Nat.lt_of_lt_of_le (by decide) hlong)

theorem frame_of_ofBytes? {header : Spiff.Header}
    (hheader : Spiff.Header.ofBytes? bytes = some header) : header.frame = spiff.frame bytes := by
  obtain ⟨hend, horizontal, rfl⟩ := Spiff.Header.of_ofBytes? hheader
  have hwidth : 20 + 3 < bytes.length := Nat.lt_trans (by decide) hend
  have hheight : 16 + 3 < bytes.length := Nat.lt_trans (by decide) hend
  have hbits : 25 < bytes.length := Nat.lt_trans (by decide) hend
  have hcomponents : 15 < bytes.length := Nat.lt_trans (by decide) hend
  rw [frame, width, height, bits, components, number_four hwidth, number_four hheight,
    number_one hbits, number_one hcomponents, UInt32.ofNat_toNat, UInt32.ofNat_toNat]
  rfl

theorem withSpiff_of_ofBytes? {header : Spiff.Header}
    (hheader : Spiff.Header.ofBytes? bytes = some header) :
    (Metadata.plain (spiff.frame bytes) .planar).withSpiff header = spiff.described bytes := by
  obtain ⟨hend, horizontal, rfl⟩ := Spiff.Header.of_ofBytes? hheader
  have hspace : 24 < bytes.length := Nat.lt_trans (by decide) hend
  have hunits : 27 < bytes.length := Nat.lt_trans (by decide) hend
  have hresolution : 28 + 3 < bytes.length := hend
  simp only [described, declared, number_one hspace, number_one hunits, number_four hresolution,
    Option.map_some, UInt8.ofNat_toNat, UInt32.ofNat_toNat]
  rfl

theorem frame?_of_bare (hmagic : bare.magic <+: bytes) (hlong : bare.leastLength ≤ bytes.length) :
    frame? bytes = some (bare.frame bytes) := by
  have hlength : 12 ≤ bytes.length := hlong
  have hend : 11 < bytes.length := hlong
  have hwidth : 9 + 1 < bytes.length := Nat.lt_trans (by decide) hend
  have hheight : 7 + 1 < bytes.length := Nat.lt_trans (by decide) hend
  have hbits : 6 < bytes.length := Nat.lt_trans (by decide) hend
  have hmagic' : frameMagic <+: bytes := hmagic
  rw [frame?, dif_pos hlength]
  simp only [if_pos hmagic']
  rw [frame, width, height, bits, components, number_two hwidth, number_two hheight,
    number_one hbits, number_one hend]

theorem frame?_eq_none (h : ¬(bare.magic <+: bytes ∧ bare.leastLength ≤ bytes.length)) :
    frame? bytes = none := by
  by_cases hlength : 12 ≤ bytes.length
  · have hmagic : ¬frameMagic <+: bytes := fun hmagic => h ⟨hmagic, hlength⟩
    rw [frame?, dif_pos hlength]
    simp only [if_neg hmagic]
  · rw [frame?, dif_neg hlength]

theorem eq_of_magic {first second : Form} (hfirst : first.magic <+: bytes)
    (hsecond : second.magic <+: bytes) : first = second := by
  have hlength : first.magic.length = second.magic.length := by cases first <;> cases second <;> rfl
  have hmagic := (List.prefix_of_prefix_length_le hfirst hsecond
    (Nat.le_of_eq hlength)).eq_of_length hlength
  cases first <;> cases second <;> first | rfl | exact absurd hmagic (by decide)

theorem of?_eq_some_iff : of? bytes = some form ↔ form.magic <+: bytes := by
  unfold of?
  by_cases hspiff : spiff.magic <+: bytes
  · rw [if_pos hspiff, Option.some_inj]
    exact ⟨fun hform => hform ▸ hspiff, fun hform => eq_of_magic hspiff hform⟩
  · rw [if_neg hspiff]
    by_cases hbare : bare.magic <+: bytes
    · rw [if_pos hbare, Option.some_inj]
      exact ⟨fun hform => hform ▸ hbare, fun hform => eq_of_magic hbare hform⟩
    · rw [if_neg hbare]
      cases form <;> simp [hspiff, hbare]

theorem of?_eq_none_iff : of? bytes = none ↔ isJpegLs bytes = false := by
  have hmagic : isJpegLs bytes = false ↔ ¬(spiff.magic <+: bytes ∨ bare.magic <+: bytes) :=
    decide_eq_false_iff_not
  rw [hmagic, Option.eq_none_iff_forall_ne_some]
  simp only [ne_eq, of?_eq_some_iff]
  constructor
  · intro h hmagic
    exact hmagic.elim (h spiff) (h bare)
  · intro h form hmagic
    cases form with
    | spiff => exact h (.inl hmagic)
    | bare => exact h (.inr hmagic)

theorem find?_cons_decide (wrong : Prop) [Decidable wrong] (error : Error)
    (others : List (Bool × Error)) :
    (((decide wrong, error) :: others).find? Prod.fst).map Prod.snd =
      if wrong then some error else (others.find? Prod.fst).map Prod.snd := by
  by_cases h : wrong <;> simp [h]

theorem fault?_eq :
    form.fault? bytes =
      if bytes.length < form.leastLength then some (.format form.truncated)
      else if form = .spiff ∧ number bytes 26 1 ≠ 6 then some (.format .otherCompression)
      else if ¬form.Representable bytes then
        some (.unsupportedMode (form.components bytes) (form.bits bytes))
      else if form.width bytes = 0 ∨ form.height bytes = 0 then some (.format .zeroDimension)
      else if UInt64.size ≤ form.samples bytes then some (.format .tooLarge)
      else none := by
  simp only [fault?, faults, find?_cons_decide, List.find?_nil, Option.map_none]

end Form

end JpegLs.Container
