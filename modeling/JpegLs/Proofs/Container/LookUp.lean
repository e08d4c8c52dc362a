import JpegLs.Proofs.Container.Forms

/-!
Looking bytes up one by one.  A reading that does not know which bytes are there is given up as soon
as it looks behind the last one; the guards in front of the fields keep it from that.
-/

namespace JpegLs.Container

/-- A number is absent if one of its bytes is looked for behind the last one. -/
def lookUp16 (bytes : List UInt8) (offset : Nat) : Option UInt16 := do
  return ofBigEndian16 (← bytes[offset]?) (← bytes[offset + 1]?)

def lookUp32 (bytes : List UInt8) (offset : Nat) : Option UInt32 := do
  return ofBigEndian32 (← bytes[offset]?) (← bytes[offset + 1]?) (← bytes[offset + 2]?)
    (← bytes[offset + 3]?)

def lookUpHeader (bytes : List UInt8) : Option (Option Spiff.Header) := do
  if ¬Spiff.magic <+: bytes ∨ bytes.length < Spiff.prefixLength then
    return none
  else if (← bytes[26]?) ≠ Spiff.Compression.jpegLs.code then
    return none
  else
    return some {
      segmentLength := ← lookUp16 bytes 4
      majorVersion := ← bytes[12]?
      minorVersion := ← bytes[13]?
      profile := ← bytes[14]?
      components := ← bytes[15]?
      height := ← lookUp32 bytes 16
      width := ← lookUp32 bytes 20
      colorSpace := ← bytes[24]?
      bits := ← bytes[25]?
      compression := ← bytes[26]?
      units := ← bytes[27]?
      verticalResolution := ← lookUp32 bytes 28
      horizontalResolution := lookUp32 bytes 32 }

def lookUpFrame (bytes : List UInt8) : Option (Option FrameInfo) := do
  if ¬frameMagic <+: bytes ∨ bytes.length < 12 then
    return none
  else
    return some {
      bits := (← bytes[6]?).toNat
      height := UInt32.ofNat (← lookUp16 bytes 7).toNat
      width := UInt32.ofNat (← lookUp16 bytes 9).toNat
      components := (← bytes[11]?).toNat }

def lookUp (bytes : List UInt8) : Option (Except Error Metadata) := do
  match ← lookUpHeader bytes with
  | some header => return Metadata.ofSpiff header
  | none =>
      match ← lookUpFrame bytes with
      | some frame => return Metadata.ofFrame frame .planar
      | none => return .error (.format (rejection bytes))

section

variable {bytes : List UInt8}

theorem lookUp16_eq {offset : Nat} (h : offset + 2 ≤ bytes.length) :
    lookUp16 bytes offset = some (ofBigEndian16 bytes[offset] bytes[offset + 1]) := by
  have hfirst : offset < bytes.length := by omega
  have hsecond : offset + 1 < bytes.length := by omega
  simp [lookUp16, hfirst, hsecond]

theorem lookUp32_eq {offset : Nat} (h : offset + 4 ≤ bytes.length) :
    lookUp32 bytes offset = some
      (ofBigEndian32 bytes[offset] bytes[offset + 1] bytes[offset + 2] bytes[offset + 3]) := by
  have hfirst : offset < bytes.length := by omega
  have hsecond : offset + 1 < bytes.length := by omega
  have hthird : offset + 2 < bytes.length := by omega
  have hfourth : offset + 3 < bytes.length := by omega
  simp [lookUp32, hfirst, hsecond, hthird, hfourth]

theorem lookUp32_eq_none {offset : Nat} (h : ¬offset + 3 < bytes.length) :
    lookUp32 bytes offset = none := by
  have hlast : bytes[offset + 3]? = none := List.getElem?_eq_none (Nat.le_of_not_lt h)
  simp [lookUp32, hlast]

theorem lookUpHeader_of_guard (hmagic : Spiff.magic <+: bytes) (hend : 31 < bytes.length) :
    lookUpHeader bytes = some (Spiff.Header.ofBytes? bytes) := by
  have hlong : Spiff.prefixLength ≤ bytes.length := hend
  have hshort := Nat.not_lt.mpr hlong
  have hbyte (offset : Nat) (h : offset < 32) :
      bytes[offset]? = some (bytes.get ⟨offset, Nat.lt_of_lt_of_le h hlong⟩) :=
    List.getElem?_eq_getElem _
  have hsegment : lookUp16 bytes 4 = some (ofBigEndian16 bytes[4] bytes[5]) :=
    lookUp16_eq (by omega)
  have hheight : lookUp32 bytes 16 =
      some (ofBigEndian32 bytes[16] bytes[17] bytes[18] bytes[19]) := lookUp32_eq (by omega)
  have hwidth : lookUp32 bytes 20 =
      some (ofBigEndian32 bytes[20] bytes[21] bytes[22] bytes[23]) := lookUp32_eq (by omega)
  have hvertical : lookUp32 bytes 28 =
      some (ofBigEndian32 bytes[28] bytes[29] bytes[30] bytes[31]) := lookUp32_eq hend
  have hhorizontal : lookUp32 bytes 32 =
      if _ : 36 ≤ bytes.length then
        some (ofBigEndian32 bytes[32] bytes[33] bytes[34] bytes[35])
      else none := by
    by_cases hall : 36 ≤ bytes.length
    · rw [dif_pos hall, lookUp32_eq hall]
    · rw [dif_neg hall, lookUp32_eq_none hall]
  rw [Spiff.Header.ofBytes?, dif_pos hlong]
  by_cases hcompression : bytes[26] = Spiff.Compression.jpegLs.code
  · simp [lookUpHeader, hmagic, hshort, hbyte, hcompression, hsegment, hheight, hwidth, hvertical,
      hhorizontal]
  · simp [lookUpHeader, hmagic, hshort, hbyte, hcompression]

theorem lookUpHeader_eq : lookUpHeader bytes = some (Spiff.Header.ofBytes? bytes) := by
  by_cases hguard : ¬Spiff.magic <+: bytes ∨ bytes.length < Spiff.prefixLength
  · have hheader : Spiff.Header.ofBytes? bytes = none := by
      apply Option.not_isSome_iff_eq_none.mp
      rw [Spiff.Header.isSome_ofBytes?_iff]
      rintro ⟨hlong, hmagic, -⟩
      exact hguard.elim (absurd hmagic) (Nat.not_lt.mpr hlong)
    simp only [lookUpHeader, if_pos hguard, hheader]
    rfl
  · obtain ⟨hmagic, hlong⟩ := not_or.mp hguard
    exact lookUpHeader_of_guard (Decidable.not_not.mp hmagic) (Nat.le_of_not_lt hlong)

theorem lookUpFrame_eq : lookUpFrame bytes = some (frame? bytes) := by
  by_cases hguard : ¬frameMagic <+: bytes ∨ bytes.length < 12
  · have hframe : frame? bytes = none := Form.frame?_eq_none fun ⟨hmagic, hlong⟩ =>
      hguard.elim (absurd hmagic) (Nat.not_lt.mpr hlong)
    simp only [lookUpFrame, if_pos hguard, hframe]
    rfl
  · obtain ⟨hmagic, hlong⟩ := not_or.mp hguard
    have hmagic := Decidable.not_not.mp hmagic
    have hlong : 12 ≤ bytes.length := Nat.le_of_not_lt hlong
    have hbits : bytes[6]? = some bytes[6] := List.getElem?_eq_getElem (by omega)
    have hcomponents : bytes[11]? = some bytes[11] := List.getElem?_eq_getElem hlong
    have hheight : lookUp16 bytes 7 = some (ofBigEndian16 bytes[7] bytes[8]) :=
      lookUp16_eq (by omega)
    have hwidth : lookUp16 bytes 9 = some (ofBigEndian16 bytes[9] bytes[10]) :=
      lookUp16_eq (by omega)
    rw [frame?, dif_pos hlong]
    simp only [if_pos hmagic, lookUpFrame, if_neg hguard, hbits, hcomponents, hheight, hwidth]
    rfl

theorem lookUp_eq : lookUp bytes = some (metadata bytes) := by
  simp only [lookUp, lookUpHeader_eq, lookUpFrame_eq, metadata, Option.bind_eq_bind,
    Option.bind_some]
  cases Spiff.Header.ofBytes? bytes with
  | some header => rfl
  | none => cases frame? bytes <;> rfl

end

end JpegLs.Container
