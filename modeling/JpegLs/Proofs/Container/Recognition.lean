import JpegLs.Proofs.Container.LookUp

/-!
The streams that are recognized, and what is wrong with all others.  The first thirty-two bytes
decide.
-/

namespace JpegLs.Container

section

variable {bytes : List UInt8} {form : Form}

def Form.Readable (bytes : List UInt8) (form : Form) : Prop :=
  form.leastLength ≤ bytes.length ∧ (form = .spiff → number bytes 26 1 = 6)

theorem isSome_ofBytes?_iff :
    (Spiff.Header.ofBytes? bytes).isSome ↔
      Form.spiff.magic <+: bytes ∧ Form.spiff.Readable bytes := by
  rw [Spiff.Header.isSome_ofBytes?_iff]
  constructor
  · rintro ⟨hlong, hmagic, hcompression⟩
    have hend : 26 < bytes.length := Nat.lt_of_lt_of_le (by decide) hlong
    refine ⟨hmagic, hlong, fun _ => ?_⟩
    rw [number_one hend]
    exact congrArg UInt8.toNat (List.getElem_eq_iff hend |>.mpr hcompression)
  · rintro ⟨hmagic, hlong, hcompression⟩
    have hend : 26 < bytes.length := Nat.lt_of_lt_of_le (by decide) hlong
    have hbyte := hcompression rfl
    rw [number_one hend] at hbyte
    exact ⟨hlong, hmagic, List.getElem_eq_iff hend |>.mp (UInt8.toNat.inj hbyte)⟩

theorem metadata_of_readable (hmagic : form.magic <+: bytes) (hreadable : form.Readable bytes) :
    metadata bytes =
      (Metadata.ofFrame (form.frame bytes) .planar).map fun _ => form.described bytes := by
  cases form with
  | spiff =>
      obtain ⟨header, hheader⟩ :=
        Option.isSome_iff_exists.mp (isSome_ofBytes?_iff.mpr ⟨hmagic, hreadable⟩)
      simp only [metadata, hheader, Metadata.ofSpiff, Form.frame_of_ofBytes? hheader]
      exact Metadata.map_ofFrame_congr (Form.withSpiff_of_ofBytes? hheader)
  | bare =>
      have hheader : Spiff.Header.ofBytes? bytes = none := by
        apply Option.not_isSome_iff_eq_none.mp
        intro hsome
        exact absurd (Form.eq_of_magic (isSome_ofBytes?_iff.mp hsome).1 hmagic) (by decide)
      simp only [metadata, hheader, Form.frame?_of_bare hmagic hreadable.1]
      exact (congrFun Except.map_id _).symm.trans (Metadata.map_ofFrame_congr rfl)

theorem metadata_of_unread (hspiff : ¬(Form.spiff.magic <+: bytes ∧ Form.spiff.Readable bytes))
    (hbare : ¬(Form.bare.magic <+: bytes ∧ Form.bare.leastLength ≤ bytes.length)) :
    metadata bytes = .error (.format (rejection bytes)) := by
  have hheader : Spiff.Header.ofBytes? bytes = none :=
    Option.not_isSome_iff_eq_none.mp (mt isSome_ofBytes?_iff.mp hspiff)
  simp only [metadata, hheader, Form.frame?_eq_none hbare]

theorem metadata_of_unrecognized (hform : Form.of? bytes = none) :
    metadata bytes = .error (.format .unrecognizedMagic) := by
  have hmagic (form : Form) : ¬form.magic <+: bytes := fun hmagic =>
    absurd (Form.of?_eq_some_iff.mpr hmagic) (by simp [hform])
  have hspiff : ¬Spiff.magic <+: bytes := hmagic .spiff
  have hbare : ¬frameMagic <+: bytes := hmagic .bare
  rw [metadata_of_unread (fun h => hmagic .spiff h.1) (fun h => hmagic .bare h.1), rejection,
    if_neg hspiff, if_neg hbare]

theorem metadata_of_unreadable (hmagic : form.magic <+: bytes)
    (hreadable : ¬form.Readable bytes) :
    metadata bytes = .error (.format
      (if bytes.length < form.leastLength then form.truncated else .otherCompression)) := by
  cases form with
  | spiff =>
      have hspiff : Spiff.magic <+: bytes := hmagic
      have hbare : ¬(Form.bare.magic <+: bytes ∧ Form.bare.leastLength ≤ bytes.length) :=
        fun h => absurd (Form.eq_of_magic hmagic h.1) (by decide)
      rw [metadata_of_unread (fun h => hreadable h.2) hbare, rejection, if_pos hspiff]
      rfl
  | bare =>
      have hbare : frameMagic <+: bytes := hmagic
      have hother {other : Form} (hmagic' : other.magic <+: bytes) : other = .bare :=
        Form.eq_of_magic hmagic' hmagic
      have hspiff : ¬Spiff.magic <+: bytes :=
        fun hspiff => absurd (@hother .spiff hspiff) (by decide)
      have hshort : ¬Form.bare.leastLength ≤ bytes.length :=
        fun hlong => hreadable ⟨hlong, by simp⟩
      rw [metadata_of_unread (fun h => hspiff h.1) (fun h => hshort h.2), rejection,
        if_neg hspiff, if_pos hbare, if_pos (Nat.lt_of_not_le hshort)]
      rfl

/-- A stream is read as its form says, or refused for the first thing that is wrong with it. -/
theorem metadata_eq (bytes : List UInt8) :
    metadata bytes =
      match Form.of? bytes with
      | none => .error (.format .unrecognizedMagic)
      | some form =>
          match form.fault? bytes with
          | some error => .error error
          | none => .ok (form.described bytes) := by
  cases hform : Form.of? bytes with
  | none => exact metadata_of_unrecognized hform
  | some form =>
      have hmagic := Form.of?_eq_some_iff.mp hform
      simp only
      rw [Form.fault?_eq]
      by_cases hshort : bytes.length < form.leastLength
      · have hreadable : ¬form.Readable bytes := fun h => absurd h.1 (Nat.not_le.mpr hshort)
        simp only [metadata_of_unreadable hmagic hreadable, if_pos hshort]
      by_cases hother : form = .spiff ∧ number bytes 26 1 ≠ 6
      · have hreadable : ¬form.Readable bytes := fun h => hother.2 (h.2 hother.1)
        simp only [metadata_of_unreadable hmagic hreadable, if_neg hshort, if_pos hother]
      have hlong : form.leastLength ≤ bytes.length := Nat.le_of_not_lt hshort
      have hreadable : form.Readable bytes :=
        ⟨hlong, fun hspiff => Decidable.not_not.mp fun h => hother ⟨hspiff, h⟩⟩
      rw [if_neg hshort, if_neg hother, metadata_of_readable hmagic hreadable, Metadata.ofFrame_eq]
      have hmode : ((form.frame bytes).components = 1 ∨ (form.frame bytes).components = 3) ∧
          1 ≤ (form.frame bytes).bits ∧ (form.frame bytes).bits ≤ 16 ↔
            form.Representable bytes := by
        simp only [Form.frame, Form.Representable]
        omega
      have hzero : (form.frame bytes).width = 0 ∨ (form.frame bytes).height = 0 ↔
          form.width bytes = 0 ∨ form.height bytes = 0 := by
        rw [← UInt32.toNat_inj, ← UInt32.toNat_inj]
        simp only [Form.frame, Form.toNat_width hlong, Form.toNat_height hlong]
        rfl
      have hsamples : (form.frame bytes).samples = form.samples bytes := by
        simp only [FrameInfo.samples, Form.frame, Form.toNat_width hlong, Form.toNat_height hlong]
        rfl
      simp only [hmode, hzero, hsamples]
      split
      · rfl
      · split
        · rfl
        · split
          · rfl
          · rfl

theorem Form.fault?_eq_none_iff :
    form.fault? bytes = none ↔
      form.Readable bytes ∧ form.Representable bytes ∧ form.width bytes ≠ 0 ∧
        form.height bytes ≠ 0 ∧ form.samples bytes < UInt64.size := by
  simp only [fault?, faults, Option.map_eq_none_iff, List.find?_eq_none, List.forall_mem_cons,
    decide_eq_true_eq, Nat.not_lt, not_and, not_or, Decidable.not_not, Nat.not_le, Readable]
  simp [and_assoc]

theorem Form.declared_eq (hlong : form.leastLength ≤ bytes.length) {offset : Nat}
    (hoffset : offset < 32) :
    ((form.declared bytes offset 1).map UInt8.ofNat).map UInt8.toNat =
      form.declared bytes offset 1 := by
  cases form with
  | spiff =>
      have hend : offset < bytes.length := Nat.lt_of_lt_of_le hoffset hlong
      simp [declared, number_one hend]
  | bare => rfl

theorem reads_described (hmagic : form.magic <+: bytes) (hfault : form.fault? bytes = none) :
    Reads bytes form (form.described bytes) := by
  obtain ⟨⟨hlong, hcompression⟩, hmode, hwidth, hheight, hsamples⟩ :=
    Form.fault?_eq_none_iff.mp hfault
  exact {
    magic := hmagic
    long := hlong
    compression := hcompression
    representable := hmode
    width_ne := hwidth
    height_ne := hheight
    samples_lt := hsamples
    width := Form.toNat_width hlong
    height := Form.toNat_height hlong
    bits := UInt8.toNat_ofNat_of_lt' (Nat.lt_of_le_of_lt hmode.2.2 (by decide))
    components := by
      have hone_or_three := hmode.1
      have hlt : form.components bytes < 256 := by omega
      exact UInt8.toNat_ofNat_of_lt' hlt
    interleave := rfl
    colorSpace := Form.declared_eq hlong (by decide)
    units := Form.declared_eq hlong (by decide)
    verticalResolution := by
      cases form with
      | spiff =>
          have hend : 28 + 3 < bytes.length := hlong
          simp only [Form.described, Form.declared, number_four hend, Option.map_some,
            UInt32.ofNat_toNat]
      | bare => rfl }

theorem Reads.fault?_eq_none {metadata : Metadata} (hreads : Reads bytes form metadata) :
    form.fault? bytes = none :=
  Form.fault?_eq_none_iff.mpr ⟨⟨hreads.long, hreads.compression⟩, hreads.representable,
    hreads.width_ne, hreads.height_ne, hreads.samples_lt⟩

theorem Reads.eq_described {metadata : Metadata} (hreads : Reads bytes form metadata) :
    metadata = form.described bytes := by
  obtain ⟨width, height, bits, components, interleave, colorSpace, units, resolution⟩ := metadata
  have hbyte {value : Option UInt8} {number : Option Nat} (h : value.map UInt8.toNat = number) :
      value = number.map UInt8.ofNat := by
    rw [← h]
    cases value <;> simp
  have hword {value : Option UInt32} {number : Option Nat} (h : value.map UInt32.toNat = number) :
      value = number.map UInt32.ofNat := by
    rw [← h]
    cases value <;> simp
  rw [Form.described, ← hreads.interleave, ← hbyte hreads.colorSpace, ← hbyte hreads.units,
    ← hword hreads.verticalResolution]
  simp [Metadata.plain, Form.frame, ← hreads.width, ← hreads.height, ← hreads.bits,
    ← hreads.components]

theorem metadata_eq_ok_iff {metadata : Metadata} :
    Container.metadata bytes = .ok metadata ↔ ∃ form : Form, Reads bytes form metadata := by
  rw [metadata_eq]
  constructor
  · intro h
    cases hform : Form.of? bytes with
    | none =>
        rw [hform] at h
        cases h
    | some form =>
        rw [hform] at h
        simp only at h
        cases hfault : form.fault? bytes with
        | some error =>
            rw [hfault] at h
            cases h
        | none =>
            rw [hfault] at h
            cases h
            exact ⟨form, reads_described (Form.of?_eq_some_iff.mp hform) hfault⟩
  · rintro ⟨form, hreads⟩
    simp only [Form.of?_eq_some_iff.mpr hreads.magic, hreads.fault?_eq_none,
      ← hreads.eq_described]

theorem metadata_eq_error_iff {error : Error} :
    metadata bytes = .error error ↔ fault? bytes = some error := by
  rw [metadata_eq, fault?]
  cases Form.of? bytes with
  | none => simp
  | some form =>
      simp only
      cases form.fault? bytes <;> simp

end

section

variable {bytes : List UInt8} {form : Form}

theorem fields_take (bytes : List UInt8) {length : Nat} (hlong : form.leastLength ≤ length) :
    form.width (bytes.take length) = form.width bytes ∧
      form.height (bytes.take length) = form.height bytes ∧
      form.bits (bytes.take length) = form.bits bytes ∧
      form.components (bytes.take length) = form.components bytes := by
  have htake {offset count : Nat} (h : offset + count ≤ form.leastLength) :
      number (bytes.take length) offset count = number bytes offset count :=
    number_take (Nat.le_trans h hlong)
  cases form with
  | spiff => exact ⟨htake (by decide), htake (by decide), htake (by decide), htake (by decide)⟩
  | bare => exact ⟨htake (by decide), htake (by decide), htake (by decide), htake (by decide)⟩

theorem declared_take (bytes : List UInt8) {length : Nat} (hlong : form.leastLength ≤ length)
    {offset count : Nat} (h : offset + count ≤ 32) :
    form.declared (bytes.take length) offset count = form.declared bytes offset count := by
  cases form with
  | spiff => exact congrArg some (number_take (Nat.le_trans h hlong))
  | bare => rfl

theorem representable_take (bytes : List UInt8) {length : Nat}
    (hlong : form.leastLength ≤ length) :
    form.Representable (bytes.take length) ↔ form.Representable bytes := by
  obtain ⟨-, -, hbits, hcomponents⟩ := fields_take bytes hlong
  rw [Form.Representable, hbits, hcomponents]
  rfl

theorem samples_take (bytes : List UInt8) {length : Nat} (hlong : form.leastLength ≤ length) :
    form.samples (bytes.take length) = form.samples bytes := by
  obtain ⟨hwidth, hheight, -, hcomponents⟩ := fields_take bytes hlong
  rw [Form.samples, hwidth, hheight, hcomponents]
  rfl

theorem of?_take : Form.of? (bytes.take 32) = Form.of? bytes := by
  apply Option.ext
  intro form
  rw [Form.of?_eq_some_iff, Form.of?_eq_some_iff, List.prefix_take_iff]
  exact and_iff_left (by cases form <;> decide)

theorem Form.leastLength_le (form : Form) : form.leastLength ≤ 32 := by
  cases form <;> decide

theorem fault?_take (form : Form) : form.fault? (bytes.take 32) = form.fault? bytes := by
  have hlong := form.leastLength_le
  obtain ⟨hwidth, hheight, hbits, hcomponents⟩ := fields_take bytes hlong
  have hshort : (bytes.take 32).length < form.leastLength ↔ bytes.length < form.leastLength := by
    rw [List.length_take]
    omega
  have hcompression : number (bytes.take 32) 26 1 = number bytes 26 1 := number_take (by decide)
  simp only [Form.fault?_eq, hshort, hcompression, representable_take bytes hlong, hwidth,
    hheight, hbits, hcomponents, samples_take bytes hlong]

theorem described_take (form : Form) : form.described (bytes.take 32) = form.described bytes := by
  have hlong := form.leastLength_le
  obtain ⟨hwidth, hheight, hbits, hcomponents⟩ := fields_take bytes hlong
  have hspace := declared_take bytes hlong (show 24 + 1 ≤ 32 by decide)
  have hunits := declared_take bytes hlong (show 27 + 1 ≤ 32 by decide)
  have hresolution := declared_take bytes hlong (show 28 + 4 ≤ 32 by decide)
  simp only [Form.described, Form.frame, hwidth, hheight, hbits, hcomponents, hspace, hunits,
    hresolution]

theorem metadata_take : metadata (bytes.take 32) = metadata bytes := by
  simp only [metadata_eq, of?_take, fault?_take, described_take]

theorem Reads.of_take {length : Nat} {metadata : Metadata}
    (hreads : Reads (bytes.take length) form metadata) : Reads bytes form metadata := by
  have hlong : form.leastLength ≤ length :=
    Nat.le_trans hreads.long (List.length_take_le length bytes)
  obtain ⟨hwidth, hheight, hbits, hcomponents⟩ := fields_take bytes hlong
  exact {
    magic := hreads.magic.trans (List.take_prefix length bytes)
    long := Nat.le_trans hreads.long (List.length_take_le' length bytes)
    compression := by
      rintro rfl
      rw [← hreads.compression rfl, number_take (Nat.le_trans (by decide) hlong)]
    representable := (representable_take bytes hlong).mp hreads.representable
    width_ne := hwidth ▸ hreads.width_ne
    height_ne := hheight ▸ hreads.height_ne
    samples_lt := samples_take bytes hlong ▸ hreads.samples_lt
    width := hreads.width.trans hwidth
    height := hreads.height.trans hheight
    bits := hreads.bits.trans hbits
    components := hreads.components.trans hcomponents
    interleave := hreads.interleave
    colorSpace := hreads.colorSpace.trans (declared_take bytes hlong (by decide))
    units := hreads.units.trans (declared_take bytes hlong (by decide))
    verticalResolution := hreads.verticalResolution.trans
      (declared_take bytes hlong (by decide)) }

theorem metadata_append {metadata : Metadata} (h : Container.metadata bytes = .ok metadata)
    (rest : List UInt8) : Container.metadata (bytes ++ rest) = .ok metadata := by
  obtain ⟨form, hreads⟩ := metadata_eq_ok_iff.mp h
  have hfirst : (bytes ++ rest).take bytes.length = bytes := List.take_left
  rw [← hfirst] at hreads
  exact metadata_eq_ok_iff.mpr ⟨form, hreads.of_take⟩

end

variable {bytes : List UInt8}

theorem Form.fault?_ne (form : Form) :
    form.fault? bytes ≠ some (.format .unrecognizedMagic) := by
  intro hfault
  obtain ⟨⟨wrong, error⟩, hfound, rfl⟩ := Option.map_eq_some_iff.mp hfault
  have hmem := List.mem_of_find?_eq_some hfound
  cases form <;> simp [faults, truncated] at hmem

theorem unrecognized_iff :
    isJpegLs bytes = false ↔ metadata bytes = .error (.format .unrecognizedMagic) := by
  rw [metadata_eq_error_iff, ← Form.of?_eq_none_iff, fault?]
  cases Form.of? bytes with
  | none => simp
  | some form => simp [form.fault?_ne]

/-- A stream is accepted if it has one of the two forms and describes an image that can be
represented, and then its metadata say what stands in its fields; any other is refused for the
first thing that is wrong with it.  No byte is looked for that is not there, and none behind the
first thirty-two makes a difference. -/
theorem metadata_classifies (bytes : List UInt8) :
    (∀ metadata, Container.metadata bytes = .ok metadata ↔
        ∃ form : Form, Reads bytes form metadata) ∧
      (∀ error, metadata bytes = .error error ↔ fault? bytes = some error) ∧
      lookUp bytes = some (metadata bytes) ∧
      metadata (bytes.take 32) = metadata bytes ∧
      (isJpegLs bytes = false ↔ metadata bytes = .error (.format .unrecognizedMagic)) :=
  ⟨fun _ => metadata_eq_ok_iff, fun _ => metadata_eq_error_iff, lookUp_eq, metadata_take,
    unrecognized_iff⟩

end JpegLs.Container
