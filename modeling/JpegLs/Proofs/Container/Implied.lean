import JpegLs.Proofs.Container.Recognition
import JpegLs.Proofs.Session.Prepare

namespace JpegLs

namespace Spiff

theorem ColorSpace.ofCode?_eq_some_iff {code : UInt8} {space : ColorSpace} :
    ofCode? code = some space ↔ code = space.code := by
  constructor
  · intro h
    unfold ofCode? at h
    split at h <;> cases h <;> rfl
  · rintro rfl
    exact ofCode?_code space

theorem ResolutionUnits.ofCode?_eq_some_iff {code : UInt8} {units : ResolutionUnits} :
    ofCode? code = some units ↔ code = units.code := by
  constructor
  · intro h
    unfold ofCode? at h
    split at h <;> cases h <;> rfl
  · rintro rfl
    exact ofCode?_code units

theorem ColorSpace.ofCode_code (space : ColorSpace) : ofCode space.code = .ok space := by
  rw [ofCode, ofCode?_code]

theorem ResolutionUnits.ofCode_code (units : ResolutionUnits) :
    ofCode units.code = .ok units := by
  rw [ofCode, ofCode?_code]

end Spiff

namespace Metadata

variable {metadata : Metadata} {header : Spiff.Header}

theorem declaredSpiff?_eq_some_iff {space : Spiff.ColorSpace} {units : Spiff.ResolutionUnits}
    {resolution : UInt32} :
    metadata.declaredSpiff? = some (space, units, resolution) ↔
      metadata.colorSpace = some space.code ∧ metadata.units = some units.code ∧
        metadata.verticalResolution = some resolution := by
  simp only [declaredSpiff?, Option.bind_eq_bind, Option.bind_eq_some_iff, Option.pure_def,
    Option.some_inj, Prod.mk.injEq]
  constructor
  · rintro ⟨_, hspace, _, hspaceCode, _, hunits, _, hunitsCode, _, hresolution, rfl, rfl, rfl⟩
    rw [Spiff.ColorSpace.ofCode?_eq_some_iff] at hspaceCode
    rw [Spiff.ResolutionUnits.ofCode?_eq_some_iff] at hunitsCode
    exact ⟨hspaceCode ▸ hspace, hunitsCode ▸ hunits, hresolution⟩
  · rintro ⟨hspace, hunits, hresolution⟩
    exact ⟨_, hspace, _, space.ofCode?_code, _, hunits, _, units.ofCode?_code, _, hresolution,
      rfl, rfl, rfl⟩

theorem impliedSpiff?_eq_some_iff :
    metadata.impliedSpiff? = some header ↔
      ∃ (space : Spiff.ColorSpace) (units : Spiff.ResolutionUnits) (resolution : UInt32),
        metadata.colorSpace = some space.code ∧ metadata.units = some units.code ∧
        metadata.verticalResolution = some resolution ∧
        header = .standard metadata.width metadata.height metadata.bits metadata.components
          space units resolution resolution := by
  rw [impliedSpiff?, Option.map_eq_some_iff]
  constructor
  · rintro ⟨⟨space, units, resolution⟩, hdeclared, rfl⟩
    obtain ⟨hspace, hunits, hresolution⟩ := declaredSpiff?_eq_some_iff.mp hdeclared
    exact ⟨space, units, resolution, hspace, hunits, hresolution, rfl⟩
  · rintro ⟨space, units, resolution, hspace, hunits, hresolution, rfl⟩
    exact ⟨_, declaredSpiff?_eq_some_iff.mpr ⟨hspace, hunits, hresolution⟩, rfl⟩

theorem isSome_impliedSpiff?_iff :
    metadata.impliedSpiff?.isSome ↔
      (∃ space : Spiff.ColorSpace, metadata.colorSpace = some space.code) ∧
      (∃ units : Spiff.ResolutionUnits, metadata.units = some units.code) ∧
      ∃ resolution, metadata.verticalResolution = some resolution := by
  rw [Option.isSome_iff_exists]
  constructor
  · rintro ⟨header, himplied⟩
    obtain ⟨space, units, resolution, hspace, hunits, hresolution, -⟩ :=
      impliedSpiff?_eq_some_iff.mp himplied
    exact ⟨⟨space, hspace⟩, ⟨units, hunits⟩, ⟨resolution, hresolution⟩⟩
  · rintro ⟨⟨space, hspace⟩, ⟨units, hunits⟩, ⟨resolution, hresolution⟩⟩
    exact ⟨_, impliedSpiff?_eq_some_iff.mpr
      ⟨space, units, resolution, hspace, hunits, hresolution, rfl⟩⟩

end Metadata

theorem Container.metadata_implied {metadata : Metadata} {header : Spiff.Header}
    (hframe : metadata.frame.Valid) (himplied : metadata.impliedSpiff? = some header)
    (rest : List UInt8) :
    Container.metadata (header.toBytes ++ rest) = .ok { metadata with interleave := .planar } := by
  obtain ⟨space, units, resolution, hspace, hunits, hresolution, rfl⟩ :=
    Metadata.impliedSpiff?_eq_some_iff.mp himplied
  rw [Container.metadata, Spiff.Header.ofBytes?_toBytes_append _ rfl]
  simp only
  rw [Metadata.ofSpiff]
  change (Metadata.ofFrame metadata.frame .planar).map _ = _
  rw [Metadata.ofFrame_of_valid hframe .planar, Metadata.plain_frame, hspace, hunits, hresolution]
  rfl

theorem Container.metadata_take_implied {metadata : Metadata} {header : Spiff.Header}
    (hframe : metadata.frame.Valid) (himplied : metadata.impliedSpiff? = some header) :
    Container.metadata (header.toBytes.take 32) = .ok { metadata with interleave := .planar } := by
  have hread := Container.metadata_implied hframe himplied []
  rwa [List.append_nil, ← Container.metadata_take] at hread

namespace Metadata

/-- The fields of an implied header that an encoder asks for are those that have been declared. -/
theorem fields_of_impliedSpiff? {metadata : Metadata} {header : Spiff.Header}
    (himplied : metadata.impliedSpiff? = some header) :
    ∃ space units, Spiff.ColorSpace.ofCode header.colorSpace = .ok space ∧
      Spiff.ResolutionUnits.ofCode header.units = .ok units ∧
      metadata.declaredSpiff? = some (space, units, header.verticalResolution) ∧
      header.horizontal = header.verticalResolution := by
  obtain ⟨space, units, resolution, hspace, hunits, hresolution, rfl⟩ :=
    impliedSpiff?_eq_some_iff.mp himplied
  exact ⟨space, units, space.ofCode_code, units.ofCode_code,
    declaredSpiff?_eq_some_iff.mpr ⟨hspace, hunits, hresolution⟩, rfl⟩

/-- Metadata of a frame imply a SPIFF header if all that it declares is known, and then its first
bytes are read as these metadata.  Metadata of an image to encode imply one if it is asked for. -/
theorem implied_header_carries :
    (∀ (frame : FrameInfo) (interleave : Interleave) (accepted : Metadata),
      ofFrame frame interleave = .ok accepted →
      ∀ (colorSpace units : Option UInt8) (verticalResolution : Option UInt32),
        let metadata : Metadata := { accepted with colorSpace, units, verticalResolution }
        (metadata.impliedSpiff?.isSome ↔
          (∃ space : Spiff.ColorSpace, colorSpace = some space.code) ∧
          (∃ unit : Spiff.ResolutionUnits, units = some unit.code) ∧
          ∃ resolution, verticalResolution = some resolution) ∧
        ∀ header, metadata.impliedSpiff? = some header →
          Container.metadata (header.toBytes.take 32) =
            .ok { metadata with interleave := .planar }) ∧
    ∀ (width height : UInt32) (mode : PixelMode) (options : EncodeOptions) (metadata : Metadata),
      forEncode width height mode options = .ok metadata →
      (metadata.impliedSpiff?.isSome ↔ options.spiff) ∧
      ∀ header, metadata.impliedSpiff? = some header →
        ∃ space units, Spiff.ColorSpace.ofCode header.colorSpace = .ok space ∧
          Spiff.ResolutionUnits.ofCode header.units = .ok units ∧
          metadata.declaredSpiff? = some (space, units, header.verticalResolution) ∧
          header.horizontal = header.verticalResolution := by
  constructor
  · intro frame interleave accepted haccepted colorSpace units verticalResolution metadata
    refine ⟨isSome_impliedSpiff?_iff, fun header himplied => ?_⟩
    obtain ⟨hvalid, rfl⟩ := valid_of_ofFrame haccepted
    have hframe : metadata.frame.Valid := (frame_plain hvalid interleave).symm ▸ hvalid
    exact Container.metadata_take_implied hframe himplied
  · intro width height mode options metadata hmetadata
    refine ⟨?_, fun header himplied => fields_of_impliedSpiff? himplied⟩
    rw [impliedSpiff?_of_forEncode hmetadata]
    by_cases hspiff : options.spiff
    · simp [hspiff]
    · simp [hspiff]

theorem implied_header_carries_largest :
    let frame : FrameInfo := ⟨4294967295, 4294967295, 16, 1⟩
    let metadata : Metadata := { plain frame .line with
      colorSpace := some 15, units := some 2, verticalResolution := some 0 }
    ofFrame frame .line = .ok (plain frame .line) ∧
      (∃ header, metadata.impliedSpiff? = some header ∧
        Container.metadata (header.toBytes.take 32) =
          .ok { metadata with interleave := .planar }) ∧
      { metadata with colorSpace := some 7 }.impliedSpiff? = none := by
  intro frame metadata
  have haccepted : ofFrame frame .line = .ok (plain frame .line) := by decide
  obtain ⟨hsome, hread⟩ :=
    implied_header_carries.1 frame .line _ haccepted (some 15) (some 2) (some 0)
  obtain ⟨header, himplied⟩ := Option.isSome_iff_exists.mp
    (hsome.mpr ⟨⟨.biLevelWhite, rfl⟩, ⟨.dotsPerCentimeter, rfl⟩, ⟨0, rfl⟩⟩)
  exact ⟨haccepted, ⟨header, himplied, hread header himplied⟩, rfl⟩

end Metadata

end JpegLs
