import JpegLs.Codec.Loopback
import JpegLs.Proofs.Success

namespace JpegLs

namespace Loopback

variable {α : Type} {config : Config} {record left : Record} {decoder found : Decoder}

theorem of_entered {step : Step} {call : Call Record α} {value : α}
    (h : (enter config step >>= fun _ => call) record = (.ok value, left)) :
    ∃ entered, call entered = (.ok value, left) := by
  obtain ⟨_, entered, -, hcall⟩ := of_run_bind h
  exact ⟨entered, hcall⟩

theorem of_expected {β : Type} {fault : CodecFault} {value? : Option α} {expected : α}
    {next : α → Call Record β} {value : β} (hexpected : value? = some expected)
    (h : (expect fault value? >>= next) record = (.ok value, left)) :
    next expected record = (.ok value, left) := by
  subst hexpected
  exact h

theorem of_createDecoder (h : (codec config).createDecoder record = (.ok decoder, left)) :
    decoder = {} := by
  obtain ⟨entered, hcall⟩ := of_entered h
  obtain ⟨_, counted, -, hcreated⟩ := of_run_bind hcall
  cases hcreated
  rfl

theorem of_setSource {source : List UInt8}
    (h : (codec config).setSource decoder source record = (.ok found, left)) :
    found = { decoder with source := some source } := by
  obtain ⟨entered, hcall⟩ := of_entered h
  cases hcall
  rfl

theorem of_readHeader {source : List UInt8} (hsource : decoder.source = some source)
    (h : (codec config).readHeader decoder record = (.ok found, left)) :
    ∃ stored, findFrame source = .ok stored ∧ found = { decoder with stored := some stored } := by
  obtain ⟨entered, hcall⟩ := of_entered h
  have hread := of_expected hsource hcall
  cases hfound : findFrame source with
  | error status =>
      simp only [hfound] at hread
      cases hread
  | ok stored =>
      simp only [hfound] at hread
      cases hread
      exact ⟨stored, rfl, rfl⟩

theorem of_told {step : Step} {fault : CodecFault} {stored : StoredFrame} {tell : StoredFrame → α}
    {value : α} (hstored : decoder.stored = some stored)
    (h : (enter config step >>= fun _ =>
      expect fault decoder.stored >>= fun stored => pure (tell stored)) record =
        (.ok value, left)) : value = tell stored := by
  obtain ⟨entered, hcall⟩ := of_entered h
  cases of_expected hstored hcall
  rfl

theorem of_frameInfo {stored : StoredFrame} {frame : FrameInfo}
    (hstored : decoder.stored = some stored)
    (h : (codec config).frameInfo decoder record = (.ok frame, left)) : frame = stored.frame :=
  of_told hstored h

theorem of_interleave {stored : StoredFrame} {interleave : Interleave}
    (hstored : decoder.stored = some stored)
    (h : (codec config).interleave decoder record = (.ok interleave, left)) :
    interleave = stored.interleave :=
  of_told hstored h

theorem of_destinationSize {stored : StoredFrame} {size : Nat}
    (hstored : decoder.stored = some stored)
    (h : (codec config).destinationSize decoder record = (.ok size, left)) :
    size = imageSize stored.frame :=
  of_told hstored h

theorem of_decodeInto {source bytes : List UInt8} {stored : StoredFrame} {size : Nat}
    (hsource : decoder.source = some source) (hstored : decoder.stored = some stored)
    (h : (codec config).decodeInto decoder size record = (.ok bytes, left)) :
    stored.offset + imageSize stored.frame ≤ source.length ∧
      bytes = (source.drop stored.offset).take (imageSize stored.frame) := by
  obtain ⟨entered, hcall⟩ := of_entered h
  have hsourced := of_expected hstored hcall
  have hread := of_expected hsource hsourced
  by_cases hsize : size < imageSize stored.frame
  · simp only [if_pos hsize] at hread
    cases hread
  by_cases hshort : source.length < stored.offset + imageSize stored.frame
  · simp only [if_neg hsize, if_pos hshort] at hread
    cases hread
  simp only [if_neg hsize, if_neg hshort] at hread
  cases hread
  exact ⟨Nat.le_of_not_lt hshort, rfl⟩

end Loopback

end JpegLs
