import JpegLs.Proofs.Loopback.Frames
import JpegLs.Proofs.Session.Refinement

namespace JpegLs.Loopback

variable {source : List UInt8} {stored : StoredFrame}

theorem segmentOffset?_append (hlength : Spiff.magic.length ≤ source.length)
    (rest : List UInt8) : segmentOffset? (source ++ rest) = segmentOffset? source := by
  have hstart : startOfImage.length ≤ source.length := Nat.le_trans (by decide) hlength
  simp only [segmentOffset?, List.isPrefix_append_of_length hlength,
    List.isPrefix_append_of_length hstart]

theorem code_append {place : Nat} {interleave : Interleave}
    (hcode : (source[place]?.bind fun code => Interleave.ofCode? code.toNat) = some interleave)
    (rest : List UInt8) :
    ((source ++ rest)[place]?.bind fun code => Interleave.ofCode? code.toNat) =
      some interleave := by
  obtain ⟨code, hbyte, hknown⟩ := Option.bind_eq_some_iff.mp hcode
  rw [List.getElem?_append_left (List.getElem?_eq_some_iff.mp hbyte).1, hbyte]
  exact hknown

theorem findFrame_append (hfound : findFrame source = .ok stored) (rest : List UInt8) :
    findFrame (source ++ rest) = .ok stored := by
  cases hoffset : segmentOffset? source with
  | none =>
      simp only [findFrame, hoffset] at hfound
      cases hfound
  | some offset =>
      have hlong : offset + 10 ≤ source.length := (of_findFrame hoffset hfound).1
      have hmagic : Spiff.magic.length ≤ source.length :=
        Nat.le_trans (Nat.le_trans (by decide) (Nat.le_add_left 10 offset)) hlong
      have hdrop : (source ++ rest).drop offset = source.drop offset ++ rest :=
        List.drop_append_of_le_length (by omega)
      simp only [findFrame, hoffset] at hfound
      simp only [findFrame, segmentOffset?_append hmagic, hoffset, hdrop]
      split at hfound
      · rename_i l1 l0 bits h1 h0 w1 w0 components others hsegment
        simp only [hsegment, List.cons_append]
        split at hfound
        · rename_i hcode
          simp only [code_append hcode rest]
          exact hfound
        · cases hfound
      · cases hfound

theorem refines_expect {α β : Type} (f : α → β) (fault : CodecFault) (value? : Option α) :
    Refines f (expect fault value?) (expect fault (value?.map f)) := by
  cases value? with
  | none => exact refines_throw f fault.status _
  | some value => exact refines_pure f value

def Decoder.followedBy (rest : List UInt8) (decoder : Decoder) : Decoder :=
  { decoder with source := decoder.source.map (· ++ rest) }

variable (config : Config) (rest : List UInt8) (decoder : Decoder)

theorem refines_readHeader :
    Refines (Decoder.followedBy rest) ((codec config).readHeader decoder)
      ((codec config).readHeader (decoder.followedBy rest)) := by
  refine (refines_refl _).bind fun _ => ?_
  refine (refines_expect (· ++ rest) _ decoder.source).bind fun source => ?_
  cases hfound : findFrame source with
  | error status => exact refines_throw _ status _
  | ok stored =>
      simp only [findFrame_append hfound rest]
      exact refines_pure _ _

theorem refines_decodeInto (size : Nat) :
    Refines id ((codec config).decodeInto decoder size)
      ((codec config).decodeInto (decoder.followedBy rest) size) := by
  refine (refines_refl _).bind fun _ => ?_
  refine (refines_refl _).bind fun stored => ?_
  refine (refines_expect (· ++ rest) _ decoder.source).bind fun source => ?_
  refine refines_ite _ (refines_throw id _ _) ?_
  by_cases hshort : source.length < stored.offset + imageSize stored.frame
  · rw [if_pos hshort]
    exact refines_throw id _ _
  · have hlong : ¬(source ++ rest).length < stored.offset + imageSize stored.frame := by
      rw [List.length_append]
      omega
    have hsamples : ((source ++ rest).drop stored.offset).take (imageSize stored.frame) =
        (source.drop stored.offset).take (imageSize stored.frame) := by
      rw [List.drop_append_of_le_length (by omega), List.take_append_of_le_length]
      rw [List.length_drop]
      omega
    simp only [if_neg hshort, id_eq, if_neg hlong, hsamples]
    exact refines_refl _

theorem refines_decode (source rest : List UInt8) :
    Refines id (decode (codec config) source) (decode (codec config) (source ++ rest)) := by
  rw [decode_eq_steps, decode_eq_steps]
  simp only [decodeSteps, DecodeSession.measureSteps, bind_assoc, pure_bind]
  -- The container is the same; once the source is set, the decoders differ in nothing else.
  refine (refines_liftExcept fun _ h => Container.metadata_append h rest).bind fun container => ?_
  refine (refines_refl _).bind fun created => ?_
  refine (Session.Kind.refines_attempt (f := Decoder.followedBy rest) _ _ _ _
    ((refines_refl _).bind fun _ => refines_pure _ _)).bind fun opened => ?_
  refine (Session.Kind.refines_attempt _ _ _ _
    (refines_readHeader config rest opened)).bind fun found => ?_
  refine (Session.Kind.refines_attempt _ _ _ _ (refines_refl _)).bind fun frame => ?_
  refine (Session.Kind.refines_attempt _ _ _ _ (refines_refl _)).bind fun interleave => ?_
  refine (Session.Kind.refines_accept _ _ _ _ _).bind fun metadata => ?_
  refine (Session.Kind.refines_attempt _ _ _ _ (refines_refl _)).bind fun size => ?_
  refine Refines.bind ?_ fun decoded => refines_refl _
  refine (Session.Kind.refines_attempt _ _ _ _
    (refines_decodeInto config rest found size)).bind fun stored => ?_
  exact refines_refl _

/-- A stream that can be decoded can be decoded with anything behind it: to the same image, with the
same calls and the same warnings. -/
theorem decode_append {config : Config} {source : List UInt8} {decoded : DecodedImage}
    {world left : World Record}
    (hdecode : decode (codec config) source world = (.ok decoded, left)) (rest : List UInt8) :
    decode (codec config) (source ++ rest) world = (.ok decoded, left) :=
  refines_decode config source rest world decoded left hdecode

theorem decode_append_turned :
    let source : List UInt8 := [
      0xFF, 0xD8, 0xFF, 0xE8, 0, 32, 0x53, 0x50, 0x49, 0x46, 0x46, 0, 2, 0, 0, 1,
      0, 0, 0, 1, 0, 0, 0, 2, 8, 8, 6, 1, 0, 0, 0, 72, 0, 0, 0, 72,
      0xFF, 0xF7, 0, 11, 8, 0, 2, 0, 1, 1, 1, 0x11, 0, 0, 7, 9]
    let decoded : DecodedImage := ⟨⟨1, 2, 8, 1, .planar, some 8, some 1, some 72⟩, .eight [7, 9]⟩
    let run := decode (codec {}) source ⟨{}, []⟩
    run.1 = .ok decoded ∧ run.2.warnings = [.frameMismatch ⟨2, 1, 8, 1⟩ ⟨1, 2, 8, 1⟩] ∧
      decode (codec {}) (source ++ [0xFF, 0xD9, 0]) ⟨{}, []⟩ = run := by
  intro source decoded run
  have hdecoded : run.1 = .ok decoded := by decide +kernel
  have hwarnings : run.2.warnings = [.frameMismatch ⟨2, 1, 8, 1⟩ ⟨1, 2, 8, 1⟩] := by
    decide +kernel
  have hrun : run = (run.1, run.2) := Prod.mk.eta.symm
  rw [hdecoded] at hrun
  exact ⟨hdecoded, hwarnings, (decode_append hrun [0xFF, 0xD9, 0]).trans hrun.symm⟩

end JpegLs.Loopback
