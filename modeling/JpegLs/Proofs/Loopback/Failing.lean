import JpegLs.Codec.Loopback
import JpegLs.Proofs.Session.EncodeReference
import JpegLs.Proofs.Session.Refinement

/-!
A codec that is to fail at a chosen step.  As far as it gets, it answers like one that is not to
fail.
-/

namespace JpegLs

namespace Loopback

def Config.reliable (config : Config) : Config :=
  { config with failAt := none }

theorem refines_entered {α : Type} (config : Config) (step : Step) (call : Call Record α) :
    Refines id (enter config step >>= fun _ => call)
      (enter config.reliable step >>= fun _ => call) := by
  refine Refines.bind (f := id) ?_ fun _ => refines_refl call
  refine (refines_refl _).bind fun _ => ?_
  cases config.failAt with
  | none => exact refines_refl _
  | some failing =>
      obtain ⟨failing, status⟩ := failing
      by_cases hstep : failing = step
      · simp only [if_pos hstep]
        exact refines_throw id status _
      · simp only [if_neg hstep]
        exact refines_refl _

variable {width height : UInt32} {mode : PixelMode} {pixels : PixelBuffer} {image : SourceImage}

/-- An encoding that gets to its end is the one of a codec that is not to fail. -/
theorem refines_encode (himage : SourceImage.make width height mode pixels = .ok image)
    (config : Config) (options : EncodeOptions) :
    Refines id (encode (codec config) image options)
      (encode (codec config.reliable) image options) := by
  rw [encode_eq himage, encode_eq himage]
  refine (refines_refl _).bind fun metadata => ?_
  refine (Task.refines_call (refines_entered config _ _)).bind fun encoder => ?_
  refine (Session.Kind.refines_attempt _ _ _ _ (refines_entered config _ _)).bind fun encoder => ?_
  refine (refines_ite _ ?_ (refines_refl _)).bind fun encoder => ?_
  · exact Session.Kind.refines_attempt _ _ _ _ (refines_entered config _ _)
  refine (Session.Kind.refines_attempt _ _ _ _ (refines_entered config _ _)).bind fun size => ?_
  refine (Session.Kind.refines_attempt _ _ _ _ (refines_entered config _ _)).bind fun encoder => ?_
  refine (refines_ite _ ?_ (refines_refl _)).bind fun declared => ?_
  · exact Session.Kind.refines_attempt _ _ _ _ (Call.refines_storing (refines_entered config _ _))
  refine (Session.Kind.refines_attempt _ _ _ _
    (Call.refines_storing (refines_entered config _ _))).bind fun stored => ?_
  refine (Session.Kind.refines_attempt _ _ _ _ (refines_entered config _ _)).bind fun written => ?_
  exact refines_refl _

end Loopback

end JpegLs
