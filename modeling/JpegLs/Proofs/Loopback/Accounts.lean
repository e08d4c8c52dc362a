import JpegLs.Proofs.Codec.Simulation
import JpegLs.Proofs.Loopback.Calls

/-!
The record of a codec without compression is written and never read: what a call answers, and the
instance it leaves, depend on the instance alone.  Of the two counters one goes up with every
instance that is created, the other with every instance that is given back.
-/

namespace JpegLs

namespace Loopback

variable {α β : Type}

/-- What is said of the counters of one record; the other record may be any. -/
def Counted (accounts : Nat → Nat → Prop) (record _other : Record) : Prop :=
  accounts record.created record.destroyed

abbrev Blind (accounts : Nat → Nat → Prop) (op : Call Record α) : Prop :=
  Simulates (Counted accounts) (Counted accounts) (Same (Counted accounts)) op op

variable {accounts : Nat → Nat → Prop}

theorem blind_modify {f : Record → Record} (hf : ∀ record, Unmoved record (f record)) :
    Blind accounts (modify f : Call Record PUnit) := by
  intro record other hcounted
  refine .ok ⟨rfl, ?_⟩
  rw [Counted, (hf record).1, (hf record).2]
  exact hcounted

theorem blind_enter (config : Config) (step : Step) : Blind accounts (enter config step) := by
  refine (blind_modify (by exact fun _ => ⟨rfl, rfl⟩)).bindSame fun _ => ?_
  cases config.failAt with
  | none => exact simulates_pure _
  | some failing =>
      obtain ⟨failing, status⟩ := failing
      exact simulates_ite _ (simulates_throw status) (simulates_pure _)

theorem blind_expect (fault : CodecFault) (value? : Option α) :
    Blind accounts (expect fault value?) := by
  cases value? with
  | none => exact simulates_throw _
  | some value => exact simulates_pure value

theorem blind_readHeader (decoder : Decoder) : Blind accounts decoder.readHeader := by
  refine (blind_expect _ _).bindSame fun source => ?_
  cases findFrame source with
  | ok stored => exact simulates_pure _
  | error status => exact simulates_throw status

theorem blind_decode (decoder : Decoder) (size : Nat) : Blind accounts (decoder.decode size) := by
  refine (blind_expect _ _).bindSame fun stored => (blind_expect _ _).bindSame fun source => ?_
  refine simulates_ite _ (simulates_throw _) ?_
  exact simulates_ite _ (simulates_throw _) (simulates_pure _)

theorem blind_writeSpiff (encoder : Encoder) (space : Spiff.ColorSpace)
    (units : Spiff.ResolutionUnits) (vertical horizontal : UInt32) :
    Blind accounts (encoder.writeSpiff space units vertical horizontal) := by
  refine (blind_expect _ _).bindSame fun frame => ?_
  exact simulates_ite _ (simulates_throw _) (simulates_pure _)

theorem blind_encode (encoder : Encoder) (source : List UInt8) :
    Blind accounts (encoder.encode source) := by
  refine (blind_expect _ _).bindSame fun frame => ?_
  refine (blind_modify (by exact fun _ => ⟨rfl, rfl⟩)).bindSame fun _ => ?_
  exact simulates_ite _ (simulates_throw _) (simulates_pure _)

theorem blind_setFrameInfo (encoder : Encoder) (frame : FrameInfo) :
    Blind accounts (match frameFault? frame with
      | some fault => throw fault.status
      | none => return { encoder with frame } : Call Record Encoder) := by
  cases frameFault? frame with
  | some fault => exact simulates_throw _
  | none => exact simulates_pure _

theorem simulates_creation (config : Config) (step : Step) {grow : Record → Record}
    (hgrow : ∀ record, (grow record).created = record.created + 1 ∧
      (grow record).destroyed = record.destroyed) (handle : α) {grown : Nat → Nat → Prop}
    (hgrown : ∀ {created destroyed}, accounts created destroyed → grown (created + 1) destroyed) :
    let create : Call Record α := do
      enter config step
      modify grow
      return handle
    Simulates (Counted accounts) (Counted accounts) (Same (Counted grown)) create create := by
  refine (blind_enter config step).bindSame fun _ => ?_
  intro record other hcounted
  refine .ok ⟨rfl, ?_⟩
  rw [Counted, (hgrow record).1, (hgrow record).2]
  exact hgrown hcounted

theorem unmoved_of_not_created {create : Call Record α}
    (hcreate : ∀ accounts, Simulates (Counted accounts) (Counted accounts)
      (Same (Counted fun _ _ => True)) create create) {record left : Record} {status : Status}
    (hfailed : create record = (.error status, left)) : Unmoved record left := by
  have hboth := hcreate
    (fun created destroyed => created = record.created ∧ destroyed = record.destroyed)
    record record ⟨rfl, rfl⟩
  rw [hfailed] at hboth
  cases hboth with
  | error _ hcounted => exact hcounted

theorem createDecoder_error {config : Config} {record left : Record} {status : Status}
    (hfailed : (codec config).createDecoder record = (.error status, left)) :
    Unmoved record left :=
  unmoved_of_not_created (fun _ => simulates_creation config _ (by exact fun _ => ⟨rfl, rfl⟩) _
    fun _ => trivial) hfailed

theorem createEncoder_error {config : Config} {record left : Record} {status : Status}
    (hfailed : (codec config).createEncoder record = (.error status, left)) :
    Unmoved record left :=
  unmoved_of_not_created (fun _ => simulates_creation config _ (by exact fun _ => ⟨rfl, rfl⟩) _
    fun _ => trivial) hfailed

/-- There are `held` more instances created than given back. -/
def Balance (held : Int) (created destroyed : Nat) : Prop :=
  (created : Int) = destroyed + held

variable {held : Int}

theorem Balance.created {created destroyed : Nat} (h : Balance held created destroyed) :
    Balance (held + 1) (created + 1) destroyed := by
  unfold Balance at h ⊢
  omega

theorem Balance.released {created destroyed : Nat} (h : Balance (held + 1) created destroyed) :
    Balance held created (destroyed + 1) := by
  unfold Balance at h ⊢
  omega

/-- The codec beside itself, both driven alike: the records may differ in everything, the answers
may not. -/
def besideItself (config : Config) (others : Int) (given given' : List Warning) :
    (codec config).Simulation (codec config) where
  shared := Counted (Balance others)
  warnings warnings warnings' :=
    ∃ added, warnings = given ++ added ∧ warnings' = given' ++ added
  append more := by
    rintro ⟨added, rfl, rfl⟩
    exact ⟨added ++ more, List.append_assoc _ _ _, List.append_assoc _ _ _⟩
  decoders := Same (Counted (Balance (others + 1)))
  encoders := Same (Counted (Balance (others + 1)))
  createDecoder := simulates_creation config _ (by exact fun _ => ⟨rfl, rfl⟩) _ Balance.created
  setSource _ := Calls.simulates_change fun _ =>
    (blind_enter config _).bindSame fun _ => simulates_pure _
  readHeader := Calls.simulates_change fun _ =>
    (blind_enter config _).bindSame fun _ => blind_readHeader _
  frameInfo := Calls.simulates_query fun _ =>
    (blind_enter config _).bindSame fun _ => (blind_expect _ _).bindSame fun _ => simulates_pure _
  interleave := Calls.simulates_query fun _ =>
    (blind_enter config _).bindSame fun _ => (blind_expect _ _).bindSame fun _ => simulates_pure _
  destinationSize := Calls.simulates_query fun _ =>
    (blind_enter config _).bindSame fun _ => (blind_expect _ _).bindSame fun _ => simulates_pure _
  decodeInto _ := Calls.simulates_query fun _ =>
    (blind_enter config _).bindSame fun _ => blind_decode _ _
  releaseDecoder _ _ _ _ h := Balance.released h.2
  createEncoder := simulates_creation config _ (by exact fun _ => ⟨rfl, rfl⟩) _ Balance.created
  setFrameInfo _ := Calls.simulates_change fun _ =>
    (blind_enter config _).bindSame fun _ => blind_setFrameInfo _ _
  setInterleave _ := Calls.simulates_change fun _ =>
    (blind_enter config _).bindSame fun _ =>
      (blind_modify (by exact fun _ => ⟨rfl, rfl⟩)).bindSame fun _ => simulates_pure _
  estimatedSize := Calls.simulates_query fun _ =>
    (blind_enter config _).bindSame fun _ => (blind_expect _ _).bindSame fun _ =>
      (blind_modify (by exact fun _ => ⟨rfl, rfl⟩)).bindSame fun _ => simulates_pure _
  setDestination _ := Calls.simulates_change fun _ =>
    (blind_enter config _).bindSame fun _ => (blind_expect _ _).bindSame fun _ => simulates_pure _
  writeSpiff _ _ _ _ := Calls.simulates_storing fun _ =>
    (blind_enter config _).bindSame fun _ => blind_writeSpiff _ _ _ _ _
  encodeFrom _ := Calls.simulates_storing fun _ =>
    (blind_enter config _).bindSame fun _ => blind_encode _ _
  bytesWritten := Calls.simulates_query fun _ =>
    (blind_enter config _).bindSame fun _ => simulates_pure _
  releaseEncoder _ _ _ _ h := Balance.released h.2

theorem encode_answer_eq (config : Config) (image : SourceImage) (options : EncodeOptions)
    (world world' : World Record) :
    (encode (codec config) image options world).1 =
      (encode (codec config) image options world').1 := by
  let sim := besideItself config (world.codec.created - world.codec.destroyed) world.warnings
    world'.warnings
  have hworlds : sim.toWorlds.Related world world' := {
    codec := by
      change (world.codec.created : Int) = _
      omega
    warnings := ⟨[], (List.append_nil _).symm, (List.append_nil _).symm⟩ }
  have hboth := simulates_encode sim image options world world' hworlds
  generalize encode (codec config) image options world = run at hboth ⊢
  generalize encode (codec config) image options world' = run' at hboth ⊢
  cases hboth with
  | ok h => exact congrArg Except.ok h.1
  | error error h => rfl

end Loopback

end JpegLs
