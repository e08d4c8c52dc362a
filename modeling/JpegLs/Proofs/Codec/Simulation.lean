import JpegLs.Proofs.Session.Simulation

/-!
Two codecs whose calls answer alike, one by one.  Then every command of a session and every whole
decoding and encoding comes out the same over both.
-/

namespace JpegLs

variable {σ τ : Type}

/-- What holds between two codecs whose instances are asked the same: `decoders` and `encoders`
while there is one at hand on both sides, `shared` while there is none. -/
structure Codec.Simulation (first : Codec σ) (second : Codec τ) extends Worlds σ τ where
  decoders : first.Decoder → σ → second.Decoder → τ → Prop
  encoders : first.Encoder → σ → second.Encoder → τ → Prop
  createDecoder : Simulates shared shared decoders first.createDecoder second.createDecoder
  setSource : ∀ source, SimulatesOn decoders Eq
    (Calls.change (first.setSource · source)) (Calls.change (second.setSource · source))
  readHeader : SimulatesOn decoders Eq
    (Calls.change first.readHeader) (Calls.change second.readHeader)
  frameInfo : SimulatesOn decoders Eq (Calls.query first.frameInfo) (Calls.query second.frameInfo)
  interleave : SimulatesOn decoders Eq
    (Calls.query first.interleave) (Calls.query second.interleave)
  destinationSize : SimulatesOn decoders Eq
    (Calls.query first.destinationSize) (Calls.query second.destinationSize)
  decodeInto : ∀ size, SimulatesOn decoders Eq
    (Calls.query (first.decodeInto · size)) (Calls.query (second.decodeInto · size))
  releaseDecoder : ∀ decoder codec decoder' codec', decoders decoder codec decoder' codec' →
    shared (first.releaseDecoder decoder codec) (second.releaseDecoder decoder' codec')
  createEncoder : Simulates shared shared encoders first.createEncoder second.createEncoder
  setFrameInfo : ∀ frame, SimulatesOn encoders Eq
    (Calls.change (first.setFrameInfo · frame)) (Calls.change (second.setFrameInfo · frame))
  setInterleave : ∀ mode, SimulatesOn encoders Eq
    (Calls.change (first.setInterleave · mode)) (Calls.change (second.setInterleave · mode))
  estimatedSize : SimulatesOn encoders Eq
    (Calls.query first.estimatedSize) (Calls.query second.estimatedSize)
  setDestination : ∀ length, SimulatesOn encoders Eq
    (Calls.change (first.setDestination · length)) (Calls.change (second.setDestination · length))
  writeSpiff : ∀ space units vertical horizontal, SimulatesOn (Calls.Beside encoders) Eq
    (Calls.store (first.writeSpiff · space units vertical horizontal))
    (Calls.store (second.writeSpiff · space units vertical horizontal))
  encodeFrom : ∀ source, SimulatesOn (Calls.Beside encoders) Eq
    (Calls.store (first.encodeFrom · source)) (Calls.store (second.encodeFrom · source))
  bytesWritten : SimulatesOn encoders Eq
    (Calls.query first.bytesWritten) (Calls.query second.bytesWritten)
  releaseEncoder : ∀ encoder codec encoder' codec', encoders encoder codec encoder' codec' →
    shared (first.releaseEncoder encoder codec) (second.releaseEncoder encoder' codec')

variable {first : Codec σ} {second : Codec τ} (sim : first.Simulation second)

namespace EncodeSession

abbrev Alike {α : Type} (method : Method first α) (method' : Method second α) : Prop :=
  SimulatesOn (Session.Related sim.toWorlds sim.encoders) Eq method method'

theorem alike_kind : (kind first).Simulates (kind second) sim.toWorlds sim.encoders :=
  ⟨rfl, sim.releaseEncoder⟩

theorem alike_setFrameInfo (frame : FrameInfo) :
    Alike sim (setFrameInfo first frame) (setFrameInfo second frame) :=
  (alike_kind sim).step _ _ (sim.setFrameInfo frame)

theorem alike_setInterleave (mode : Interleave) :
    Alike sim (setInterleave first mode) (setInterleave second mode) :=
  (alike_kind sim).step _ _ (sim.setInterleave mode)

theorem alike_estimate : Alike sim (estimate first) (estimate second) := by
  refine Session.simulates_get fun session session' hstate _ => ?_
  rw [hstate]
  exact (alike_kind sim).step _ _ sim.estimatedSize

theorem alike_setDestination (destination : List UInt8) :
    Alike sim (setDestination first destination) (setDestination second destination) := by
  refine SimulatesOn.bindEq ?_ fun _ => Session.simulates_setData fun _ => destination
  exact (alike_kind sim).step _ _ (sim.setDestination destination.length)

theorem alike_writeSpiff (space : Spiff.ColorSpace) (units : Spiff.ResolutionUnits)
    (vertical horizontal : UInt32) :
    Alike sim (writeSpiff first space units vertical horizontal)
      (writeSpiff second space units vertical horizontal) :=
  (alike_kind sim).stepWith _ _ (sim.writeSpiff space units vertical horizontal)

theorem alike_encodeFrom (source : List UInt8) :
    Alike sim (encodeFrom first source) (encodeFrom second source) :=
  (alike_kind sim).stepWith _ _ (sim.encodeFrom source)

theorem alike_finish : Alike sim (finish first) (finish second) := by
  refine SimulatesOn.bindEq ?_ fun written => ?_
  · exact (alike_kind sim).step _ _ sim.bytesWritten
  · refine (alike_kind sim).close.bindEq fun _ => ?_
    refine Session.simulates_get fun session session' _ hdata => ?_
    rw [hdata]
    exact simulatesOn_ite _ (simulatesOn_throw _) (simulatesOn_pure _)

theorem alike_perform (command : EncodeCommand) :
    Alike sim (perform first command) (perform second command) := by
  cases command with
  | setFrameInfo frame => exact (alike_setFrameInfo sim frame).mapEq _
  | setInterleave mode => exact (alike_setInterleave sim mode).mapEq _
  | estimate => exact (alike_estimate sim).mapEq _
  | setDestination destination => exact (alike_setDestination sim destination).mapEq _
  | writeSpiff space units vertical horizontal =>
      exact (alike_writeSpiff sim space units vertical horizontal).mapEq _
  | encodeFrom source => exact (alike_encodeFrom sim source).mapEq _
  | finish => exact (alike_finish sim).mapEq _

theorem alike_arrange (metadata : Metadata) :
    Alike sim (arrange first metadata) (arrange second metadata) := by
  unfold arrange
  exact simulatesOn_ite _ (alike_setInterleave sim metadata.interleave) (simulatesOn_pure _)

theorem alike_declareSpiff (metadata : Metadata) :
    Alike sim (declareSpiff first metadata) (declareSpiff second metadata) := by
  unfold declareSpiff
  cases metadata.impliedSpiff? with
  | none => exact simulatesOn_pure _
  | some header =>
      refine (simulatesOn_liftExcept _).bindEq fun space => ?_
      refine (simulatesOn_liftExcept _).bindEq fun units => ?_
      exact alike_writeSpiff sim space units _ _

end EncodeSession

namespace DecodeSession

abbrev Alike {α : Type} (method : Method first α) (method' : Method second α) : Prop :=
  SimulatesOn (Session.Related sim.toWorlds sim.decoders) Eq method method'

theorem alike_kind : (kind first).Simulates (kind second) sim.toWorlds sim.decoders :=
  ⟨rfl, sim.releaseDecoder⟩

theorem alike_setSource (source : List UInt8) :
    Alike sim (setSource first source) (setSource second source) :=
  (alike_kind sim).step _ _ (sim.setSource source)

theorem alike_readHeader : Alike sim (readHeader first) (readHeader second) := by
  refine SimulatesOn.bindEq ?_ fun found => ?_
  · refine (alike_kind sim).step _ _ ?_
    refine sim.readHeader.bindEq fun _ => ?_
    refine sim.frameInfo.bindEq fun frame => ?_
    refine sim.interleave.bindEq fun mode => ?_
    exact simulatesOn_pure _
  · obtain ⟨frame, interleave⟩ := found
    simp only
    cases Metadata.ofFrame frame interleave with
    | error error => exact (alike_kind sim).close.bindEq fun _ => simulatesOn_throw error
    | ok metadata =>
        refine SimulatesOn.bindEq ?_ fun _ => simulatesOn_pure _
        exact Session.simulates_setData fun data : DecodeFindings =>
          { data with metadata? := some metadata }

theorem alike_querySize : Alike sim (querySize first) (querySize second) := by
  refine SimulatesOn.bindEq ?_ fun size => ?_
  · exact (alike_kind sim).step _ _ sim.destinationSize
  · refine SimulatesOn.bindEq ?_ fun _ => simulatesOn_pure _
    exact Session.simulates_setData fun data : DecodeFindings => { data with size }

theorem alike_finish : Alike sim (finish first) (finish second) := by
  refine Session.simulates_get fun session session' _ hdata => ?_
  rw [hdata]
  refine SimulatesOn.bindEq ?_ fun stored => ?_
  · exact (alike_kind sim).step _ _ (sim.decodeInto session'.data.size)
  · refine (alike_kind sim).close.bindEq fun _ => ?_
    cases session'.data.metadata? with
    | none => exact simulatesOn_throw _
    | some metadata => exact simulatesOn_liftExcept _

theorem alike_perform (command : DecodeCommand) :
    Alike sim (perform first command) (perform second command) := by
  cases command with
  | setSource source => exact (alike_setSource sim source).mapEq _
  | readHeader => exact (alike_readHeader sim).mapEq _
  | querySize => exact (alike_querySize sim).mapEq _
  | finish => exact (alike_finish sim).mapEq _

end DecodeSession

theorem simulates_decode (source : List UInt8) :
    Simulates sim.toWorlds.Related sim.toWorlds.Related (Same sim.toWorlds.Related)
      (decode first source) (decode second source) := by
  refine (simulates_liftExcept _).bindSame fun container => ?_
  refine (Session.simulates_start _ _ sim.createDecoder).bind fun session session' => ?_
  refine ((DecodeSession.alike_kind sim).use ?_ session session').bindSame fun decoded => ?_
  · refine (DecodeSession.alike_setSource sim source).bindEq fun _ => ?_
    refine (DecodeSession.alike_readHeader sim).bindEq fun _ => ?_
    refine (DecodeSession.alike_querySize sim).bindEq fun _ => ?_
    exact DecodeSession.alike_finish sim
  · have hwarn (warning : Warning) := sim.toWorlds.simulates_warn warning
    exact simulates_ite _ ((hwarn _).bindSame fun _ => simulates_pure _) (simulates_pure _)

theorem simulates_encode (image : SourceImage) (options : EncodeOptions) :
    Simulates sim.toWorlds.Related sim.toWorlds.Related (Same sim.toWorlds.Related)
      (encode first image options) (encode second image options) := by
  refine (simulates_liftExcept _).bindSame fun prepared => ?_
  refine (Session.simulates_start _ _ sim.createEncoder).bind fun session session' => ?_
  refine (EncodeSession.alike_kind sim).use ?_ session session'
  refine (EncodeSession.alike_setFrameInfo sim _).bindEq fun _ => ?_
  refine (EncodeSession.alike_arrange sim _).bindEq fun _ => ?_
  refine (EncodeSession.alike_estimate sim).bindEq fun size => ?_
  refine (EncodeSession.alike_setDestination sim _).bindEq fun _ => ?_
  refine (EncodeSession.alike_declareSpiff sim _).bindEq fun _ => ?_
  refine (EncodeSession.alike_encodeFrom sim _).bindEq fun _ => ?_
  refine (EncodeSession.alike_finish sim).bindEq fun written => ?_
  refine Session.simulates_get fun session session' _ hdata => ?_
  rw [hdata]
  exact simulatesOn_pure _

end JpegLs
