import JpegLs.Proofs.Loopback.Calls

/-!
The statuses a call may fail with, and the codecs that can be told apart from success by a number:
no call of theirs fails with zero, and creations fail for want of memory only.
-/

namespace JpegLs

variable {σ α β : Type}

namespace Call

/-- A call that may succeed, or else fails with an allowed status. -/
def FailsOnly (allowed : Status → Prop) (call : Call σ α) : Prop :=
  ∀ state status, (call state).1 = .error status → allowed status

variable {allowed : Status → Prop}

theorem failsOnly_pure (value : α) : FailsOnly allowed (pure value : Call σ α) := by
  intro state status hfailed
  cases hfailed

theorem failsOnly_throw {status : Status} (h : allowed status) :
    FailsOnly allowed (throw status : Call σ α) := by
  intro state status hfailed
  cases hfailed
  exact h

theorem failsOnly_modify (f : σ → σ) : FailsOnly allowed (modify f : Call σ PUnit) := by
  intro state status hfailed
  cases hfailed

theorem FailsOnly.bind {op : Call σ α} {next : α → Call σ β} (hop : FailsOnly allowed op)
    (hnext : ∀ value, FailsOnly allowed (next value)) : FailsOnly allowed (op >>= next) := by
  intro state status hfailed
  rw [run_bind] at hfailed
  cases hcall : op state with
  | mk result left =>
      rw [hcall] at hfailed
      cases result with
      | ok value => exact hnext value left status hfailed
      | error failure =>
          cases hfailed
          exact hop state status (by rw [hcall])

theorem failsOnly_ite {condition : Prop} [Decidable condition] {op op' : Call σ α}
    (hthen : FailsOnly allowed op) (helse : FailsOnly allowed op') :
    FailsOnly allowed (if condition then op else op') := by
  split
  · exact hthen
  · exact helse

theorem FailsOnly.storing {call : Call σ (Except Status α × List Patch)}
    (hcall : FailsOnly allowed call)
    (hstored : ∀ {state left status patches},
      call state = (.ok (.error status, patches), left) → allowed status) :
    call.storing.toCall.FailsOnly allowed := by
  intro state status hfailed
  simp only [StoringCall.toCall, Call.storing] at hfailed
  rcases hresult : call state with ⟨failure | ⟨failure | value, patches⟩, left⟩
  · rw [hresult] at hfailed
    cases hfailed
    exact hcall state status (by rw [hresult])
  · rw [hresult] at hfailed
    cases hfailed
    exact hstored hresult
  · rw [hresult] at hfailed
    cases hfailed

end Call

def Status.IsFailure (status : Status) : Prop := status.code ≠ 0

instance (status : Status) : Decidable status.IsFailure :=
  inferInstanceAs (Decidable (status.code ≠ 0))

theorem CodecFault.isFailure_status (fault : CodecFault) : fault.status.IsFailure :=
  fault.code_ne_zero

structure Codec.Exportable (codec : Codec σ) : Prop where
  createDecoder : codec.createDecoder.FailsOnly (· = CodecFault.notEnoughMemory.status)
  setSource : ∀ decoder source, (codec.setSource decoder source).FailsOnly Status.IsFailure
  readHeader : ∀ decoder, (codec.readHeader decoder).FailsOnly Status.IsFailure
  frameInfo : ∀ decoder, (codec.frameInfo decoder).FailsOnly Status.IsFailure
  interleave : ∀ decoder, (codec.interleave decoder).FailsOnly Status.IsFailure
  destinationSize : ∀ decoder, (codec.destinationSize decoder).FailsOnly Status.IsFailure
  decodeInto : ∀ decoder size, (codec.decodeInto decoder size).FailsOnly Status.IsFailure
  createEncoder : codec.createEncoder.FailsOnly (· = CodecFault.notEnoughMemory.status)
  setFrameInfo : ∀ encoder frame, (codec.setFrameInfo encoder frame).FailsOnly Status.IsFailure
  setInterleave : ∀ encoder mode, (codec.setInterleave encoder mode).FailsOnly Status.IsFailure
  estimatedSize : ∀ encoder, (codec.estimatedSize encoder).FailsOnly Status.IsFailure
  setDestination : ∀ encoder length,
    (codec.setDestination encoder length).FailsOnly Status.IsFailure
  writeSpiff : ∀ encoder space units vertical horizontal,
    (codec.writeSpiff encoder space units vertical horizontal).toCall.FailsOnly Status.IsFailure
  encodeFrom : ∀ encoder source,
    (codec.encodeFrom encoder source).toCall.FailsOnly Status.IsFailure
  bytesWritten : ∀ encoder, (codec.bytesWritten encoder).FailsOnly Status.IsFailure

namespace Loopback

/-- The chosen failure is one that a library can report where it is chosen. -/
structure Config.Exportable (config : Config) : Prop where
  failure : ∀ step status, config.failAt = some (step, status) → status.IsFailure
  createDecoder : ∀ status, config.failAt = some (.createDecoder, status) →
    status = CodecFault.notEnoughMemory.status
  createEncoder : ∀ status, config.failAt = some (.createEncoder, status) →
    status = CodecFault.notEnoughMemory.status

variable {config : Config} {allowed : Status → Prop}

theorem failsOnly_enter {step : Step}
    (h : ∀ status, config.failAt = some (step, status) → allowed status) :
    (enter config step).FailsOnly allowed := by
  refine (Call.failsOnly_modify _).bind fun _ => ?_
  cases hfail : config.failAt with
  | none => exact Call.failsOnly_pure _
  | some failing =>
      obtain ⟨failing, status⟩ := failing
      by_cases hstep : failing = step
      · subst hstep
        simp only [if_true]
        exact Call.failsOnly_throw (h status hfail)
      · simp only [if_neg hstep]
        exact Call.failsOnly_pure _

theorem failsOnly_expect {fault : CodecFault} (value? : Option α) :
    (expect fault value?).FailsOnly Status.IsFailure := by
  cases value? with
  | none => exact Call.failsOnly_throw fault.isFailure_status
  | some value => exact Call.failsOnly_pure value

theorem isFailure_of_findFrame {source : List UInt8} {status : Status}
    (h : findFrame source = .error status) : status.IsFailure := by
  unfold findFrame at h
  split at h
  · cases h
    exact CodecFault.isFailure_status _
  · split at h
    · dsimp only at h
      split at h
      · cases h
      · cases h
        exact CodecFault.isFailure_status _
    · cases h
      exact CodecFault.isFailure_status _

theorem failsOnly_readHeader (decoder : Decoder) :
    decoder.readHeader.FailsOnly Status.IsFailure := by
  refine (failsOnly_expect _).bind fun source => ?_
  cases hfound : findFrame source with
  | ok stored => exact Call.failsOnly_pure _
  | error status => exact Call.failsOnly_throw (isFailure_of_findFrame hfound)

theorem failsOnly_decode (decoder : Decoder) (size : Nat) :
    (decoder.decode size).FailsOnly Status.IsFailure := by
  refine (failsOnly_expect _).bind fun stored => ?_
  refine (failsOnly_expect _).bind fun source => ?_
  refine Call.failsOnly_ite (Call.failsOnly_throw (CodecFault.isFailure_status _)) ?_
  exact Call.failsOnly_ite (Call.failsOnly_throw (CodecFault.isFailure_status _))
    (Call.failsOnly_pure _)

theorem isFailure_of_write {encoder : Encoder} {bytes : List UInt8} {status : Status}
    (h : encoder.write bytes = .error status) : status.IsFailure := by
  unfold Encoder.write at h
  split at h
  · cases h
    exact CodecFault.isFailure_status _
  · split at h
    · cases h
      exact CodecFault.isFailure_status _
    · cases h

theorem isFailure_of_writeAll {encoder : Encoder} {segments : List (List UInt8)}
    {status : Status} {patches : List Patch}
    (h : encoder.writeAll segments = (.error status, patches)) : status.IsFailure := by
  induction segments generalizing encoder patches with
  | nil => cases h
  | cons segment rest ih =>
      rw [Encoder.writeAll] at h
      rcases hwrite : encoder.write segment with failure | ⟨written, patch⟩
      · rw [hwrite] at h
        cases h
        exact isFailure_of_write hwrite
      · rw [hwrite] at h
        rcases hrest : written.writeAll rest with ⟨failure | last, stored⟩
        · simp only [hrest] at h
          cases h
          exact ih hrest
        · simp only [hrest] at h
          cases h

theorem failsOnly_writeSpiff (encoder : Encoder) (space : Spiff.ColorSpace)
    (units : Spiff.ResolutionUnits) (vertical horizontal : UInt32) :
    (encoder.writeSpiff space units vertical horizontal).FailsOnly Status.IsFailure := by
  refine (failsOnly_expect _).bind fun frame => ?_
  exact Call.failsOnly_ite (Call.failsOnly_throw (CodecFault.isFailure_status _))
    (Call.failsOnly_pure _)

theorem isFailure_of_writeSpiff {encoder : Encoder} {space : Spiff.ColorSpace}
    {units : Spiff.ResolutionUnits} {vertical horizontal : UInt32} {record left : Record}
    {status : Status} {patches : List Patch}
    (h : encoder.writeSpiff space units vertical horizontal record =
      (.ok (.error status, patches), left)) : status.IsFailure := by
  obtain ⟨frame, between, -, h⟩ := of_run_bind h
  split at h
  · cases h
  · exact isFailure_of_writeAll (Except.ok.inj (Prod.mk.inj h).1)

theorem failsOnly_encode (encoder : Encoder) (source : List UInt8) :
    (encoder.encode source).FailsOnly Status.IsFailure := by
  refine (failsOnly_expect _).bind fun frame => ?_
  refine (Call.failsOnly_modify _).bind fun _ => ?_
  exact Call.failsOnly_ite (Call.failsOnly_throw (CodecFault.isFailure_status _))
    (Call.failsOnly_pure _)

theorem isFailure_of_encode {encoder : Encoder} {source : List UInt8} {record left : Record}
    {status : Status} {patches : List Patch}
    (h : encoder.encode source record = (.ok (.error status, patches), left)) :
    status.IsFailure := by
  obtain ⟨frame, found, -, h⟩ := of_run_bind h
  obtain ⟨⟨⟩, noted, -, h⟩ := of_run_bind h
  split at h
  · cases h
  · exact isFailure_of_writeAll (Except.ok.inj (Prod.mk.inj h).1)

theorem exportable_codec (h : config.Exportable) : (codec config).Exportable where
  createDecoder := by
    refine (failsOnly_enter h.createDecoder).bind fun _ => ?_
    exact (Call.failsOnly_modify _).bind fun _ => Call.failsOnly_pure _
  setSource decoder source :=
    (failsOnly_enter (h.failure _)).bind fun _ => Call.failsOnly_pure _
  readHeader decoder := (failsOnly_enter (h.failure _)).bind fun _ => failsOnly_readHeader decoder
  frameInfo decoder := by
    refine (failsOnly_enter (h.failure _)).bind fun _ => ?_
    exact (failsOnly_expect _).bind fun _ => Call.failsOnly_pure _
  interleave decoder := by
    refine (failsOnly_enter (h.failure _)).bind fun _ => ?_
    exact (failsOnly_expect _).bind fun _ => Call.failsOnly_pure _
  destinationSize decoder := by
    refine (failsOnly_enter (h.failure _)).bind fun _ => ?_
    exact (failsOnly_expect _).bind fun _ => Call.failsOnly_pure _
  decodeInto decoder size :=
    (failsOnly_enter (h.failure _)).bind fun _ => failsOnly_decode decoder size
  createEncoder := by
    refine (failsOnly_enter h.createEncoder).bind fun _ => ?_
    exact (Call.failsOnly_modify _).bind fun _ => Call.failsOnly_pure _
  setFrameInfo encoder frame := by
    refine (failsOnly_enter (h.failure _)).bind fun _ => ?_
    cases frameFault? frame with
    | none => exact Call.failsOnly_pure _
    | some fault => exact Call.failsOnly_throw fault.isFailure_status
  setInterleave encoder mode := by
    refine (failsOnly_enter (h.failure _)).bind fun _ => ?_
    exact (Call.failsOnly_modify _).bind fun _ => Call.failsOnly_pure _
  estimatedSize encoder := by
    refine (failsOnly_enter (h.failure _)).bind fun _ => ?_
    refine (failsOnly_expect _).bind fun _ => ?_
    exact (Call.failsOnly_modify _).bind fun _ => Call.failsOnly_pure _
  setDestination encoder length := by
    refine (failsOnly_enter (h.failure _)).bind fun _ => ?_
    exact (failsOnly_expect _).bind fun _ => Call.failsOnly_pure _
  writeSpiff encoder space units vertical horizontal := by
    refine Call.FailsOnly.storing ((failsOnly_enter (h.failure _)).bind fun _ =>
      failsOnly_writeSpiff encoder space units vertical horizontal) fun hstored => ?_
    obtain ⟨_, _, -, hstored⟩ := of_run_bind hstored
    exact isFailure_of_writeSpiff hstored
  encodeFrom encoder source := by
    refine Call.FailsOnly.storing ((failsOnly_enter (h.failure _)).bind fun _ =>
      failsOnly_encode encoder source) fun hstored => ?_
    obtain ⟨_, _, -, hstored⟩ := of_run_bind hstored
    exact isFailure_of_encode hstored
  bytesWritten encoder := (failsOnly_enter (h.failure _)).bind fun _ => Call.failsOnly_pure _

end Loopback

end JpegLs
