import JpegLs.Proofs.Session.DecodeSteps
import JpegLs.Proofs.Session.EncodeReference
import JpegLs.Session.Allocation

/-!
Runs that allocate beside runs for which every buffer is there.  A run either stops over a buffer
beyond any, or comes out as the one that has nothing to allocate.
-/

namespace JpegLs

variable {σ α β ε Handle State Data : Type}

namespace Task

theorem adapt_bind (f : Error → ε) (first : Task σ α) (next : α → Task σ β) :
    (first >>= next).adapt f = first.adapt f >>= fun value => (next value).adapt f := by
  funext world
  rw [run_bind, adapt_apply, adapt_apply, run_bind]
  rcases first world with ⟨error | value, after⟩ <;> rfl

theorem adapt_map (f : Error → ε) (g : α → β) (task : Task σ α) :
    (g <$> task).adapt f = g <$> task.adapt f := by
  funext world
  rw [map_apply, adapt_apply, adapt_apply, map_apply]
  rcases task world with ⟨error | value, after⟩ <;> rfl

theorem adapt_pure (f : Error → ε) (value : α) :
    (pure value : Task σ α).adapt f = pure value := rfl

theorem adapt_liftExcept (f : Error → ε) (result : Except Error α) :
    (liftM result : Task σ α).adapt f = liftM (result.mapError f) := by
  cases result <;> rfl

end Task

namespace Session

theorem Kind.adapt_giveBack (kind : Kind σ Handle State) (handle : Handle) (f : Error → ε) :
    (kind.giveBack handle : Task σ Unit).adapt f = kind.giveBack handle := rfl

theorem Kind.adapt_accept (kind : Kind σ Handle State) (handle : Handle) (f : Error → ε)
    (result : Except Error α) :
    (kind.accept handle result : Task σ α).adapt f = kind.accept handle (result.mapError f) := by
  cases result <;> rfl

variable {kind : Kind σ Handle State} {session : Session Handle State Data}

/-- Tells a value together with the session, which has nothing left to give back. -/
def handOver (value : α) : Method σ Handle State Data (α × Session Handle State Data) :=
  fun session world => ((.ok (value, session), { session with handle? := none }), world)

theorem use_handOver (value : α) :
    use kind session (handOver value) = pure (value, session) := rfl

theorem use_bind (method : Method σ Handle State Data α)
    (next : α → Method σ Handle State Data β) :
    use kind session (method >>= next) =
      use kind session (method >>= handOver) >>= fun (value, left) => use kind left (next value) := by
  funext world
  simp only [use, bind_apply, run_bind]
  rcases method session world with ⟨⟨error | value, left⟩, after⟩ <;> rfl

theorem use_adapt (f : Error → ε) (method : Method σ Handle State Data α) :
    use kind session (method.adapt f) = (use kind session method).adapt f := by
  funext world
  simp only [use, adapt_apply, Task.adapt_apply]
  rcases method session world with ⟨⟨answer, left⟩, after⟩
  rfl

theorem use_adapt_bind (f : Error → ε) (method : Method σ Handle State Data α)
    (next : α → ExceptT ε (StateT (Session Handle State Data) (Run σ)) β) :
    use kind session (method.adapt f >>= next) =
      (use kind session (method >>= handOver)).adapt f >>= fun (value, left) =>
        use kind left (next value) := by
  funext world
  simp only [use, bind_apply, run_bind, adapt_apply, Task.adapt_apply]
  rcases method session world with ⟨⟨error | value, left⟩, after⟩ <;> rfl

theorem use_liftExcept_bind {handle : Handle} {state : State} {data : Data} (result : Except ε α)
    (next : α → ExceptT ε (StateT (Session Handle State Data) (Run σ)) β) :
    use kind ⟨some handle, state, data⟩ (liftM result >>= next) =
      kind.accept handle result >>= fun value => use kind ⟨some handle, state, data⟩ (next value) := by
  funext world
  simp only [use, bind_apply, run_bind, liftExcept_apply]
  cases result <;> rfl

end Session

/-- Comes out as `task` does, unless it stops over a buffer beyond any. -/
def StoppableTask.Spares (task : Task σ α) (stoppable : StoppableTask σ α) : Prop :=
  ∀ world, (∃ fault : CapacityOverflow, largestBuffer < fault.size ∧
      (stoppable world).1 = .error (.overflow fault)) ∨
    stoppable world = task.adapt Stop.error world

namespace StoppableTask

theorem Spares.bind {first : Task σ α} {next : α → Task σ β} {stoppable : α → StoppableTask σ β}
    (h : ∀ value, Spares (next value) (stoppable value)) :
    Spares (first >>= next) (first.adapt Stop.error >>= stoppable) := by
  intro world
  rw [Task.adapt_bind, run_bind, run_bind]
  rcases first.adapt Stop.error world with ⟨stop | value, after⟩
  · exact .inr rfl
  · exact h value after

theorem Spares.thenAdapt {first : Task σ α} {stoppable : StoppableTask σ α}
    (h : Spares first stoppable) (next : α → Task σ β) :
    Spares (first >>= next) (stoppable >>= fun value => (next value).adapt Stop.error) := by
  intro world
  rw [Task.adapt_bind, run_bind, run_bind]
  rcases h world with ⟨fault, hsize, hstop⟩ | hsame
  · refine .inl ⟨fault, hsize, ?_⟩
    generalize stoppable world = run at hstop ⊢
    obtain ⟨answer, after⟩ := run
    obtain rfl : answer = .error (.overflow fault) := hstop
    rfl
  · rw [hsame]
    exact .inr rfl

variable {kind : Session.Kind σ Handle State} {session : Session Handle State Data}

theorem spares_allocate (size : Nat) (method : Session.Method σ Handle State Data α) :
    Spares (session.use kind method)
      (session.use kind (liftM (allocate size) >>= fun _ => method.adapt Stop.error)) := by
  intro world
  by_cases hsize : largestBuffer < size
  · left
    rw [allocate, if_pos hsize]
    exact ⟨⟨size⟩, hsize, rfl⟩
  · right
    rw [allocate, if_neg hsize]
    exact congrFun (Session.use_adapt Stop.error method) world

theorem spares_use (measure : Session.Method σ Handle State Data Nat)
    (work : Nat → Session.Method σ Handle State Data α) :
    Spares (session.use kind (measure >>= work))
      (session.use kind (measure.adapt Stop.error >>= fun size =>
        liftM (allocate size) >>= fun _ => (work size).adapt Stop.error)) := by
  rw [Session.use_bind, Session.use_adapt_bind]
  exact Spares.bind fun (size, left) => spares_allocate size (work size)

end StoppableTask

theorem spares_decode (codec : Codec σ) (source : List UInt8) :
    StoppableTask.Spares (decode codec source) (decodeAllocating codec source) := by
  unfold decode decodeAllocating
  rw [← Task.adapt_liftExcept]
  refine .bind fun container => .bind fun session => ?_
  refine StoppableTask.Spares.thenAdapt ?_ _
  -- The size is known once three steps have been taken, which end before the allocation.
  have h := @StoppableTask.spares_use _ _ _ _ _ (DecodeSession.kind codec) session (do
    DecodeSession.setSource codec source
    let _ ← DecodeSession.readHeader codec
    DecodeSession.querySize codec) fun _ => DecodeSession.finish codec
  simpa only [bind_assoc] using h

theorem spares_encode (codec : Codec σ) (image : SourceImage) (options : EncodeOptions) :
    StoppableTask.Spares (encode codec image options) (encodeAllocating codec image options) := by
  unfold encode encodeAllocating
  rw [← Task.adapt_liftExcept]
  refine .bind fun prepared => .bind fun session => ?_
  have h := @StoppableTask.spares_use _ _ _ _ _ (EncodeSession.kind codec) session (do
    EncodeSession.setFrameInfo codec prepared.1.frame
    EncodeSession.arrange codec prepared.1
    EncodeSession.estimate codec) fun size => do
      EncodeSession.setDestination codec (List.replicate size 0)
      EncodeSession.declareSpiff codec prepared.1
      EncodeSession.encodeFrom codec prepared.2
      let written ← EncodeSession.finish codec
      return (← get).data.take written
  simpa only [bind_assoc] using h

theorem decodeAllocating_eq_steps (codec : Codec σ) (source : List UInt8) :
    decodeAllocating codec source = (do
      let container ← (Container.metadata source).mapError Stop.error
      let decoder ← (Task.call codec.createDecoder).adapt Stop.error
      let (decoder, metadata, size) ←
        (DecodeSession.measureSteps codec source decoder).adapt Stop.error
      (DecodeSession.kind codec).accept decoder (allocate size)
      let decoded ← (DecodeSession.fillSteps codec decoder metadata size).adapt Stop.error
      (container.complete decoded).adapt Stop.error) := by
  rw [decodeAllocating]
  apply bind_congr
  intro container
  rw [DecodeSession.start, Session.start, Task.adapt_map, bind_map_left]
  apply bind_congr
  intro decoder
  have hmeasure := DecodeSession.use_measure codec decoder {} source Session.handOver
  simp only [Session.use_adapt_bind, bind_assoc, hmeasure, Task.adapt_bind]
  apply bind_congr
  rintro ⟨decoder, metadata, size⟩
  -- The session is open with its instance, so that a stop comes down to giving this back.
  simp only [Session.use_handOver, Task.adapt_pure, pure_bind, Session.use_liftExcept_bind,
    Session.use_adapt, DecodeSession.use_finish, bind_assoc]
  rfl

theorem encodeAllocating_eq_steps {width height : UInt32} {mode : PixelMode}
    {pixels : PixelBuffer} {image : SourceImage}
    (himage : SourceImage.make width height mode pixels = .ok image) (codec : Codec σ)
    (options : EncodeOptions) :
    encodeAllocating codec image options = (do
      let metadata ← (Metadata.forEncode image.width image.height image.mode options).mapError
        Stop.error
      let encoder ← (Task.call codec.createEncoder).adapt Stop.error
      let (encoder, size) ←
        (EncodeSession.measureSteps codec image options metadata encoder).adapt Stop.error
      (EncodeSession.kind codec).accept encoder (allocate size)
      (EncodeSession.fillSteps codec image options metadata encoder size).adapt Stop.error) := by
  rw [encodeAllocating, SourceImage.prepare_of_make himage]
  cases hmetadata : Metadata.forEncode image.width image.height image.mode options with
  | error error => rfl
  | ok metadata =>
      show (EncodeSession.start codec).adapt Stop.error >>= _ =
        (Task.call codec.createEncoder).adapt Stop.error >>= _
      rw [EncodeSession.start, Session.start, Task.adapt_map, bind_map_left]
      apply bind_congr
      intro encoder
      have hmeasure := EncodeSession.use_measure encoder hmetadata Session.handOver
      simp only [Session.use_adapt_bind, bind_assoc, hmeasure, Task.adapt_bind]
      apply bind_congr
      rintro ⟨encoder, size⟩
      simp only [Session.use_handOver, Task.adapt_pure, pure_bind, Session.use_liftExcept_bind,
        Session.use_adapt]
      have hfill := EncodeSession.use_fill encoder hmetadata size
      rw [SourceImage.source] at hfill
      rw [hfill]

end JpegLs
