import JpegLs.Codec.Basic

/-!
Running codec calls.  The world of a run is the state the codec's instances share and the warnings
given so far.
-/

namespace JpegLs

inductive Warning where
  | unknownStatus (status : Status)
  /-- The container describes one frame, the codec decoded another. -/
  | frameMismatch (container codec : FrameInfo)
deriving DecidableEq, Repr

def Warning.text : Warning → String
  | unknownStatus status => s!"unrecognized codec status {status.code}"
  | frameMismatch container codec =>
      s!"container header describes {container.text}, codec decoded {codec.text}"

/-- A status of no known meaning gives a warning whenever it is classified. -/
def Status.warnings (status : Status) : List Warning :=
  if status.isUnknown then [.unknownStatus status] else []

structure World (σ : Type) where
  codec : σ
  warnings : List Warning := []

abbrev Run (σ : Type) := StateM (World σ)

abbrev Task (σ α : Type) := ExceptT Error (Run σ) α

variable {σ α : Type}

def Run.release (op : σ → σ) : Run σ Unit :=
  modify fun world => { world with codec := op world.codec }

namespace Task

def call (op : Call σ α) : Task σ α := fun world =>
  match op world.codec with
  | (.ok value, codec) => (.ok value, { world with codec })
  | (.error status, codec) =>
      (.error (.codec status.fault), { codec, warnings := world.warnings ++ status.warnings })

def warn (warning : Warning) : Task σ Unit := fun world =>
  (.ok (), { world with warnings := world.warnings ++ [warning] })

end Task

end JpegLs
