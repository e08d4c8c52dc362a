import JpegLs.Command.Run
import JpegLs.Pnm.Library

/-!
The program at a terminal.  It looks up the files and directories its arguments name, runs the
command on them, and stores the files the command has changed.  This build holds no dynamic
loader, so it finds no native library.
-/

namespace JpegLs.Command

def noLibraries : Loader Unit := fun _ => .error .notFound

def Request.paths : Request → List String
  | .decode input output _ => [input, output]
  | .encode input output .. => [input, output]
  | .info input => [input]

def systemPath (names : List String) : String :=
  "/".intercalate names

def observe (store : FileStore) (names : List String) : IO FileStore := do
  try
    let _ ← IO.FS.Handle.mk (systemPath names ++ "/.") .read
    return { store with directories := names :: store.directories }
  catch _ =>
    try
      return store.insert names (← IO.FS.readBinFile (systemPath names)).toList
    catch _ =>
      return store

def store (before after : FileStore) : IO Unit :=
  after.files.forM fun (names, bytes) =>
    if before.find? names = some bytes then pure ()
    else IO.FS.writeBinFile (systemPath names) ⟨bytes.toArray⟩

def atTerminal (arguments : List String) : IO UInt32 := do
  let places := match Invocation.parse? arguments with
    | some (.run _ request) => request.paths.flatMap FileStore.stations
    | _ => []
  let files ← places.foldlM observe {}
  let library? ← IO.getEnv LibraryConfig.environmentVariable
  let (outcome, console) :=
    run noLibraries Pnm.library library? arguments { files, world := { codec := () } }
  store files console.files
  IO.print outcome.output
  IO.eprint outcome.error
  return outcome.exit

end JpegLs.Command

def main (arguments : List String) : IO UInt32 :=
  JpegLs.Command.atTerminal arguments
