import JpegLs.Native.Library

/-!
Finding the native codec library.  It is looked up under an explicit path, or else under the name
it has on the platform.
-/

namespace JpegLs

structure LibraryConfig where
  path : Option String := none
deriving DecidableEq, Repr

namespace LibraryConfig

def environmentVariable : String := "CHARLS_LIBRARY"

def defaultName : String := "libcharls.so"

def ofEnvironment (value : Option String) : LibraryConfig where
  path := value

def withPath (_ : LibraryConfig) (path : String) : LibraryConfig where
  path := some path

def name (config : LibraryConfig) : String :=
  config.path.getD defaultName

end LibraryConfig

inductive LoadFault where
  | notFound
  | missingFunction (name : String)
deriving DecidableEq, Repr

/-- The libraries a system has, by the names it finds them under. -/
abbrev Loader (σ : Type) := String → Except LoadFault (NativeLibrary σ)

def LoadFault.reason (name : String) : LoadFault → String
  | notFound =>
      s!"{name}: cannot open shared object file: No such file or directory. " ++
        s!"Ensure it is on the library search path or set {LibraryConfig.environmentVariable} to its full path"
  | missingFunction function => s!"{name}: undefined symbol: {function}"

def NativeLibrary.load {σ : Type} (loader : Loader σ) (config : LibraryConfig) :
    Except Error (NativeLibrary σ) :=
  match loader config.name with
  | .ok library => .ok library
  | .error fault => .error (.library config.name (fault.reason config.name))

end JpegLs
