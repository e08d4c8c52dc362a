/-!
Files as a command sees them: paths from the working directory, names in a tree of directories,
and what the system says when there is nothing to read or no place to write to.
-/

namespace JpegLs.Command

inductive OsFault where
  | notFound
  | notDirectory
  | isDirectory
deriving DecidableEq, Repr

def OsFault.message : OsFault → String
  | notFound => "No such file or directory (os error 2)"
  | notDirectory => "Not a directory (os error 20)"
  | isDirectory => "Is a directory (os error 21)"

/-- The name a path ends in.  Slashes and dots that stand for no name do not count. -/
def fileName? (path : String) : Option String :=
  match ((path.splitOn "/").filter fun part => part ≠ "" ∧ part ≠ ".").getLast? with
  | some ".." => none
  | name? => name?

/-- What follows the last dot of a file name, unless nothing stands in front of it. -/
def extension? (path : String) : Option String := do
  let parts := (← fileName? path).splitOn "."
  match parts with
  | [] | [_] | ["", _] => none
  | _ => parts.getLast?

structure FileStore where
  files : List (List String × List UInt8) := []
  /-- The working directory, which is `[]`, and the ones above it need no mention. -/
  directories : List (List String) := []
deriving DecidableEq, Repr

namespace FileStore

/-- Where a path leads.  Behind the name of an entry may stand a slash, which asks for a
directory. -/
inductive Place where
  | directory
  | entry (path : List String) (slash : Bool)
deriving DecidableEq, Repr

def find? (store : FileStore) (path : List String) : Option (List UInt8) :=
  (store.files.find? (·.1 = path)).map (·.2)

def parent (directory : List String) : List String :=
  match directory.getLast? with
  | none | some ".." => directory ++ [".."]
  | some _ => directory.dropLast

def IsDirectory (store : FileStore) (path : List String) : Prop :=
  path.all (· = "..") = true ∨ path ∈ store.directories

instance (store : FileStore) (path : List String) : Decidable (store.IsDirectory path) :=
  inferInstanceAs (Decidable (_ ∨ _))

def walk (store : FileStore) (directory : List String) : List String → Except OsFault Place
  | [] => .ok .directory
  | name :: rest =>
      if name = "" ∨ name = "." then
        store.walk directory rest
      else if name = ".." then
        store.walk (parent directory) rest
      else
        let path := directory ++ [name]
        if store.IsDirectory path then store.walk path rest
        else if rest.all (· = "") then .ok (.entry path (!rest.isEmpty))
        else if (store.find? path).isSome then .error .notDirectory
        else .error .notFound

def start (path : String) : List String × List String :=
  match path.splitOn "/" with
  | "" :: first :: rest => (["/"], first :: rest)
  | names => ([], names)

def place (store : FileStore) (path : String) : Except OsFault Place :=
  store.walk (start path).1 (start path).2

def stations (path : String) : List (List String) :=
  go (start path).1 (start path).2
where
  go (directory : List String) : List String → List (List String)
    | [] => []
    | name :: rest =>
        if name = "" ∨ name = "." then go directory rest
        else if name = ".." then go (parent directory) rest
        else (directory ++ [name]) :: go (directory ++ [name]) rest

def openPlace (store : FileStore) (path : String) : Except OsFault Place :=
  match store.place path with
  | .ok (.entry entry slash) =>
      if (store.find? entry).isNone then .error .notFound
      else if slash then .error .notDirectory
      else .ok (.entry entry slash)
  | place => place

def read (store : FileStore) (path : String) : Except OsFault (List UInt8) :=
  match store.openPlace path with
  | .ok (.entry entry _) =>
      match store.find? entry with
      | some bytes => .ok bytes
      | none => .error .notFound
  | .ok .directory => .error .isDirectory
  | .error fault => .error fault

def insert (store : FileStore) (path : List String) (bytes : List UInt8) : FileStore :=
  { store with files := (path, bytes) :: store.files.filter (·.1 ≠ path) }

def write (store : FileStore) (path : String) (bytes : List UInt8) : Except OsFault FileStore :=
  match store.place path with
  | .ok .directory => .error .isDirectory
  | .ok (.entry entry slash) =>
      if slash then
        .error (if (store.find? entry).isSome then .notDirectory else .isDirectory)
      else
        .ok (store.insert entry bytes)
  | .error fault => .error fault

theorem find?_insert_self (store : FileStore) (path : List String) (bytes : List UInt8) :
    (store.insert path bytes).find? path = some bytes := by
  simp [insert, find?]

end FileStore

end JpegLs.Command
