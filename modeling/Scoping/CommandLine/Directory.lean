namespace Scoping.CommandLine

inductive ReadFault
  | notFound
  | notDirectory
  | isDirectory
  | notText
  | other (description : String)
  deriving DecidableEq, Repr

def ReadFault.message : ReadFault → String
  | notFound => "No such file or directory (os error 2)"
  | notDirectory => "Not a directory (os error 20)"
  | isDirectory => "Is a directory (os error 21)"
  | notText => "stream did not contain valid UTF-8"
  | other description => description

def decodeFile (bytes : ByteArray) : Except ReadFault String :=
  match String.fromUTF8? bytes with
  | some text => .ok text
  | none => .error .notText

structure Directory where
  files : List (String × ByteArray)

inductive Place
  | file (bytes : ByteArray)
  | directory (directory : Directory)

/-- Follows one component of a path. Nothing is known of the directory around a directory. -/
def Place.follow (place : Place) (component : String) : Except ReadFault Place :=
  match place, component with
  | .file _, _ => .error .notDirectory
  | .directory here, "" | .directory here, "." => .ok (.directory here)
  | .directory _, ".." => .ok (.directory ⟨[]⟩)
  | .directory here, name =>
    match here.files.lookup name with
    | some bytes => .ok (.file bytes)
    | none => .error .notFound

def components (path : List Char) : List String := (path.splitOn '/').map String.ofList

def Directory.place (directory : Directory) (path : String) : Except ReadFault Place :=
  match path.toList with
  | '/' :: rest => (components rest).foldlM Place.follow (.directory ⟨[]⟩)
  | path => (components path).foldlM Place.follow (.directory directory)

def Directory.read (directory : Directory) (path : String) : Except ReadFault String := do
  match ← directory.place path with
  | .file bytes => decodeFile bytes
  | .directory _ => throw .isDirectory

end Scoping.CommandLine
