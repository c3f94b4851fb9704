import Stencil.Fields
import Stencil.Location

/-!
Where the sources of templates come from: a table, the files of a folder, or a loader of the host. Paths with
the same components lead to the same source of a table or a folder; a loader of the host is asked for each path
and may answer anything, with a source for every one of them if it likes.
-/
namespace Stencil

inductive Loader where
  | table (sources : Fields String)
  | folder (files : Fields String)
  /-- A source for a path, or why there is none. -/
  | custom (answer : String → Except String String)

namespace Loader

open Location

/-- Whether the sources are stored, and so are only so many. -/
def isStored : Loader → Bool
  | custom _ => false
  | _ => true

/-- The sources that are stored. -/
def sources : Loader → Fields String
  | table sources => sources
  | folder files => files
  | custom _ => []

/-- Add or replace a source. In a table or a folder it is kept under the plainest spelling of its path. -/
def put (loader : Loader) (path source : String) : Loader :=
  match loader with
  | table sources => table (Fields.put sources (write (components path)) source)
  | folder files => folder (Fields.put files (write (normalise (components path))) source)
  | custom answer =>
    custom fun other => if components other = components path then .ok source else answer other

/-- How many sources are stored. -/
def size (loader : Loader) : Nat := loader.sources.length

/-- Why the system gives no text for a path. -/
inductive FileFault where
  | noName
  | notFound
  | notDirectory
  | isDirectory

def FileFault.message : FileFault → String
  | noName => "file name contained an unexpected NUL byte"
  | notFound => "No such file or directory (os error 2)"
  | notDirectory => "Not a directory (os error 20)"
  | isDirectory => "Is a directory (os error 21)"

/-- The components of a path inside the folder, or nothing if it leads out of it. -/
def inside? (path : List Component) : Option (List Component) :=
  match normalise path with
  | .root :: _ => none
  | .up :: _ => none
  | inner => some inner

def isFile (files : Fields String) (path : List Component) : Bool :=
  files.any fun file => inside? (components file.1) == some path

/-- Whether some file lies below the path. -/
def isFolder (files : Fields String) (path : List Component) : Bool :=
  path.isEmpty || files.any fun file =>
    match inside? (components file.1) with
    | some inner => path.isPrefixOf inner && path != inner
    | none => false

/-- The text of the file at a path. -/
def readFile (files : Fields String) (path : String) : Except FileFault String :=
  if path.toList.contains '\x00' then .error .noName
  else if path.isEmpty then .error .notFound
  else match inside? (components path) with
  | none =>
    if (components path).all (fun part => part == .root || part == .up) then .error .isDirectory
    else .error .notFound
  | some inner =>
    match files.find? fun file => inside? (components file.1) == some inner with
    | some (_, text) => .ok text
    | none =>
      if isFolder files inner then .error .isDirectory
      else if (List.range inner.length).any fun n => isFile files (inner.take n) then
        .error .notDirectory
      else .error .notFound

/-- The source at a path, or why there is none. -/
def load (loader : Loader) (path : String) : Except String String :=
  match loader with
  | table sources =>
    match Fields.get? sources (write (components path)) with
    | some source => .ok source
    | none => .error s!"Template not found: {path}"
  | folder files =>
    match readFile files path with
    | .ok text => .ok text
    | .error fault => .error s!"Failed to read template file: {path}: {fault.message}"
  | custom answer => answer path

end Loader

end Stencil
