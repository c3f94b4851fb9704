import Stencil.Text.Blank

/-!
Names of templates and the locations they lead to. A path is read as its components: whether it is
rooted, names going down, `..` going up; `.` and repeated slashes do nothing. Normal form folds `.` and
`..` away, so that a template has one key however it was reached; `..` never climbs above the root, and
leading ones of a relative path are kept.
-/
namespace Stencil.Location

inductive Component where
  | root
  | here
  | up
  | name (text : List Char)
deriving DecidableEq, Repr

/-- The parts between slashes, empty ones included. -/
def splitSlash : List Char → List (List Char)
  | [] => [[]]
  | c :: rest =>
    match splitSlash rest with
    | [] => [[c]]
    | part :: parts => if c = '/' then [] :: part :: parts else (c :: part) :: parts

def ofPart (part : List Char) : Option Component :=
  if part = [] || part = ['.'] then none
  else if part = ['.', '.'] then some .up
  else some (.name part)

/-- Only at the very start of a relative path does `.` count as a component. -/
def components (path : String) : List Component :=
  let parts := splitSlash path.toList
  let rest := parts.filterMap ofPart
  match path.toList with
  | '/' :: _ => .root :: rest
  | _ => if parts.head? = some ['.'] then .here :: rest else rest

/-- One more component on a normal path, whose last component comes first. -/
def push (path : List Component) : Component → List Component
  | .here => path
  | .up =>
    match path with
    | .name _ :: above => above
    | .root :: above => .root :: above
    | _ => .up :: path
  | component => component :: path

def normalise (path : List Component) : List Component := (path.foldl push []).reverse

def Component.text : Component → List Char
  | root => []
  | here => ['.']
  | up => ['.', '.']
  | name text => text

/-- The path of the components; a root alone is a slash. -/
def write : List Component → String
  | [.root] => "/"
  | path => String.ofList (List.intercalate ['/'] (path.map Component.text))

def isRooted (path : String) : Bool := path.toList.head? = some '/'

/-- A leading slash or backslash or a drive letter, whatever the host system makes of it. -/
def isAbsolute (name : String) : Bool :=
  match name.toList with
  | '/' :: _ => true
  | '\\' :: _ => true
  | letter :: ':' :: _ => letter.isAlpha
  | _ => false

/-- The directory that holds the path; the root and the empty path have none. -/
def directory? (path : List Component) : Option (List Component) :=
  match path.getLast? with
  | none => none
  | some .root => none
  | some _ => some path.dropLast

inductive ResolveError where
  | emptyName
deriving DecidableEq, Repr

def ResolveError.message : ResolveError → String
  | emptyName => "Template name cannot be empty"

/-- Where a relative name is looked up: the root directory if there is one, else the directory of the
template that gives the name. -/
def base (root from? : Option String) : List Component :=
  match root, from?.bind (fun path => directory? (components path)) with
  | some root, _ => components root
  | none, some directory => directory
  | none, none => []

/-- The key of the template called `name` in the template at `from?`. -/
def resolve (root from? : Option String) (name : String) : Except ResolveError String :=
  if Text.isBlankText name.toList then .error .emptyName
  else if isAbsolute name || isRooted name then .ok (write (normalise (components name)))
  else .ok (write (normalise (base root from? ++ components name)))

end Stencil.Location
