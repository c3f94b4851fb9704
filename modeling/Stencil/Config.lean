import Stencil.Escape
import Stencil.Toml.Document
import Stencil.Value.Json

/-!
Settings of an engine that a text can give. They are read from an object, whose other members are
ignored, or from a document that describes such an object; only the document's offset is tested for its
range.
-/
namespace Stencil

/-- Output escaping, turned on or off, or given by its kind. -/
inductive Autoescape where
  | enabled (on : Bool)
  | kind (kind : EscapeKind)

namespace Autoescape

/-- The escaping of output; none if it is turned off. -/
def policy : Autoescape → Option EscapeKind
  | enabled true => some .html
  | enabled false => none
  | kind k => some k

def ofValue? : Value → Option Autoescape
  | .bool on => some (.enabled on)
  | .string name => (EscapeKind.ofName? name).map .kind
  | .object [(name, .null)] => (EscapeKind.ofName? name).map .kind
  | _ => none

def toValue : Autoescape → Value
  | enabled on => .bool on
  | kind k => .string k.name

end Autoescape

structure Config where
  autoescape : Autoescape := .enabled true
  cache : Bool := true
  root : Option String := none
  /-- Minutes behind Greenwich for dates that do not say. -/
  tzOffset : Int32 := 0
  /-- Whether a failed rendering is an error or a marker in the output. -/
  debug : Bool := false
  globals : Fields Value := []

inductive ConfigError where
  | malformed
  | invalidValue (field reason : String)
  | notFound (path : String)

def ConfigError.message : ConfigError → String
  | malformed => "CONFIG_PARSE_ERROR"
  | invalidValue field reason => s!"CONFIG_INVALID_VALUE: {field}: {reason}"
  | notFound path => s!"CONFIG_NOT_FOUND: '{path}' does not exist"

namespace Config

/-- Why a document gives no settings: it is refused, or testing it overflows. -/
inductive Fault where
  | error (e : ConfigError)
  | overflow

mutual

/-- Numbers that are not finite have no place in a value, and become null. -/
def finite : Value → Value
  | .number (.real value) => if value.isFinite then .number (.real value) else .null
  | .array items => .array (finiteItems items)
  | .object fields => .object (finiteMembers fields)
  | value => value

def finiteItems : List Value → List Value
  | [] => []
  | item :: rest => finite item :: finiteItems rest

def finiteMembers : List (String × Value) → List (String × Value)
  | [] => []
  | (name, item) :: rest => (name, finite item) :: finiteMembers rest

end

def readBool? : Value → Option Bool
  | .bool value => some value
  | _ => none

def readRoot? : Value → Option (Option String)
  | .string path => some (some path)
  | .null => some none
  | _ => none

def readOffset? : Value → Option Int32
  | .number (.integer value) =>
      if -0x80000000 ≤ value && value < 0x80000000 then some (Int32.ofInt value) else none
  | _ => none

def readGlobals? : Value → Option (Fields Value)
  | .object fields => some (finiteMembers fields)
  | _ => none

/-- A member read by its reader, or the default where there is none. -/
def member? {α : Type} (fields : Fields Value) (name : String) (default : α)
    (read? : Value → Option α) : Option α :=
  match Fields.get? fields name with
  | some value => read? value
  | none => some default

def ofFields? (fields : Fields Value) : Option Config := do
  let autoescape ← member? fields "autoescape" (.enabled true) Autoescape.ofValue?
  let cache ← member? fields "cache" true readBool?
  let root ← member? fields "root" none readRoot?
  let tzOffset ← member? fields "tz_offset" 0 readOffset?
  let debug ← member? fields "debug" false readBool?
  let globals ← member? fields "globals" [] readGlobals?
  return { autoescape, cache, root, tzOffset, debug, globals }

def ofValue? : Value → Option Config
  | .object fields => ofFields? fields
  | _ => none

/-- What a document of settings says, whether or not its offset is one. -/
def ofToml (text : String) : Except ConfigError Config :=
  match (Toml.parse text).bind ofValue? with
  | some config => .ok config
  | none => .error .malformed

/-- The absolute value of a word, unless it does not fit into one. -/
def magnitude? (minutes : Int32) : Option Int32 :=
  if minutes = .minValue then none else some minutes.abs

/-- Offsets of a day or more are refused. The test takes their absolute value, and fails itself where that
overflows. -/
def validate (config : Config) : Except Fault Config :=
  match magnitude? config.tzOffset with
  | none => .error .overflow
  | some minutes =>
    if 24 * 60 ≤ minutes then
      .error (.error (.invalidValue "tz_offset"
        s!"{config.tzOffset.toInt} minutes is not a valid UTC offset"))
    else .ok config

/-- The settings that a document describes, once they have been tested. -/
def load (text : String) : Except Fault Config :=
  match ofToml text with
  | .ok config => config.validate
  | .error e => .error (.error e)

def policy (config : Config) : Option EscapeKind := config.autoescape.policy

def toValue (config : Config) : Value :=
  .object [("autoescape", config.autoescape.toValue), ("cache", .bool config.cache),
    ("root", match config.root with
      | some path => .string path
      | none => .null),
    ("tz_offset", .ofInt config.tzOffset.toInt), ("debug", .bool config.debug),
    ("globals", .object config.globals)]

end Config

end Stencil
