import Stencil.Config
import Stencil.Filter.Builtin
import Stencil.Tag

/-!
The settings of an engine: its configuration, with the built-in filters and tags and those of the host.
-/
namespace Stencil

structure Settings where
  autoescape : Option EscapeKind
  cache : Bool
  root : Option String
  debug : Bool
  globals : Fields Value
  functions : Fields NativeFunction
  filters : Filters
  tags : Tags
  extensions : Fields Value

def Settings.of (config : Config) (host : Host) : Settings where
  autoescape := config.policy
  cache := config.cache
  root := config.root
  debug := config.debug
  globals := config.globals
  functions := host.functions
  filters := Fields.merge (Filter.builtin config.tzOffset) host.filters
  tags := .ofHost host.tags
  extensions := host.extensions

end Stencil
