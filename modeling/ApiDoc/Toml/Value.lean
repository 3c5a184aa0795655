/-!
# TOML values

A document is a table.  How a table came about decides what may be added to it later.
-/

namespace ApiDoc

/-- How a table came about. -/
inductive TableOrigin
  /-- By its own header. -/
  | header
  /-- On the way to a table below it that has a header. -/
  | implied
  /-- On the way to a value given by a dotted key. -/
  | dotted
  /-- As a value in braces. -/
  | inline
deriving DecidableEq, Inhabited

inductive Toml
  | string (s : String)
  | integer (i : Int)
  | float (x : Float)
  | boolean (b : Bool)
  | datetime
  | array (items : List Toml)
  | table (origin : TableOrigin) (entries : List (String × Toml))
  /-- Tables that share one header in double brackets. -/
  | tables (items : List Toml)
deriving Inhabited

namespace TableOrigin

/-- Whether a path of keys may lead through a table: a dotted key only through tables that are open
to dotted keys, the key of a header through every table but one in braces. -/
def isPassable (o : TableOrigin) (isDotted : Bool) : Bool :=
  if isDotted then o == .implied || o == .dotted else o != .inline

end TableOrigin

namespace Toml

/-- Entries with a key bound to another value. -/
def rebind (key : String) (v : Toml) (entries : List (String × Toml)) : List (String × Toml) :=
  entries.map fun e => if e.1 = key then (key, v) else e

end Toml

end ApiDoc
