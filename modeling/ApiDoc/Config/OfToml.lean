import ApiDoc.Config
import ApiDoc.Toml.Document

/-!
# Reading a configuration

A configuration is written as a TOML document.  A table of settings can also be given as an array
with the settings in their order.  Settings that are left out have their defaults, and a setting
that does not exist is an error, as is a value of the wrong type; the first error counts.
-/

namespace ApiDoc

/-- What does not fit in a document that is well-formed. -/
inductive SettingError
  | invalidType (found expected : String)
  | invalidValue (found expected : String)
  | unknownField (name : String) (known : List String)
  | unknownVariant (name : String) (known : List String)
  | notAName
  | notOneEntry (found : String)
  | notEmpty (kind : String)
  | notATable (found : String)
deriving DecidableEq, Inhabited

namespace SettingError

/-- A choice of names. -/
def oneOf (names : List String) : String :=
  let quoted := names.map fun n => "`" ++ n ++ "`"
  match quoted with
  | [a] => a
  | [a, b] => a ++ " or " ++ b
  | _ => "one of " ++ ", ".intercalate quoted

def message : SettingError → String
  | .invalidType found expected => "invalid type: " ++ found ++ ", expected " ++ expected
  | .invalidValue found expected => "invalid value: " ++ found ++ ", expected " ++ expected
  | .unknownField name known => "unknown field `" ++ name ++ "`, expected " ++ oneOf known
  | .unknownVariant name known => "unknown variant `" ++ name ++ "`, expected " ++ oneOf known
  | .notAName => "wanted string or table"
  | .notOneEntry found => "wanted exactly 1 element, " ++ found
  | .notEmpty kind => "expected empty " ++ kind
  | .notATable found => "expected table, found " ++ found

end SettingError

/-- Why a configuration file cannot be used. -/
inductive ConfigError
  | unreadable (path : Path) (error : FileError)
  /-- The text is no TOML document. -/
  | malformed
  | unsuitable (error : SettingError)
deriving DecidableEq

namespace ConfigError

def message : ConfigError → String
  | .unreadable path e => "failed to read config file " ++ path.text ++ ": " ++ e.message
  | .malformed => "failed to parse toml config: malformed document"
  | .unsuitable e => "failed to parse toml config: " ++ e.message

end ConfigError

namespace Toml

/-- What kind of value was found. -/
def describe : Toml → String
  | .string s => "string " ++ Text.quoted s
  | .integer i => "integer `" ++ toString i ++ "`"
  | .float x => "floating point `" ++ Decimal.printWithPoint x ++ "`"
  | .boolean b => "boolean `" ++ (if b then "true" else "false") ++ "`"
  | .datetime => "map"
  | .array _ => "sequence"
  | .table _ _ => "map"
  | .tables _ => "sequence"

/-- The name of the type of a value. -/
def typeName : Toml → String
  | .string _ => "string"
  | .integer _ => "integer"
  | .float _ => "float"
  | .boolean _ => "boolean"
  | .datetime => "datetime"
  | .array _ => "array"
  | .table _ _ => "table"
  | .tables _ => "array of tables"

abbrev Setting (α : Type) := Except SettingError α

/-- A type error. -/
def mismatch {α : Type} (v : Toml) (expected : String) : Setting α :=
  .error (.invalidType v.describe expected)

def getString (expected : String) : Toml → Setting String
  | .string s => .ok s
  | v => v.mismatch expected

def getText (v : Toml) : Setting String := v.getString "a string"

def getPath (v : Toml) : Setting Path := (v.getString "path string").map Path.mk

def getBool : Toml → Setting Bool
  | .boolean b => .ok b
  | v => v.mismatch "a boolean"

def getNat : Toml → Setting Nat
  | .integer i =>
    if i < 0 then .error (.invalidValue (Toml.integer i).describe "usize") else .ok i.toNat
  | v => v.mismatch "usize"

def getList {α : Type} (get : Toml → Setting α) : Toml → Setting (List α)
  | .array items => items.mapM get
  | .tables items => items.mapM get
  | v => v.mismatch "a sequence"

/-- A setting of a record: its name, and how its value is put in. -/
structure Field (α : Type) where
  name : String
  set : Toml → α → Setting α

/-- Puts the values of a table, or of an array in the order of the fields, into a record. -/
def getRecord {α : Type} (name : String) (fields : List (Field α)) (start : α) : Toml → Setting α
  | .table _ entries =>
    entries.foldlM (fun a e =>
      match fields.find? (·.name == e.1) with
      | some f => f.set e.2 a
      | none => .error (.unknownField e.1 (fields.map (·.name)))) start
  | .array items => (fields.zip items).foldlM (fun a e => e.1.set e.2 a) start
  | .tables items => (fields.zip items).foldlM (fun a e => e.1.set e.2 a) start
  | .datetime => .error (.unknownField "$__toml_private_datetime" (fields.map (·.name)))
  | v => v.mismatch ("struct " ++ name)

/-- The format a name stands for. -/
def namedFormat (name : String) : Setting OutputFormat :=
  if name = OutputFormat.json.name then .ok .json
  else if name = OutputFormat.summary.name then .ok .summary
  else .error (.unknownVariant name [OutputFormat.json.name, OutputFormat.summary.name])

/-- The format is named by a string, or by the key of the one entry of a table, whose value is
empty. -/
def getFormat : Toml → Setting OutputFormat
  | .string s => namedFormat s
  | .table _ entries =>
    match entries with
    | [] => .error (.notOneEntry "found 0 elements")
    | [(name, v)] => do
      let format ← namedFormat name
      match v with
      | .array [] => return format
      | .array _ => throw (.notEmpty "array")
      | .tables [] => return format
      | .tables _ => throw (.notEmpty "array")
      | .table _ [] => return format
      | .table _ _ => throw (.notEmpty "table")
      | v => throw (.notATable v.typeName)
    | _ => .error (.notOneEntry "more than 1 element")
  | _ => .error .notAName

/-! ## Tables of settings -/

def selectionFields : List (Field Selection) := [
  ⟨"skip_dirs", fun v s => do return { s with skipDirectories := ← v.getList getText }⟩,
  ⟨"skip_path_fragments", fun v s => do return { s with skipFragments := ← v.getList getText }⟩,
  ⟨"skip_file_names", fun v s => do return { s with skipNames := ← v.getList getText }⟩]

def readingFields : List (Field ReadingSettings) := [
  ⟨"constants_file", fun v s => do return { s with constantsFile := ← v.getText }⟩,
  ⟨"threads", fun v s => do return { s with threads := ← v.getNat }⟩]

def loggingFields : List (Field LogSettings) := [
  ⟨"level", fun v s => do return { s with level := ← v.getText }⟩,
  ⟨"json", fun v s => do return { s with json := ← v.getBool }⟩,
  ⟨"stderr", fun v s => do return { s with stderr := ← v.getBool }⟩,
  ⟨"file", fun v s => do return { s with file := some (← v.getPath) }⟩]

def outputFields : List (Field OutputSettings) := [
  ⟨"format", fun v s => do return { s with format := ← v.getFormat }⟩,
  ⟨"path", fun v s => do return { s with path := some (← v.getPath) }⟩]

def configFields : List (Field Config) := [
  ⟨"doc_roots", fun v c => do return { c with roots := ← v.getList getPath }⟩,
  ⟨"selection", fun v c => do
    return { c with selection := ← v.getRecord "SelectionConfig" selectionFields .default }⟩,
  ⟨"extraction", fun v c => do
    return { c with reading := ← v.getRecord "ExtractionConfig" readingFields .default }⟩,
  ⟨"logging", fun v c => do
    return { c with logging := ← v.getRecord "LoggingConfig" loggingFields .default }⟩,
  ⟨"output", fun v c => do
    return { c with output := ← v.getRecord "OutputConfig" outputFields .default }⟩]

end Toml

namespace Config

/-- The configuration in a document. -/
def ofText (text : List Char) : Except ConfigError Config :=
  match Toml.ofText text with
  | none => .error .malformed
  | some v => (v.getRecord "JdocConfig" Toml.configFields .default).mapError .unsuitable

/-- The configuration in a file.  Its roots are seen from the directory of the file. -/
def load (fs : FileSystem) (path : Path) : Except ConfigError Config := do
  let bytes ← (fs.read path).mapError (.unreadable path)
  let some text := String.fromUTF8? ⟨bytes.toArray⟩
    | throw (.unreadable path .invalidUtf8)
  let c ← ofText text.toList
  match path.parent? with
  | some base => return c.rootsFrom base
  | none => return c

end Config

end ApiDoc
