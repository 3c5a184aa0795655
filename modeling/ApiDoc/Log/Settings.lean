import ApiDoc.Config
import ApiDoc.Log.Filter

/-!
# The filter of a run

The level in a configuration is a level name or a list of directives.  Directives from the
environment are added to it and win; directives that cannot be read are left out.
-/

namespace ApiDoc.LogSettings

/-- Level names that are understood in any case, with the names they stand for. -/
def levelNames : List (String × String) := [
  ("trace", "trace"),
  ("debug", "debug"),
  ("info", "info"),
  ("warn", "warn"),
  ("warning", "warn"),
  ("error", "error")]

/-- The directives a level stands for. -/
def directives (level : String) : String :=
  let trimmed := Text.trim level.toList
  if trimmed.isEmpty then default.level
  else (levelNames.lookup (String.ofList (trimmed.map Char.toLower))).getD (String.ofList trimmed)

/-- The filter the configuration asks for; without a readable one, everything from `info` up. -/
def ownFilter (s : LogSettings) : LogFilter :=
  (LogFilter.parse? (directives s.level)).getD (.ofLevel .info)

/-- The filter of a run, with the directives of the environment. -/
def filter (s : LogSettings) (environment : Option String) : LogFilter :=
  let added := String.ofList (Text.trim (environment.getD "").toList)
  if added.isEmpty then s.ownFilter
  else
    ((LogFilter.parse? (directives s.level ++ "," ++ added)).or (LogFilter.parse? added)).getD
      s.ownFilter

end ApiDoc.LogSettings
