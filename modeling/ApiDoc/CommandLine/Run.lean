import ApiDoc.CommandLine.Help
import ApiDoc.Config.OfToml
import ApiDoc.Config.Validation
import ApiDoc.Extraction.Log

/-!
# Running a command

A command reads files and writes to standard output, to standard error and to files.  It ends with
0 if all went well, with 1 if a page had errors, and with 2 if it could not do its work.
-/

namespace ApiDoc.CommandLine

/-- What a run depends on besides its arguments. -/
structure Surroundings where
  files : FileSystem
  /-- Directives of the log filter from the environment. -/
  logDirectives : Option String
  /-- The time that log lines carry. -/
  time : String

/-- What a run leaves behind. -/
structure Outcome where
  code : Nat
  stdout : String
  stderr : String
  files : FileSystem

/-! ## Single pages -/

/-- The text of a page that a command is about. -/
def readPageText (fs : FileSystem) (file : Path) : Except String (List Char) :=
  ((fs.read file).map Text.decodeLossy).mapError fun e =>
    "reading " ++ file.text ++ ": " ++ e.message

/-- Runs a command for a single page: prints what was read from it, or what is wrong with it. -/
def runPage {ε α : Type} (s : Surroundings) (file : Path) (read : List Char → Except ε α)
    (message : ε → String) (print : α → String) : Outcome :=
  match readPageText s.files file with
  | .error e => ⟨2, "", e ++ "\n", s.files⟩
  | .ok text =>
    match read text with
    | .error e => ⟨1, "", file.text ++ ": " ++ message e ++ "\n", s.files⟩
    | .ok a => ⟨0, print a, "", s.files⟩

def printModel (json : Bool) (m : ClassModel) : String :=
  if json then m.toJson.pretty ++ "\n" else (Registry.ofList [m]).printSummary

/-- Runs the command `parse`. -/
def runParse (s : Surroundings) (a : PageArguments) : Outcome :=
  runPage s a.file readClassPage PageError.message fun d =>
    printModel a.json (d.freeze (some a.file))

/-- A JSON object of objects, or a line for each value. -/
def printTable (json : Bool) (t : ConstantTable) : String :=
  if json then
    (Json.object (t.entries.map fun c =>
      (c.1, .object (c.2.entries.map fun e => (e.1, .string e.2))))).pretty ++ "\n"
  else
    String.join (t.entries.flatMap fun c =>
      c.2.entries.map fun e => c.1 ++ "." ++ e.1 ++ " = " ++ e.2 ++ "\n")

/-- Runs the command `constants`. -/
def runConstants (s : Surroundings) (a : PageArguments) : Outcome :=
  runPage s a.file ConstantTable.ofPage MalformedRow.message (printTable a.json)

/-! ## Configuration -/

/-- The configuration of a run before arguments are taken into account. -/
def baseConfig (fs : FileSystem) (a : ExtractArguments) : Except String Config :=
  match a.config with
  | none => .ok .default
  | some path => (Config.load fs path).mapError fun e =>
    "loading " ++ path.text ++ ": " ++ e.message ++
      match e with
      | .unreadable _ cause => ": " ++ cause.message
      | _ => ""

/-- Arguments take precedence over the configuration. -/
def applyArguments (c : Config) (a : ExtractArguments) : Config :=
  { c with
    roots := if a.roots.isEmpty then c.roots else a.roots
    reading := { c.reading with threads := a.threads.getD c.reading.threads }
    output := ⟨a.format.getD c.output.format, a.out.or c.output.path⟩ }

/-! ## Logging -/

/-- Where events go. -/
structure Log where
  filter : LogFilter
  json : Bool
  toStderr : Bool
  file : Option Path

/-- What was logged so far, and the files with the log file among them. -/
structure Logged where
  stderr : String
  files : FileSystem

/-- The lines of events. -/
def Log.lines (l : Log) (time : String) (events : List LogEvent) : String :=
  String.join ((events.filter l.filter.passes).map fun e =>
    if l.json then e.printJson time else e.printText time)

/-- Logs events. -/
def Log.write (l : Log) (time : String) (before : Logged) (events : List LogEvent) : Logged :=
  let text := l.lines time events
  { stderr := if l.toStderr then before.stderr ++ text else before.stderr
    files := match l.file with
      | none => before.files
      | some path => (before.files.append path text.toUTF8.toList).toOption.getD before.files }

/-- Starts logging.  If the log file cannot be opened, this is logged and the file left out. -/
def startLog (s : Surroundings) (c : LogSettings) : Log × Logged :=
  let log : Log := ⟨c.filter s.logDirectives, c.json, c.stderr, none⟩
  match c.file with
  | none => (log, ⟨"", s.files⟩)
  | some path =>
    match s.files.append path [] with
    | .ok files => ({ log with file := some path }, ⟨"", files⟩)
    | .error _ =>
      let event : LogEvent := ⟨.warn, "jdoc.config",
        "failed to open log file; file logging disabled", [("path", .plain path.text)]⟩
      (log, log.write s.time ⟨"", s.files⟩ [event])

def doubtEvent (d : ConfigDoubt) : LogEvent := ⟨.warn, "jdoc.config", d.message, []⟩

/-! ## Extraction -/

/-- The registry a run writes: all of it, or only the class that was asked for. -/
def selectClass (r : Registry) (name : Option String) : Except String Registry :=
  match name with
  | none => .ok r
  | some n =>
    match r.resolve? n with
    | none => .error ("no single class named " ++ n)
    | some fullName => .ok (.ofList (r.get? fullName).toList)

/-- Writes a text to a file, whose directory is made if need be. -/
def writeOutput (fs : FileSystem) (path : Path) (text : String) : FileSystem × Option String :=
  let failed (p : Path) (e : FileError) : Option String :=
    some ("creating " ++ p.text ++ ": " ++ e.message)
  let directory := path.parent?.getD ⟨""⟩
  match fs.createDirectory directory with
  | (made, some e) => (made, failed directory e)
  | (made, none) =>
    match made.write path text.toUTF8.toList with
    | .error e => (made, failed path e)
    | .ok written => (written, none)

/-- The report on standard error. -/
def printReport (r : Report) (json : Bool) : String :=
  if json then r.toJson.pretty ++ "\n" else r.print

/-- Writes the registry of an extraction and reports on it. -/
def finishExtract (c : Config) (a : ExtractArguments) (x : Extraction) (logged : Logged) :
    Outcome :=
  match selectClass x.registry a.className with
  | .error e => ⟨2, "", logged.stderr ++ e ++ "\n", logged.files⟩
  | .ok registry =>
    let text := c.output.format.print registry
    let report := x.report
    let code := if report.hasErrors then 1 else 0
    let stderr := logged.stderr ++ printReport report a.reportJson
    match c.output.path with
    | none => ⟨code, text, stderr, logged.files⟩
    | some path =>
      match writeOutput logged.files path text with
      | (files, none) => ⟨code, "", stderr, files⟩
      | (files, some e) => ⟨2, "", logged.stderr ++ e ++ "\n", files⟩

/-- Runs the command `extract`. -/
def runExtract (s : Surroundings) (a : ExtractArguments) : Outcome :=
  match baseConfig s.files a with
  | .error e => ⟨2, "", e ++ "\n", s.files⟩
  | .ok base =>
    let c := applyArguments base a
    let (log, started) := startLog s c.logging
    let warned := log.write s.time started (c.doubts.map doubtEvent)
    if !c.faults.isEmpty then
      let message :=
        "invalid configuration: " ++ "; ".intercalate (c.faults.map ConfigFault.message)
      ⟨2, "", warned.stderr ++ message ++ "\n", warned.files⟩
    else
      let collected :=
        log.write s.time warned (Extraction.collectEvents warned.files c c.roots)
      match Extraction.run warned.files c with
      | .error e => ⟨2, "", collected.stderr ++ e.message ++ "\n", collected.files⟩
      | .ok x => finishExtract c a x (log.write s.time collected (x.events ++ [x.endEvent]))

/-! ## Commands -/

/-- Runs what was asked for. -/
def runRequest (s : Surroundings) : Request → Outcome
  | .extract a => runExtract s a
  | .parse a => runParse s a
  | .constants a => runConstants s a
  | .help c => ⟨0, helpText c, "", s.files⟩
  | .version => ⟨0, versionText, "", s.files⟩
  | .nothing => ⟨2, "", programHelp, s.files⟩

/-- Runs the program with its arguments. -/
def run (s : Surroundings) (args : List String) : Outcome :=
  match readArguments args with
  | .ok request => runRequest s request
  | .error e =>
    ⟨2, "", "error: " ++ e.message ++ "\n\nFor more information, try '--help'.\n", s.files⟩

end ApiDoc.CommandLine
