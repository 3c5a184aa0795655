import ApiDoc.Log.Directive

/-!
# Log filters

A filter is a set of directives.  Those that hold for every event of a target, whatever spans and
values show in a run, decide which events are logged: of those that apply to an event, the most
specific one counts.
-/

namespace ApiDoc

/-- A directive that needs no more than the target and the field names of an event. -/
structure StaticDirective where
  level : LogLevel
  target : Option String
  fields : List String
deriving DecidableEq, Inhabited

namespace Directive

/-- The part of a directive that needs no more than target and field names. -/
def static? (d : Directive) : Option StaticDirective :=
  if d.span.isSome || d.fields.any (·.value.isSome) then none
  else some ⟨d.level, d.target, d.fields.map (·.name)⟩

end Directive

namespace StaticDirective

/-- How specific directives are: the more specific one comes first. -/
def compareSpecific (a b : StaticDirective) : Ordering :=
  let size (d : StaticDirective) : Option Nat := d.target.map String.utf8ByteSize
  ((compare (size a) (size b)).then
    ((compare a.fields.length b.fields.length).then
      ((compare a.target b.target).then
        (List.compareLex compare a.fields b.fields)))).swap

def print (d : StaticDirective) : String :=
  let scope := if d.fields.isEmpty then "" else "[" ++ printFields d.fields ++ "]"
  let equals := if d.target.isSome || !d.fields.isEmpty then "=" else ""
  d.target.getD "" ++ scope ++ equals ++ d.level.name

/-- Whether the directive applies to the events of a target with certain fields. -/
def applies (d : StaticDirective) (target : String) (fields : List String) : Bool :=
  (d.target.all fun t => t.toList.isPrefixOf target.toList) && d.fields.all fields.contains

end StaticDirective

/-- Adds to a sorted list; an item that compares equal is replaced. -/
def insertOrdered {α : Type} (cmp : α → α → Ordering) (x : α) : List α → List α
  | [] => [x]
  | y :: r =>
    match cmp x y with
    | .lt => x :: y :: r
    | .eq => x :: r
    | .gt => y :: insertOrdered cmp x r

structure LogFilter where
  /-- The most specific ones come first. -/
  statics : List StaticDirective
  dynamics : List Directive

namespace LogFilter

/-- The filter of a list of directives; of equally specific ones for one thing the last counts. -/
def ofDirectives (ds : List Directive) : LogFilter :=
  let dynamics := ds.filter (·.isDynamic)
  let statics := (ds.filter fun d => !d.isDynamic).filterMap Directive.static? ++
    dynamics.filterMap Directive.static?
  ⟨statics.foldl (fun l d => insertOrdered StaticDirective.compareSpecific d l) [],
    dynamics.foldl (fun l d => insertOrdered Directive.compareSpecific d l) []⟩

/-- The filter of directives separated by commas; empty ones do not count. -/
def parse? (text : String) : Option LogFilter :=
  let parts := (text.toList.splitOnP (· == ',')).filter fun p => !p.isEmpty
  (parts.mapM Directive.parse?).map ofDirectives

/-- The filter that logs a level for all targets. -/
def ofLevel (l : LogLevel) : LogFilter := ofDirectives [⟨l, none, none, []⟩]

def print (f : LogFilter) : String :=
  ",".intercalate (f.statics.map StaticDirective.print ++ f.dynamics.map Directive.print)

/-- Whether an event is logged. -/
def enables (f : LogFilter) (level : LogLevel) (target : String) (fields : List String) : Bool :=
  match f.statics.find? (·.applies target fields) with
  | some d => d.level.admits level
  | none => false

end LogFilter

end ApiDoc
