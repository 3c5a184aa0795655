import ApiDoc.ClassModel

/-!
# Merging models of one class

Two models of the same class are merged into one.  Their kinds and parents have to agree, except
that a final class also counts as a regular one and a missing parent as any; everything else is
combined.  Folding merges a list of models from the left and keeps the model so far when the next
one conflicts with it.
-/

namespace ApiDoc

/-- Why two models do not describe one class. -/
inductive MergeError
  | nameMismatch (left right : String)
  | interfaceWithClass (className : String) (left right : ClassKind)
  | abstractWithConcrete (className : String) (left right : ClassKind)
  | parentConflict (className : String) (left right : TypeRef)
deriving DecidableEq

namespace MergeError

/-- The full name of the left model. -/
def className : MergeError → String
  | .nameMismatch left _ => left
  | .interfaceWithClass c _ _ => c
  | .abstractWithConcrete c _ _ => c
  | .parentConflict c _ _ => c

def message : MergeError → String
  | .nameMismatch left right =>
    "attempt to merge " ++ left ++ " with differently named " ++ right
  | .interfaceWithClass c left right =>
    "attempt to merge interface with class for " ++ c ++ " (" ++ left.debugText ++ " vs " ++
      right.debugText ++ ")"
  | .abstractWithConcrete c left right =>
    "attempt to merge abstract class with non-abstract class for " ++ c ++ " (" ++
      left.debugText ++ " vs " ++ right.debugText ++ ")"
  | .parentConflict c left right =>
    "attempt to merge " ++ c ++ " with different parents: " ++ left.print ++ " and " ++ right.print

end MergeError

/-- Equal kinds stay; a regular and a final class make a regular one. -/
def mergeKind (className : String) (left right : ClassKind) : Except MergeError ClassKind :=
  if left = right then .ok left
  else if left = .interface ∨ right = .interface then
    .error (.interfaceWithClass className left right)
  else if left = .abstract ∨ right = .abstract then
    .error (.abstractWithConcrete className left right)
  else .ok .regular

/-- The one parent that is given, if the two do not differ. -/
def mergeParent (className : String) (left right : Option TypeRef) :
    Except MergeError (Option TypeRef) :=
  match left, right with
  | some l, some r => if l = r then .ok (some l) else .error (.parentConflict className l r)
  | some l, none => .ok (some l)
  | none, r => .ok r

namespace ClassModel

/-- The model of both; of two constant values the left one counts. -/
def merge (a b : ClassModel) : Except MergeError ClassModel :=
  if a.fullName ≠ b.fullName then .error (.nameMismatch a.fullName b.fullName)
  else do
    let kind ← mergeKind a.fullName a.kind b.kind
    let parent ← mergeParent a.fullName a.parent b.parent
    return {
      package := a.package
      name := a.name
      kind := kind
      parent := parent
      implements := a.implements ∪ b.implements
      constructors := constructorAbsorption.addAll a.constructors b.constructors
      methods := methodAbsorption.addAll a.methods b.methods
      fields := (Absorption.distinct Field).addAll [] (a.fields ++ b.fields)
      constants := constantAbsorption.addAll [] (a.constants ++ b.constants)
      sources := sourceAbsorption.addAll [] (a.sources ++ b.sources) }

end ClassModel

/-! ## Folding -/

/-- A model that could not be merged into the one so far. -/
structure MergeConflict where
  error : MergeError
  /-- The sources of the model so far, which is kept. -/
  kept : List Path
  /-- The sources of the model that is left out. -/
  rejected : List Path
deriving DecidableEq

namespace MergeConflict

/-- Paths joined by commas. -/
def sourcesText (sources : List Path) : String :=
  if sources.isEmpty then "<unknown source>" else ", ".intercalate (sources.map (·.text))

def message (c : MergeConflict) : String :=
  c.error.message ++ " (kept " ++ sourcesText c.kept ++ "; rejected " ++ sourcesText c.rejected ++
    ")"

end MergeConflict

/-- What folding a list of models gives. -/
structure FoldOutcome where
  model : Option ClassModel
  merges : Nat
  conflicts : List MergeConflict
deriving DecidableEq

namespace FoldOutcome

def start : FoldOutcome := ⟨none, 0, []⟩

/-- Merges one more model, or leaves it out. -/
def add (o : FoldOutcome) (next : ClassModel) : FoldOutcome :=
  match o.model with
  | none => { o with model := some next }
  | some acc =>
    match acc.merge next with
    | .ok merged => { o with model := some merged, merges := o.merges + 1 }
    | .error e => { o with conflicts := o.conflicts ++ [⟨e, acc.sources, next.sources⟩] }

end FoldOutcome

/-- Merges the models from the left; a model that conflicts with those before it is left out. -/
def foldModels (models : List ClassModel) : FoldOutcome := models.foldl FoldOutcome.add .start

end ApiDoc
