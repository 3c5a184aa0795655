import ApiDoc.Text.Quoted

/-!
# What can be wrong with a declaration
-/

namespace ApiDoc

/-- Why a declaration block cannot be read. -/
inductive DeclarationError
  | empty
  | missingToken (token decl : String)
  | missingName (decl : String)
  | missingType (decl : String)
  | missingArgumentName (type decl : String)
  | unresolvableReference (package href : String)
  | invalidType (text : String)
deriving DecidableEq, Inhabited

namespace DeclarationError

def message : DeclarationError → String
  | .empty => "no declaration found"
  | .missingToken token decl => "missing `" ++ token ++ "` in declaration `" ++ decl ++ "`"
  | .missingName decl => "missing name in declaration `" ++ decl ++ "`"
  | .missingType decl => "missing type in declaration `" ++ decl ++ "`"
  | .missingArgumentName type decl =>
    "missing argument name after `" ++ type ++ "` in declaration `" ++ decl ++ "`"
  | .unresolvableReference package href =>
    "unresolvable reference " ++ Text.quoted href ++ " from package `" ++ package ++ "`"
  | .invalidType text => "invalid type `" ++ text ++ "`"

end DeclarationError

end ApiDoc
