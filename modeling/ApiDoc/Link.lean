import ApiDoc.Declaration.Error
import ApiDoc.FileUrl
import ApiDoc.Text.Blank

/-!
# Links to types

A link on a page names the type whose page it leads to.  The package of the page is the directory
the link is followed from, and the path of the target without `.html` is the qualified name.
-/

namespace ApiDoc

/-- The directory of a package: one level per nonempty part of its name. -/
def packageDirectory (package : String) : FileUrl.Segments :=
  FileUrl.directory
    (((package.toList.splitOnP (· == '.')).filter fun s => !s.isEmpty).flatMap (· ++ ['/']))

/-- The text in front of `.html`, if a text ends so. -/
def stripHtml? (cs : List Char) : Option (List Char) :=
  if ".html".toList <:+ cs then some (cs.take (cs.length - 5)) else none

/-- The parts of the qualified name that a path stands for: its segments, the last without
`.html`, all of them nonempty and of name characters. -/
def nameParts? (path : FileUrl.Segments) : Option (List (List Char)) := do
  let written := path.map FileUrl.encodeSegment
  let last ← stripHtml? (← written.getLast?)
  let parts := written.dropLast ++ [last]
  if parts.all fun p => !p.isEmpty && p.all Text.isNameChar then some parts else none

/-- The qualified name of the type a link on a page of `package` leads to. -/
def resolveLink (package href : String) : Except DeclarationError String :=
  match (FileUrl.join? (packageDirectory package) (Text.trim href.toList)).bind nameParts? with
  | some parts => .ok (String.ofList (['.'].intercalate parts))
  | none => .error (.unresolvableReference package href)

end ApiDoc
