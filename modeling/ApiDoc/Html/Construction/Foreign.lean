import ApiDoc.Html.Construction.Head

/-!
# Rules for other vocabularies

Elements of SVG and MathML nest by rules of their own, except where they hold HTML.
-/

namespace ApiDoc.Html

/-- The names of SVG that are not in lower case. -/
def svgNames : List String := [
  "altGlyph", "altGlyphDef", "altGlyphItem", "animateColor", "animateMotion", "animateTransform",
  "clipPath", "feBlend", "feColorMatrix", "feComponentTransfer", "feComposite",
  "feConvolveMatrix", "feDiffuseLighting", "feDisplacementMap", "feDistantLight", "feDropShadow",
  "feFlood", "feFuncA", "feFuncB", "feFuncG", "feFuncR", "feGaussianBlur", "feImage", "feMerge",
  "feMergeNode", "feMorphology", "feOffset", "fePointLight", "feSpecularLighting", "feSpotLight",
  "feTile", "feTurbulence", "foreignObject", "glyphRef", "linearGradient", "radialGradient",
  "textPath"]

/-- A text in lower case, ASCII letters alone. -/
def lowerCase (s : String) : String := String.ofList (s.toList.map Char.toLower)

/-- A tag name as SVG writes it. -/
def svgName (name : String) : String := (svgNames.find? fun n => lowerCase n == name).getD name

/-- The start tags of HTML that end other vocabularies. -/
def breakoutNames : List String := [
  "b", "big", "blockquote", "body", "br", "center", "code", "dd", "div", "dl", "dt", "em", "embed",
  "h1", "h2", "h3", "h4", "h5", "h6", "head", "hr", "i", "img", "li", "listing", "menu", "meta",
  "nobr", "ol", "p", "pre", "ruby", "s", "small", "span", "strong", "strike", "sub", "sup",
  "table", "tt", "u", "ul", "var"]

namespace Builder

/-- The vocabulary and name of the current element; the element whose content is read stands for
the root. -/
def adjustedCurrent? (b : Builder) : Option (Vocabulary × String) :=
  match b.stack, b.context with
  | [_], some name => some (.html, name)
  | id :: _, _ => b.arena.elementName? id
  | [], _ => none

/-- Whether the tree stands in an element of another vocabulary. -/
def isInForeign (b : Builder) : Bool :=
  match b.adjustedCurrent? with
  | some (.html, _) => false
  | some _ => true
  | none => false

/-- Whether the current element of another vocabulary leaves a token to the rules of HTML. -/
def leavesToHtml (name : Vocabulary × String) (t : Token) : Bool :=
  let isText := match t with
    | .char _ => true
    | .null => true
    | _ => false
  match name.1, t with
  | .html, _ => true
  | .mathml, .startTag tag =>
    (mathTextNames.contains name.2 && tag.name != "mglyph" && tag.name != "malignmark") ||
      (name.2 == "annotation-xml" && tag.name == "svg")
  | .mathml, _ => mathTextNames.contains name.2 && isText
  | .svg, .startTag _ => svgHtmlNames.contains name.2
  | .svg, _ => svgHtmlNames.contains name.2 && isText

/-- Whether a token is taken by the rules for other vocabularies. -/
def isForeign (b : Builder) (t : Token) : Bool :=
  match b.adjustedCurrent?, t with
  | _, .eof => false
  | some name, _ => !leavesToHtml name t
  | none, _ => false

/-- Inserts an element of a vocabulary, closed if its tag is. -/
def insertIn (b : Builder) (vocabulary : Vocabulary) (t : Tag) : Builder :=
  if t.selfClosing then (b.insertClosed vocabulary t).1 else (b.insertOpen vocabulary t).1

/-- Inserts an element of the vocabulary of the current one. -/
def insertForeign (b : Builder) (t : Tag) : Builder :=
  match b.adjustedCurrent? with
  | some (.svg, _) => b.insertIn .svg { t with name := svgName t.name }
  | some (vocabulary, _) => b.insertIn vocabulary t
  | none => b

/-- Whether an element of HTML may stand in an element. -/
def holdsHtml (b : Builder) (id : NodeId) : Bool :=
  match b.arena.elementName? id with
  | some (.html, _) => true
  | some (.mathml, name) => mathTextNames.contains name
  | some (.svg, name) => svgHtmlNames.contains name
  | none => false

/-- Closes the current element and those around it up to one that may hold HTML. -/
def leaveForeign (b : Builder) : Builder :=
  { b.pop with stack := b.pop.stack.dropWhile fun id => !b.holdsHtml id }

/-- What an end tag closes among elements of other vocabularies: the elements outside the one it
closes, if it closes one; or `none` if the rules of HTML decide. -/
def foreignEnd? (b : Builder) (name : String) (isFirst : Bool) :
    List NodeId → Option (Option (List NodeId))
  | [] => some none
  | [_] => some none
  | id :: r =>
    match b.arena.elementName? id with
    | none => b.foreignEnd? name false r
    | some (vocabulary, n) =>
      if !isFirst && vocabulary = .html then none
      else if lowerCase n = name then some (some r)
      else b.foreignEnd? name false r

/-- Whether a start tag ends other vocabularies. -/
def isBreakout (t : Tag) : Bool :=
  breakoutNames.contains t.name ||
    (t.name == "font" && t.attributes.any fun a => ["color", "face", "size"].contains a.1)

/-- The rules for other vocabularies; `html` are the rules of the mode. -/
def foreignRules (html : Builder → Token → Step) (b : Builder) (t : Token) : Step :=
  match t with
  | .null => (b.addChar '\uFFFD').done
  | .char c => ({ b with framesetOk := b.framesetOk && isSpace c }.addChar c).done
  | .comment s => (b.addComment s).done
  | .startTag tag =>
    if isBreakout tag && !b.isFragment then (b.leaveForeign, some t) else (b.insertForeign tag).done
  | .endTag tag =>
    match b.foreignEnd? tag.name true b.stack with
    | none => html b t
    | some (some outer) => { b with stack := outer }.done
    | some none => b.done
  | _ => b.done

end Builder

end ApiDoc.Html
