import ApiDoc.Html.CharRef

/-!
# Tokens of a page

A page is read token by token: tags, comments, document types and single characters.  What a `<`
means depends on the kind of content it stands in, which the tree under construction decides;
`Token.read` therefore takes the kind of content and gives it back with the tokens.
-/

namespace ApiDoc.Html

/-- A tag with its attributes, each name once. -/
structure Tag where
  name : String
  attributes : List (String × String)
  selfClosing : Bool
deriving DecidableEq, Inhabited

/-- A document type declaration. -/
structure Doctype where
  name : Option String
  publicId : Option String
  systemId : Option String
  /-- The declaration is broken. -/
  isBroken : Bool
deriving DecidableEq, Inhabited

inductive Token
  | doctype (d : Doctype)
  | startTag (t : Tag)
  | endTag (t : Tag)
  | comment (content : String)
  | char (c : Char)
  /-- A NUL character where it may be dropped. -/
  | null
  | eof
deriving DecidableEq, Inhabited

/-! ## Kinds of content -/

/-- Where in a script a character stands: markup comments may hide end tags. -/
inductive ScriptState
  | plain
  | bang
  | escapeStart
  | escapeStartDash
  | escaped (dashes : Nat)
  | doubleEscapeStart (name : List Char)
  | doubleEscaped (dashes : Nat)
  | doubleEscapeSlash
  | doubleEscapeEnd (name : List Char)
deriving DecidableEq, Inhabited

inductive Content
  | data
  /-- Text with character references, up to the end tag of the element. -/
  | rcdata
  /-- Text up to the end tag of the element. -/
  | rawtext
  | script (s : ScriptState)
  | plaintext
  /-- A section of characters up to `]]>`. -/
  | cdata
deriving DecidableEq, Inhabited

/-- The blanks inside tags. -/
def isTagSpace (c : Char) : Bool := c == '\t' || c == '\n' || c == '\x0C' || c == ' '

/-- Whether a character ends a name in a tag. -/
def endsTagName (c : Char) : Bool := isTagSpace c || c == '/' || c == '>'

/-- NUL characters are replaced. -/
def noNull (c : Char) : Char := if c.toNat = 0 then '\uFFFD' else c

/-- A name in a tag, in lower case. -/
def tagText (cs : List Char) : String := String.ofList (cs.map fun c => noNull c.toLower)

namespace ScriptState

/-- The state after a character of plain script text; `next` is the character behind it. -/
def afterPlain (c : Char) (next : Option Char) : ScriptState :=
  if c = '<' ∧ next = some '!' then .bang else .plain

/-- The state after a character inside a markup comment. -/
def afterEscaped (dashes : Nat) (c : Char) (next : Option Char) : ScriptState :=
  if c = '-' then .escaped (min 2 (dashes + 1))
  else if c = '<' ∧ next.any Char.isAlpha then .doubleEscapeStart []
  else if c = '>' ∧ dashes = 2 then .plain
  else .escaped 0

/-- The state after a character inside a script element in a markup comment. -/
def afterDoubleEscaped (dashes : Nat) (c : Char) (next : Option Char) : ScriptState :=
  if c = '-' then .doubleEscaped (min 2 (dashes + 1))
  else if c = '<' ∧ next = some '/' then .doubleEscapeSlash
  else if c = '>' ∧ dashes = 2 then .plain
  else .doubleEscaped 0

/-- The state after a character; `next` is the character behind it. -/
def after (s : ScriptState) (c : Char) (next : Option Char) : ScriptState :=
  match s with
  | .plain => afterPlain c next
  | .bang => .escapeStart
  | .escapeStart => if c = '-' then .escapeStartDash else afterPlain c next
  | .escapeStartDash => if c = '-' then .escaped 2 else afterPlain c next
  | .escaped dashes => afterEscaped dashes c next
  | .doubleEscapeStart name =>
    if endsTagName c then if name = "script".toList then .doubleEscaped 0 else .escaped 0
    else if c.isAlpha then .doubleEscapeStart (name ++ [c.toLower])
    else afterEscaped 0 c next
  | .doubleEscaped dashes => afterDoubleEscaped dashes c next
  | .doubleEscapeSlash => .doubleEscapeEnd []
  | .doubleEscapeEnd name =>
    if endsTagName c then if name = "script".toList then .escaped 0 else .doubleEscaped 0
    else if c.isAlpha then .doubleEscapeEnd (name ++ [c.toLower])
    else afterDoubleEscaped 0 c next

/-- Whether an end tag ends the script here. -/
def allowsEndTag : ScriptState → Bool
  | .doubleEscaped _ => false
  | .doubleEscapeSlash => false
  | .doubleEscapeEnd _ => false
  | _ => true

end ScriptState

/-! ## Attributes -/

/-- Decodes the references in an attribute value; `fuel` bounds their number. -/
def decodeWithin : Nat → List Char → List Char
  | 0, cs => cs
  | _ + 1, [] => []
  | n + 1, '&' :: r =>
    let p := CharRef.read true r
    p.1 ++ decodeWithin n p.2
  | n + 1, c :: r => noNull c :: decodeWithin n r

/-- An attribute value with its references decoded. -/
def attributeValue (cs : List Char) : String := String.ofList (decodeWithin cs.length cs)

/-- Reads the value behind an attribute name, if there is one; none if the text ends within it. -/
def readValue? (cs : List Char) : Option (String × List Char) :=
  match cs.dropWhile isTagSpace with
  | '=' :: r =>
    let quoted (q : Char) (r : List Char) : Option (String × List Char) :=
      match r.dropWhile (· != q) with
      | [] => none
      | _ :: rest => some (attributeValue (r.takeWhile (· != q)), rest)
    match r.dropWhile isTagSpace with
    | [] => none
    | '"' :: r' => quoted '"' r'
    | '\'' :: r' => quoted '\'' r'
    | r' =>
      let ends (c : Char) : Bool := isTagSpace c || c == '>'
      some (attributeValue (r'.takeWhile fun c => !ends c), r'.dropWhile fun c => !ends c)
  | r => some ("", r)

/-- Reads attributes up to the end of a tag: the attributes, whether the tag closes itself, and the
rest; none if the text ends within the tag.  `fuel` bounds their number. -/
def readAttributesWithin : Nat → List (String × String) → List Char →
    Option (List (String × String) × Bool × List Char)
  | 0, _, _ => none
  | n + 1, attributes, cs =>
    match cs.dropWhile isTagSpace with
    | [] => none
    | '>' :: r => some (attributes, false, r)
    | '/' :: '>' :: r => some (attributes, true, r)
    | '/' :: r => readAttributesWithin n attributes r
    | c :: r =>
      let ends (c : Char) : Bool := endsTagName c || c == '='
      let name := tagText (c :: r.takeWhile fun c => !ends c)
      match readValue? (r.dropWhile fun c => !ends c) with
      | none => none
      | some (value, rest) =>
        let known := attributes.any (·.1 == name)
        readAttributesWithin n (if known then attributes else attributes ++ [(name, value)]) rest

/-- Reads a tag from its name on; none if the text ends within it. -/
def readTag? (cs : List Char) : Option (Tag × List Char) :=
  let name := cs.takeWhile fun c => !endsTagName c
  match readAttributesWithin (cs.length + 1) [] (cs.dropWhile fun c => !endsTagName c) with
  | none => none
  | some (attributes, selfClosing, rest) => some (⟨tagText name, attributes, selfClosing⟩, rest)

/-! ## Comments and document types -/

/-- The parts around the first `mark`; all of it if there is none. -/
def cutAround (mark : List Char) : List Char → List Char × List Char
  | [] => ([], [])
  | c :: r =>
    if mark.isPrefixOf (c :: r) then ([], (c :: r).drop mark.length)
    else
      let p := cutAround mark r
      (c :: p.1, p.2)

/-- Reads a comment up to `-->` or `--!>`, or to the end of the text. -/
def readComment : List Char → List Char × List Char
  | [] => ([], [])
  | '-' :: '-' :: '>' :: r => ([], r)
  | '-' :: '-' :: '!' :: '>' :: r => ([], r)
  | c :: r =>
    let p := readComment r
    (noNull c :: p.1, p.2)

/-- Reads what follows the opening of a comment; an early `>` closes it. -/
def readCommentStart : List Char → List Char × List Char
  | '>' :: r => ([], r)
  | '-' :: '>' :: r => ([], r)
  | cs => readComment cs

/-- Reads a quoted identifier: its text, whether its closing quote is there, and the rest. -/
def readIdentifier? (cs : List Char) : Option (String × Bool × List Char) :=
  match cs with
  | q :: r =>
    if q = '"' ∨ q = '\'' then
      some (String.ofList ((r.takeWhile (· != q)).map noNull), r.contains q,
        (r.dropWhile (· != q)).drop 1)
    else none
  | [] => none

/-- Reads a system identifier and what follows it. -/
def withSystemId (name : String) (publicId : Option String) (cs : List Char) : Doctype :=
  match readIdentifier? cs with
  | none => ⟨some name, publicId, none, true⟩
  | some (systemId, isClosed, _) => ⟨some name, publicId, some systemId, !isClosed⟩

/-- Reads a document type from the text between its keyword and `>`. -/
def readDoctype (cs : List Char) : Doctype :=
  match cs.dropWhile isTagSpace with
  | [] => ⟨none, none, none, true⟩
  | c :: r =>
    let name := tagText ((c :: r).takeWhile fun c => !isTagSpace c)
    let rest := ((c :: r).dropWhile fun c => !isTagSpace c).dropWhile isTagSpace
    let keyword := String.ofList ((rest.take 6).map Char.toLower)
    let behind := (rest.drop 6).dropWhile isTagSpace
    if rest.isEmpty then ⟨some name, none, none, false⟩
    else if keyword = "public" then
      match readIdentifier? behind with
      | none => ⟨some name, none, none, true⟩
      | some (publicId, isClosed, after) =>
        if !isClosed then ⟨some name, some publicId, none, true⟩
        else
          let after := after.dropWhile isTagSpace
          if after.isEmpty then ⟨some name, some publicId, none, false⟩
          else withSystemId name (some publicId) after
    else if keyword = "system" then withSystemId name none behind
    else ⟨some name, none, none, true⟩

/-! ## Tokens -/

namespace Token

/-- A comment that no proper opening announces, up to `>`. -/
def readBogusComment (cs : List Char) : List Token × List Char :=
  let p := cutAround ['>'] cs
  ([.comment (String.ofList (p.1.map noNull))], p.2)

/-- Reads what follows `<!`. -/
def readDeclaration (inForeign : Bool) (cs : List Char) : List Token × Content × List Char :=
  if "--".toList.isPrefixOf cs then
    let p := readCommentStart (cs.drop 2)
    ([.comment (String.ofList p.1)], .data, p.2)
  else if (cs.take 7).map Char.toLower = "doctype".toList then
    let text := (cs.drop 7).takeWhile (· != '>')
    let rest := (cs.drop 7).dropWhile (· != '>')
    let d := readDoctype text
    ([.doctype { d with isBroken := d.isBroken || rest.isEmpty }], .data, rest.drop 1)
  else if inForeign && "[CDATA[".toList.isPrefixOf cs then ([], .cdata, cs.drop 7)
  else
    let p := readBogusComment cs
    (p.1, .data, p.2)

/-- Reads a tag of one kind; nothing if the text ends within it. -/
def readTagAs (make : Tag → Token) (cs : List Char) : List Token × List Char :=
  match readTag? cs with
  | some (t, rest) => ([make t], rest)
  | none => ([], [])

/-- Reads what follows `<` among markup. -/
def readMarkup (inForeign : Bool) (cs : List Char) : List Token × Content × List Char :=
  let inData (p : List Token × List Char) : List Token × Content × List Char := (p.1, .data, p.2)
  match cs with
  | '!' :: r => readDeclaration inForeign r
  | '?' :: _ => inData (readBogusComment cs)
  | '/' :: '>' :: r => ([], .data, r)
  | ['/'] => ([.char '<', .char '/'], .data, [])
  | '/' :: c :: r =>
    if c.isAlpha then inData (readTagAs .endTag (c :: r)) else inData (readBogusComment (c :: r))
  | c :: _ => if c.isAlpha then inData (readTagAs .startTag cs) else ([.char '<'], .data, cs)
  | [] => ([.char '<'], .data, [])

/-- Reads the end tag of the element whose text is being read, if it stands here. -/
def readOwnEndTag? (element : String) (cs : List Char) : Option (List Token × List Char) :=
  let name := element.toList
  let rest := cs.drop (name.length + 2)
  if "</".toList.isPrefixOf cs && ((cs.drop 2).take name.length).map Char.toLower == name &&
      !name.isEmpty && rest.head?.any endsTagName then
    some (readTagAs .endTag (cs.drop 2))
  else none

/-- Characters as tokens. -/
def ofChars (cs : List Char) : List Token := cs.map .char

/-- Reads the next tokens: none at the end of the text but `eof`.  `element` is the name of the
latest start tag, and `inForeign` says whether the tree stands in an element of another
vocabulary. -/
def read (content : Content) (element : String) (inForeign : Bool) (cs : List Char) :
    List Token × Content × List Char :=
  match cs with
  | [] => ([.eof], content, [])
  | c :: r =>
    match content with
    | .data =>
      if c = '<' then readMarkup inForeign r
      else if c = '&' then
        let p := CharRef.read false r
        (ofChars p.1, .data, p.2)
      else if c.toNat = 0 then ([.null], .data, r)
      else ([.char c], .data, r)
    | .rcdata =>
      if c = '&' then
        let p := CharRef.read false r
        (ofChars p.1, .rcdata, p.2)
      else
        match readOwnEndTag? element cs with
        | some (tokens, rest) => (tokens, .data, rest)
        | none => ([.char (noNull c)], .rcdata, r)
    | .rawtext =>
      match readOwnEndTag? element cs with
      | some (tokens, rest) => (tokens, .data, rest)
      | none => ([.char (noNull c)], .rawtext, r)
    | .script s =>
      match if s.allowsEndTag then readOwnEndTag? element cs else none with
      | some (tokens, rest) => (tokens, .data, rest)
      | none => ([.char (noNull c)], .script (s.after c r.head?), r)
    | .plaintext => ([.char (noNull c)], .plaintext, r)
    | .cdata =>
      if "]]>".toList.isPrefixOf cs then ([], .data, cs.drop 3)
      else if c.toNat = 0 then ([.null], .cdata, r)
      else ([.char c], .cdata, r)

end Token

/-- Line ends are single line feeds, and a byte order mark at the start is dropped. -/
def normalizeInput (cs : List Char) : List Char :=
  let rec lineEnds : List Char → List Char
    | [] => []
    | '\r' :: '\n' :: r => '\n' :: lineEnds r
    | '\r' :: r => '\n' :: lineEnds r
    | c :: r => c :: lineEnds r
  lineEnds (match cs with
    | '\uFEFF' :: r => r
    | _ => cs)

end ApiDoc.Html
