import ApiDoc.Proofs.LexedTokens

/-!
# Links in marked up declarations

The lexer reads an element child by child as soon as there is a link in it, so it comes to every link
that lies in no other one, and to nothing inside of it, with one exception: a link in a fragment has
its element read child by child like any other, but the fragment itself is no element and is passed
over (`lexNode_links`).  Where no `=` stands outside the links, the references among the tokens are the
targets of the links that lie in no fragment, in document order; one of them that leads nowhere fails
the declaration with its own error; and what is inside a link makes no difference
(`lexElement_links`).
-/

namespace ApiDoc

/-- The name a token refers to. -/
def Token.ref? : Token → Option String
  | .ref q => some q
  | _ => none

namespace Html.Node

/-! ## Outermost links -/

mutual

/-- The targets of the links in a node that lie in no other link, in document order. -/
def links : Node → List String
  | .element name attributes children =>
    match (Node.element name attributes children).href? with
    | some href => [href]
    | none => linksAll children
  | .text _ => []
  | .comment _ => []
  | .fragment children => linksAll children
termination_by structural n => n

/-- The targets of the outermost links in a list of nodes. -/
def linksAll : List Node → List String
  | [] => []
  | n :: r => links n ++ linksAll r
termination_by structural l => l

end

mutual

/-- The text of a node outside its links. -/
def unlinkedText : Node → List Char
  | .element name attributes children =>
    if (Node.element name attributes children).href?.isSome then [] else unlinkedTextAll children
  | .text content => content.toList
  | .comment _ => []
  | .fragment children => unlinkedTextAll children
termination_by structural n => n

/-- The text of a list of nodes outside their links. -/
def unlinkedTextAll : List Node → List Char
  | [] => []
  | n :: r => unlinkedText n ++ unlinkedTextAll r
termination_by structural l => l

end

mutual

/-- The node with nothing inside its links. -/
def hollow : Node → Node
  | .element name attributes children =>
    if (Node.element name attributes children).href?.isSome then .element name attributes []
    else .element name attributes (hollowAll children)
  | .text content => .text content
  | .comment content => .comment content
  | .fragment children => .fragment (hollowAll children)
termination_by structural n => n

/-- The nodes with nothing inside their links. -/
def hollowAll : List Node → List Node
  | [] => []
  | n :: r => hollow n :: hollowAll r
termination_by structural l => l

end

mutual

/-- The node with nothing inside its fragments. -/
def clearFragments : Node → Node
  | .element name attributes children => .element name attributes (clearFragmentsAll children)
  | .text content => .text content
  | .comment content => .comment content
  | .fragment _ => .fragment []
termination_by structural n => n

/-- The nodes with nothing inside their fragments. -/
def clearFragmentsAll : List Node → List Node
  | [] => []
  | n :: r => clearFragments n :: clearFragmentsAll r
termination_by structural l => l

end

/-- Whether there is a link in a list of nodes. -/
def containLink (l : List Node) : Bool := (elementsAll l).any fun e => e.href?.isSome

section
variable {name : String} {attributes : List (String × String)} {children : List Node}

theorem href?_element (children' : List Node) :
    (Node.element name attributes children').href? = (Node.element name attributes children).href? :=
  rfl

theorem containsLink_element : (Node.element name attributes children).containsLink =
    ((Node.element name attributes children).href?.isSome || containLink children) := rfl

theorem not_containLink_children (h : (Node.element name attributes children).containsLink = false) :
    containLink children = false := by
  rw [containsLink_element, Bool.or_eq_false_iff] at h
  exact h.2

end

theorem containLink_cons (n : Node) (r : List Node) :
    containLink (n :: r) = (n.containsLink || containLink r) := by
  unfold containLink containsLink
  rw [elementsAll, List.any_append]

theorem not_mem_unlinkedText_cons {c : Char} {n : Node} {r : List Node}
    (h : c ∉ unlinkedTextAll (n :: r)) : c ∉ n.unlinkedText ∧ c ∉ unlinkedTextAll r := by
  rwa [unlinkedTextAll, List.mem_append, not_or] at h

mutual

theorem links_of_not_containsLink : ∀ {n : Node}, n.containsLink = false → n.links = []
  | .element name attributes children, h => by
    rw [containsLink_element, Bool.or_eq_false_iff, Option.isSome_eq_false_iff,
      Option.isNone_iff_eq_none] at h
    obtain ⟨hhref, hchildren⟩ := h
    rw [links, hhref]
    exact linksAll_of_not_containLink hchildren
  | .text _, _ => rfl
  | .comment _, _ => rfl
  | .fragment _, h => linksAll_of_not_containLink h

theorem linksAll_of_not_containLink : ∀ {l : List Node}, containLink l = false → linksAll l = []
  | [], _ => rfl
  | n :: r, h => by
    rw [containLink_cons, Bool.or_eq_false_iff] at h
    rw [linksAll, links_of_not_containsLink h.1, linksAll_of_not_containLink h.2]
    rfl

end

mutual

/-- The links outside of fragments are among the outermost links. -/
theorem links_clearFragments_sublist : ∀ n : Node, n.clearFragments.links.Sublist n.links
  | .element name attributes children => by
    rw [clearFragments, links, links]
    cases hhref : (Node.element name attributes children).href? with
    | some href => rw [(href?_element (clearFragmentsAll children)).trans hhref]
    | none =>
      rw [(href?_element (clearFragmentsAll children)).trans hhref]
      exact linksAll_clearFragmentsAll_sublist children
  | .text _ => .refl _
  | .comment _ => .refl _
  | .fragment _ => List.nil_sublist _

theorem linksAll_clearFragmentsAll_sublist : ∀ l : List Node,
    (linksAll (clearFragmentsAll l)).Sublist (linksAll l)
  | [] => .refl _
  | n :: r => by
    rw [clearFragmentsAll, linksAll, linksAll]
    exact (links_clearFragments_sublist n).append (linksAll_clearFragmentsAll_sublist r)

end

mutual

theorem hollow_of_not_containsLink : ∀ {n : Node}, n.containsLink = false → n.hollow = n
  | .element name attributes children, h => by
    rw [containsLink_element, Bool.or_eq_false_iff] at h
    rw [hollow, h.1, if_neg Bool.false_ne_true, hollowAll_of_not_containLink h.2]
  | .text _, _ => rfl
  | .comment _, _ => rfl
  | .fragment children, h => by
    rw [hollow, hollowAll_of_not_containLink h]

theorem hollowAll_of_not_containLink : ∀ {l : List Node}, containLink l = false → hollowAll l = l
  | [], _ => rfl
  | n :: r, h => by
    rw [containLink_cons, Bool.or_eq_false_iff] at h
    rw [hollowAll, hollow_of_not_containsLink h.1, hollowAll_of_not_containLink h.2]

end

mutual

theorem containsLink_hollow : ∀ n : Node, n.hollow.containsLink = n.containsLink
  | .element name attributes children => by
    rw [hollow]
    by_cases hhref : (Node.element name attributes children).href?.isSome = true
    · rw [if_pos hhref, containsLink_element, containsLink_element, href?_element, hhref]
      rfl
    · rw [if_neg hhref, containsLink_element, containsLink_element, href?_element,
        containLink_hollowAll children]
  | .text _ => rfl
  | .comment _ => rfl
  | .fragment children => containLink_hollowAll children

theorem containLink_hollowAll : ∀ l : List Node, containLink (hollowAll l) = containLink l
  | [] => rfl
  | n :: r => by
    rw [hollowAll, containLink_cons, containLink_cons, containsLink_hollow n,
      containLink_hollowAll r]

end

mutual

theorem unlinkedText_hollow : ∀ n : Node, n.hollow.unlinkedText = n.unlinkedText
  | .element name attributes children => by
    rw [hollow, unlinkedText]
    by_cases hhref : (Node.element name attributes children).href?.isSome = true
    · rw [if_pos hhref, if_pos hhref, unlinkedText, href?_element, if_pos hhref]
    · rw [if_neg hhref, if_neg hhref, unlinkedText, href?_element, if_neg hhref,
        unlinkedTextAll_hollowAll children]
  | .text _ => rfl
  | .comment _ => rfl
  | .fragment children => unlinkedTextAll_hollowAll children

theorem unlinkedTextAll_hollowAll : ∀ l : List Node,
    unlinkedTextAll (hollowAll l) = unlinkedTextAll l
  | [] => rfl
  | n :: r => by
    rw [hollowAll, unlinkedTextAll, unlinkedTextAll, unlinkedText_hollow n,
      unlinkedTextAll_hollowAll r]

end

end Html.Node

/-! ## The references among the tokens -/

theorem filterMap_ref?_wordTokens (cs : List Char) : (wordTokens cs).filterMap Token.ref? = [] := by
  rw [wordTokens, List.filterMap_map]
  exact List.filterMap_eq_nil_iff.mpr fun _ _ => rfl

/-- No text is read as a reference. -/
theorem filterMap_ref?_lexText (state : LexState) (cs : List Char) :
    (lexText state cs).1.filterMap Token.ref? = [] := by
  cases state with
  | some literal => rfl
  | none =>
    unfold lexText
    cases Text.cutAt? '=' (plainSpaces cs) with
    | none => exact filterMap_ref?_wordTokens _
    | some p =>
      show (wordTokens p.1 ++ [Token.word "="]).filterMap Token.ref? = []
      rw [List.filterMap_append, filterMap_ref?_wordTokens]
      rfl

theorem filterMap_ref?_literalTokens (state : LexState) :
    (literalTokens state).filterMap Token.ref? = [] := by
  cases state with
  | none => rfl
  | some literal =>
    unfold literalTokens
    dsimp only
    split <;> rfl

theorem filterMap_ref?_tokenizeChars (cs : List Char) :
    (tokenizeChars cs).filterMap Token.ref? = [] := by
  rw [tokenizeChars, List.filterMap_append, filterMap_ref?_lexText, filterMap_ref?_literalTokens]
  rfl

/-- The references a reading has come to, and the state it is in. -/
def refsAndState (p : List Token × LexState) : List String × LexState :=
  (p.1.filterMap Token.ref?, p.2)

section
open Html.Node

variable {package name : String} {attributes : List (String × String)} {children : List Html.Node}

/-- A link is read as the type it leads to. -/
theorem lexNode_of_href?_eq_some {href : String}
    (h : (Html.Node.element name attributes children).href? = some href) :
    lexNode package none (.element name attributes children) =
      (resolveLink package href).map fun q => ([.ref q], none) := by
  rw [lexNode, h]
  rfl

/-- Any other element is read as one token, or child by child. -/
theorem lexNode_of_href?_eq_none
    (h : (Html.Node.element name attributes children).href? = none) :
    lexNode package none (.element name attributes children) =
      if 1 < (tokenizeChars (textAll children)).length || containLink children then
        lexNodes package none children
      else .ok (tokenizeChars (textAll children), none) := by
  rw [lexNode, h, containsLink_element, h]
  rfl

mutual

/-- A node gives the references of its outermost links outside of fragments, and no literal begins in
it. -/
theorem lexNode_links : ∀ {n : Html.Node}, '=' ∉ n.unlinkedText →
    refsAndState <$> lexNode package none n =
      (fun refs => (refs, none)) <$> n.clearFragments.links.mapM (resolveLink package)
  | .text content, h => by
    have hequals : '=' ∉ content.toList := h
    rw [lexNode, lexText_of_not_mem hequals]
    show Except.ok ((wordTokens content.toList).filterMap Token.ref?, none) = _
    rw [filterMap_ref?_wordTokens]
    rfl
  | .comment _, _ => rfl
  | .fragment _, _ => rfl
  | .element name attributes children, h => by
    cases hhref : (Html.Node.element name attributes children).href? with
    | some href =>
      rw [lexNode_of_href?_eq_some hhref, clearFragments, links,
        (href?_element (clearFragmentsAll children)).trans hhref]
      dsimp only
      rw [List.mapM_cons, List.mapM_nil]
      cases resolveLink package href <;> rfl
    | none =>
      rw [unlinkedText, hhref, Option.isSome_none, if_neg Bool.false_ne_true] at h
      rw [lexNode_of_href?_eq_none hhref, clearFragments, links,
        (href?_element (clearFragmentsAll children)).trans hhref]
      split
      · exact lexNodes_links h
      · next hflat =>
        -- a text that is read as it is has no link in it
        rw [Bool.or_eq_true, not_or, Bool.not_eq_true (containLink children)] at hflat
        have hlinks := linksAll_clearFragmentsAll_sublist children
        rw [linksAll_of_not_containLink hflat.2, List.sublist_nil] at hlinks
        dsimp only
        rw [hlinks]
        show Except.ok ((tokenizeChars _).filterMap Token.ref?, none) = _
        rw [filterMap_ref?_tokenizeChars]
        rfl

theorem lexNodes_links : ∀ {l : List Html.Node}, '=' ∉ unlinkedTextAll l →
    refsAndState <$> lexNodes package none l =
      (fun refs => (refs, none)) <$> (linksAll (clearFragmentsAll l)).mapM (resolveLink package)
  | [], _ => rfl
  | n :: r, h => by
    obtain ⟨hn, hr⟩ := not_mem_unlinkedText_cons h
    have hfirst := lexNode_links hn
    have hmore := lexNodes_links hr
    calc refsAndState <$> lexNodes package none (n :: r)
        = (refsAndState <$> lexNode package none n) >>= fun p =>
            (refsAndState <$> lexNodes package p.2 r) >>= fun q => pure (p.1 ++ q.1, q.2) := by
          simp only [lexNodes, map_bind, map_pure, bind_map_left, refsAndState,
            List.filterMap_append]
      _ = n.clearFragments.links.mapM (resolveLink package) >>= fun refs =>
            (linksAll (clearFragmentsAll r)).mapM (resolveLink package) >>= fun more =>
              pure (refs ++ more, none) := by
          rw [hfirst, bind_map_left]
          refine bind_congr fun refs => ?_
          rw [hmore, bind_map_left]
      _ = (fun refs => (refs, none)) <$>
            (linksAll (clearFragmentsAll (n :: r))).mapM (resolveLink package) := by
          simp only [clearFragmentsAll, linksAll, List.mapM_append, map_bind, map_pure]

end

theorem state_of_lexNode {n : Html.Node} (h : '=' ∉ n.unlinkedText)
    {p : List Token × LexState} (hp : lexNode package none n = .ok p) : p.2 = none := by
  have hlinks := @lexNode_links package n h
  rw [hp] at hlinks
  cases hrefs : n.clearFragments.links.mapM (resolveLink package) with
  | error e =>
    rw [hrefs] at hlinks
    cases hlinks
  | ok refs =>
    rw [hrefs] at hlinks
    exact congrArg Prod.snd (Except.ok.inj hlinks)

mutual

/-- What is inside the links of a node is never read. -/
theorem lexNode_hollow : ∀ {n : Html.Node}, '=' ∉ n.unlinkedText →
    lexNode package none n.hollow = lexNode package none n
  | .text _, _ => rfl
  | .comment _, _ => rfl
  | .fragment _, _ => rfl
  | .element name attributes children, h => by
    rw [hollow]
    cases hhref : (Html.Node.element name attributes children).href? with
    | some href =>
      rw [Option.isSome_some, if_pos rfl, lexNode_of_href?_eq_some hhref,
        lexNode_of_href?_eq_some ((href?_element []).trans hhref)]
    | none =>
      rw [unlinkedText, hhref, Option.isSome_none, if_neg Bool.false_ne_true] at h
      rw [Option.isSome_none, if_neg Bool.false_ne_true]
      by_cases hlink : containLink children = true
      · -- both are read child by child, whatever their texts are
        have hhref' := (href?_element (hollowAll children)).trans hhref
        rw [lexNode_of_href?_eq_none hhref, lexNode_of_href?_eq_none hhref', containLink_hollowAll,
          hlink, Bool.or_true, Bool.or_true, if_pos rfl, if_pos rfl, lexNodes_hollow h]
      · rw [hollowAll_of_not_containLink (Bool.eq_false_iff.mpr hlink)]

theorem lexNodes_hollow : ∀ {l : List Html.Node}, '=' ∉ unlinkedTextAll l →
    lexNodes package none (hollowAll l) = lexNodes package none l
  | [], _ => rfl
  | n :: r, h => by
    obtain ⟨hn, hr⟩ := not_mem_unlinkedText_cons h
    rw [hollowAll, lexNodes, lexNodes, lexNode_hollow hn]
    cases hlex : lexNode package none n with
    | error e => rfl
    | ok p =>
      have hstate := state_of_lexNode hn hlex
      obtain ⟨first, between⟩ := p
      subst hstate
      show (lexNodes package none (hollowAll r) >>= _) = _
      rw [lexNodes_hollow hr]
      rfl

end

/-! ## Elements -/

/-- The references of a declaration are where its links outside of fragments lead, one after the
other. -/
theorem filterMap_ref?_lexElement {e : Html.Node} (h : '=' ∉ unlinkedTextAll e.children) :
    (List.filterMap Token.ref?) <$> lexElement package e =
      (linksAll (clearFragmentsAll e.children)).mapM (resolveLink package) := by
  calc (List.filterMap Token.ref?) <$> lexElement package e
      = Prod.fst <$> refsAndState <$> lexNodes package none e.children := by
        simp only [lexElement, bind_pure_comp, Functor.map_map, List.filterMap_append,
          filterMap_ref?_literalTokens, List.append_nil, refsAndState]
    _ = (linksAll (clearFragmentsAll e.children)).mapM (resolveLink package) := by
        rw [lexNodes_links h, Functor.map_map]
        exact id_map _

theorem lexElement_hollow {e : Html.Node} (h : '=' ∉ unlinkedTextAll e.children) :
    lexElement package e =
      (lexNodes package none (hollowAll e.children) >>= fun p => pure (p.1 ++ literalTokens p.2)) := by
  rw [lexNodes_hollow h]
  rfl

/-- Where no `=` stands outside its links, a declaration is lexed exactly if each of its outermost
links outside of fragments leads somewhere; its references are then where these lead, one for each
link and in their order.  Otherwise it fails as the first of them that leads nowhere.  What stands
inside of a link never makes a difference.  So of a declaration that is lexed, the references are those
of all its outermost links exactly if none of these lies in a fragment; one that does is lost,
wherever it leads.  The element itself is only the frame of its declaration. -/
theorem lexElement_links {e : Html.Node} (h : '=' ∉ unlinkedTextAll e.children) :
    ((∃ ts, lexElement package e = .ok ts) ↔
        ∀ href ∈ linksAll (clearFragmentsAll e.children), ∃ q, resolveLink package href = .ok q) ∧
      (∀ ts, lexElement package e = .ok ts →
        (linksAll (clearFragmentsAll e.children)).Forall₂ (fun href q => resolveLink package href = .ok q)
            (ts.filterMap Token.ref?) ∧
          ((linksAll e.children).Forall₂ (fun href q => resolveLink package href = .ok q)
              (ts.filterMap Token.ref?) ↔
            linksAll (clearFragmentsAll e.children) = linksAll e.children)) ∧
      (∀ before href after error,
        linksAll (clearFragmentsAll e.children) = before ++ href :: after →
        (∀ earlier ∈ before, ∃ q, resolveLink package earlier = .ok q) →
        resolveLink package href = .error error → lexElement package e = .error error) ∧
      ∀ e', hollowAll e'.children = hollowAll e.children →
        lexElement package e' = lexElement package e := by
  have hrefs : (List.filterMap Token.ref?) <$> lexElement package e =
      (linksAll (clearFragmentsAll e.children)).mapM (resolveLink package) :=
    filterMap_ref?_lexElement h
  have hsub := linksAll_clearFragmentsAll_sublist e.children
  generalize linksAll (clearFragmentsAll e.children) = reached at hrefs hsub ⊢
  have hok : ∀ ts, lexElement package e = .ok ts →
      reached.Forall₂ (fun href q => resolveLink package href = .ok q) (ts.filterMap Token.ref?) := by
    intro ts hts
    refine mapM_eq_ok_iff.mp ?_
    rw [← hrefs, hts]
    rfl
  refine ⟨?_, fun ts hts => ⟨hok ts hts, fun hall => ?_, ?_⟩, ?_, ?_⟩
  · rw [← exists_mapM_eq_ok_iff]
    constructor
    · rintro ⟨ts, hts⟩
      exact ⟨_, mapM_eq_ok_iff.mpr (hok ts hts)⟩
    · rintro ⟨results, hresults⟩
      cases hlex : lexElement package e with
      | ok ts => exact ⟨ts, rfl⟩
      | error error =>
        rw [hlex, hresults] at hrefs
        cases hrefs
  · -- there are as many of the one links as of the other
    exact hsub.eq_of_length ((hok ts hts).length_eq.trans hall.length_eq.symm)
  · rintro rfl
    exact hok ts hts
  · intro before href after error hlinks hbefore herror
    rw [hlinks, mapM_append_cons_eq_error hbefore herror] at hrefs
    cases hlex : lexElement package e with
    | ok ts =>
      rw [hlex] at hrefs
      cases hrefs
    | error error' =>
      rw [hlex] at hrefs
      cases hrefs
      rfl
  · intro e' hhollow
    have h' : '=' ∉ unlinkedTextAll e'.children := by
      rwa [← unlinkedTextAll_hollowAll, hhollow, unlinkedTextAll_hollowAll]
    rw [lexElement_hollow h, lexElement_hollow h', hhollow]

/-- A linked type with brackets in inline markup, a link whose text has an `=` and one more link in
it, and a link in a template. -/
def nestedLinks : Html.Node :=
  .element "pre" []
    [.text "public ",
      .element "i" []
        [.element "b" []
          [.element "a" [("href", "Item.html")]
            [.text "x = ", .element "a" [("href", "mailto:y")] [.text "y"]]],
          .text "[]"],
      .element "template" []
        [.fragment [.element "a" [("href", "mailto:z")] [.text "="]]],
      .text " items(",
      .element "a" [("href", "../q/Other.html"), ("title", "=")] [.text "Other"],
      .text " other)"]

/-- The text and the link inside of the first link do no harm, and are not read; nor is the link in the
template, which leads nowhere. -/
theorem lexElement_links_of_nestedLinks :
    '=' ∉ unlinkedTextAll nestedLinks.children ∧
      linksAll nestedLinks.children = ["Item.html", "mailto:z", "../q/Other.html"] ∧
      linksAll (clearFragmentsAll nestedLinks.children) = ["Item.html", "../q/Other.html"] ∧
      (∃ ts, lexElement "p" nestedLinks = .ok ts ∧
        ts.filterMap Token.ref? = ["p.Item", "q.Other"]) ∧
      lexElement "p" nestedLinks.hollow = lexElement "p" nestedLinks := by
  have hequals : '=' ∉ unlinkedTextAll nestedLinks.children := by decide +kernel
  have hlinks : linksAll nestedLinks.children = ["Item.html", "mailto:z", "../q/Other.html"] := by
    decide +kernel
  have hreached : linksAll (clearFragmentsAll nestedLinks.children) =
      ["Item.html", "../q/Other.html"] := by decide +kernel
  have hitem : resolveLink "p" "Item.html" = .ok "p.Item" := by decide +kernel
  have hother : resolveLink "p" "../q/Other.html" = .ok "q.Other" := by decide +kernel
  obtain ⟨hiff, hrefs, -, hinside⟩ := @lexElement_links "p" nestedLinks hequals
  rw [hreached] at hiff hrefs
  obtain ⟨ts, hts⟩ := hiff.mpr (by simp [hitem, hother])
  refine ⟨hequals, hlinks, hreached, ⟨ts, hts, ?_⟩, hinside nestedLinks.hollow rfl⟩
  simpa [List.forall₂_cons_left_iff, hitem, hother, eq_comm] using (hrefs ts hts).1

/-- A declaration with its type in a template. -/
def templateLink (href : String) : Html.Node :=
  .element "pre" []
    [.text "public ",
      .element "template" [] [.fragment [.element "a" [("href", href)] [.text "Item"]]],
      .text " x"]

/-- The one outermost link is lost where it leads to a type, and is not noticed where it leads
nowhere. -/
theorem lexElement_templateLink :
    '=' ∉ unlinkedTextAll (templateLink "Item.html").children ∧
      linksAll (templateLink "Item.html").children = ["Item.html"] ∧
      resolveLink "p" "Item.html" = .ok "p.Item" ∧
      lexElement "p" (templateLink "Item.html") = .ok [.word "public", .word "x"] ∧
      '=' ∉ unlinkedTextAll (templateLink "mailto:z").children ∧
      linksAll (templateLink "mailto:z").children = ["mailto:z"] ∧
      (resolveLink "p" "mailto:z").isOk = false ∧
      lexElement "p" (templateLink "mailto:z") = .ok [.word "public", .word "x"] := by
  decide +kernel

end

end ApiDoc
