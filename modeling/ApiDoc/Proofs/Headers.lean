import ApiDoc.Proofs.RoundTrip
import ApiDoc.Proofs.TypeTexts
import ApiDoc.Proofs.WellFormed

/-!
# Printed class headers read back

A printed header is cut into a head without clauses, a clause behind `extends` and one behind
`implements` (`tokenize_printHeader`).  The words of the clauses occur nowhere else, so each clause
is found again with exactly its types (`headerClause_first`, `headerClause_second`), and the kind is
told by the keywords in the head.  An interface has its superinterfaces behind `extends` and no
parent, a class at most one type there, so kind, parent and interfaces of a model are read back from
its header (`printed_headers_read_back`).
-/

namespace ApiDoc

variable {package : String}

/-! ## Types that are the same on every page -/

/-- A type whose name is dotted or primitive. -/
structure TypeRef.IsAbsolute (t : TypeRef) : Prop where
  isRead : t.IsRead
  qualified : isPrimitiveName t.name = true ∨ '.' ∈ t.name.toList

instance : DecidablePred TypeRef.IsAbsolute := fun t =>
  decidable_of_iff (t.IsRead ∧ (TypeRef.isPrimitiveName t.name = true ∨ '.' ∈ t.name.toList))
    ⟨fun h => ⟨h.1, h.2⟩, fun h => ⟨h.isRead, h.qualified⟩⟩

theorem TypeRef.IsAbsolute.completeName {t : TypeRef} (h : t.IsAbsolute) (package : String) :
    CompleteName package t.name := by
  have hprimitives : ∀ w ∈ primitives, isReserved w = false := by decide
  refine ⟨isRead_iff.mp h.isRead, ?_, .inr h.qualified⟩
  rcases h.qualified with hp | hd
  · exact hprimitives _ (List.contains_iff_mem.mp hp)
  · exact not_reserved_of_dot hd

/-! ## Clauses -/

/-- The tokens of types with commas between them. -/
def tokensOfTypes (types : List TypeRef) : List Token :=
  [.word ","].intercalate (types.map TypeRef.tokens)

/-- A reserved word is no token of a type, unless it is the name of the type. -/
theorem not_mem_typeTokens {t : TypeRef} (h : isReserved t.name = false) {w : String}
    (hw : isReserved w = true) : .word w ∉ t.tokens := by
  have hbrackets : isReserved "[]" = false := by decide
  intro hmem
  rcases List.mem_cons.mp hmem with hmem | hmem
  · rw [Token.word.inj hmem, h] at hw
    cases hw
  · rw [Token.word.inj (List.eq_of_mem_replicate hmem), hbrackets] at hw
    cases hw

/-- A reserved word occurs in no list of types. -/
theorem not_mem_tokensOfTypes {types : List TypeRef} (h : ∀ t ∈ types, CompleteName package t.name)
    {w : String} (hw : isReserved w = true) : .word w ∉ tokensOfTypes types := by
  have hcomma : isReserved "," = false := by decide
  intro hmem
  rcases mem_intercalate hmem with hmem | ⟨ts, hts, hmem⟩
  · rw [Token.word.inj hmem, hcomma] at hw
    cases hw
  · obtain ⟨t, ht, rfl⟩ := List.mem_map.mp hts
    exact not_mem_typeTokens (h t ht).not_reserved hw hmem

/-- Types are read back from their tokens. -/
theorem listOfTokens_tokensOfTypes {types : List TypeRef}
    (h : ∀ t ∈ types, CompleteName package t.name) :
    TypeRef.listOfTokens package (tokensOfTypes types) = .ok types := by
  have hgroups : ((tokensOfTypes types).splitOnP (·.isWord ",")).filter (fun g => !g.isEmpty) =
      types.map TypeRef.tokens := by
    by_cases hne : types = []
    · subst hne
      rfl
    · have hcomma : ∀ ts ∈ types.map TypeRef.tokens, Token.word "," ∉ ts := by
        intro ts hts hmem
        obtain ⟨t, ht, rfl⟩ := List.mem_map.mp hts
        rcases List.mem_cons.mp hmem with hmem | hmem
        · have hname := (h t ht).isTypeName
          rw [← Token.word.inj hmem] at hname
          exact absurd hname (by decide +kernel)
        · exact absurd (List.eq_of_mem_replicate hmem) (by decide)
      have hsplit := List.splitOn_intercalate (Token.word ",") hcomma (by simpa using hne)
      have hfull : ∀ ts ∈ types.map TypeRef.tokens, (!ts.isEmpty) = true := by
        intro ts hts
        obtain ⟨t, -, rfl⟩ := List.mem_map.mp hts
        rfl
      show (List.splitOn (Token.word ",") (tokensOfTypes types)).filter _ = _
      rw [tokensOfTypes, hsplit, List.filter_eq_self.mpr hfull]
  unfold TypeRef.listOfTokens
  rw [hgroups, mapM_eq_ok_iff, List.forall₂_map_left_iff, List.forall₂_same]
  intro t ht
  exact TypeRef.ofTokens_tokens (h t ht)

theorem head?_tokensOfClause {keyword : String} {types : List TypeRef} :
    ∀ t ∈ (tokensOfClause keyword types).head?, t = .word keyword := by
  intro t ht
  unfold tokensOfClause at ht
  split at ht
  · cases ht
  · exact (Option.some.inj ht).symm

theorem not_isWord_of_not_mem {w : String} {ts : List Token} (h : .word w ∉ ts) :
    ∀ t ∈ ts, t.isWord w = false := by
  intro t ht
  rw [Bool.eq_false_iff]
  intro hw
  exact h (Token.isWord_iff.mp hw ▸ ht)

theorem any_isWord_iff {w : String} {ts : List Token} :
    ts.any (·.isWord w) = true ↔ .word w ∈ ts := by
  simp only [List.any_eq_true, Token.isWord_iff, exists_eq_right]

/-- A clause that begins with the first `keyword` ends where the other begins, or at the end. -/
theorem headerClause_first_eq {keyword other : String} {head types rest : List Token}
    (hkeyword : .word keyword ∉ head) (hother : .word other ∉ head) (htypes : .word other ∉ types)
    (hrest : ∀ t ∈ rest.head?, t = .word other) :
    headerClause keyword other (head ++ .word keyword :: (types ++ rest)) = types := by
  have hany : head.any (·.isWord other) = false := Bool.eq_false_iff.mpr (mt any_isWord_iff.mp hother)
  unfold headerClause
  rw [cutAtWord?_eq_some_iff.mpr ⟨rfl, hkeyword⟩]
  simp only [hany, Bool.false_eq_true, if_false]
  refine Text.takeWhile_append_of_head (fun t ht => ?_) fun t ht => ?_
  · rw [not_isWord_of_not_mem htypes t ht]
    rfl
  · rw [Token.isWord_iff.mpr (hrest t ht)]
    rfl

/-- A clause behind which the other does not begin goes to the end. -/
theorem headerClause_last_eq {keyword other : String} {front types : List Token}
    (hkeyword : .word keyword ∉ front) (htypes : .word other ∉ types) :
    headerClause keyword other (front ++ .word keyword :: types) = types := by
  have htake : types.takeWhile (fun t => !t.isWord other) = types :=
    List.takeWhile_eq_self_iff.mpr fun t ht => by simp [not_isWord_of_not_mem htypes t ht]
  unfold headerClause
  rw [cutAtWord?_eq_some_iff.mpr ⟨rfl, hkeyword⟩]
  simp only [htake, ite_self]

theorem headerClause_of_not_mem {keyword other : String} {ts : List Token}
    (h : .word keyword ∉ ts) : headerClause keyword other ts = [] := by
  unfold headerClause
  rw [cutAtWord?_eq_none_iff.mpr h]

theorem not_mem_tokensOfClause {w keyword : String} {types : List TypeRef} (hne : w ≠ keyword)
    (h : .word w ∉ tokensOfTypes types) : .word w ∉ tokensOfClause keyword types := by
  unfold tokensOfClause
  split
  · exact List.not_mem_nil
  · exact List.not_mem_cons_of_ne_of_not_mem (fun e => hne (Token.word.inj e)) h

section
variable {head : List Token} {types others : List TypeRef} {keyword other : String}
  (hne : keyword ≠ other) (hother : .word other ∉ head)
  (htypes : .word other ∉ tokensOfTypes types) (hothers : .word keyword ∉ tokensOfTypes others)

include hne hother htypes hothers

/-- The first of two clauses ends where the second begins. -/
theorem headerClause_first (hkeyword : .word keyword ∉ head) :
    headerClause keyword other
      (head ++ (tokensOfClause keyword types ++ tokensOfClause other others)) =
        tokensOfTypes types := by
  cases types with
  | nil =>
    have hnot : .word keyword ∉ head ++ tokensOfClause other others := by
      intro hmem
      rcases List.mem_append.mp hmem with hmem | hmem
      · exact hkeyword hmem
      · exact not_mem_tokensOfClause hne hothers hmem
    exact headerClause_of_not_mem hnot
  | cons t r => exact headerClause_first_eq hkeyword hother htypes head?_tokensOfClause

/-- The second of two clauses goes to the end. -/
theorem headerClause_second :
    headerClause other keyword
      (head ++ (tokensOfClause keyword types ++ tokensOfClause other others)) =
        tokensOfTypes others := by
  have hnot : .word other ∉ head ++ tokensOfClause keyword types := by
    intro hmem
    rcases List.mem_append.mp hmem with hmem | hmem
    · exact hother hmem
    · exact not_mem_tokensOfClause hne.symm htypes hmem
  rw [← List.append_assoc]
  cases others with
  | nil =>
    rw [show tokensOfClause other [] = [] from rfl, List.append_nil]
    exact headerClause_of_not_mem hnot
  | cons t r => exact headerClause_last_eq hnot hothers

end

/-! ## Heads -/

/-- The keywords of a kind as tokens. -/
def ClassKind.tokens : ClassKind → List Token
  | .interface => [.word "interface"]
  | .regular => [.word "class"]
  | .final => [.word "final", .word "class"]
  | .abstract => [.word "abstract", .word "class"]

/-- The words of a header besides names. -/
def headerWords : List String :=
  ["public", "interface", "class", "final", "abstract", "extends", "implements"]

theorem spells_headerWord {w : String} (hw : w ∈ headerWords) : Spells w.toList [.word w] := by
  have hwords : ∀ w ∈ headerWords, w ≠ "" ∧ w.toList.all Text.isNameChar = true := by
    decide +kernel
  exact spells_name (hwords w hw)

theorem ClassKind.spells_keywords (k : ClassKind) : Spells k.keywords.toList k.tokens := by
  have hclass : Spells "class".toList [.word "class"] := spells_headerWord (by decide)
  cases k with
  | interface => exact spells_headerWord (by decide)
  | regular => exact hclass
  | final => exact (spells_headerWord (w := "final") (by decide)).append_blank hclass
  | abstract => exact (spells_headerWord (w := "abstract") (by decide)).append_blank hclass

/-- What is printed in front of the clauses. -/
def headTokens (kind : ClassKind) (name : TypeRef) : List Token :=
  .word "public" :: (kind.tokens ++ name.tokens)

/-- A reserved word in a head is one of its keywords. -/
theorem mem_headTokens_iff {kind : ClassKind} {name : TypeRef} (h : isReserved name.name = false)
    {w : String} (hw : isReserved w = true) :
    .word w ∈ headTokens kind name ↔ .word w ∈ .word "public" :: kind.tokens := by
  unfold headTokens
  rw [← List.cons_append, List.mem_append, or_iff_left (not_mem_typeTokens h hw)]

/-- The head goes up to the clause that begins first. -/
theorem headerHead_append {head rest : List Token} (hextends : .word "extends" ∉ head)
    (himplements : .word "implements" ∉ head)
    (hrest : ∀ t ∈ rest.head?, t = .word "extends" ∨ t = .word "implements") :
    headerHead (head ++ rest) = head := by
  refine Text.takeWhile_append_of_head (fun t ht => ?_) fun t ht => ?_
  · rw [not_isWord_of_not_mem hextends t ht, not_isWord_of_not_mem himplements t ht]
    rfl
  · rcases hrest t ht with rfl | rfl <;> rfl

theorem headerKind_tokens {kind : ClassKind} {name : TypeRef} (h : isReserved name.name = false) :
    headerKind (headTokens kind name) = kind := by
  have hany : ∀ w, isReserved w = true → (headTokens kind name).any (·.isWord w) =
      (Token.word "public" :: kind.tokens).any (·.isWord w) := by
    intro w hw
    rw [Bool.eq_iff_iff, any_isWord_iff, any_isWord_iff]
    exact mem_headTokens_iff h hw
  unfold headerKind
  rw [hany "interface" (by decide), hany "final" (by decide), hany "abstract" (by decide)]
  cases kind <;> decide

/-! ## Headers -/

/-- The header that a head and the types behind both keywords make: an interface has all of them, a
class extends one type at most. -/
inductive MakesHeader (head : List Token) (supertypes interfaces : List TypeRef) :
    ClassHeader → Prop
  | ofInterface {kind : ClassKind} (hkind : headerKind head = kind)
    (hinterface : kind.isInterface = true) : MakesHeader head supertypes interfaces
      ⟨kind, headerName? head, none, supertypes ++ interfaces⟩
  | ofClass {kind : ClassKind} (hkind : headerKind head = kind) (hclass : kind.isInterface = false)
    (hone : supertypes.length ≤ 1) : MakesHeader head supertypes interfaces
      ⟨kind, headerName? head, supertypes.head?.filter (!·.isRoot), interfaces⟩

/-- A header is read exactly if the types of its clauses are, and made of them and its head. -/
theorem readClassHeader_eq_ok_iff {ts : List Token} (hne : ts ≠ []) {h : ClassHeader} :
    readClassHeader ts package = .ok h ↔ ∃ supertypes interfaces,
      TypeRef.listOfTokens package (headerClause "extends" "implements" ts) = .ok supertypes ∧
      TypeRef.listOfTokens package (headerClause "implements" "extends" ts) = .ok interfaces ∧
      MakesHeader (headerHead ts) supertypes interfaces h := by
  have hempty : ts.isEmpty = false := by rwa [List.isEmpty_eq_false_iff]
  unfold readClassHeader
  simp only [hempty, Bool.false_eq_true, if_false, Except.bind_eq_ok_iff]
  constructor
  · rintro ⟨supertypes, hsupertypes, interfaces, hinterfaces, hmade⟩
    refine ⟨supertypes, interfaces, hsupertypes, hinterfaces, ?_⟩
    split at hmade
    · next hkind =>
      cases hmade
      exact .ofInterface rfl hkind
    · next hkind =>
      split at hmade
      · cases hmade
      · next hone =>
        cases hmade
        exact .ofClass rfl (Bool.eq_false_iff.mpr hkind) (Nat.not_lt.mp hone)
  · rintro ⟨supertypes, interfaces, hsupertypes, hinterfaces, hmade⟩
    refine ⟨supertypes, hsupertypes, interfaces, hinterfaces, ?_⟩
    cases hmade with
    | ofInterface hkind hinterface =>
      subst hkind
      rw [if_pos hinterface]
      rfl
    | ofClass hkind hclass hone =>
      subst hkind
      rw [if_neg (by simp [hclass]), if_neg (Nat.not_lt.mpr hone)]
      rfl

/-- A printed header is read as its kind and the types of its clauses, where a class extends one type
at most. -/
theorem readClassHeader_tokens {kind : ClassKind} {name : TypeRef}
    {extended implemented : List TypeRef} (hname : isReserved name.name = false)
    (hextended : ∀ t ∈ extended, CompleteName package t.name)
    (himplemented : ∀ t ∈ implemented, CompleteName package t.name)
    (hone : kind.isInterface = false → extended.length ≤ 1) :
    ∃ word, readClassHeader (headTokens kind name ++ (tokensOfClause "extends" extended ++
      tokensOfClause "implements" implemented)) package =
        .ok ⟨kind, word, if kind.isInterface then none else extended.head?.filter (!·.isRoot),
          if kind.isInterface then extended ++ implemented else implemented⟩ := by
  have hhead : ∀ w ∈ ["extends", "implements"], .word w ∉ headTokens kind name := by
    intro w hw
    have hreserved : ∀ w ∈ ["extends", "implements"], isReserved w = true := by decide
    rw [mem_headTokens_iff hname (hreserved w hw)]
    revert w
    cases kind <;> decide
  have hextends := hhead "extends" (by simp)
  have himplements := hhead "implements" (by simp)
  have htypes := not_mem_tokensOfTypes hextended (w := "implements") (by decide)
  have hothers := not_mem_tokensOfTypes himplemented (w := "extends") (by decide)
  have hfirst := headerClause_first (by decide) himplements htypes hothers hextends
  have hsecond := headerClause_second (by decide) himplements htypes hothers
  have hclauses : ∀ t ∈ (tokensOfClause "extends" extended ++
      tokensOfClause "implements" implemented).head?, t = .word "extends" ∨ t = .word "implements" := by
    intro t ht
    rw [List.head?_append] at ht
    rcases Option.or_eq_some_iff.mp ht with ht | ⟨-, ht⟩
    · exact .inl (head?_tokensOfClause t ht)
    · exact .inr (head?_tokensOfClause t ht)
  refine ⟨headerName? (headTokens kind name), (readClassHeader_eq_ok_iff (by simp [headTokens])).mpr
    ⟨extended, implemented, ?_, ?_, ?_⟩⟩
  · rw [hfirst, listOfTokens_tokensOfTypes hextended]
  · rw [hsecond, listOfTokens_tokensOfTypes himplemented]
  · rw [headerHead_append hextends himplements hclauses]
    cases hk : kind.isInterface with
    | true => exact .ofInterface (headerKind_tokens hname) hk
    | false => exact .ofClass (headerKind_tokens hname) hk (hone hk)

/-- A clause is printed with a blank in front, if it is printed. -/
theorem isBlank_head?_printClause {keyword : String} {types : List TypeRef} :
    ∀ c ∈ (printClause keyword types).toList.head?, Text.isBlank c = true := by
  intro c hc
  unfold printClause at hc
  split at hc
  · cases hc
  · have hlist : ∀ s : String, (" " ++ keyword ++ " " ++ s).toList =
        ' ' :: (keyword ++ " " ++ s).toList := by
      simp [String.toList_append]
    rw [hlist] at hc
    cases hc
    rfl

/-- The header of a model is printed as its head and its two clauses. -/
theorem tokenize_printHeader {m : ClassModel} {t : TypeRef}
    (ht : TypeRef.parse? m.fullName = some t)
    (hparent : ∀ u ∈ m.parent.toList, CompleteName package u.name)
    (himplements : ∀ u ∈ m.implements.toList, CompleteName package u.name) :
    tokenize m.printHeader = headTokens m.kind t ++ (tokensOfClause "extends" m.parent.toList ++
      tokensOfClause (if m.isInterface then "extends" else "implements") m.implements.toList) := by
  have hpublic : Spells "public".toList [.word "public"] := spells_headerWord (by decide)
  have hkind := m.kind.spells_keywords
  have hfirst := spells_clause (spells_headerWord (w := "extends") (by decide)) hparent
  have hkeyword : (if m.isInterface then "extends" else "implements") ∈ headerWords := by
    split <;> decide
  have hsecond := spells_clause (spells_headerWord hkeyword) himplements
  have hlist : m.printHeader.toList = ("public".toList ++ ' ' :: (m.kind.keywords.toList ++ ' ' ::
      m.fullName.toList)) ++ (printClause "extends" m.parent.toList).toList ++
        (printClause (if m.isInterface then "extends" else "implements")
          m.implements.toList).toList := by
    simp [ClassModel.printHeader, String.toList_append]
  have hequals : '=' ∉ m.printHeader.toList := by
    have hname : '=' ∉ m.fullName.toList := TypeRef.not_mem_of_parse? ht '=' (by simp)
    rw [hlist]
    simp only [List.mem_append, List.mem_cons, not_or]
    exact ⟨⟨⟨fun h => (hpublic.plain _ h).1 rfl, by decide, fun h => (hkind.plain _ h).1 rfl,
      by decide, hname⟩, fun h => (hfirst.plain _ h).1 rfl⟩, fun h => (hsecond.plain _ h).1 rfl⟩
  rw [tokenize_of_not_mem hequals, hlist, wordTokens_append_of_head _ isBlank_head?_printClause,
    wordTokens_append_of_head _ isBlank_head?_printClause, wordTokens_append_blank rfl,
    wordTokens_append_blank rfl, hpublic.tokens, hkind.tokens, TypeRef.wordTokens_of_parse? ht,
    hfirst.tokens, hsecond.tokens, List.append_assoc]
  rfl

/-- The printed header of a model is read back on the pages of every package: its kind, its parent
and the set of its interfaces. -/
theorem printed_headers_read_back {m : ClassModel} (hm : m.Reachable) {t : TypeRef}
    (ht : TypeRef.parse? m.fullName = some t) (hname : isReserved t.name = false)
    (hparent : ∀ u ∈ m.parent, u.IsAbsolute) (himplements : ∀ u ∈ m.implements, u.IsAbsolute)
    (package : String) :
    ∃ h, readClassHeader (tokenize m.printHeader) package = .ok h ∧ h.kind = m.kind ∧
      h.parent = m.parent ∧ OrderedSet.ofList h.implements = m.implements := by
  have hparent : ∀ u ∈ m.parent.toList, CompleteName package u.name := fun u hu =>
    (hparent u (Option.mem_toList.mp hu)).completeName package
  have himplements : ∀ u ∈ m.implements.toList, CompleteName package u.name := fun u hu =>
    (himplements u hu).completeName package
  have hwf := hm.wellFormed
  rw [tokenize_printHeader ht hparent himplements]
  cases hi : m.kind.isInterface with
  | true =>
    -- the superinterfaces stand behind `extends`, where a class has its parent
    have hnone : m.parent = none := hwf.parent_of_isInterface hi
    have hkeyword : (if m.isInterface then "extends" else "implements") = "extends" := if_pos hi
    have htokens : headTokens m.kind t ++ (tokensOfClause "extends" m.parent.toList ++
        tokensOfClause "extends" m.implements.toList) = headTokens m.kind t ++
          (tokensOfClause "extends" m.implements.toList ++ tokensOfClause "implements" []) := by
      rw [hnone]
      simp [tokensOfClause]
    obtain ⟨word, hread⟩ := @readClassHeader_tokens package m.kind t _ [] hname himplements
      (List.forall_mem_nil _) (by simp [hi])
    rw [hi, if_pos rfl, if_pos rfl, List.append_nil] at hread
    rw [hkeyword, htokens]
    exact ⟨_, hread, rfl, hnone.symm, OrderedSet.ofList_toList _⟩
  | false =>
    have hkeyword : (if m.isInterface then "extends" else "implements") = "implements" :=
      if_neg (by simp [ClassModel.isInterface, hi])
    have hone : m.parent.toList.length ≤ 1 := by cases m.parent <;> simp
    have hfilter : m.parent.toList.head?.filter (!·.isRoot) = m.parent := by
      cases hp : m.parent with
      | none => rfl
      | some u => simp [hwf.parent_not_root u hp]
    obtain ⟨word, hread⟩ := @readClassHeader_tokens package m.kind t _ _ hname hparent
      himplements fun _ => hone
    rw [hi, if_neg Bool.false_ne_true, if_neg Bool.false_ne_true, hfilter] at hread
    rw [hkeyword]
    exact ⟨_, hread, rfl, rfl, OrderedSet.ofList_toList _⟩

/-- A class with a parent and interfaces, one of them an array. -/
def dequeDecl : ClassDecl where
  package := "p.q"
  name := "Deque"
  kind := .final
  parent := some (.ofName "p.Base")
  implements := [.ofName "r.Walk", ⟨"int", 4, by decide⟩, .ofName "r.Copy"]
  fields := []
  constructors := []
  methods := []

/-- An interface of no package that declares a parent, which becomes one of its superinterfaces. -/
def walkDecl : ClassDecl where
  package := ""
  name := "Walk"
  kind := .interface
  parent := some (.ofName "r.Step")
  implements := [.ofName "r.Copy"]
  fields := []
  constructors := []
  methods := []

/-- The headers of a class and of an interface, read back on the pages of another package. -/
theorem printed_headers_read_back_of_deque :
    (dequeDecl.freeze none).printHeader =
        "public final class p.q.Deque extends p.Base implements int[][][][], r.Copy, r.Walk" ∧
      (∃ h, readClassHeader (tokenize (dequeDecl.freeze none).printHeader) "s" = .ok h ∧
        h.kind = .final ∧ h.parent = some (.ofName "p.Base") ∧
        OrderedSet.ofList h.implements = (dequeDecl.freeze none).implements) ∧
      (walkDecl.freeze none).printHeader = "public interface Walk extends r.Copy, r.Step" ∧
      ∃ h, readClassHeader (tokenize (walkDecl.freeze none).printHeader) "s" = .ok h ∧
        h.kind = .interface ∧ h.parent = none ∧
        OrderedSet.ofList h.implements = (walkDecl.freeze none).implements := by
  have hdeque : TypeRef.parse? (dequeDecl.freeze none).fullName = some (.ofName "p.q.Deque") := by
    decide +kernel
  have hwalk : TypeRef.parse? (walkDecl.freeze none).fullName = some (.ofName "Walk") := by
    decide +kernel
  have hparent : ∀ u ∈ (dequeDecl.freeze none).parent, u.IsAbsolute := by decide +kernel
  have hdequeTypes : ∀ u ∈ (dequeDecl.freeze none).implements.toList, u.IsAbsolute := by
    decide +kernel
  have hwalkTypes : ∀ u ∈ (walkDecl.freeze none).implements.toList, u.IsAbsolute := by
    decide +kernel
  exact ⟨by decide +kernel,
    printed_headers_read_back (.freeze _ _) hdeque (by decide) hparent hdequeTypes "s",
    by decide +kernel,
    printed_headers_read_back (.freeze _ _) hwalk (by decide) (by rintro u ⟨⟩) hwalkTypes "s"⟩

end ApiDoc
