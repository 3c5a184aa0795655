import ApiDoc.Page
import ApiDoc.Proofs.Positions
import ApiDoc.Proofs.Results

/-!
# The sections of a page

A page is read in three scans, one for each section: from the anchor of the section on, up to an anchor
at which it ends, the first `pre` behind each `h3`.  On a page on which the anchors stand in order
(`IsDivided`) the scans take each declaration once, in the section whose anchor is the last one in front
of it (`Section.IsBlockAt`).

First a scan is told by the places of the elements it finds (`sectionBlocks_eq_filter`), then the places
by those of the anchors (`IsDivided.isBlockAt_iff`).  What is read from the declarations follows from the
traversal of one section (`readSection_eq_ok_iff`, `readSection_eq_error_iff`).
-/

namespace ApiDoc

open Html (Node)

variable {α : Type}

/-! ## Names and anchors -/

theorem Html.Node.hasName_of_ne {n : Node} {a b : String} (h : n.hasName a = true) (hab : a ≠ b) :
    n.hasName b = false := by
  rw [Node.hasName, beq_iff_eq] at h
  simp [Node.hasName, h, hab]

/-- An anchor is an `a` or a `p`. -/
theorem Html.Node.isAnchor_eq_false {n : Node} {name : String} (h : n.hasName name = true)
    (ha : name ≠ "a") (hp : name ≠ "p") (anchor : String) : n.isAnchor anchor = false := by
  cases n with
  | element name' attributes children =>
    obtain rfl : name' = name := by simpa [Node.hasName, Node.name?] using h
    simp [Node.isAnchor, ha, hp]
  | text _ => rfl
  | comment _ => rfl
  | fragment _ => rfl

theorem not_isAt_anchor_of_pre {body : List Node} {i : Nat} (h : IsAt (·.hasName "pre") body i)
    (anchor : String) : ¬IsAt (·.isAnchor anchor) body i := by
  obtain ⟨x, hx, rfl, hpre⟩ := isAt_iff.mp h
  rw [isAt_of_mem hx, Node.isAnchor_eq_false hpre (by decide) (by decide)]
  exact Bool.false_ne_true

/-! ## Blocks behind headings -/

/-- A `pre` is looked for at the place of an element: the last `h3` in front of it, or the start of the list
if one is awaited there, has no `pre` behind it yet. -/
def IsAwaited (l : List (Node × Nat)) (awaited : Bool) (i : Nat) : Prop :=
  (awaited = true ∧ ∀ y ∈ l, y.2 < i → y.1.hasName "pre" = false) ∨
    ∃ h ∈ l, h.2 < i ∧ h.1.hasName "h3" = true ∧
      ∀ y ∈ l, h.2 < y.2 → y.2 < i → y.1.hasName "pre" = false

instance (l : List (Node × Nat)) (awaited : Bool) (i : Nat) : Decidable (IsAwaited l awaited i) :=
  inferInstanceAs (Decidable (_ ∨ _))

section
variable {a : Node × Nat} {r : List (Node × Nat)} (ha : ∀ y ∈ r, a.2 < y.2) (awaited : Bool)
include ha

theorem isAwaited_cons_self : IsAwaited (a :: r) awaited a.2 ↔ awaited = true := by
  have hfirst : ∀ y ∈ a :: r, ¬y.2 < a.2 := by
    intro y hy
    rcases List.mem_cons.mp hy with rfl | hy
    · exact Nat.lt_irrefl _
    · exact Nat.lt_asymm (ha y hy)
  constructor
  · rintro (⟨h, -⟩ | ⟨y, hy, hlt, -⟩)
    · exact h
    · exact absurd hlt (hfirst y hy)
  · intro h
    exact .inl ⟨h, fun y hy hlt => absurd hlt (hfirst y hy)⟩

/-- An `h3` sets what is awaited behind it, a `pre` takes it back. -/
theorem isAwaited_cons_of_mem {x : Node × Nat} (hx : x ∈ r) : IsAwaited (a :: r) awaited x.2 ↔
    IsAwaited r (a.1.hasName "h3" || awaited && !a.1.hasName "pre") x.2 := by
  have hax := ha x hx
  simp only [IsAwaited, List.forall_mem_cons, List.exists_mem_cons_iff, Bool.or_eq_true, Bool.and_eq_true,
    Bool.not_eq_true']
  grind

end

theorem declarationBlocks_cons (awaited : Bool) (n : Node) (r : List Node) :
    declarationBlocks awaited (n :: r) = (if n.hasName "pre" && awaited then [n] else []) ++
      declarationBlocks (n.hasName "h3" || awaited && !n.hasName "pre") r := by
  rw [declarationBlocks]
  by_cases h3 : n.hasName "h3" = true
  · have hpre : n.hasName "pre" = false := Node.hasName_of_ne h3 (by decide)
    simp [h3, hpre]
  · cases awaited
    · simp [h3]
    · by_cases hpre : n.hasName "pre" = true
      · simp [h3, hpre]
      · simp [h3, hpre]

theorem declarationBlocks_eq_filter {l : List (Node × Nat)} (hl : Ascending l) (awaited : Bool) :
    declarationBlocks awaited (l.map (·.1)) =
      (l.filter fun x => x.1.hasName "pre" && decide (IsAwaited l awaited x.2)).map (·.1) := by
  induction l generalizing awaited with
  | nil => rfl
  | cons a r ih =>
    obtain ⟨ha, hr⟩ := List.pairwise_cons.mp hl
    have hself : decide (IsAwaited (a :: r) awaited a.2) = awaited := by
      rw [Bool.eq_iff_iff, decide_eq_true_iff]
      exact isAwaited_cons_self ha awaited
    have hrest : (r.filter fun x => x.1.hasName "pre" && decide (IsAwaited (a :: r) awaited x.2)) =
        r.filter fun x => x.1.hasName "pre" &&
          decide (IsAwaited r (a.1.hasName "h3" || awaited && !a.1.hasName "pre") x.2) := by
      refine List.filter_congr fun x hx => ?_
      rw [decide_eq_decide.mpr (isAwaited_cons_of_mem ha awaited hx)]
    rw [List.map_cons, declarationBlocks_cons, ih hr, List.filter_cons, hself, hrest]
    split <;> rfl

/-! ## Scans of a section -/

namespace Section

/-- All sections, in page order. -/
def all : List Section := [field, constructor, method]

/-- The number of sections in front of a section. -/
def rank : Section → Nat
  | field => 0
  | constructor => 1
  | method => 2

theorem mem_all (s : Section) : s ∈ all := by cases s <;> decide

/-- A section ends at the anchors of the sections behind it and at the bottom. -/
theorem mem_stops {s : Section} {a : String} (h : a ∈ s.stops) :
    (∃ other ∈ all, a = other.anchor) ∨ a = navigationAnchor := by
  revert a
  cases s <;> decide

/-- Of two sections one ends at the anchor of the other. -/
theorem stops_trichotomy (s other : Section) :
    other.anchor ∈ s.stops ∨ other = s ∨ s.anchor ∈ other.stops := by
  cases s <;> cases other <;> decide

/-- The element at a place lies in a section: it is behind the anchor of the section, with none at which the
section ends on the way. -/
def IsInside (s : Section) : List Node → Nat → Prop :=
  IsBetween (·.isAnchor s.anchor) fun n => s.stops.any n.isAnchor

instance (s : Section) (body : List Node) (i : Nat) : Decidable (s.IsInside body i) :=
  inferInstanceAs (Decidable (IsBetween _ _ _ _))

theorem isAt_stops_iff {s : Section} {body : List Node} {j : Nat} :
    IsAt (fun n => s.stops.any n.isAnchor) body j ↔ ∃ a ∈ s.stops, IsAt (·.isAnchor a) body j := by
  simp only [isAt_iff, List.any_eq_true]
  constructor
  · rintro ⟨x, hx, hj, a, ha, hanchor⟩
    exact ⟨a, ha, x, hx, hj, hanchor⟩
  · rintro ⟨a, ha, x, hx, hj, hanchor⟩
    exact ⟨x, hx, hj, a, ha, hanchor⟩

end Section

theorem sectionElements_eq_itemsAt (s : Section) (body : List Node) :
    sectionElements s body = itemsAt (s.IsInside body) body :=
  takeWhile_drop_dropWhile_eq_itemsAt _ _ _

theorem isAwaited_filter_iff {P : Nat → Prop} [DecidablePred P] {body : List Node} {i : Nat} :
    IsAwaited (body.zipIdx.filter fun x => P x.2) false i ↔
      ∃ h < i, P h ∧ IsAt (·.hasName "h3") body h ∧
        ∀ j < i, h < j → P j → ¬IsAt (·.hasName "pre") body j := by
  simp only [IsAwaited, Bool.false_eq_true, false_and, false_or, List.mem_filter, decide_eq_true_iff]
  constructor
  · rintro ⟨x, ⟨hx, hP⟩, hlt, h3, hnone⟩
    refine ⟨x.2, hlt, hP, (isAt_of_mem hx).mpr h3, fun j hj hbetween hPj hpre => ?_⟩
    obtain ⟨y, hy, rfl, hname⟩ := isAt_iff.mp hpre
    rw [hnone y ⟨hy, hPj⟩ hbetween hj] at hname
    cases hname
  · rintro ⟨h, hlt, hP, h3, hnone⟩
    obtain ⟨x, hx, rfl, hname⟩ := isAt_iff.mp h3
    refine ⟨x, ⟨hx, hP⟩, hlt, hname, fun y hy hbetween hlt => ?_⟩
    rw [← Bool.not_eq_true, ← isAt_of_mem (p := (·.hasName "pre")) hy.1]
    exact hnone y.2 hlt hbetween hy.2

/-- A scan finds what is in its section the first `pre` behind an `h3`. -/
theorem sectionBlocks_eq_filter (s : Section) (body : List Node) :
    sectionBlocks s body = (body.zipIdx.filter fun x => s.IsInside body x.2 ∧ x.1.hasName "pre" = true ∧
      ∃ h < x.2, s.IsInside body h ∧ IsAt (·.hasName "h3") body h ∧
        ∀ j < x.2, h < j → s.IsInside body j → ¬IsAt (·.hasName "pre") body j).map (·.1) := by
  rw [sectionBlocks, sectionElements_eq_itemsAt, itemsAt,
    declarationBlocks_eq_filter ((ascending_zipIdx body).filter _), List.filter_filter]
  refine congrArg _ (List.filter_congr fun x hx => ?_)
  rw [Bool.eq_iff_iff, decide_eq_true_iff, Bool.and_eq_true, Bool.and_eq_true, decide_eq_true_iff,
    decide_eq_true_iff, and_comm, isAwaited_filter_iff]

/-! ## Divided bodies -/

/-- The anchors that divide a body, in page order. -/
def dividingAnchors : List String := Section.all.map Section.anchor ++ [navigationAnchor]

/-- No dividing anchor is there twice, and those that are there stand on different elements, in order. -/
structure IsDivided (body : List Node) : Prop where
  unique : ∀ a ∈ dividingAnchors, ∀ i < body.length, IsAt (·.isAnchor a) body i →
    ∀ j < body.length, IsAt (·.isAnchor a) body j → i = j
  ordered : dividingAnchors.Pairwise fun a b => ∀ i < body.length, IsAt (·.isAnchor a) body i →
    ∀ j < body.length, IsAt (·.isAnchor b) body j → i < j

instance (body : List Node) : Decidable (IsDivided body) :=
  decidable_of_iff (_ ∧ _) ⟨fun h => ⟨h.1, h.2⟩, fun h => ⟨h.unique, h.ordered⟩⟩

/-- The element at a place is a declaration of a section: a `pre` that has the anchor of the section as the
last one of a section in front of it, no bottom navigation bar in front of it, and behind the anchor an `h3`
with no other `pre` between that and it. -/
def Section.IsBlockAt (s : Section) (body : List Node) (i : Nat) : Prop :=
  IsAt (·.hasName "pre") body i ∧
    ∃ k < i, IsAt (·.isAnchor s.anchor) body k ∧
      (∀ j < i, k < j → ∀ other ∈ Section.all, ¬IsAt (·.isAnchor other.anchor) body j) ∧
      (∀ j < i, ¬IsAt (·.isAnchor navigationAnchor) body j) ∧
      ∃ h < i, k < h ∧ IsAt (·.hasName "h3") body h ∧
        ∀ j < i, h < j → ¬IsAt (·.hasName "pre") body j

instance (s : Section) (body : List Node) (i : Nat) : Decidable (s.IsBlockAt body i) :=
  inferInstanceAs (Decidable (_ ∧ _))

namespace IsDivided

variable {body : List Node} (h : IsDivided body)
include h

theorem lt_of_stops {s : Section} {a : String} (ha : a ∈ s.stops) {i j : Nat}
    (hi : IsAt (·.isAnchor s.anchor) body i) (hj : IsAt (·.isAnchor a) body j) : i < j := by
  have ho := h.ordered
  simp only [dividingAnchors, Section.all, List.map, List.cons_append, List.nil_append,
    List.pairwise_cons] at ho
  cases s
  · exact ho.1 a ha i hi.lt_length hi j hj.lt_length hj
  · exact ho.2.1 a ha i hi.lt_length hi j hj.lt_length hj
  · exact ho.2.2.1 a ha i hi.lt_length hi j hj.lt_length hj

theorem eq_of_anchor {s : Section} {i j : Nat} (hi : IsAt (·.isAnchor s.anchor) body i)
    (hj : IsAt (·.isAnchor s.anchor) body j) : i = j :=
  h.unique s.anchor (by cases s <;> decide) i hi.lt_length hi j hj.lt_length hj

theorem isInside_iff {s : Section} {k i : Nat} (hk : IsAt (·.isAnchor s.anchor) body k) :
    s.IsInside body i ↔ k < i ∧ ∀ j ≤ i, k < j → ∀ a ∈ s.stops, ¬IsAt (·.isAnchor a) body j := by
  have hends : (∀ j ≤ i, k < j → ¬IsAt (fun n => s.stops.any n.isAnchor) body j) ↔
      ∀ j ≤ i, k < j → ∀ a ∈ s.stops, ¬IsAt (·.isAnchor a) body j := by
    simp only [Section.isAt_stops_iff, not_exists, not_and]
  rw [← hends]
  constructor
  · rintro ⟨k', hlt, hk', -, hnone⟩
    rw [h.eq_of_anchor hk' hk] at hlt hnone
    exact ⟨hlt, hnone⟩
  · rintro ⟨hlt, hnone⟩
    exact ⟨k, hlt, hk, fun j hj hmark => Nat.ne_of_lt hj (h.eq_of_anchor hmark hk), hnone⟩

theorem isBlockAt_iff {s : Section} {i : Nat} (hpre : IsAt (·.hasName "pre") body i) :
    s.IsBlockAt body i ↔ s.IsInside body i ∧
      ∃ h < i, s.IsInside body h ∧ IsAt (·.hasName "h3") body h ∧
        ∀ j < i, h < j → s.IsInside body j → ¬IsAt (·.hasName "pre") body j := by
  constructor
  · rintro ⟨-, k, hki, hk, hdetail, hbottom, g, hgi, hkg, h3, hnone⟩
    have hends : ∀ j < i, k < j → ∀ a ∈ s.stops, ¬IsAt (·.isAnchor a) body j := by
      intro j hj hkj a ha
      rcases Section.mem_stops ha with ⟨other, hother, rfl⟩ | rfl
      · exact hdetail j hj hkj other hother
      · exact hbottom j hj
    refine ⟨(h.isInside_iff hk).mpr ⟨hki, fun j hj hkj a ha => ?_⟩, g, hgi,
      (h.isInside_iff hk).mpr ⟨hkg, fun j hj => hends j (Nat.lt_of_le_of_lt hj hgi)⟩, h3,
      fun j hj hgj _ => hnone j hj hgj⟩
    rcases Nat.lt_or_eq_of_le hj with hj | rfl
    · exact hends j hj hkj a ha
    · exact not_isAt_anchor_of_pre hpre a
  · rintro ⟨hi, g, hgi, hg, h3, hnone⟩
    have ⟨k, hki, hk, _⟩ := hi
    rw [h.isInside_iff hk] at hi hg
    have hbetween : ∀ j < i, g < j → s.IsInside body j := fun j hj hgj =>
      (h.isInside_iff hk).mpr ⟨Nat.lt_trans hg.1 hgj, fun j' hj' =>
        hi.2 j' (Nat.le_trans hj' (Nat.le_of_lt hj))⟩
    refine ⟨hpre, k, hki, hk, fun j hj hkj other hother hmark => ?_, fun j hj hmark => ?_, g, hgi, hg.1, h3,
      fun j hj hgj => hnone j hj hgj (hbetween j hj hgj)⟩
    · rcases Section.stops_trichotomy s other with hstop | rfl | hstop
      · exact hi.2 j (Nat.le_of_lt hj) hkj _ hstop hmark
      · exact absurd (h.eq_of_anchor hk hmark) (Nat.ne_of_lt hkj)
      · exact absurd (h.lt_of_stops hstop hmark hk) (Nat.lt_asymm hkj)
    · have hstop : navigationAnchor ∈ s.stops := by cases s <;> decide
      exact hi.2 j (Nat.le_of_lt hj) (h.lt_of_stops hstop hk hmark) _ hstop hmark

/-- No element is a declaration of two sections. -/
theorem eq_of_isBlockAt {s other : Section} {i : Nat} (hs : s.IsBlockAt body i)
    (hother : other.IsBlockAt body i) : s = other := by
  obtain ⟨-, k, hki, hk, hlast, -⟩ := hs
  obtain ⟨-, k', hki', hk', hlast', -⟩ := hother
  have hkk : k = k' := by
    rcases Nat.lt_trichotomy k k' with hlt | heq | hlt
    · exact absurd hk' (hlast k' hki' hlt other (Section.mem_all other))
    · exact heq
    · exact absurd hk (hlast' k hki hlt s (Section.mem_all s))
  subst hkk
  rcases Section.stops_trichotomy s other with hstop | heq | hstop
  · exact absurd (h.lt_of_stops hstop hk hk') (Nat.lt_irrefl _)
  · exact heq.symm
  · exact absurd (h.lt_of_stops hstop hk' hk) (Nat.lt_irrefl _)

theorem sectionBlocks_eq_itemsAt (s : Section) :
    sectionBlocks s body = itemsAt (s.IsBlockAt body) body := by
  rw [sectionBlocks_eq_filter]
  refine congrArg _ (List.filter_congr fun x hx => ?_)
  rw [decide_eq_decide]
  constructor
  · rintro ⟨hinside, hpre, hbehind⟩
    exact (h.isBlockAt_iff ((isAt_of_mem hx).mpr hpre)).mpr ⟨hinside, hbehind⟩
  · intro hblock
    obtain ⟨hinside, hbehind⟩ := (h.isBlockAt_iff hblock.1).mp hblock
    exact ⟨hinside, (isAt_of_mem hx).mp hblock.1, hbehind⟩

end IsDivided

/-! ## Reading -/

/-- Reads the declaration in a block. -/
def readBlock (readMember : List Token → String → Except DeclarationError α) (package : String)
    (block : Node) : Except DeclarationError α := do
  readMember (← lexElement package block) package

section
variable {s : Section} {package : String} {readMember : List Token → String → Except DeclarationError α}
  {body : List Node}

theorem readSection_eq_ok_iff {members : List α} : readSection s package readMember body = .ok members ↔
    List.Forall₂ (fun b m => readBlock readMember package b = .ok m) (sectionBlocks s body) members := by
  rw [readSection, mapM_eq_ok_iff]
  conv_rhs => rw [← List.zipIdx_map_fst 0 (sectionBlocks s body), List.forall₂_map_left_iff]
  simp only [Except.mapError_eq_ok_iff]
  rfl

theorem readSection_eq_error_iff {e : PageError} : readSection s package readMember body = .error e ↔
    ∃ (k : Nat) (block : Node) (cause : DeclarationError), (sectionBlocks s body)[k]? = some block ∧
      readBlock readMember package block = .error cause ∧
      (∀ j < k, ∀ b, (sectionBlocks s body)[j]? = some b → ∃ m, readBlock readMember package b = .ok m) ∧
      e = .declaration s k cause := by
  rw [readSection, mapM_zipIdx_eq_error_iff]
  simp only [Except.mapError_eq_error_iff, Except.mapError_eq_ok_iff]
  constructor
  · rintro ⟨k, block, hblock, ⟨cause, hcause, he⟩, hbefore⟩
    exact ⟨k, block, cause, hblock, hcause, hbefore, he.symm⟩
  · rintro ⟨k, block, cause, hblock, hcause, hbefore, he⟩
    exact ⟨k, block, hblock, ⟨cause, hcause, he.symm⟩, hbefore⟩

end

/-- Reads what stands in front of the sections: package and name, and the header of the definition. -/
def readHead (page : Node) : Except PageError (String × String × ClassHeader) := do
  let body := page.bodyElements
  let some heading := (fromHeading body).head? | throw .missingHeading
  let package := headingPackage heading
  let some name := headingName? heading | throw .missingHeading
  let some definition := definition? (fromHeading body) | throw .missingDefinition
  let tokens ← (lexDefinition package definition).mapError .header
  let header ← (readClassHeader tokens package).mapError .header
  return (package, name, header)

theorem readClassTree_eq (page : Node) : readClassTree page = (do
    let (package, name, header) ← readHead page
    let fields ← readSection .field package readField page.bodyElements
    let constructors ← readSection .constructor package readConstructor page.bodyElements
    let methods ← readSection .method package readMethod page.bodyElements
    return {
      package := package
      name := name
      kind := header.kind
      parent := header.parent
      implements := header.implements
      fields := fields
      constructors := constructors
      methods := methods }) := by
  unfold readClassTree readHead
  dsimp only
  cases (fromHeading page.bodyElements).head? with
  | none => rfl
  | some heading =>
    dsimp only
    cases headingName? heading with
    | none => rfl
    | some name =>
      dsimp only
      cases definition? (fromHeading page.bodyElements) with
      | none => rfl
      | some definition =>
        dsimp only
        simp only [bind_assoc, pure_bind]

theorem package_of_readHead {page : Node} {package name : String} {header : ClassHeader}
    (h : readHead page = .ok (package, name, header)) :
    ∃ heading, (fromHeading page.bodyElements).head? = some heading ∧ package = headingPackage heading := by
  unfold readHead at h
  dsimp only at h
  split at h
  · next heading hheading =>
    split at h
    · split at h
      · obtain ⟨tokens, -, h⟩ := Except.bind_eq_ok_iff.mp h
        obtain ⟨header', -, h⟩ := Except.bind_eq_ok_iff.mp h
        cases h
        exact ⟨heading, hheading, rfl⟩
      · cases h
    · cases h
  · cases h

/-- Nothing in front of the sections fails as a declaration. -/
theorem readHead_ne_declaration (page : Node) (s : Section) (k : Nat) (e : DeclarationError) :
    readHead page ≠ .error (.declaration s k e) := by
  intro h
  unfold readHead at h
  dsimp only at h
  split at h
  · split at h
    · split at h
      · rcases Except.bind_eq_error_iff.mp h with h | ⟨tokens, -, h⟩
        · obtain ⟨cause, -, h⟩ := Except.mapError_eq_error_iff.mp h
          cases h
        rcases Except.bind_eq_error_iff.mp h with h | ⟨tokens, -, h⟩
        · obtain ⟨cause, -, h⟩ := Except.mapError_eq_error_iff.mp h
          cases h
        · cases h
      · cases h
    · cases h
  · cases h

/-- Why a block cannot be read as a declaration of a section, if it cannot. -/
def Section.blockError? (s : Section) (package : String) (block : Node) : Option DeclarationError :=
  match s with
  | .field => errorOf? (readBlock readField package block)
  | .constructor => errorOf? (readBlock readConstructor package block)
  | .method => errorOf? (readBlock readMethod package block)

section
variable {s : Section} {package : String} {readMember : List Token → String → Except DeclarationError α}
  {body : List Node}

theorem errorOf?_of_readSection_ok {members : List α}
    (h : readSection s package readMember body = .ok members) :
    ∀ b ∈ sectionBlocks s body, errorOf? (readBlock readMember package b) = none := by
  intro b hb
  obtain ⟨i, hi, rfl⟩ := List.mem_iff_getElem.mp hb
  have hf := readSection_eq_ok_iff.mp h
  exact errorOf?_eq_none_iff.mpr ⟨_, hf.get hi (hf.length_eq ▸ hi)⟩

theorem errorOf?_of_readSection_error {other : Section} {k : Nat} {e : DeclarationError}
    (h : readSection s package readMember body = .error (.declaration other k e)) :
    other = s ∧ ∃ block, (sectionBlocks s body)[k]? = some block ∧
      errorOf? (readBlock readMember package block) = some e ∧
      ∀ j < k, ∀ b, (sectionBlocks s body)[j]? = some b →
        errorOf? (readBlock readMember package b) = none := by
  obtain ⟨k, block, cause, hblock, hcause, hbefore, he⟩ := readSection_eq_error_iff.mp h
  cases he
  exact ⟨rfl, block, hblock, errorOf?_eq_some_iff.mpr hcause,
    fun j hj b hb => errorOf?_eq_none_iff.mpr (hbefore j hj b hb)⟩

end

/-- The members of a page are what its blocks say, section by section. -/
theorem members_of_readClassTree {page : Node} {d : ClassDecl} (h : readClassTree page = .ok d) :
    List.Forall₂ (fun b f => readBlock readField d.package b = .ok f)
      (sectionBlocks .field page.bodyElements) d.fields ∧
    List.Forall₂ (fun b c => readBlock readConstructor d.package b = .ok c)
      (sectionBlocks .constructor page.bodyElements) d.constructors ∧
    List.Forall₂ (fun b m => readBlock readMethod d.package b = .ok m)
      (sectionBlocks .method page.bodyElements) d.methods := by
  rw [readClassTree_eq] at h
  obtain ⟨⟨package, name, header⟩, -, h⟩ := Except.bind_eq_ok_iff.mp h
  obtain ⟨fields, hfields, h⟩ := Except.bind_eq_ok_iff.mp h
  obtain ⟨constructors, hconstructors, h⟩ := Except.bind_eq_ok_iff.mp h
  obtain ⟨methods, hmethods, h⟩ := Except.bind_eq_ok_iff.mp h
  cases h
  exact ⟨readSection_eq_ok_iff.mp hfields, readSection_eq_ok_iff.mp hconstructors,
    readSection_eq_ok_iff.mp hmethods⟩

/-- A page that fails in a declaration fails in the first one that cannot be read, section by section. -/
theorem block_of_readClassTree_error {page : Node} {s : Section} {k : Nat} {e : DeclarationError}
    (h : readClassTree page = .error (.declaration s k e)) :
    ∃ heading block, (fromHeading page.bodyElements).head? = some heading ∧
      (sectionBlocks s page.bodyElements)[k]? = some block ∧
      s.blockError? (headingPackage heading) block = some e ∧
      (∀ j < k, ∀ b, (sectionBlocks s page.bodyElements)[j]? = some b →
        s.blockError? (headingPackage heading) b = none) ∧
      ∀ earlier : Section, earlier.rank < s.rank → ∀ b ∈ sectionBlocks earlier page.bodyElements,
        earlier.blockError? (headingPackage heading) b = none := by
  rw [readClassTree_eq] at h
  rcases Except.bind_eq_error_iff.mp h with h | ⟨⟨package, name, header⟩, hhead, h⟩
  · exact absurd h (readHead_ne_declaration _ s k e)
  obtain ⟨heading, hheading, rfl⟩ := package_of_readHead hhead
  rcases Except.bind_eq_error_iff.mp h with h | ⟨fields, hfields, h⟩
  · obtain ⟨rfl, block, hblock, hcause, hbefore⟩ := errorOf?_of_readSection_error h
    refine ⟨heading, block, hheading, hblock, hcause, hbefore, fun earlier hearlier => ?_⟩
    exact absurd hearlier (Nat.not_lt_zero _)
  have hfields := errorOf?_of_readSection_ok hfields
  rcases Except.bind_eq_error_iff.mp h with h | ⟨constructors, hconstructors, h⟩
  · obtain ⟨rfl, block, hblock, hcause, hbefore⟩ := errorOf?_of_readSection_error h
    refine ⟨heading, block, hheading, hblock, hcause, hbefore, fun earlier hearlier => ?_⟩
    cases earlier with
    | field => exact hfields
    | constructor => exact absurd hearlier (Nat.lt_irrefl _)
    | method => exact absurd hearlier (by decide)
  have hconstructors := errorOf?_of_readSection_ok hconstructors
  rcases Except.bind_eq_error_iff.mp h with h | ⟨methods, -, h⟩
  · obtain ⟨rfl, block, hblock, hcause, hbefore⟩ := errorOf?_of_readSection_error h
    refine ⟨heading, block, hheading, hblock, hcause, hbefore, fun earlier hearlier => ?_⟩
    cases earlier with
    | field => exact hfields
    | constructor => exact hconstructors
    | method => exact absurd hearlier (Nat.lt_irrefl _)
  · cases h

/-- On a divided page each declaration is read in the section it stands in, and in no other: the members are
those of the declarations, in order, and an error is that of the first declaration that cannot be read, in
the order of the sections. -/
theorem readClassPage_reads_sections {text : List Char} (h : IsDivided (Html.readPage text).bodyElements) :
    let body := (Html.readPage text).bodyElements
    let blocks (s : Section) : List Node := itemsAt (s.IsBlockAt body) body
    (∀ s, sectionBlocks s body = blocks s) ∧
    (∀ (s other : Section) i, s.IsBlockAt body i → other.IsBlockAt body i → s = other) ∧
    (∀ d, readClassPage text = .ok d →
      List.Forall₂ (fun b f => readBlock readField d.package b = .ok f) (blocks .field) d.fields ∧
      List.Forall₂ (fun b c => readBlock readConstructor d.package b = .ok c) (blocks .constructor)
        d.constructors ∧
      List.Forall₂ (fun b m => readBlock readMethod d.package b = .ok m) (blocks .method) d.methods) ∧
    ∀ s k e, readClassPage text = .error (.declaration s k e) →
      ∃ heading block, (fromHeading body).head? = some heading ∧ (blocks s)[k]? = some block ∧
        s.blockError? (headingPackage heading) block = some e ∧
        (∀ j < k, ∀ b, (blocks s)[j]? = some b → s.blockError? (headingPackage heading) b = none) ∧
        ∀ earlier : Section, earlier.rank < s.rank → ∀ b ∈ blocks earlier,
          earlier.blockError? (headingPackage heading) b = none := by
  intro body blocks
  have hblocks : ∀ s, sectionBlocks s body = blocks s := h.sectionBlocks_eq_itemsAt
  refine ⟨hblocks, fun s other i => h.eq_of_isBlockAt, fun d hd => ?_, fun s k e he => ?_⟩
  · simp only [← hblocks]
    exact members_of_readClassTree hd
  · simp only [← hblocks]
    exact block_of_readClassTree_error he

/-- A page without constructors, with a block that is no declaration and one behind the last section. -/
def pageEndingIn (last : String) : List Char :=
  ["<h2><b>p</b>C</h2><hr>", "<dl>class C</dl>", "<p><a name=field_detail></a></p>",
    "<h3>x</h3><pre>int x</pre>", "<pre>-</pre>", "<a name=method_detail></a>",
    "<h3>f</h3><pre>void f()</pre>", "<h3>g</h3><pre>", last, "</pre><a name=navbar_bottom></a>",
    "<h3>z</h3><pre>-</pre>"].flatMap String.toList

/-- The page is read if its last declaration is one; otherwise that declaration is named, as the second
method. -/
theorem sections_read_of_pageEndingIn :
    let page := (Html.readPage (pageEndingIn "void g()")).bodyElements
    let broken := (Html.readPage (pageEndingIn "void g")).bodyElements
    (∃ d, readClassPage (pageEndingIn "void g()") = .ok d ∧ d.methods.map (·.name) = ["f", "g"] ∧
      d.constructors = [] ∧ List.Forall₂ (fun b m => readBlock readMethod "p" b = .ok m)
        (itemsAt (Section.IsBlockAt .method page) page) d.methods) ∧
    ∃ block, (itemsAt (Section.IsBlockAt .method broken) broken)[1]? = some block ∧
      Section.method.blockError? "p" block = some (.missingToken "(" "void g") := by
  intro page broken
  obtain ⟨hpage, hread⟩ : IsDivided page ∧
      ((readClassPage (pageEndingIn "void g()")).toOption.any fun d =>
        d.package == "p" && d.methods.map (·.name) == ["f", "g"] && d.constructors == []) = true := by
    decide +kernel
  obtain ⟨hbroken, hfailed, hheading⟩ : IsDivided broken ∧ readClassPage (pageEndingIn "void g") =
        .error (.declaration .method 1 (.missingToken "(" "void g")) ∧
      (fromHeading broken).head?.map headingPackage = some "p" := by
    decide +kernel
  constructor
  · cases hd : readClassPage (pageEndingIn "void g()") with
    | error e => rw [hd] at hread; cases hread
    | ok d =>
      rw [hd, Except.toOption, Option.any_some, Bool.and_eq_true, Bool.and_eq_true, beq_iff_eq, beq_iff_eq,
        beq_iff_eq] at hread
      obtain ⟨⟨hpackage, hmethods⟩, hconstructors⟩ := hread
      obtain ⟨-, -, hok, -⟩ := readClassPage_reads_sections hpage
      exact ⟨d, rfl, hmethods, hconstructors, hpackage ▸ (hok d hd).2.2⟩
  · obtain ⟨-, -, -, herror⟩ := readClassPage_reads_sections hbroken
    obtain ⟨heading, block, hhead, hblock, hcause, -⟩ := herror _ _ _ hfailed
    rw [hhead] at hheading
    exact ⟨block, hblock, Option.some.inj hheading ▸ hcause⟩

end ApiDoc
