import ApiDoc.ClassModel.Merge
import ApiDoc.Proofs.Absorption

/-!
# Merging as a partial join

Merging two models is a test and a total operation: it succeeds exactly if the models are compatible,
and then gives their join (`merge_eq_ok_iff`).  Compatibility is symmetric, and a join is compatible
with what both of its sides are compatible with (`compatible_join_left`, `compatible_join_right`).

Members are told apart by their keys: access and argument types of a constructor, also modifiers,
name and return type of a method, the declaration of a constant, the components of a path.
-/

namespace ApiDoc

/-! ## Keys of members -/

/-- Access and argument types. -/
def Constructor.key (c : Constructor) : Access × List TypeRef :=
  (c.access, argumentTypes c.arguments)

/-- Access, modifiers, name, return type and argument types. -/
def Method.key (m : Method) : Access × Flags × String × TypeRef × List TypeRef :=
  (m.access, m.flags, m.name, m.returnType, argumentTypes m.arguments)

theorem Constructor.isSame_iff (c d : Constructor) : c.isSame d = true ↔ c.key = d.key := by
  simp [isSame, hasSameSignature, key]

theorem Method.isSame_iff (m n : Method) : m.isSame n = true ↔ m.key = n.key := by
  simp [isSame, hasSameSignature, key, and_assoc]

theorem OrderedSet.union_assoc {α : Type} [Ord α] [Std.TransOrd α] [Std.LawfulEqOrd α]
    (s t u : OrderedSet α) : s ∪ t ∪ u = s ∪ (t ∪ u) := by
  ext a
  simp [or_assoc]

theorem constructorAbsorption_lawful : constructorAbsorption.Lawful Constructor.key where
  same_iff := Constructor.isSame_iff
  key_join _ _ := rfl
  join_assoc c d e := by
    show (c.throwing d.throws).throwing e.throws = c.throwing (d.throws ∪ e.throws)
    simp only [Constructor.throwing, OrderedSet.union_assoc]

theorem methodAbsorption_lawful : methodAbsorption.Lawful Method.key where
  same_iff := Method.isSame_iff
  key_join _ _ := rfl
  join_assoc m n o := by
    show (m.throwing n.throws).throwing o.throws = m.throwing (n.throws ∪ o.throws)
    simp only [Method.throwing, OrderedSet.union_assoc]

theorem constantAbsorption_lawful : constantAbsorption.Lawful Constant.field where
  same_iff c d := by simp [constantAbsorption]
  key_join _ _ := rfl
  join_assoc c d e := by simp only [constantAbsorption, Option.or_assoc]

theorem sourceAbsorption_lawful : sourceAbsorption.Lawful Path.components where
  same_iff p q := by simp [sourceAbsorption, Path.same]
  key_join _ _ := rfl
  join_assoc _ _ _ := rfl

theorem distinct_lawful {α : Type} [DecidableEq α] : (Absorption.distinct α).Lawful id where
  same_iff x y := by simp [Absorption.distinct]
  key_join _ _ := rfl
  join_assoc _ _ _ := rfl

/-! ## Kinds -/

namespace ClassKind

/-- What a kind counts as in a merge: a final class is also a regular one. -/
def family : ClassKind → ClassKind
  | .final => .regular
  | k => k

/-- The kind of both; two that differ make a regular class. -/
def join (k l : ClassKind) : ClassKind := if k = l then k else .regular

theorem join_assoc (k l n : ClassKind) : (k.join l).join n = k.join (l.join n) := by
  cases k <;> cases l <;> cases n <;> rfl

theorem family_join {k l : ClassKind} (h : k.family = l.family) : (k.join l).family = k.family := by
  revert h
  cases k <;> cases l <;> decide

/-- The only kinds that differ and go together. -/
theorem final_regular_of_ne {k l : ClassKind} (h : k.family = l.family) (hne : k ≠ l) :
    k = .final ∧ l = .regular ∨ k = .regular ∧ l = .final := by
  revert h hne
  cases k <;> cases l <;> decide

theorem join_eq_interface_iff (k l : ClassKind) :
    k.join l = .interface ↔ k = .interface ∧ l = .interface := by
  cases k <;> cases l <;> decide

end ClassKind

theorem mergeKind_eq_ok_iff {className : String} {k l r : ClassKind} :
    mergeKind className k l = .ok r ↔ k.family = l.family ∧ r = k.join l := by
  cases k <;> cases l <;> cases r <;> simp [mergeKind, ClassKind.family, ClassKind.join]

theorem className_of_mergeKind {className : String} {k l : ClassKind} {e : MergeError}
    (h : mergeKind className k l = .error e) : e.className = className := by
  unfold mergeKind at h
  split at h
  · cases h
  · split at h
    · cases h
      rfl
    · split at h
      · cases h
        rfl
      · cases h

/-! ## Parents -/

theorem mergeParent_eq_ok_iff {className : String} {p q r : Option TypeRef} :
    mergeParent className p q = .ok r ↔
      (∀ s t, p = some s → q = some t → s = t) ∧ r = p.or q := by
  cases p with
  | none => simp [mergeParent, eq_comm]
  | some s =>
    cases q with
    | none => simp [mergeParent, eq_comm]
    | some t =>
      by_cases h : s = t
      · simp [mergeParent, h, eq_comm]
      · simp [mergeParent, h]

theorem className_of_mergeParent {className : String} {p q : Option TypeRef} {e : MergeError}
    (h : mergeParent className p q = .error e) : e.className = className := by
  unfold mergeParent at h
  split at h
  · split at h
    · cases h
    · cases h
      rfl
  · cases h
  · cases h

/-! ## Models -/

namespace ClassModel

/-- Models that can be merged: of one class, with kinds that go together and no two parents. -/
structure Compatible (a b : ClassModel) : Prop where
  fullName : a.fullName = b.fullName
  kind : a.kind.family = b.kind.family
  parent : ∀ s t, a.parent = some s → b.parent = some t → s = t

/-- What two models combine to if they are compatible. -/
def join (a b : ClassModel) : ClassModel where
  package := a.package
  name := a.name
  kind := a.kind.join b.kind
  parent := a.parent.or b.parent
  implements := a.implements ∪ b.implements
  constructors := constructorAbsorption.addAll a.constructors b.constructors
  methods := methodAbsorption.addAll a.methods b.methods
  fields := (Absorption.distinct Field).addAll [] (a.fields ++ b.fields)
  constants := constantAbsorption.addAll [] (a.constants ++ b.constants)
  sources := sourceAbsorption.addAll [] (a.sources ++ b.sources)

@[simp] theorem fullName_join (a b : ClassModel) : (a.join b).fullName = a.fullName := rfl

/-- Merging succeeds exactly for compatible models and gives their join. -/
theorem merge_eq_ok_iff {a b m : ClassModel} :
    a.merge b = .ok m ↔ a.Compatible b ∧ m = a.join b := by
  unfold merge
  constructor
  · intro h
    split at h
    · cases h
    · next hn =>
      cases hk : mergeKind a.fullName a.kind b.kind with
      | error e =>
        rw [hk] at h
        cases h
      | ok kind =>
        cases hp : mergeParent a.fullName a.parent b.parent with
        | error e =>
          rw [hk, hp] at h
          cases h
        | ok parent =>
          rw [hk, hp] at h
          obtain ⟨hfam, rfl⟩ := mergeKind_eq_ok_iff.mp hk
          obtain ⟨hpar, rfl⟩ := mergeParent_eq_ok_iff.mp hp
          exact ⟨⟨Decidable.not_not.mp hn, hfam, hpar⟩, (Except.ok.inj h).symm⟩
  · rintro ⟨⟨hn, hfam, hpar⟩, rfl⟩
    have hk : mergeKind a.fullName a.kind b.kind = .ok (a.kind.join b.kind) :=
      mergeKind_eq_ok_iff.mpr ⟨hfam, rfl⟩
    have hp : mergeParent a.fullName a.parent b.parent = .ok (a.parent.or b.parent) :=
      mergeParent_eq_ok_iff.mpr ⟨hpar, rfl⟩
    rw [if_neg (not_not_intro hn), hk, hp]
    rfl

/-- A conflict names the class of the left model. -/
theorem className_of_merge {a b : ClassModel} {e : MergeError} (h : a.merge b = .error e) :
    e.className = a.fullName := by
  unfold merge at h
  split at h
  · cases h
    rfl
  · cases hk : mergeKind a.fullName a.kind b.kind with
    | error f =>
      rw [hk] at h
      cases h
      exact className_of_mergeKind hk
    | ok kind =>
      cases hp : mergeParent a.fullName a.parent b.parent with
      | error f =>
        rw [hk, hp] at h
        cases h
        exact className_of_mergeParent hp
      | ok parent =>
        rw [hk, hp] at h
        cases h

/-! ## Compatibility -/

namespace Compatible

theorem symm {a b : ClassModel} (h : a.Compatible b) : b.Compatible a :=
  ⟨h.fullName.symm, h.kind.symm, fun s t hs ht => (h.parent t s ht hs).symm⟩

end Compatible

/-- The parent of a join is the parent either side has. -/
theorem parent_join_eq_some_iff {a b : ClassModel} (h : a.Compatible b) (s : TypeRef) :
    (a.join b).parent = some s ↔ a.parent = some s ∨ b.parent = some s := by
  show a.parent.or b.parent = some s ↔ _
  rw [Option.or_eq_some_iff]
  constructor
  · rintro (ha | ⟨-, hb⟩)
    · exact .inl ha
    · exact .inr hb
  · rintro (ha | hb)
    · exact .inl ha
    · cases ha : a.parent with
      | none => exact .inr ⟨rfl, hb⟩
      | some t => exact .inl (by rw [h.parent t s ha hb])

/-- A join is compatible with what both sides are compatible with. -/
theorem compatible_join_left {a b c : ClassModel} (h : a.Compatible b) :
    (a.join b).Compatible c ↔ a.Compatible c ∧ b.Compatible c := by
  have hfam : (a.join b).kind.family = a.kind.family := ClassKind.family_join h.kind
  have hpar := parent_join_eq_some_iff h
  constructor
  · intro hc
    refine ⟨⟨hc.fullName, hfam ▸ hc.kind, ?_⟩, ⟨h.fullName ▸ hc.fullName, ?_, ?_⟩⟩
    · exact fun s t hs ht => hc.parent s t ((hpar s).mpr (.inl hs)) ht
    · exact h.kind.symm.trans (hfam.symm.trans hc.kind)
    · exact fun s t hs ht => hc.parent s t ((hpar s).mpr (.inr hs)) ht
  · rintro ⟨ha, hb⟩
    refine ⟨ha.fullName, hfam.trans ha.kind, fun s t hs ht => ?_⟩
    rcases (hpar s).mp hs with hs | hs
    · exact ha.parent s t hs ht
    · exact hb.parent s t hs ht

theorem compatible_join_right {a b c : ClassModel} (h : b.Compatible c) :
    a.Compatible (b.join c) ↔ a.Compatible b ∧ a.Compatible c := by
  constructor
  · intro ha
    have := (compatible_join_left h).mp ha.symm
    exact ⟨this.1.symm, this.2.symm⟩
  · rintro ⟨hb, hc⟩
    exact ((compatible_join_left h).mpr ⟨hb.symm, hc.symm⟩).symm

end ClassModel

end ApiDoc
