import ApiDoc.Extraction
import ApiDoc.Proofs.Results

/-!
# The documents of a configuration

Paths are totally preordered by their components, so the pages of a document set come in ascending
order, and pages with different components in one order only (`Path.StrictlyAscending.eq_of_mem_iff`).
Collecting succeeds where every root is a directory (`exists_collect_iff`), and gives one
document set for each configured root, in the order of the roots (`roots_of_collect`,
`pages_ascending_of_collect`).
-/

namespace ApiDoc

namespace Path

/-! ## The order of paths -/

namespace Component

instance : Std.TransOrd Component :=
  inferInstanceAs (Std.TransCmp (compareLex (compareOn rank) (compareOn text)))

instance : Std.LawfulEqOrd Component where
  compare_self := Std.ReflCmp.compare_self
  eq_of_compare := by
    intro a b h
    obtain ⟨hrank, htext⟩ := Ordering.then_eq_eq.mp
      (show (compareOn rank a b).then (compareOn text a b) = .eq from h)
    have hrank : a.rank = b.rank := Std.LawfulEqCmp.eq_of_compare hrank
    have htext : a.text = b.text := Std.LawfulEqCmp.eq_of_compare htext
    cases a <;> cases b <;> first | rfl | exact congrArg normal htext | cases hrank

end Component

theorem compareComponents_eq_compareLex (l m : List Component) :
    compareComponents l m = l.compareLex compare m := by
  induction l generalizing m with
  | nil => cases m <;> rfl
  | cons a l ih =>
    cases m with
    | nil => rfl
    | cons b m => rw [compareComponents, List.compareLex_cons_cons, ih]

theorem eq_of_compareComponents {l m : List Component} (h : compareComponents l m = .eq) : l = m := by
  induction l generalizing m with
  | nil =>
    cases m with
    | nil => rfl
    | cons b m => cases h
  | cons a l ih =>
    cases m with
    | nil => cases h
    | cons b m =>
      obtain ⟨hab, hlm⟩ := Ordering.then_eq_eq.mp h
      rw [Std.LawfulEqCmp.eq_of_compare hab, ih hlm]

theorem le_trans {p q r : Path} (h : p.le q) (g : q.le r) : p.le r := by
  unfold le at *
  rw [compareComponents_eq_compareLex] at *
  exact Std.TransCmp.isLE_trans h g

theorem le_total (p q : Path) : p.le q ∨ q.le p := by
  unfold le
  rw [compareComponents_eq_compareLex, compareComponents_eq_compareLex]
  cases h : p.components.compareLex compare q.components with
  | lt => exact .inl rfl
  | eq => exact .inl rfl
  | gt =>
    have := Std.OrientedCmp.lt_of_gt h
    exact .inr (by rw [this]; rfl)

theorem pairwise_mergeSort_le (pages : List Path) :
    (pages.mergeSort le).Pairwise fun p q => p.le q := by
  apply List.pairwise_mergeSort
  · intro p q r
    exact le_trans
  · intro p q
    rw [Bool.or_eq_true]
    exact le_total p q

/-- Paths in strictly ascending order of their components. -/
abbrev StrictlyAscending (pages : List Path) : Prop :=
  pages.Pairwise fun p q => compareComponents p.components q.components = .lt

theorem lt_of_le_of_ne {p q : Path} (h : p.le q = true) (hne : p.components ≠ q.components) :
    compareComponents p.components q.components = .lt := by
  rw [le] at h
  cases hc : compareComponents p.components q.components with
  | lt => rfl
  | eq => exact absurd (eq_of_compareComponents hc) hne
  | gt => rw [hc] at h; cases h

theorem lt_asymm {l m : List Component} (h : compareComponents l m = .lt) :
    compareComponents m l ≠ .lt := by
  rw [compareComponents_eq_compareLex] at *
  rw [Std.OrientedCmp.gt_of_lt h]
  exact Ordering.noConfusion

/-- Strictly ascending lists with the same members are equal. -/
theorem StrictlyAscending.eq_of_mem_iff {l m : List Path} (hl : StrictlyAscending l)
    (hm : StrictlyAscending m) (h : ∀ p, p ∈ l ↔ p ∈ m) : l = m := by
  have hnodup : ∀ {l : List Path}, StrictlyAscending l → l.Nodup := fun hl =>
    List.nodup_iff_pairwise_ne.mpr (hl.imp fun hlt => by
      rintro rfl
      exact lt_asymm hlt hlt)
  refine List.Perm.eq_of_pairwise (fun p q _ _ hpq hqp => absurd hqp (lt_asymm hpq)) hl hm ?_
  exact (List.perm_ext_iff_of_nodup (hnodup hl) (hnodup hm)).mpr h

/-- Sorting puts pages with different components in ascending order. -/
theorem ascending_mergeSort {pages : List Path}
    (h : pages.Pairwise fun p q => p.components ≠ q.components) : StrictlyAscending (pages.mergeSort le) := by
  have hne := (List.mergeSort_perm pages le).symm.pairwise h fun hpq => hpq.symm
  exact ((pairwise_mergeSort_le pages).and hne).imp fun h => lt_of_le_of_ne h.1 h.2

end Path

/-! ## Document sets -/

namespace DocumentSet

variable {fs : FileSystem} {s : Selection} {constantsFile : String} {root : Path} {d : DocumentSet}

theorem root_of_collect (h : collect fs s constantsFile root = .ok d) : d.root = root := by
  unfold collect at h
  split at h
  · cases h
    rfl
  · cases h

theorem exists_collect_iff :
    (∃ d, collect fs s constantsFile root = .ok d) ↔ fs.hasDirectory root = true := by
  unfold collect FileSystem.hasDirectory
  cases fs.lookup root with
  | error e => simp
  | ok u => cases u <;> simp

theorem pages_ascending (h : collect fs s constantsFile root = .ok d) :
    d.pages.Pairwise fun p q => p.le q := by
  unfold collect at h
  split at h
  · cases h
    exact Path.pairwise_mergeSort_le _
  · cases h

end DocumentSet

namespace Extraction

variable {fs : FileSystem} {c : Config} {documents : List DocumentSet}

/-- Collecting succeeds where every root is a directory. -/
theorem exists_collect_iff :
    (∃ documents, collect fs c = .ok documents) ↔ ∀ root ∈ c.roots, fs.hasDirectory root = true := by
  unfold collect
  rw [exists_mapM_eq_ok_iff]
  simp only [DocumentSet.exists_collect_iff]

theorem roots_of_collect (h : collect fs c = .ok documents) : documents.map (·.root) = c.roots := by
  have hf := mapM_eq_ok_iff.mp h
  clear h
  generalize c.roots = roots at hf
  induction hf with
  | nil => rfl
  | cons hd _ ih => rw [List.map_cons, DocumentSet.root_of_collect hd, ih]

theorem pages_ascending_of_collect (h : collect fs c = .ok documents) :
    ∀ d ∈ documents, d.pages.Pairwise fun p q => p.le q :=
  forall_mem_of_mapM_eq_ok h fun _ _ hd => DocumentSet.pages_ascending hd

end Extraction

end ApiDoc
