import ApiDoc.Proofs.Sequential

/-!
# When a run gives a registry

A run needs every root to be a directory, and no two identities of the registry may have one id
(`DistinctIds`).  Nothing else can stop it: documents that cannot be read are found in the report
(`exists_run_iff`).
-/

namespace ApiDoc

/-! ## Ids -/

/-- No two of the identity strings have one id. -/
def DistinctIds (identities : List String) : Prop :=
  ∀ s ∈ identities, ∀ u ∈ identities, StableId.ofText s = StableId.ofText u → s = u

instance (identities : List String) : Decidable (DistinctIds identities) :=
  inferInstanceAs (Decidable (∀ s ∈ identities, ∀ u ∈ identities, _ → _))

theorem distinctIds_cons {s : String} {r : List String} :
    DistinctIds (s :: r) ↔
      (∀ u ∈ r, StableId.ofText s = StableId.ofText u → s = u) ∧ DistinctIds r := by
  constructor
  · intro h
    exact ⟨fun u hu => h s List.mem_cons_self u (List.mem_cons_of_mem _ hu),
      fun u hu v hv => h u (List.mem_cons_of_mem _ hu) v (List.mem_cons_of_mem _ hv)⟩
  · rintro ⟨hs, hr⟩ u hu v hv he
    rcases List.mem_cons.mp hu with hus | hu
    · rcases List.mem_cons.mp hv with hvs | hv
      · rw [hus, hvs]
      · exact hus ▸ hs v hv (hus ▸ he)
    · rcases List.mem_cons.mp hv with hvs | hv
      · exact hvs ▸ (hs u hu (hvs ▸ he.symm)).symm
      · exact hr u hu v hv he

theorem StableId.value_inj {i j : StableId} : i.value = j.value ↔ i = j := by
  rw [StableId.mk.injEq]

/-- No string has the id of another that was seen. -/
def Unclashed (seen : Std.HashMap UInt64 String) (l : List String) : Prop :=
  ∀ s ∈ l, ∀ first, seen[(StableId.ofText s).value]? = some first → first = s

theorem unclashed_cons {seen : Std.HashMap UInt64 String} {s : String} {r : List String} :
    Unclashed seen (s :: r) ↔
      (∀ first, seen[(StableId.ofText s).value]? = some first → first = s) ∧ Unclashed seen r :=
  List.forall_mem_cons

/-- A string with a new id is seen: the others have to differ from it in their ids, or be it. -/
theorem unclashed_insert {seen : Std.HashMap UInt64 String} {s : String}
    (hseen : seen[(StableId.ofText s).value]? = none) (l : List String) :
    Unclashed (seen.insert (StableId.ofText s).value s) l ↔
      Unclashed seen l ∧ ∀ u ∈ l, StableId.ofText s = StableId.ofText u → s = u := by
  constructor
  · intro h
    refine ⟨fun u hu first hfirst => h u hu first ?_, fun u hu he => h u hu s ?_⟩
    · -- the id of `s` is new, so that of `u` is another
      have hne : (StableId.ofText s).value ≠ (StableId.ofText u).value := by
        intro e
        rw [← e, hseen] at hfirst
        cases hfirst
      rw [Std.HashMap.getElem?_insert, if_neg (by simpa using hne), hfirst]
    · rw [Std.HashMap.getElem?_insert, if_pos (by simp [he])]
  · rintro ⟨hl, hs⟩ u hu first hfirst
    rw [Std.HashMap.getElem?_insert] at hfirst
    by_cases he : (StableId.ofText s).value = (StableId.ofText u).value
    · rw [if_pos (by simpa using he)] at hfirst
      rw [← Option.some.inj hfirst]
      exact hs u hu (StableId.value_inj.mp he)
    · rw [if_neg (by simpa using he)] at hfirst
      exact hl u hu first hfirst

/-- The search finds nothing where the ids are new and distinct. -/
theorem findCollision?_go_eq_none_iff {seen : Std.HashMap UInt64 String} {l : List String} :
    findCollision?.go seen l = none ↔ Unclashed seen l ∧ DistinctIds l := by
  induction l generalizing seen with
  | nil => simp [findCollision?.go, Unclashed, DistinctIds]
  | cons s r ih =>
    rw [findCollision?.go, distinctIds_cons, unclashed_cons]
    cases hseen : seen[(StableId.ofText s).value]? with
    | none =>
      simp only [ih, unclashed_insert hseen, reduceCtorEq, false_implies, implies_true, true_and,
        and_assoc]
    | some first =>
      by_cases hfirst : first = s
      · -- `s` itself was seen, so the strings with its id agree with it already
        subst hfirst
        simp only [if_true, ih]
        constructor
        · rintro ⟨hr, hdistinct⟩
          refine ⟨⟨by simp, hr⟩, fun u hu he => hr u hu first ?_, hdistinct⟩
          rw [← he, hseen]
        · rintro ⟨⟨-, hr⟩, -, hdistinct⟩
          exact ⟨hr, hdistinct⟩
      · simp only [if_neg hfirst]
        constructor
        · intro h
          cases h
        · rintro ⟨⟨h, -⟩, -⟩
          exact absurd (h first rfl) hfirst

/-- No collision is found exactly where the ids are distinct. -/
theorem findCollision?_eq_none_iff {l : List String} : findCollision? l = none ↔ DistinctIds l := by
  rw [findCollision?, findCollision?_go_eq_none_iff]
  simp [Unclashed]

/-! ## Runs -/

namespace Extraction

variable {fs : FileSystem} {c : Config} {documents : List DocumentSet} {x : Extraction}

/-- What is read from documents. -/
def ofDocuments (fs : FileSystem) (documents : List DocumentSet) : Extraction :=
  ⟨documents.map (RootReading.ofDocuments fs)⟩

/-- The part of a run behind the collecting of the documents. -/
def runDocuments (fs : FileSystem) (documents : List DocumentSet) : Except FatalError Extraction :=
  match (ofDocuments fs documents).registry.collision? with
  | some e => .error (.collision e)
  | none => .ok (ofDocuments fs documents)

theorem runDocuments_eq_ok_iff :
    runDocuments fs documents = .ok x ↔
      x = ofDocuments fs documents ∧ DistinctIds x.registry.identities := by
  unfold runDocuments Registry.collision?
  rw [← findCollision?_eq_none_iff]
  constructor
  · intro h
    split at h
    · cases h
    · next hnone =>
      cases h
      exact ⟨rfl, hnone⟩
  · rintro ⟨rfl, hnone⟩
    rw [hnone]

theorem run_of_collect (h : collect fs c = .ok documents) : run fs c = runDocuments fs documents := by
  unfold run
  rw [h]
  rfl

theorem run_eq_ok_of_distinctIds (h : collect fs c = .ok documents)
    (hids : DistinctIds (ofDocuments fs documents).registry.identities) :
    run fs c = .ok (ofDocuments fs documents) := by
  rw [run_of_collect h]
  exact runDocuments_eq_ok_iff.mpr ⟨rfl, hids⟩

/-- A run gives a registry where every root is a directory and the ids are distinct. -/
theorem exists_run_iff :
    (∃ x, run fs c = .ok x) ↔ (∀ root ∈ c.roots, fs.hasDirectory root = true) ∧
      ∀ documents, collect fs c = .ok documents →
        DistinctIds (ofDocuments fs documents).registry.identities := by
  rw [← exists_collect_iff]
  constructor
  · rintro ⟨x, hx⟩
    obtain ⟨documents, hd, rfl, hnone⟩ := run_eq_ok_iff.mp hx
    refine ⟨⟨documents, hd⟩, fun found hf => ?_⟩
    rw [hd] at hf
    cases hf
    exact findCollision?_eq_none_iff.mp hnone
  · rintro ⟨⟨documents, hd⟩, hids⟩
    exact ⟨ofDocuments fs documents, run_eq_ok_of_distinctIds hd (hids documents hd)⟩

end Extraction

end ApiDoc
