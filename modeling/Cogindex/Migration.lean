import Cogindex.Convergence

/-!
# Identity migration

A new version of the identity schema gives every document a new `data_id`. The
old ids live on in the possible records only, which accumulate while syncs
fail; `migration_leaves_no_orphan` says that none is lost before its row is
gone, whatever versions come and go, and that a complete sync leaves exactly
the rows of the current version.
-/

namespace Cogindex

open FakeCogneeRuntime

section

variable [Platform] {V : Type}

/-- The derivations are injective in the version and the key together. -/
def Deployment.JointlyInjective (d : Deployment V) : Prop :=
  ∀ v w k l i, d.dataId v k = .ok i → d.dataId w l = .ok i → v = w ∧ k = l

theorem Deployment.JointlyInjective.separated {d : Deployment V} (h : d.JointlyInjective) :
    d.Separated := by
  rintro k l i ⟨v, hk⟩ ⟨w, hl⟩
  exact (h v w k l i hk hl).2

namespace ConvergenceMachine

variable {d : Deployment V} {m : ConvergenceMachine V}

/-- No id that is to be cleaned up is the current id of any key. -/
theorem Covered.dataId_ne_of_stale (hsep : d.Separated) (h : m.Covered d) {outputs : Outputs}
    (hround : m.round d = .ok outputs) {k : DocumentKey} {o : ReconcileOutput}
    (ho : (k, o) ∈ outputs) {j : UUID} (hj : j ∈ o.action.staleDataIds) (l : DocumentKey) :
    d.dataId m.version l ≠ .ok j := by
  intro hl
  obtain ⟨i, hi, hreconcile⟩ := Deployment.reconcileId_of_mem hround ho
  rw [(DocumentHandler.reconcileId_action hreconcile).2.1, DocumentHandler.mem_staleDataIds] at hj
  obtain ⟨hne, r, hr, rfl⟩ := hj
  obtain rfl := hsep _ _ _ ((h k (Set.mem_univ k)).recorded r hr) ⟨_, hl⟩
  exact hne (Except.ok.inj (hl.symm.trans hi))

/-- The store can be migrated: every row is that of a key in some version, and
    the id is in a possible record of the key; no id of the current version is
    cleaned up; and a complete sync leaves exactly the rows of the current
    version of the declared keys. -/
structure Migratable (d : Deployment V) (m : ConvergenceMachine V) : Prop where
  recorded : ∀ i, (m.fake.row (keyOf d.handle) i).isSome → ∃ v k, d.dataId v k = .ok i ∧
    k ∈ m.tracking ∧ ∃ r ∈ m.tracking.prevRecords k, r.dataId = i
  stale : ∀ outputs, m.round d = .ok outputs → ∀ k o, (k, o) ∈ outputs →
    ∀ j ∈ o.action.staleDataIds, ∀ l, d.dataId m.version l ≠ .ok j
  rows : ∀ faults, (m.sync d faults).1 = .ok () → ∀ i,
    ((m.sync d faults).2.fake.row (keyOf d.handle) i).isSome ↔
      ∃ k ∈ m.declared, d.dataId m.version k = .ok i

theorem Covered.migratable (hsep : d.Separated) (hdiff : DiffContract) (h : m.Covered d)
    (hown : m.Owned d) : m.Migratable d where
  recorded i hi := by
    obtain ⟨k, hk⟩ := hown i hi
    obtain ⟨x, hx⟩ := Option.isSome_iff_exists.1 hi
    obtain ⟨r, hr, hri⟩ := (h k (Set.mem_univ k)).owner i hk x hx
    obtain ⟨v, hv⟩ := hk
    refine ⟨v, k, hv, ?_, r, hr, hri⟩
    -- A key that is not tracked has no records.
    by_contra hne
    rw [Tracking.prevRecords_of_notMem hne] at hr
    cases hr
  stale _ hround _ _ ho _ hj := h.dataId_ne_of_stale hsep hround ho hj
  rows faults hok i := by
    have hfixed := fixed_of_sync hdiff h hok
    have hrows := hfixed.isSome_row_iff (h.step hsep hdiff (.sync faults))
      (hown.step (.sync faults)) (i := i)
    obtain ⟨outputs, -, hm'⟩ := sync_ok hok
    rw [hm'] at hrows ⊢
    exact hrows

end ConvergenceMachine

/-- **Identity migration leaves no orphan and loses no document.** After any run
    with any changes of the version, the store can be migrated. -/
theorem migration_leaves_no_orphan (hdiff : DiffContract) (d : Deployment V)
    (hinj : d.JointlyInjective) (m : ConvergenceMachine V) (hinit : m.Initial d)
    (rules : List (ConvergenceMachine.Rule V)) : (m.run d rules).Migratable d :=
  (hinit.covered.run hinj.separated hdiff rules).migratable hinj.separated hdiff
    (hinit.owned.run rules)

end

/-- A connector on the sample platform whose ids start with the version. -/
def Deployment.versioned : @Deployment .sample ℕ :=
  letI : Platform := .sample
  { runtimeKey := "rt"
    handle := DocumentHandler.sample.handle
    profileOf _ := DocumentHandler.sample.profile
    derive v runtimeKey identityScope tenant name key :=
      .ok (canonicalJoin [v.repr, runtimeKey, identityScope, tenant, name, key]) }

/-- It starts in version 1, with nothing declared. -/
def ConvergenceMachine.versioned : @ConvergenceMachine .sample ℕ :=
  letI : Platform := .sample
  { fake := .sample, declared := ∅, tracking := ∅, configFp := "pfp-A", version := 1 }

theorem Deployment.versioned_jointlyInjective :
    letI : Platform := .sample
    Deployment.versioned.JointlyInjective := by
  let : Platform := .sample
  intro v w k l i hk hl
  have hjoin : ∀ v k, Deployment.versioned.dataId v k = .ok (canonicalJoin
      [v.repr, "rt", "fake-default", "default", "ds", k.text]) := fun _ _ => rfl
  rw [hjoin] at hk hl
  have heq := canonicalJoin_injective ((Except.ok.inj hk).trans (Except.ok.inj hl).symm)
  simp only [List.cons.injEq, and_true, true_and] at heq
  exact ⟨Nat.repr_injective heq.1, DocumentKey.text_injective heq.2⟩

/-- A rollback while a migration is half done. -/
theorem migration_leaves_no_orphan_rollback :
    letI : Platform := .sample
    (ConvergenceMachine.versioned.run .versioned
      [.declare .sample (.sample "alpha" "old"), .sync [], .migrate 2,
        .sync [none, none, some ⟨⟨.external, "injected fault"⟩, some []⟩],
        .migrate 1]).Migratable .versioned :=
  letI : Platform := .sample
  migration_leaves_no_orphan Platform.sample_diff .versioned
    Deployment.versioned_jointlyInjective _ ⟨rfl, ConvergenceMachine.sample_initial.rows⟩ _

end Cogindex
