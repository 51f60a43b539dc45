import Cogindex.Acting

/-!
# Identities and lock scopes

Three places join segments into one string: the physical scope of a user, the
name of a `data_id`, and the scope of the lock of a dataset, the latter two
with a physical scope among their segments. As a join determines its segments,
whatever they are made of, none of them aliases:

* `documentDataId_eq_iff`: documents with the same `data_id` are the same;
* `documentDataId_ne_of_layout`: another layout of the name of an id never
  gives a current one;
* `lockScope_eq_iff`: datasets with the same lock are the same;
* `lockScope_eq_of_documentDataId`: documents that could overwrite each other
  are written under one lock.
-/

namespace Cogindex

open Coroutine LocalCogneeRuntime

section

variable [Platform]

/-! ## Physical scopes -/

/-- The scope of coordinates determines them. -/
theorem identityScopeOf_injective (huuid : UuidTextIsNotNone) :
    Function.Injective identityScopeOf := by
  rintro ⟨userId, tenant⟩ ⟨userId', tenant'⟩ h
  have hjoin := canonicalJoin_injective h
  simp only [List.cons.injEq, and_true, true_and, Platform.uuidStr_injective.eq_iff] at hjoin
  obtain ⟨rfl, htenant⟩ := hjoin
  cases tenant with
  | none =>
    cases tenant' with
    | none => rfl
    | some t => exact absurd htenant.symm (huuid t)
  | some t =>
    cases tenant' with
    | none => exact absurd htenant (huuid t)
    | some t' => rw [Platform.uuidStr_injective htenant]

theorem userCoordinates_ok {user : SdkUser} {c : UUID × Option UUID}
    (h : userCoordinates user = .ok c) : user = ⟨.uuid c.1, c.2.elim .none .uuid⟩ := by
  obtain ⟨userId, tenant⟩ := user
  cases userId <;> cases tenant <;> cases h <;> rfl

/-- Users with the same scope have the same id and the same active tenant. -/
theorem physicalIdentityScope_eq_iff (huuid : UuidTextIsNotNone) {user user' : SdkUser}
    {sc sc' : String} (h : physicalIdentityScope user = .ok sc)
    (h' : physicalIdentityScope user' = .ok sc') :
    sc = sc' ↔ user.id = user'.id ∧ user.tenantId = user'.tenantId := by
  rw [physicalIdentityScope, bind_eq_ok] at h h'
  obtain ⟨c, hc, hsc⟩ := h
  obtain ⟨c', hc', hsc'⟩ := h'
  obtain rfl := pure_eq_ok.1 hsc
  obtain rfl := pure_eq_ok.1 hsc'
  rw [(identityScopeOf_injective huuid).eq_iff, userCoordinates_ok hc, userCoordinates_ok hc']
  obtain ⟨userId, tenant⟩ := c
  obtain ⟨userId', tenant'⟩ := c'
  cases tenant <;> cases tenant' <;> simp [Prod.ext_iff]

/-! ## Documents -/

variable {runtimeKey runtimeKey' identityScope identityScope' tenant tenant' name name'
  key key' : String} {i i' : UUID}

/-- Documents with the same `data_id` have the same coordinates, and keys with
    the same normal form. -/
theorem documentDataId_eq_iff (huuid : Uuid5CollisionFree)
    (h : documentDataId runtimeKey identityScope tenant name key = .ok i)
    (h' : documentDataId runtimeKey' identityScope' tenant' name' key' = .ok i') :
    i = i' ↔ runtimeKey = runtimeKey' ∧ identityScope = identityScope' ∧ tenant = tenant' ∧
      name = name' ∧ Platform.nfc key = Platform.nfc key' := by
  constructor
  · rintro rfl
    exact documentDataId_inj huuid h h'
  · rintro ⟨rfl, rfl, rfl, rfl, hkey⟩
    rw [← (documentDataId_ok_iff.1 h).2, ← (documentDataId_ok_iff.1 h').2, hkey]

/-- A name with another version, or with another number of segments, gives
    another id. -/
theorem documentDataId_ne_of_layout (huuid : Uuid5CollisionFree)
    (h : documentDataId runtimeKey identityScope tenant name key = .ok i) {segments : List String}
    (hlayout : segments.length ≠ 6 ∨ segments.head? ≠ some IDENTITY_SCHEMA_VERSION.repr) :
    Platform.uuid5 COGINDEX_NAMESPACE (canonicalJoin segments) ≠ i := by
  rw [← (documentDataId_ok_iff.1 h).2]
  intro heq
  obtain rfl := canonicalJoin_injective (huuid _ heq)
  rcases hlayout with hlength | hhead
  · exact hlength rfl
  · exact hhead rfl

/-! ## Locks -/

variable {handle handle' : DatasetHandle}

theorem lockScope_eq_iff : lockScope handle = lockScope handle' ↔
    handle.identityScope = handle'.identityScope ∧ handle.tenant = handle'.tenant ∧
      handle.name = handle'.name := by
  rw [lockScope, lockScope, canonicalJoin_inj]
  simp

/-- Documents that can have the same `data_id` are written under one lock. -/
theorem lockScope_eq_of_documentDataId (huuid : Uuid5CollisionFree)
    (h : documentDataId runtimeKey handle.identityScope handle.tenant handle.name key = .ok i)
    (h' : documentDataId runtimeKey' handle'.identityScope handle'.tenant handle'.name key' =
      .ok i) : lockScope handle = lockScope handle' := by
  obtain ⟨-, hscope, htenant, hname, -⟩ := documentDataId_inj huuid h h'
  exact lockScope_eq_iff.2 ⟨hscope, htenant, hname⟩

/-- The lock that an instance asks for is that of the handle, whose scope is
    the pinned one. -/
theorem datasetLock_of_runs {rt : LocalCogneeRuntime} {pin : Option String} {setupDone : Bool}
    {sc : String} {t : LocalState}
    (h : Runs LocalStep (rt.datasetLock handle) ⟨pin, setupDone, []⟩ (ret sc) t) :
    sc = lockScope handle ∧ pin = some handle.identityScope := by
  have hs : Phase pin none none (⟨pin, setupDone, []⟩ : LocalState) :=
    ⟨rfl, fun _ hx => absurd hx List.not_mem_nil, fun _ hx => absurd hx List.not_mem_nil⟩
  have hwp : wp LocalStep (rt.datasetLock handle)
      (fun sc _ => sc = lockScope handle ∧ pin = some handle.identityScope) (fun _ _ => True)
      ⟨pin, setupDone, []⟩ := by
    rw [datasetLock, wp_bind]
    exact wp_mono (wp_validateHandle hs) (fun _ _ ht => ⟨rfl, ht.2⟩) fun _ _ _ => trivial
  exact wp_runs h hwp

/-! ## Nothing aliases -/

/-- What a document is named by: the acting user is the one of Cognee, the
    tenant that of the connector. -/
structure DocumentCoordinates where
  runtimeKey : String
  user : SdkUser
  tenant : String
  datasetName : String
  externalKey : String

/-- The `data_id` of a document of a user. -/
def DocumentCoordinates.dataId (x : DocumentCoordinates) : Except PyError UUID := do
  documentDataId x.runtimeKey (← physicalIdentityScope x.user) x.tenant x.datasetName x.externalKey

/-- An instance, with the scope that it pinned, locks the dataset of a handle under a scope. -/
def LocalCogneeRuntime.Locks (rt : LocalCogneeRuntime) (pin : String) (handle : DatasetHandle)
    (sc : String) : Prop :=
  ∃ setupDone t, Runs LocalStep (rt.datasetLock handle) ⟨some pin, setupDone, []⟩ (ret sc) t

/-- Joins, ids of documents and scopes of locks have one meaning each. -/
theorem identities_never_alias (huuid : Uuid5CollisionFree) (htext : UuidTextIsNotNone) :
    Function.Injective canonicalJoin ∧
      (∀ (x x' : DocumentCoordinates) (i i' : UUID), x.dataId = .ok i → x'.dataId = .ok i' →
        (i = i' ↔ x.runtimeKey = x'.runtimeKey ∧ x.user.id = x'.user.id ∧
          x.user.tenantId = x'.user.tenantId ∧ x.tenant = x'.tenant ∧
            x.datasetName = x'.datasetName ∧
              Platform.nfc x.externalKey = Platform.nfc x'.externalKey)) ∧
      (∀ (x : DocumentCoordinates) (i : UUID) (segments : List String), x.dataId = .ok i →
        segments.length ≠ 6 ∨ segments.head? ≠ some IDENTITY_SCHEMA_VERSION.repr →
          Platform.uuid5 COGINDEX_NAMESPACE (canonicalJoin segments) ≠ i) ∧
      (∀ (rt rt' : LocalCogneeRuntime) (user user' : SdkUser) (pin pin' : String)
        (handle handle' : DatasetHandle) (sc sc' : String),
        physicalIdentityScope user = .ok pin → physicalIdentityScope user' = .ok pin' →
          rt.Locks pin handle sc → rt'.Locks pin' handle' sc' →
            (sc = sc' ↔ user.id = user'.id ∧ user.tenantId = user'.tenantId ∧
              handle.tenant = handle'.tenant ∧ handle.name = handle'.name)) ∧
      ∀ (rt rt' : LocalCogneeRuntime) (pin pin' : String) (handle handle' : DatasetHandle)
        (sc sc' runtimeKey runtimeKey' key key' : String) (i : UUID),
        documentDataId runtimeKey handle.identityScope handle.tenant handle.name key = .ok i →
          documentDataId runtimeKey' handle'.identityScope handle'.tenant handle'.name key' =
            .ok i →
            rt.Locks pin handle sc → rt'.Locks pin' handle' sc' → sc = sc' := by
  refine ⟨canonicalJoin_injective, ?_, ?_, ?_, ?_⟩
  · intro x x' i i' h h'
    rw [DocumentCoordinates.dataId, bind_eq_ok] at h h'
    obtain ⟨sc, hsc, h⟩ := h
    obtain ⟨sc', hsc', h'⟩ := h'
    rw [documentDataId_eq_iff huuid h h', physicalIdentityScope_eq_iff htext hsc hsc', and_assoc]
  · intro x i segments h hlayout
    rw [DocumentCoordinates.dataId, bind_eq_ok] at h
    obtain ⟨sc, -, h⟩ := h
    exact documentDataId_ne_of_layout huuid h hlayout
  -- A lock that is taken is that of the pinned identity, which the user determines.
  · rintro rt rt' user user' pin pin' handle handle' sc sc' huser huser' ⟨_, _, h⟩ ⟨_, _, h'⟩
    obtain ⟨rfl, hpin⟩ := datasetLock_of_runs h
    obtain ⟨rfl, hpin'⟩ := datasetLock_of_runs h'
    obtain rfl := Option.some.inj hpin
    obtain rfl := Option.some.inj hpin'
    rw [lockScope_eq_iff, physicalIdentityScope_eq_iff htext huser huser', and_assoc]
  · rintro rt rt' pin pin' handle handle' sc sc' _ _ _ _ i hid hid' ⟨_, _, h⟩ ⟨_, _, h'⟩
    obtain ⟨rfl, -⟩ := datasetLock_of_runs h
    obtain ⟨rfl, -⟩ := datasetLock_of_runs h'
    exact lockScope_eq_of_documentDataId huuid hid hid'

end

/-- A document of the user `alice` in a tenant. -/
def DocumentCoordinates.sample (tenantId : @SdkAttribute .sample) : @DocumentCoordinates .sample :=
  @DocumentCoordinates.mk .sample "rt" (@SdkUser.mk .sample (@SdkAttribute.uuid .sample "alice")
    tenantId) "default" "docs" "readme"

/-- The same key of a user has other ids in other tenants. -/
theorem identities_never_alias_tenants :
    letI : Platform := .sample
    ∃ i i', (DocumentCoordinates.sample .none).dataId = .ok i ∧
      (DocumentCoordinates.sample (.uuid "acme")).dataId = .ok i' ∧ i ≠ i' := by
  let _ : Platform := .sample
  have haccepted (sc : String) (hsc : Coordinate sc) : Accepted "rt" sc "default" "docs" "readme" :=
    ⟨by decide, hsc, by decide, by decide, by decide⟩
  have hnone : (DocumentCoordinates.sample .none).dataId = .ok _ :=
    documentDataId_ok_iff.2 ⟨haccepted _ (by decide), rfl⟩
  have hacme : (DocumentCoordinates.sample (.uuid "acme")).dataId = .ok _ :=
    documentDataId_ok_iff.2 ⟨haccepted _ (by decide), rfl⟩
  refine ⟨_, _, hnone, hacme, fun h => ?_⟩
  have hsame := ((identities_never_alias Platform.sample_uuid5 Platform.sample_uuidText).2.1 _ _ _ _
    hnone hacme).1 h
  exact absurd hsame.2.2.1 (by decide)

end Cogindex
