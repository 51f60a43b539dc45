import Cogindex.LocalRuntime

/-!
# Acting for a user

What an in-process runtime does for users, whoever Cognee says the user is and
whatever the SDK returns (`LocalStep`). An operation has phases (`Phase`): the
scope that is pinned, the user that was resolved, and the user that was acted
for; only few calls change them (`LocalCall.For`).

* `ownedDatasetId_some`, `ownedDatasetId_congr`, `ownedDatasetId_ne_ok`: the
  one dataset of a listing that the user owns;
* `wp_validateHandle`, `wp_bindUser`, `wp_bindRuntimeScope`: no user and no
  handle passes that does not have the pinned scope;
* `wp_resolveDatasetForUser`, `wp_ensureResolved`: the handle of the owner.
-/

namespace Cogindex

open Coroutine

section

variable [Platform]

/-! ## The world of an instance -/

/-- A call into the SDK, and what it returned. -/
structure Exchange where
  call : LocalCall
  response : Except PyError call.Response

/-- The attributes of an instance that change, and the exchanges of an operation. -/
structure LocalState where
  resolvedIdentityScope : Option String
  setupDone : Bool
  log : List Exchange

/-- An access to an attribute of the instance. -/
def LocalCall.IsAttribute : LocalCall → Prop
  | getIdentityScope => True
  | setIdentityScope _ => True
  | getSetupDone => True
  | setSetupDone => True
  | _ => False

/-- The user that a call acts for. -/
def LocalCall.actsFor : LocalCall → Option SdkUser
  | listDatasets user => some user
  | add _ user => some user
  | cognify _ _ user => some user
  | forget _ _ _ user => some user
  | forgetDataset _ user => some user
  | listData _ user => some user
  | _ => none

/-- The user that an exchange resolved. -/
def Exchange.resolved : Exchange → Option SdkUser
  | ⟨.resolveDefaultUser, .ok user⟩ => some user
  | ⟨.resolveUser _, .ok user⟩ => some user
  | _ => none

/-- An exchange is added to the log. -/
def LocalState.exchange (s : LocalState) (c : LocalCall) (r : Except PyError c.Response) :
    LocalState :=
  { s with log := s.log ++ [⟨c, r⟩] }

/-- The answers to the calls of an instance: from its attributes, or any. -/
inductive LocalStep : (c : LocalCall) → LocalState → Except PyError c.Response → LocalState → Prop
  | getIdentityScope {s : LocalState} :
    LocalStep .getIdentityScope s (.ok s.resolvedIdentityScope) s
  | setIdentityScope {s : LocalState} (identityScope : String) :
    LocalStep (.setIdentityScope identityScope) s (.ok ())
      { s with resolvedIdentityScope := some identityScope }
  | getSetupDone {s : LocalState} : LocalStep .getSetupDone s (.ok s.setupDone) s
  | setSetupDone {s : LocalState} : LocalStep .setSetupDone s (.ok ()) { s with setupDone := true }
  | sdk {s : LocalState} {c : LocalCall} (hc : ¬c.IsAttribute) (r : Except PyError c.Response) :
    LocalStep c s r (s.exchange c r)

/-! ## Owned datasets -/

/-- The dataset has a name, and its owner and tenant are those of the coordinates. -/
def SdkDataset.Owned (name : String) (coordinates : UUID × Option UUID) (dataset : SdkDataset) :
    Prop :=
  dataset.name = name ∧ dataset.ownerId = .uuid coordinates.1 ∧
    dataset.tenantId = coordinates.2.elim .none .uuid

instance (name : String) (coordinates : UUID × Option UUID) (dataset : SdkDataset) :
    Decidable (dataset.Owned name coordinates) :=
  inferInstanceAs (Decidable (_ ∧ _ ∧ _))

/-- The tenant of the dataset is `None` or a UUID. -/
def SdkDataset.WellFormed (dataset : SdkDataset) : Prop :=
  dataset.tenantId = .none ∨ ∃ tenantId, dataset.tenantId = .uuid tenantId

section Matches

variable {name : String} {coordinates : UUID × Option UUID} {datasets datasets' : List SdkDataset}

theorem isOwnedMatch_ok {dataset : SdkDataset} {owned : Bool}
    (h : isOwnedMatch name coordinates dataset = .ok owned) :
    owned = decide (dataset.Owned name coordinates) := by
  rw [Bool.eq_iff_iff, decide_eq_true_iff]
  obtain ⟨id, name', ownerId, tenantId⟩ := dataset
  obtain ⟨userId, tenant⟩ := coordinates
  unfold isOwnedMatch at h
  cases ownerId with
  | uuid ownerId =>
    simp only at h
    split_ifs at h with hc
    · obtain ⟨rfl, rfl⟩ := hc
      rw [bind_eq_ok] at h
      obtain ⟨t, ht, h⟩ := h
      obtain rfl := pure_eq_ok.1 h
      rw [decide_eq_true_iff, SdkDataset.Owned]
      cases tenantId <;> cases ht <;> cases tenant <;> simp
    · cases h
      refine iff_of_false nofun fun ho => hc ?_
      exact ⟨ho.1, SdkAttribute.uuid.inj ho.2.1⟩
  -- An owner that is not a UUID is that of no user.
  | _ =>
    cases h
    exact iff_of_false nofun fun ho => by cases ho.2.1

/-- A listing whose datasets can all be looked at has the owned ones as matches. -/
theorem ownedMatches_ok_iff {found : List SdkDataset} :
    ownedMatches name coordinates datasets = .ok found ↔
      (∀ dataset ∈ datasets, ∃ owned, isOwnedMatch name coordinates dataset = .ok owned) ∧
        datasets.filter (·.Owned name coordinates) = found := by
  induction datasets generalizing found with
  | nil => simp [ownedMatches]
  | cons dataset datasets ih =>
    simp only [ownedMatches, bind_eq_ok, pure_eq_ok, ih, List.forall_mem_cons]
    constructor
    · rintro ⟨owned, howned, rest, ⟨hrest, rfl⟩, rfl⟩
      refine ⟨⟨⟨owned, howned⟩, hrest⟩, ?_⟩
      rw [isOwnedMatch_ok howned, List.filter_cons]
    · rintro ⟨⟨⟨owned, howned⟩, hrest⟩, rfl⟩
      refine ⟨owned, howned, _, ⟨hrest, rfl⟩, ?_⟩
      rw [isOwnedMatch_ok howned, List.filter_cons]

/-- The id of a dataset is found exactly if it is the only one that is owned. -/
theorem ownedDatasetId_some {i : UUID}
    (h : ownedDatasetId name coordinates datasets = .ok (some i)) : ∃ dataset,
      datasets.filter (·.Owned name coordinates) = [dataset] ∧ dataset.id = i := by
  rw [ownedDatasetId, bind_eq_ok] at h
  obtain ⟨found, hfound, h⟩ := h
  obtain ⟨-, rfl⟩ := ownedMatches_ok_iff.1 hfound
  generalize datasets.filter (·.Owned name coordinates) = found at h
  match found with
  | [] => cases h
  | [dataset] =>
    cases h
    exact ⟨dataset, rfl, rfl⟩
  | _ :: _ :: _ => cases h

/-- Two datasets that are owned are an error. -/
theorem ownedDatasetId_ne_ok (h : 2 ≤ (datasets.filter (·.Owned name coordinates)).length)
    (o : Option UUID) : ownedDatasetId name coordinates datasets ≠ .ok o := by
  intro ho
  rw [ownedDatasetId, bind_eq_ok] at ho
  obtain ⟨found, hfound, ho⟩ := ho
  obtain ⟨-, rfl⟩ := ownedMatches_ok_iff.1 hfound
  generalize datasets.filter (·.Owned name coordinates) = found at h ho
  match found with
  | [] => simp at h
  | [dataset] => simp at h
  | _ :: _ :: _ => cases ho

theorem isOwnedMatch_of_wellFormed {dataset : SdkDataset} (h : dataset.WellFormed) :
    ∃ owned, isOwnedMatch name coordinates dataset = .ok owned := by
  unfold isOwnedMatch
  cases dataset.ownerId with
  | uuid ownerId =>
    simp only
    split_ifs
    · rcases h with h | ⟨tenantId, h⟩ <;> exact ⟨_, by rw [datasetTenantId, h]; rfl⟩
    · exact ⟨_, rfl⟩
  | _ => exact ⟨_, rfl⟩

/-- Only the owned datasets of a listing make a difference, and not their order. -/
theorem ownedDatasetId_congr (hwf : ∀ dataset ∈ datasets', dataset.WellFormed)
    (hperm : (datasets'.filter (·.Owned name coordinates)).Perm
      (datasets.filter (·.Owned name coordinates))) {o : Option UUID}
    (h : ownedDatasetId name coordinates datasets = .ok o) :
    ownedDatasetId name coordinates datasets' = .ok o := by
  rw [ownedDatasetId, bind_eq_ok] at h ⊢
  obtain ⟨found, hfound, h⟩ := h
  obtain ⟨-, rfl⟩ := ownedMatches_ok_iff.1 hfound
  refine ⟨_, ownedMatches_ok_iff.2 ⟨fun d hd => isOwnedMatch_of_wellFormed (hwf d hd), rfl⟩, ?_⟩
  generalize datasets.filter (·.Owned name coordinates) = found at h hperm
  match found with
  | [] =>
    rw [List.perm_nil.1 hperm]
    exact h
  | [dataset] =>
    rw [List.perm_singleton.1 hperm]
    exact h
  | _ :: _ :: _ => cases h

end Matches

/-! ## Phases of an operation -/

/-- A call that may act for the user, but for no other, and changes no phase:
    it resolves no user, pins no scope and lists no datasets. -/
def LocalCall.For (acting : Option SdkUser) : LocalCall → Prop
  | setIdentityScope _ => False
  | resolveDefaultUser => False
  | resolveUser _ => False
  | listDatasets _ => False
  | c => ∀ u, c.actsFor = some u → acting = some u

/-- The pinned scope, the user that was resolved, and the user that was acted for. -/
structure Phase (pin : Option String) (known acting : Option SdkUser) (t : LocalState) : Prop where
  pinned : t.resolvedIdentityScope = pin
  users : ∀ x ∈ t.log, ∀ u, x.resolved = some u → known = some u
  acts : ∀ x ∈ t.log, ∀ u, x.call.actsFor = some u → acting = some u

/-- Nothing was done for any user, and no scope was pinned. -/
structure Rejected (pin : Option String) (t : LocalState) : Prop where
  pinned : t.resolvedIdentityScope = pin
  idle : ∀ x ∈ t.log, x.call.actsFor = none

/-- The listings of datasets have at most one that is owned and has the name. -/
def Unambiguous (name : String) (c : UUID × Option UUID) (t : LocalState) : Prop :=
  ∀ x ∈ t.log, ∀ u datasets, x = ⟨.listDatasets u, .ok datasets⟩ →
    ∃ o, ownedDatasetId name c datasets = .ok o

section Steps

variable {pin : Option String} {known acting : Option SdkUser} {user : SdkUser}
  {c : UUID × Option UUID} {name : String} {s s' : LocalState} {call : LocalCall}
  {r : Except PyError call.Response}

theorem Phase.rejected (h : Phase pin known none s) : Rejected pin s where
  pinned := h.pinned
  idle x hx := Option.eq_none_iff_forall_ne_some.2 fun u hu => nomatch h.acts x hx u hu

/-- Only pinning changes the pinned scope. -/
theorem LocalStep.pinned_eq (h : LocalStep call s r s') (hc : ∀ sc, call ≠ .setIdentityScope sc) :
    s'.resolvedIdentityScope = s.resolvedIdentityScope := by
  cases h with
  | setIdentityScope sc => exact absurd rfl (hc sc)
  | _ => rfl

/-- The log grows by the exchange, or not at all. -/
theorem LocalStep.forall_mem_log (h : LocalStep call s r s') {P : Exchange → Prop}
    (hs : ∀ x ∈ s.log, P x) (hx : P ⟨call, r⟩) : ∀ x ∈ s'.log, P x := by
  cases h with
  | sdk => exact List.forall_mem_append.2 ⟨hs, List.forall_mem_singleton.2 hx⟩
  | _ => exact hs

theorem LocalCall.For.resolved (hc : call.For acting) : Exchange.resolved ⟨call, r⟩ = none := by
  cases call <;> first | rfl | exact hc.elim

theorem LocalCall.For.actsFor (hc : call.For acting) {u : SdkUser}
    (hu : call.actsFor = some u) : acting = some u := by
  cases call <;> first | exact hc.elim | exact hc u hu

theorem LocalCall.For.ne_setIdentityScope (hc : call.For acting) (sc : String) :
    call ≠ .setIdentityScope sc := by
  rintro rfl
  exact hc

theorem LocalCall.For.ne_listDatasets (hc : call.For acting) (u : SdkUser) :
    call ≠ .listDatasets u := by
  rintro rfl
  exact hc

/-- An exchange may make a user known, or act for one. -/
theorem Phase.exchange {known' acting' : Option SdkUser} (hs : Phase pin known acting s)
    (h : LocalStep call s r s') (hpin : ∀ sc, call ≠ .setIdentityScope sc)
    (hknown : known = none ∨ known = known') (hacting : acting = none ∨ acting = acting')
    (hu : ∀ u, Exchange.resolved ⟨call, r⟩ = some u → known' = some u)
    (ha : ∀ u, call.actsFor = some u → acting' = some u) : Phase pin known' acting' s' where
  pinned := (h.pinned_eq hpin).trans hs.pinned
  users := by
    refine h.forall_mem_log (fun x hx u hxu => ?_) hu
    have hsome := hs.users x hx u hxu
    rcases hknown with rfl | rfl
    exacts [absurd hsome nofun, hsome]
  acts := by
    refine h.forall_mem_log (fun x hx u hxu => ?_) ha
    have hsome := hs.acts x hx u hxu
    rcases hacting with rfl | rfl
    exacts [absurd hsome nofun, hsome]

/-- A call for the user changes no phase. -/
theorem Phase.step (hc : call.For acting) (hs : Phase pin known acting s)
    (h : LocalStep call s r s') : Phase pin known acting s' := by
  refine hs.exchange h hc.ne_setIdentityScope (.inr rfl) (.inr rfl) (fun u hu => ?_)
    fun _ => hc.actsFor
  rw [hc.resolved] at hu
  cases hu

/-- Nothing was listed while nothing was done for any user. -/
theorem Phase.unambiguous (h : Phase pin known none s) : Unambiguous name c s := by
  rintro x hx u datasets rfl
  exact nomatch h.acts _ hx u rfl

theorem Unambiguous.step (hc : call.For acting) (hs : Unambiguous name c s)
    (h : LocalStep call s r s') : Unambiguous name c s' :=
  h.forall_mem_log hs fun u _ hx => absurd (congrArg Exchange.call hx) (hc.ne_listDatasets u)

/-- A coroutine of calls for the user changes no phase. -/
theorem Phase.wp {α : Type} {p : LocalProgram α} (hp : p.AllCalls (LocalCall.For acting))
    (hs : Phase pin known acting s) :
    wp LocalStep p (fun _ => Phase pin known acting) (fun _ => Phase pin known acting) s :=
  hp.wp (fun _ _ _ _ hc hs h => hs.step hc h) hs

theorem wp_getIdentityScope {Q : Option String → LocalState → Prop}
    {E : PyError → LocalState → Prop} (h : Q s.resolvedIdentityScope s) :
    wp LocalStep (sdk .getIdentityScope) Q E s := by
  refine wp_call.2 ⟨fun v s' hs => ?_, fun e s' hs => ?_⟩
  · cases hs with
    | getIdentityScope => exact h
    | sdk hc => exact absurd trivial hc
  · cases hs with
    | sdk hc => exact absurd trivial hc

theorem wp_setIdentityScope {sc : String} {Q : Unit → LocalState → Prop}
    {E : PyError → LocalState → Prop} (h : Q () { s with resolvedIdentityScope := some sc }) :
    wp LocalStep (sdk (.setIdentityScope sc)) Q E s := by
  refine wp_call.2 ⟨fun v s' hs => ?_, fun e s' hs => ?_⟩
  · cases hs with
    | setIdentityScope => exact h
    | sdk hc => exact absurd trivial hc
  · cases hs with
    | sdk hc => exact absurd trivial hc

end Steps

/-! ## Checks -/

section Checks

open LocalCogneeRuntime

variable {rt : LocalCogneeRuntime} {pin : Option String} {known acting : Option SdkUser}
  {user : SdkUser} {c : UUID × Option UUID} {name : String} {handle : DatasetHandle}
  {s : LocalState}

theorem allCalls_assertStorageRoots : rt.assertStorageRoots.AllCalls (LocalCall.For acting) :=
  (allCalls_call nofun).bind fun _ => .ite (fun _ => trivial) fun _ => trivial

theorem allCalls_ensureReady : rt.ensureReady.AllCalls (LocalCall.For acting) :=
  (allCalls_call nofun).bind fun _ => allCalls_assertStorageRoots.bind fun _ =>
    (allCalls_call nofun).bind fun _ => .ite
      (fun _ => (allCalls_call nofun).bind fun _ => allCalls_call nofun) fun _ => trivial

theorem allCalls_validateHandle : (rt.validateHandle handle).AllCalls (LocalCall.For acting) :=
  (allCalls_ofExcept _).bind fun _ => (allCalls_ofExcept _).bind fun _ =>
    (allCalls_call nofun).bind fun
      | none => trivial
      | some _ => .ite (fun _ => trivial) fun _ => allCalls_assertStorageRoots

/-- A handle that passes has the pinned scope. -/
theorem wp_validateHandle (hs : Phase pin known acting s) :
    wp LocalStep (rt.validateHandle handle)
      (fun _ t => Phase pin known acting t ∧ pin = some handle.identityScope)
      (fun _ => Phase pin known acting) s := by
  rw [validateHandle, wp_bind, wp_ofExcept]
  refine ⟨fun _ _ => ?_, fun _ _ => hs⟩
  rw [wp_bind, wp_ofExcept]
  refine ⟨fun _ _ => wp_bind.2 (wp_getIdentityScope ?_), fun _ _ => hs⟩
  rw [hs.pinned]
  cases pin with
  | none => exact hs
  | some sc =>
    refine wp_ite (fun _ => hs) fun hsc => ?_
    exact wp_mono (hs.wp allCalls_assertStorageRoots)
      (fun _ _ ht => ⟨ht, congrArg some (not_not.1 hsc).symm⟩) fun _ _ => id

/-- The user as it is now, whose coordinates are fine. -/
theorem wp_resolveActingUser (hs : Phase pin none none s) :
    wp LocalStep rt.resolveActingUser
      (fun u t => Phase pin (some u) none t ∧ ∃ c, userCoordinates u = .ok c)
      (fun _ => Rejected pin) s := by
  have hknown {call : LocalCall} {r : Except PyError call.Response} {t : LocalState}
      {known : Option SdkUser} (h : LocalStep call s r t)
      (hpin : ∀ sc, call ≠ .setIdentityScope sc) (ha : call.actsFor = none)
      (hu : ∀ u, Exchange.resolved ⟨call, r⟩ = some u → known = some u) :
      Phase pin known none t := by
    refine hs.exchange h hpin (.inl rfl) (.inl rfl) hu fun u hu => ?_
    rw [ha] at hu
    cases hu
  -- Both ways of resolving the user end with the check of its coordinates.
  have hcoordinates {u : SdkUser} {t : LocalState} (ht : Phase pin (some u) none t) :
      wp LocalStep (do
        let _ ← ofExcept (userCoordinates u)
        return u) (fun u t => Phase pin (some u) none t ∧ ∃ c, userCoordinates u = .ok c)
        (fun _ => Rejected pin) t := by
    rw [wp_bind, wp_ofExcept]
    exact ⟨fun c hc => ⟨ht, c, hc⟩, fun _ _ => ht.rejected⟩
  rw [resolveActingUser]
  cases rt.user with
  | none =>
    refine wp_bind.2 <| wp_call.2 ⟨fun u t h => hcoordinates ?_, fun e t h => ?_⟩
    · exact hknown h nofun rfl fun _ => id
    · exact (hknown h nofun rfl fun _ hu => hu).rejected
  | some configured =>
    rw [wp_bind, wp_ofExcept]
    refine ⟨fun coordinates _ => ?_, fun _ _ => hs.rejected⟩
    refine wp_bind.2 (wp_call.2 ⟨fun u t h => ?_, fun e t h => ?_⟩)
    · have ht : Phase pin (some u) none t := hknown h nofun rfl fun _ => id
      rw [wp_bind, wp_ofExcept]
      refine ⟨fun _ _ => wp_ite (fun _ => ht.rejected) fun _ => ?_, fun _ _ => ht.rejected⟩
      exact hcoordinates ht
    · exact (hknown h nofun rfl fun _ hu => hu).rejected

/-- Another scope than the pinned one is rejected. -/
theorem wp_bindRuntimeScope {sc : String} (hs : Phase pin known none s) :
    wp LocalStep (bindRuntimeScope sc)
      (fun _ t => Phase (some sc) known none t ∧ ∀ p ∈ pin, p = sc)
      (fun _ => Rejected pin) s := by
  rw [bindRuntimeScope, wp_bind]
  refine wp_getIdentityScope ?_
  rw [hs.pinned]
  cases pin with
  | none =>
    refine wp_setIdentityScope ⟨⟨rfl, hs.users, hs.acts⟩, fun p hp => ?_⟩
    exact absurd hp (Option.not_mem_none p)
  | some p =>
    refine wp_ite (fun _ => hs.rejected) fun hp => ?_
    obtain rfl := not_not.1 hp
    exact ⟨hs, fun q hq => (Option.some.inj hq).symm⟩

theorem physicalIdentityScope_ok {sc : String} (hc : userCoordinates user = .ok c)
    (h : physicalIdentityScope user = .ok sc) : identityScopeOf c = sc := by
  rw [physicalIdentityScope, hc] at h
  exact Except.ok.inj h

/-- The user of an operation on a handle of the pinned scope. -/
theorem wp_bindUser (hs : Phase pin none none s) (hpin : pin = some handle.identityScope) :
    wp LocalStep (rt.bindUser handle)
      (fun u t => Phase pin (some u) none t ∧ ∃ c, userCoordinates u = .ok c ∧
        identityScopeOf c = handle.identityScope)
      (fun _ => Rejected pin) s := by
  rw [bindUser, wp_bind]
  refine wp_mono (wp_resolveActingUser hs) ?_ fun _ _ => id
  rintro u t ⟨ht, c, hc⟩
  rw [wp_bind, wp_ofExcept]
  refine ⟨fun sc hsc => wp_bind.2 ?_, fun _ _ => ht.rejected⟩
  refine wp_mono (wp_bindRuntimeScope ht) ?_ fun _ _ => id
  rintro - t' ⟨ht', hp⟩
  obtain rfl := hp _ hpin
  rw [hpin]
  exact wp_ite (fun _ => ht'.rejected) fun _ => ⟨ht', c, hc, physicalIdentityScope_ok hc hsc⟩

/-- The scope is pinned, everything was done for its user, and no listing had
    two datasets of the name. -/
structure Acting (name : String) (c : UUID × Option UUID) (user : SdkUser) (t : LocalState) :
    Prop where
  phase : Phase (some (identityScopeOf c)) (some user) (some user) t
  unambiguous : Unambiguous name c t

/-- A handle with the scope of an owner, whose dataset was listed. -/
structure Found (name : String) (c : UUID × Option UUID) (handle : DatasetHandle)
    (t : LocalState) : Prop where
  name_eq : handle.name = name
  scope_eq : handle.identityScope = identityScopeOf c
  listed : ∃ user datasets, ⟨.listDatasets user, .ok datasets⟩ ∈ t.log ∧
    ownedDatasetId name c datasets = .ok handle.datasetId

theorem Acting.wp {α : Type} {p : LocalProgram α} (hs : Acting name c user s)
    (hp : p.AllCalls (LocalCall.For (some user))) :
    wp LocalStep p (fun _ => Acting name c user) (fun _ => Acting name c user) s :=
  hp.wp (fun _ _ _ _ hc hs h => ⟨hs.phase.step hc h, hs.unambiguous.step hc h⟩) hs

/-- Acting for the user starts with nothing done. -/
theorem Phase.toActing (hs : Phase (some (identityScopeOf c)) (some user) none s) :
    Acting name c user s where
  phase := ⟨hs.pinned, hs.users, fun x hx u hu => absurd (hs.acts x hx u hu) nofun⟩
  unambiguous := hs.unambiguous

theorem datasetHandle_init {tenant sc : String} {datasetId : Option UUID}
    (h : DatasetHandle.init name tenant sc datasetId = .ok handle) :
    handle.name = name ∧ handle.identityScope = sc ∧ handle.datasetId = datasetId := by
  rw [DatasetHandle.init, bind_eq_ok] at h
  obtain ⟨_, -, h⟩ := h
  obtain rfl := pure_eq_ok.1 h
  exact ⟨rfl, rfl, rfl⟩

/-- The handle of the one dataset that the user owns, if there is one. -/
theorem wp_resolveDatasetForUser {tenant : String} (hs : Acting name c user s)
    (hc : userCoordinates user = .ok c) :
    wp LocalStep (resolveDatasetForUser name tenant user (identityScopeOf c))
      (fun h t => Acting name c user t ∧ Found name c h t)
      (fun _ => Phase (some (identityScopeOf c)) (some user) (some user)) s := by
  have hlist {r : Except PyError (List SdkDataset)} {t : LocalState}
      (h : LocalStep (.listDatasets user) s r t) :
      Phase (some (identityScopeOf c)) (some user) (some user) t :=
    hs.phase.exchange h nofun (.inr rfl) (.inr rfl) (fun u hu => nomatch hu) fun _ => id
  rw [resolveDatasetForUser, wp_bind, wp_ofExcept, hc]
  refine ⟨fun _ hc' => ?_, nofun⟩
  cases hc'
  refine wp_bind.2 (wp_call.2 ⟨fun datasets t h => ?_, fun _ t h => hlist h⟩)
  rw [wp_bind, wp_ofExcept]
  refine ⟨fun o ho => ?_, fun _ _ => hlist h⟩
  rw [wp_ofExcept]
  refine ⟨fun handle hhandle => ?_, fun _ _ => hlist h⟩
  obtain ⟨hname, hscope, rfl⟩ := datasetHandle_init hhandle
  -- The listing of this call is unambiguous as well, or the call had raised.
  refine ⟨⟨hlist h, ?_⟩, hname, hscope, user, datasets, ?_, ho⟩
  · refine h.forall_mem_log hs.unambiguous fun u datasets' hx => ?_
    cases hx
    exact ⟨_, ho⟩
  · cases h
    exact List.mem_append_right _ List.mem_cons_self

theorem wp_ensureResolved (hs : Acting handle.name c user s) (hc : userCoordinates user = .ok c)
    (hscope : identityScopeOf c = handle.identityScope) :
    wp LocalStep (rt.ensureResolved handle user) (fun _ => Acting handle.name c user)
      (fun _ => Phase (some (identityScopeOf c)) (some user) (some user)) s := by
  rw [ensureResolved, wp_bind]
  refine wp_mono (hs.wp allCalls_validateHandle) (fun _ t ht => ?_) fun _ _ ht => ht.phase
  cases handle.datasetId with
  | some _ => exact ht
  | none =>
    rw [← hscope]
    exact wp_mono (wp_resolveDatasetForUser ht hc) (fun _ _ => And.left) fun _ _ => id

end Checks

end

end Cogindex
