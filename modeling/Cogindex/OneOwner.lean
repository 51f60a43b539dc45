import Cogindex.Aliasing

/-!
# One owner

An instance of the in-process runtime never acts for two owners. Each of its
operations is rejected, has nothing to do, or acts for the owner of the pinned
scope (`Performed`, `wp_body`). `one_owner` says so for every sequence of
operations (`Session`), with arbitrary handles, where Cognee may return any
user, and anything else, at every call.
-/

namespace Cogindex

open Coroutine

section

variable [Platform]

/-! ## Operations -/

/-- The operations of an instance. -/
inductive Operation
  | resolveDataset (name tenant : String)
  | addDocuments (handle : DatasetHandle) (payloads : List DocumentPayload)
  | purgeDocumentMemory (handle : DatasetHandle) (dataIds : List UUID)
  | deleteDocuments (handle : DatasetHandle) (dataIds : List UUID)
  | cognifyDataset (handle : DatasetHandle) (profile : CognifyProfile)
  | teardownDataset (handle : DatasetHandle)
  | listDocuments (handle : DatasetHandle)
  | datasetLock (handle : DatasetHandle)

namespace Operation

/-- The handle that an operation is given. -/
def handle? : Operation → Option DatasetHandle
  | resolveDataset _ _ => none
  | addDocuments handle _ => some handle
  | purgeDocumentMemory handle _ => some handle
  | deleteDocuments handle _ => some handle
  | cognifyDataset handle _ => some handle
  | teardownDataset handle => some handle
  | listDocuments handle => some handle
  | datasetLock handle => some handle

/-- The name of the dataset of an operation. -/
def name : Operation → String
  | resolveDataset name _ => name
  | addDocuments handle _ => handle.name
  | purgeDocumentMemory handle _ => handle.name
  | deleteDocuments handle _ => handle.name
  | cognifyDataset handle _ => handle.name
  | teardownDataset handle => handle.name
  | listDocuments handle => handle.name
  | datasetLock handle => handle.name

/-- The operation, and the handle that it returns, if it returns one. -/
def body (rt : LocalCogneeRuntime) : Operation → LocalProgram (Option DatasetHandle)
  | resolveDataset name tenant => do return some (← rt.resolveDataset name tenant)
  | addDocuments handle payloads => do return some (← rt.addDocuments handle payloads)
  | purgeDocumentMemory handle dataIds => do
    rt.purgeDocumentMemory handle dataIds
    return none
  | deleteDocuments handle dataIds => do
    rt.deleteDocuments handle dataIds
    return none
  | cognifyDataset handle profile => do
    rt.cognifyDataset handle profile
    return none
  | teardownDataset handle => do
    rt.teardownDataset handle
    return none
  | listDocuments handle => do
    let _ ← rt.listDocuments handle
    return none
  | datasetLock handle => do
    let _ ← rt.datasetLock handle
    return none

end Operation

/-- What an operation came to, from a pinned scope. -/
inductive Performed (op : Operation) (pin : Option String) :
    Except PyError (Option DatasetHandle) → LocalState → Prop
  /-- It raised, and nothing was done for any user. -/
  | rejected {e : PyError} {t : LocalState} (h : Rejected pin t) : Performed op pin (.error e) t
  /-- There was nothing to do, for a handle of the pinned scope. -/
  | idle {r : Option DatasetHandle} {t : LocalState} {handle : DatasetHandle}
    (h : Phase pin none none t) (hop : op.handle? = some handle)
    (hpin : pin = some handle.identityScope) (hr : ∀ h ∈ r, h = handle) : Performed op pin (.ok r) t
  /-- It acted for a user, the owner of the pinned scope and of the handle. -/
  | acted {o : Except PyError (Option DatasetHandle)} {t : LocalState} {user : SdkUser}
    {c : UUID × Option UUID} (hc : userCoordinates user = .ok c)
    (hpin : ∀ p ∈ pin, p = identityScopeOf c)
    (hscope : ∀ handle ∈ op.handle?, handle.identityScope = identityScopeOf c)
    (hphase : Phase (some (identityScopeOf c)) (some user) (some user) t)
    (hok : ∀ r, o = .ok r → Unambiguous op.name c t ∧
      ∀ handle ∈ r, op.handle? = some handle ∨ Found op.name c handle t) : Performed op pin o t

section Bodies

open LocalCogneeRuntime

variable {rt : LocalCogneeRuntime} {pin : Option String} {user : SdkUser} {c : UUID × Option UUID}
  {handle : DatasetHandle} {s : LocalState}

theorem allCalls_addGroups (groups : List (GroupKey × List DocumentPayload)) :
    (addGroups handle user groups).AllCalls (LocalCall.For (some user)) := by
  induction groups with
  | nil => trivial
  | cons group groups ih =>
    refine AllCalls.bind ?_ fun _ => ih
    exact (allCalls_call nofun).bind fun _ => (allCalls_call fun _ => id).bind fun _ =>
      (allCalls_ofExcept _).bind fun _ => allCalls_call nofun

theorem allCalls_forgetEach (datasetId : UUID) (memoryOnly : Bool) (dataIds : List UUID) :
    (forgetEach datasetId memoryOnly user dataIds).AllCalls (LocalCall.For (some user)) := by
  induction dataIds with
  | nil => trivial
  | cons dataId dataIds ih =>
    refine AllCalls.bind ?_ fun _ => ih
    exact (allCalls_call fun _ => id).handle fun _ => .ite (fun _ => trivial) fun _ => trivial

/-- The start of every operation that does something: the database structures
    and the user. -/
theorem wp_bound {α : Type} {f : SdkUser → LocalProgram α} {Q : α → LocalState → Prop}
    {E : PyError → LocalState → Prop} (hs : Phase pin none none s)
    (hpin : pin = some handle.identityScope) (hE : ∀ e t, Rejected pin t → E e t)
    (hf : ∀ u c t, userCoordinates u = .ok c → identityScopeOf c = handle.identityScope →
      Acting handle.name c u t → wp LocalStep (f u) Q E t) :
    wp LocalStep (do
      rt.ensureReady
      let user ← rt.bindUser handle
      f user) Q E s := by
  rw [wp_bind]
  refine wp_mono (hs.wp allCalls_ensureReady) (fun _ t ht => ?_) fun e t ht => hE e t ht.rejected
  rw [wp_bind]
  refine wp_mono (wp_bindUser ht hpin) ?_ hE
  rintro u t' ⟨ht', c, hc, hscope⟩
  rw [hpin, ← hscope] at ht'
  exact hf u c t' hc hscope ht'.toActing

/-- An operation that acted for the owner of its handle, and returns no handle. -/
theorem Performed.of_acting {op : Operation} {r : Option DatasetHandle} {t : LocalState}
    (hop : op.handle? = some handle) (hname : op.name = handle.name)
    (hpin : pin = some handle.identityScope) (hc : userCoordinates user = .ok c)
    (hscope : identityScopeOf c = handle.identityScope) (ht : Acting handle.name c user t)
    (hr : ∀ h ∈ r, op.handle? = some h ∨ Found op.name c h t) : Performed op pin (.ok r) t := by
  refine .acted hc (fun p hp => ?_) (fun h hh => ?_) ht.phase fun r' hr' => ?_
  · rw [hpin] at hp
    exact (Option.some.inj hp).symm.trans hscope.symm
  · rw [hop] at hh
    exact Option.some.inj hh ▸ hscope.symm
  · cases hr'
    rw [hname]
    exact ⟨ht.unambiguous, fun h hh => hname ▸ hr h hh⟩

theorem Performed.of_phase {op : Operation} {e : PyError} {t : LocalState}
    (hop : op.handle? = some handle) (hpin : pin = some handle.identityScope)
    (hc : userCoordinates user = .ok c) (hscope : identityScopeOf c = handle.identityScope)
    (ht : Phase (some (identityScopeOf c)) (some user) (some user) t) :
    Performed op pin (.error e) t := by
  refine .acted hc (fun p hp => ?_) (fun h hh => ?_) ht nofun
  · rw [hpin] at hp
    exact (Option.some.inj hp).symm.trans hscope.symm
  · rw [hop] at hh
    exact Option.some.inj hh ▸ hscope.symm

/-- An operation that resolves its handle and goes on with calls for its user. -/
theorem wp_bound_ensureResolved {α : Type} {op : Operation}
    {f : SdkUser → DatasetHandle → LocalProgram α} (hop : op.handle? = some handle)
    (hname : op.name = handle.name) (hs : Phase pin none none s)
    (hpin : pin = some handle.identityScope)
    (hf : ∀ u h, (f u h).AllCalls (LocalCall.For (some u))) :
    wp LocalStep (do
      rt.ensureReady
      let user ← rt.bindUser handle
      let h ← rt.ensureResolved handle user
      f user h) (fun _ => Performed op pin (.ok none))
      (fun e => Performed op pin (.error e)) s := by
  refine wp_bound hs hpin (fun _ _ => .rejected) fun u c t hc hscope ht => ?_
  have herror {e : PyError} {t : LocalState}
      (ht : Phase (some (identityScopeOf c)) (some u) (some u) t) : Performed op pin (.error e) t :=
    .of_phase hop hpin hc hscope ht
  rw [wp_bind]
  refine wp_mono (wp_ensureResolved ht hc hscope) (fun h t' ht' => ?_) fun _ _ => herror
  refine wp_mono (ht'.wp (hf u h)) (fun _ t'' ht'' => ?_) fun _ _ ht'' => herror ht''.phase
  exact .of_acting hop hname hpin hc hscope ht'' nofun

theorem wp_forgetDocuments {op : Operation} {dataIds : List UUID} {memoryOnly : Bool}
    (hop : op.handle? = some handle) (hname : op.name = handle.name)
    (hs : Phase pin none none s) :
    wp LocalStep (rt.forgetDocuments handle dataIds memoryOnly)
      (fun _ => Performed op pin (.ok none)) (fun e => Performed op pin (.error e)) s := by
  rw [forgetDocuments, wp_bind]
  refine wp_mono (wp_validateHandle hs) ?_ fun _ _ ht => .rejected ht.rejected
  rintro - t ⟨ht, hpin⟩
  refine wp_ite (fun _ => .idle ht hop hpin (by simp)) fun _ => ?_
  refine wp_bound_ensureResolved hop hname ht hpin fun u h => ?_
  cases h.datasetId with
  | none => trivial
  | some datasetId =>
    refine (allCalls_ofExcept _).bind fun _ => (allCalls_call nofun).bind fun _ => ?_
    exact (allCalls_forgetEach _ _ _).finally' (allCalls_call nofun)

theorem wp_cognifyDataset {op : Operation} {profile : CognifyProfile}
    (hop : op.handle? = some handle) (hname : op.name = handle.name)
    (hs : Phase pin none none s) :
    wp LocalStep (rt.cognifyDataset handle profile)
      (fun _ => Performed op pin (.ok none)) (fun e => Performed op pin (.error e)) s := by
  rw [cognifyDataset, wp_bind]
  refine wp_mono (wp_validateHandle hs) ?_ fun _ _ ht => .rejected ht.rejected
  rintro - t ⟨ht, hpin⟩
  refine wp_bound_ensureResolved hop hname ht hpin fun u h => ?_
  cases h.datasetId with
  | none => trivial
  | some datasetId =>
    exact (allCalls_call nofun).bind fun _ => (allCalls_call fun _ => id).bind fun _ =>
      (allCalls_ofExcept _).bind fun _ => allCalls_call nofun

theorem wp_teardownDataset {op : Operation} (hop : op.handle? = some handle)
    (hname : op.name = handle.name) (hs : Phase pin none none s) :
    wp LocalStep (rt.teardownDataset handle)
      (fun _ => Performed op pin (.ok none)) (fun e => Performed op pin (.error e)) s := by
  rw [teardownDataset, wp_bind]
  refine wp_mono (wp_validateHandle hs) ?_ fun _ _ ht => .rejected ht.rejected
  rintro - t ⟨ht, hpin⟩
  refine wp_bound_ensureResolved hop hname ht hpin fun u h => ?_
  cases h.datasetId with
  | none => trivial
  | some datasetId =>
    exact (allCalls_call fun _ => id).handle fun _ => .ite (fun _ => trivial) fun _ => trivial

theorem wp_listDocuments {op : Operation} (hop : op.handle? = some handle)
    (hname : op.name = handle.name) (hs : Phase pin none none s) :
    wp LocalStep (rt.listDocuments handle)
      (fun _ => Performed op pin (.ok none)) (fun e => Performed op pin (.error e)) s := by
  rw [listDocuments, wp_bind]
  refine wp_mono (wp_validateHandle hs) ?_ fun _ _ ht => .rejected ht.rejected
  rintro - t ⟨ht, hpin⟩
  refine wp_bound_ensureResolved hop hname ht hpin fun u h => ?_
  cases h.datasetId with
  | none => trivial
  | some datasetId => exact (allCalls_call fun _ => id).bind fun _ => trivial

theorem wp_datasetLock {op : Operation} (hop : op.handle? = some handle)
    (hs : Phase pin none none s) :
    wp LocalStep (rt.datasetLock handle)
      (fun _ => Performed op pin (.ok none)) (fun e => Performed op pin (.error e)) s := by
  rw [datasetLock, wp_bind]
  refine wp_mono (wp_validateHandle hs) ?_ fun _ _ ht => .rejected ht.rejected
  rintro - t ⟨ht, hpin⟩
  exact .idle ht hop hpin (by simp)

theorem wp_resolveDataset {name tenant : String} (hs : Phase pin none none s) :
    wp LocalStep (rt.resolveDataset name tenant)
      (fun h => Performed (.resolveDataset name tenant) pin (.ok (some h)))
      (fun e => Performed (.resolveDataset name tenant) pin (.error e)) s := by
  have hrejected {e : PyError} {t : LocalState} (ht : Rejected pin t) :
      Performed (.resolveDataset name tenant) pin (.error e) t := .rejected ht
  -- Until the scope is bound, whatever fails is rejected for nobody.
  rw [resolveDataset, wp_bind, wp_ofExcept]
  refine ⟨fun _ _ => ?_, fun _ _ => hrejected hs.rejected⟩
  rw [wp_bind, wp_ofExcept]
  refine ⟨fun _ _ => ?_, fun _ _ => hrejected hs.rejected⟩
  rw [wp_bind]
  refine wp_mono (hs.wp allCalls_ensureReady) (fun _ t ht => ?_) fun _ _ ht => hrejected ht.rejected
  rw [wp_bind]
  refine wp_mono (wp_resolveActingUser ht) ?_ fun _ _ => hrejected
  rintro user t' ⟨ht', c, hc⟩
  rw [wp_bind, wp_ofExcept]
  refine ⟨fun sc hsc => wp_bind.2 ?_, fun _ _ => hrejected ht'.rejected⟩
  obtain rfl := physicalIdentityScope_ok hc hsc
  refine wp_mono (wp_bindRuntimeScope ht') ?_ fun _ _ => hrejected
  rintro - t'' ⟨ht'', hpin⟩
  refine wp_mono (wp_resolveDatasetForUser ht''.toActing hc) ?_ fun e u hu => ?_
  · rintro handle u ⟨hu, hfound⟩
    refine .acted hc hpin nofun hu.phase fun r hr => ?_
    cases hr
    exact ⟨hu.unambiguous, fun h hh => .inr (Option.some.inj hh ▸ hfound)⟩
  · exact .acted hc hpin nofun hu nofun

theorem wp_addDocuments {payloads : List DocumentPayload} (hs : Phase pin none none s) :
    wp LocalStep (rt.addDocuments handle payloads)
      (fun h => Performed (.addDocuments handle payloads) pin (.ok (some h)))
      (fun e => Performed (.addDocuments handle payloads) pin (.error e)) s := by
  rw [addDocuments, wp_bind]
  refine wp_mono (wp_validateHandle hs) ?_ fun _ _ ht => .rejected ht.rejected
  rintro - t ⟨ht, hpin⟩
  refine wp_ite (fun _ => ?_) fun _ => ?_
  · exact .idle ht rfl hpin fun _ hh => (Option.some.inj hh).symm
  · refine wp_bound ht hpin (fun _ _ => .rejected) fun u c t hc hscope ht => ?_
    have herror {e : PyError} {t : LocalState}
        (ht : Phase (some (identityScopeOf c)) (some u) (some u) t) :
        Performed (.addDocuments handle payloads) pin (.error e) t :=
      .of_phase rfl hpin hc hscope ht
    rw [wp_bind]
    refine wp_mono (ht.wp (allCalls_addGroups _)) (fun _ t' ht' => ?_) fun _ _ ht' =>
      herror ht'.phase
    cases handle.datasetId with
    | some _ => exact .of_acting rfl rfl hpin hc hscope ht' fun _ => .inl
    | none =>
      -- The dataset materialized on the first add; its id comes from a listing.
      rw [← hscope]
      refine wp_bind.2 (wp_mono (wp_resolveDatasetForUser ht' hc) ?_ fun _ _ => herror)
      rintro h t'' ⟨ht'', hfound⟩
      refine wp_ite (fun _ => herror ht''.phase) fun _ => ?_
      exact .of_acting rfl rfl hpin hc hscope ht'' fun h' hh' => .inr (Option.some.inj hh' ▸ hfound)

/-- What every operation comes to. -/
theorem wp_body (op : Operation) (hs : Phase pin none none s) :
    wp LocalStep (op.body rt) (fun r => Performed op pin (.ok r))
      (fun e => Performed op pin (.error e)) s := by
  cases op with
  | resolveDataset => exact wp_bind.2 (wp_resolveDataset hs)
  | addDocuments => exact wp_bind.2 (wp_addDocuments hs)
  | purgeDocumentMemory => exact wp_bind.2 (wp_forgetDocuments rfl rfl hs)
  | deleteDocuments => exact wp_bind.2 (wp_forgetDocuments rfl rfl hs)
  | cognifyDataset => exact wp_bind.2 (wp_cognifyDataset rfl rfl hs)
  | teardownDataset => exact wp_bind.2 (wp_teardownDataset rfl rfl hs)
  | listDocuments => exact wp_bind.2 (wp_listDocuments rfl rfl hs)
  | datasetLock => exact wp_bind.2 (wp_datasetLock rfl hs)

end Bodies

/-! ## Sessions -/

/-- What is known of a past operation. -/
structure OperationRecord where
  op : Operation
  /-- The pinned scope at its end. -/
  pinned : Option String
  outcome : Except PyError (Option DatasetHandle)
  log : List Exchange

/-- The operations of an instance, one after the other, from its construction. -/
inductive Session (rt : LocalCogneeRuntime) : List OperationRecord → Option String → Bool → Prop
  | start : Session rt [] none false
  | perform {records : List OperationRecord} {pin : Option String} {setupDone : Bool}
    (h : Session rt records pin setupDone) (op : Operation) {t : LocalState}
    {o : Except PyError (Option DatasetHandle)}
    (hrun : Runs LocalStep (op.body rt) ⟨pin, setupDone, []⟩ (ofExcept o) t) :
    Session rt (records ++ [⟨op, t.resolvedIdentityScope, o, t.log⟩]) t.resolvedIdentityScope
      t.setupDone

/-- The id is that of the only dataset of a listing that is owned and has the
    name, whatever the order and whatever else is listed. -/
structure SoleOwned (name : String) (c : UUID × Option UUID) (datasets : List SdkDataset)
    (i : UUID) : Prop where
  sole : ∃ dataset, datasets.filter (·.Owned name c) = [dataset] ∧ dataset.id = i
  independent : ∀ datasets', (∀ dataset ∈ datasets', dataset.WellFormed) →
    (datasets'.filter (·.Owned name c)).Perm (datasets.filter (·.Owned name c)) →
      ownedDatasetId name c datasets' = .ok (some i)

namespace OperationRecord

/-- The operation raised, and did nothing for any user. -/
structure IsRejected (record : OperationRecord) : Prop where
  raised : ∃ e, record.outcome = .error e
  idle : ∀ x ∈ record.log, x.call.actsFor = none

/-- The operation is one of an instance whose owner has the coordinates. -/
structure OwnedBy (record : OperationRecord) (c : UUID × Option UUID) : Prop where
  /-- Every user that was passed on has the coordinates of the owner. -/
  users : ∀ x ∈ record.log, ∀ user, x.call.actsFor = some user → userCoordinates user = .ok c
  /-- They are pinned, and encoded in the handle. -/
  pinned : ∀ x ∈ record.log, x.call.actsFor ≠ none →
    record.pinned = some (identityScopeOf c) ∧
      ∀ handle ∈ record.op.handle?, handle.identityScope = identityScopeOf c
  /-- A returned handle is the given one, or one of the owner's. -/
  found : ∀ handle, record.outcome = .ok (some handle) → record.op.handle? = some handle ∨
    handle.name = record.op.name ∧ handle.identityScope = identityScopeOf c ∧
      ∃ user datasets, ⟨.listDatasets user, .ok datasets⟩ ∈ record.log ∧
        ∀ i ∈ handle.datasetId, SoleOwned record.op.name c datasets i
  /-- Two owned datasets with the name are an error. -/
  ambiguous : ∀ user datasets, ⟨.listDatasets user, .ok datasets⟩ ∈ record.log →
    2 ≤ (datasets.filter (·.Owned record.op.name c)).length → ∃ e, record.outcome = .error e
  /-- A user with other coordinates is rejected. -/
  drifted : ∀ x ∈ record.log, ∀ user, x.resolved = some user → userCoordinates user ≠ .ok c →
    record.IsRejected
  /-- A handle with another scope is rejected. -/
  foreign : ∀ handle ∈ record.op.handle?, handle.identityScope ≠ identityScopeOf c →
    record.IsRejected

/-- An operation that was rejected is fine for any owner. -/
theorem IsRejected.ownedBy {record : OperationRecord} (h : record.IsRejected)
    (c : UUID × Option UUID) : record.OwnedBy c where
  users x hx user hu := by
    rw [h.idle x hx] at hu
    cases hu
  pinned x hx hne := absurd (h.idle x hx) hne
  found handle ho := by
    obtain ⟨e, he⟩ := h.raised
    rw [he] at ho
    cases ho
  ambiguous _ _ _ _ := h.raised
  drifted _ _ _ _ _ := h
  foreign _ _ _ := h

end OperationRecord

section Sessions

variable {rt : LocalCogneeRuntime} {pin : Option String} {setupDone : Bool} {op : Operation}
  {o : Except PyError (Option DatasetHandle)} {t : LocalState} {records : List OperationRecord}

/-- What an operation came to is what its record says. -/
theorem performed_of_runs
    (hrun : Runs LocalStep (op.body rt) ⟨pin, setupDone, []⟩ (ofExcept o) t) :
    Performed op pin o t := by
  have hs : Phase pin none none (⟨pin, setupDone, []⟩ : LocalState) :=
    ⟨rfl, fun _ hx => absurd hx List.not_mem_nil, fun _ hx => absurd hx List.not_mem_nil⟩
  have hwp := wp_runs hrun (wp_body op hs)
  cases o with
  | ok r => exact (wp_ret r).1 hwp
  | error e => exact (wp_raise e).1 hwp

/-- Where a scope is pinned, only its owner is acted for. -/
theorem Performed.ownedBy (huuid : UuidTextIsNotNone) (h : Performed op pin o t)
    {c : UUID × Option UUID} (hpinned : t.resolvedIdentityScope = some (identityScopeOf c)) :
    OperationRecord.OwnedBy ⟨op, t.resolvedIdentityScope, o, t.log⟩ c := by
  cases h with
  | rejected h => exact OperationRecord.IsRejected.ownedBy ⟨⟨_, rfl⟩, h.idle⟩ c
  | idle h hop hpin hr =>
    have hidle := h.rejected.idle
    refine ⟨fun x hx u hu => ?_, fun x hx hne => absurd (hidle x hx) hne, fun handle ho => ?_,
      fun u datasets hx => absurd (hidle _ hx) (Option.some_ne_none u), fun x hx u hu => ?_,
      fun handle hh hne => ?_⟩
    · rw [hidle x hx] at hu
      cases hu
    · exact .inl (hop.trans (congrArg some (hr handle (Except.ok.inj ho)).symm))
    · exact absurd (h.users x hx u hu) nofun
    · obtain rfl := Option.some.inj (hop.symm.trans hh)
      exact absurd (Option.some.inj (hpin.symm.trans (h.pinned.symm.trans hpinned))) hne
  | acted hc hpin hscope hphase hok =>
    have hscopes := Option.some.inj (hphase.pinned.symm.trans hpinned)
    obtain rfl := identityScopeOf_injective huuid hscopes
    refine ⟨fun x hx u hu => ?_, fun x hx hne => ⟨hpinned, hscope⟩, fun handle ho => ?_,
      fun u datasets hx hlen => ?_, fun x hx u hu hne => ?_,
      fun handle hh hne => absurd (hscope handle hh) hne⟩
    · exact Option.some.inj (hphase.acts x hx u hu) ▸ hc
    · refine ((hok _ ho).2 handle rfl).imp_right fun hfound => ⟨hfound.name_eq, hfound.scope_eq, ?_⟩
      obtain ⟨u, datasets, hx, hid⟩ := hfound.listed
      refine ⟨u, datasets, hx, fun i hi => ?_⟩
      rw [Option.mem_def.1 hi] at hid
      exact ⟨ownedDatasetId_some hid, fun _ hwf hperm => ownedDatasetId_congr hwf hperm hid⟩
    · cases o with
      | ok r =>
        obtain ⟨o, ho⟩ := (hok r rfl).1 _ hx u datasets rfl
        exact absurd ho (ownedDatasetId_ne_ok hlen o)
      | error e => exact ⟨e, rfl⟩
    · exact absurd (Option.some.inj (hphase.users x hx u hu) ▸ hc) hne

/-- Before a scope is pinned, every operation is rejected; from then on it is
    the scope of one owner. -/
theorem Session.owned (huuid : UuidTextIsNotNone) (h : Session rt records pin setupDone) :
    (pin = none ∧ ∀ record ∈ records, record.pinned = none ∧ record.IsRejected) ∨
      ∃ c, pin = some (identityScopeOf c) ∧ ∀ record ∈ records, record.OwnedBy c ∧
        (record.pinned = none ∧ record.IsRejected ∨ record.pinned = some (identityScopeOf c)) := by
  induction h with
  | start => exact .inl ⟨rfl, fun _ hr => absurd hr List.not_mem_nil⟩
  | perform h op hrun ih =>
    have hperformed := performed_of_runs hrun
    rcases ih with ⟨rfl, hrecords⟩ | ⟨c, rfl, hrecords⟩
    · cases hperformed with
      | rejected h =>
        refine .inl ⟨h.pinned, List.forall_mem_append.2 ⟨hrecords, fun record hr => ?_⟩⟩
        obtain rfl := List.mem_singleton.1 hr
        exact ⟨h.pinned, ⟨_, rfl⟩, h.idle⟩
      | idle _ _ hpin => cases hpin
      -- The first operation for a user: what came before it was rejected, for any owner.
      | acted hc hpin hscope hphase hok =>
        refine .inr ⟨_, hphase.pinned, List.forall_mem_append.2 ⟨fun record hr => ?_,
          fun record hr => ?_⟩⟩
        · exact ⟨(hrecords record hr).2.ownedBy _, .inl (hrecords record hr)⟩
        · obtain rfl := List.mem_singleton.1 hr
          have hacted := Performed.acted hc hpin hscope hphase hok
          exact ⟨hacted.ownedBy huuid hphase.pinned, .inr hphase.pinned⟩
    · have hpinned := by
        cases hperformed with
        | rejected h => exact h.pinned
        | idle h => exact h.pinned
        | acted _ hpin _ hphase => exact hphase.pinned.trans (congrArg some (hpin _ rfl).symm)
      refine .inr ⟨c, hpinned, List.forall_mem_append.2 ⟨hrecords, fun record hr => ?_⟩⟩
      obtain rfl := List.mem_singleton.1 hr
      exact ⟨hperformed.ownedBy huuid hpinned, .inr hpinned⟩

/-- A pinned scope stays pinned. -/
theorem Session.pinned_pairwise (huuid : UuidTextIsNotNone) (h : Session rt records pin setupDone) :
    records.Pairwise fun r r' => r.pinned = none ∨ r'.pinned = r.pinned := by
  induction h with
  | start => exact .nil
  | perform h op hrun ih =>
    refine List.pairwise_append.2 ⟨ih, List.pairwise_singleton _ _, fun r hr r' hr' => ?_⟩
    obtain rfl := List.mem_singleton.1 hr'
    rcases h.owned huuid with ⟨-, hrecords⟩ | ⟨c, rfl, hrecords⟩
    · exact .inl (hrecords r hr).1
    · refine (hrecords r hr).2.imp And.left fun hr => ?_
      cases performed_of_runs hrun with
      | rejected h => exact h.pinned.trans hr.symm
      | idle h => exact h.pinned.trans hr.symm
      | acted _ hpin _ hphase =>
        exact (hphase.pinned.trans (congrArg some (hpin _ rfl).symm)).trans hr.symm

/-- An instance never acts for two owners: its operations were all rejected, or
    they are those of the one owner whose scope it pinned. -/
theorem one_owner (huuid : UuidTextIsNotNone) (h : Session rt records pin setupDone) :
    (records.Pairwise fun r r' => r.pinned = none ∨ r'.pinned = r.pinned) ∧
      ((pin = none ∧ ∀ record ∈ records, record.IsRejected) ∨
        ∃ c, pin = some (identityScopeOf c) ∧ ∀ record ∈ records, record.OwnedBy c) := by
  refine ⟨h.pinned_pairwise huuid, (h.owned huuid).imp ?_ ?_⟩
  · exact fun ⟨hpin, hrecords⟩ => ⟨hpin, fun record hr => (hrecords record hr).2⟩
  · exact fun ⟨c, hpin, hrecords⟩ => ⟨c, hpin, fun record hr => (hrecords record hr).1⟩

end Sessions

/-! ## Operations that succeed -/

section Resolving

open LocalCogneeRuntime

variable {rt : LocalCogneeRuntime} {user : SdkUser} {c : UUID × Option UUID} {name tenant : String}
  {datasets : List SdkDataset} {handle : DatasetHandle} {s : LocalState}

theorem runs_assertStorageRoots (rt : LocalCogneeRuntime) (s : LocalState) :
    Runs LocalStep rt.assertStorageRoots s (ret ())
      (s.exchange .storageRoots (.ok (some rt.dataRoot, some rt.systemRoot))) := by
  refine .bind (.call (.sdk id (.ok (some rt.dataRoot, some rt.systemRoot)))) ?_
  rw [if_neg (not_not.2 rfl)]
  exact .refl

/-- The database structures can be created. -/
theorem runs_ensureReady (rt : LocalCogneeRuntime) (s : LocalState) :
    ∃ t, Runs LocalStep rt.ensureReady s (ret ()) t ∧
      t.resolvedIdentityScope = s.resolvedIdentityScope := by
  let t := (s.exchange .ensureLocalSdkMode (.ok ())).exchange .storageRoots
    (.ok (some rt.dataRoot, some rt.systemRoot))
  -- Whether the databases are set up or not, the roots are checked before.
  have hcheck {u : LocalState} (h : Runs LocalStep (if !t.setupDone then (do
      let () ← sdk .ensureDatabasesReady
      sdk .setSetupDone) else pure ()) t (ret ()) u) : Runs LocalStep rt.ensureReady s (ret ()) u :=
    .bind (.call (.sdk id (.ok ()))) (.bind (runs_assertStorageRoots rt _)
      (.bind (.call .getSetupDone) h))
  by_cases hsetup : t.setupDone = true
  · refine ⟨t, hcheck ?_, rfl⟩
    rw [hsetup]
    exact .refl
  · refine ⟨{ t.exchange .ensureDatabasesReady (.ok ()) with setupDone := true }, hcheck ?_, rfl⟩
    rw [Bool.eq_false_iff.2 hsetup]
    exact .bind (.call (.sdk id (.ok ()))) (.call .setSetupDone)

theorem runs_resolveActingUser (hrt : rt.user = none) (hc : userCoordinates user = .ok c)
    (s : LocalState) :
    Runs LocalStep rt.resolveActingUser s (ret user)
      (s.exchange .resolveDefaultUser (.ok user)) := by
  rw [resolveActingUser, hrt]
  exact .bind (.call (.sdk id (.ok user))) (.bind (.ofExcept hc) .refl)

theorem physicalIdentityScope_eq (hc : userCoordinates user = .ok c) :
    physicalIdentityScope user = .ok (identityScopeOf c) := by
  rw [physicalIdentityScope, hc]
  rfl

/-- The first resolution of an instance for the default user can succeed. -/
theorem runs_resolveDataset (hname : validateDatasetName name = .ok ())
    (htenant : validateTenant tenant = .ok ()) (hrt : rt.user = none)
    (hs : s.resolvedIdentityScope = none) (hc : userCoordinates user = .ok c)
    (hid : ownedDatasetId name c datasets = .ok handle.datasetId)
    (hhandle : DatasetHandle.init name tenant (identityScopeOf c) handle.datasetId = .ok handle) :
    ∃ t, Runs LocalStep (rt.resolveDataset name tenant) s (ret handle) t ∧
      t.resolvedIdentityScope = some (identityScopeOf c) := by
  obtain ⟨t, ht, hpin⟩ := runs_ensureReady rt s
  let t' := t.exchange .resolveDefaultUser (.ok user)
  have huser := runs_resolveActingUser hrt hc t
  have hbind : Runs LocalStep (bindRuntimeScope (identityScopeOf c)) t' (ret ())
      { t' with resolvedIdentityScope := some (identityScopeOf c) } := by
    refine .bind (.call .getIdentityScope) ?_
    rw [show t'.resolvedIdentityScope = none from hpin.trans hs]
    exact .call (.setIdentityScope _)
  refine ⟨LocalState.exchange { t' with resolvedIdentityScope := some (identityScopeOf c) }
    (.listDatasets user) (.ok datasets), ?_, rfl⟩
  refine .bind (.ofExcept hname) (.bind (.ofExcept htenant) (.bind ht (.bind huser
    (.bind (.ofExcept (physicalIdentityScope_eq hc)) (.bind hbind ?_)))))
  exact .bind (.ofExcept hc) (.bind (.call (.sdk id (.ok datasets)))
    (.bind (.ofExcept hid) (.ofExcept hhandle)))

/-- The handle of the owner that the instance is bound to is accepted. -/
theorem runs_validateHandle (hname : validateDatasetName handle.name = .ok ())
    (htenant : validateTenant handle.tenant = .ok ())
    (hs : s.resolvedIdentityScope = some handle.identityScope) :
    Runs LocalStep (rt.validateHandle handle) s (ret ())
      (s.exchange .storageRoots (.ok (some rt.dataRoot, some rt.systemRoot))) := by
  refine .bind (.ofExcept hname) (.bind (.ofExcept htenant) (.bind (.call .getIdentityScope) ?_))
  rw [hs]
  simp only [ne_eq, not_true_eq_false, if_false]
  exact runs_assertStorageRoots rt s

/-- Where Cognee returns another user than that of the handle, a cognify raises. -/
theorem runs_cognifyDataset_drifted {profile : CognifyProfile}
    (hname : validateDatasetName handle.name = .ok ())
    (htenant : validateTenant handle.tenant = .ok ()) (hrt : rt.user = none)
    (hs : s.resolvedIdentityScope = some handle.identityScope)
    (hc : userCoordinates user = .ok c) (hdrift : identityScopeOf c ≠ handle.identityScope) :
    ∃ e t, Runs LocalStep (rt.cognifyDataset handle profile) s (raise e) t ∧
      t.resolvedIdentityScope = some handle.identityScope := by
  let t := s.exchange .storageRoots (.ok (some rt.dataRoot, some rt.systemRoot))
  have hvalidate : Runs LocalStep (rt.validateHandle handle) s (ret ()) t :=
    runs_validateHandle hname htenant hs
  obtain ⟨t', ht', hpin⟩ := runs_ensureReady rt t
  have huser := runs_resolveActingUser hrt hc t'
  let u := t'.exchange .resolveDefaultUser (.ok user)
  have hpin' : u.resolvedIdentityScope = some handle.identityScope := hpin.trans hs
  let e : PyError := ⟨.runtimeError,
    "the acting Cognee user or active tenant changed after this " ++
      "runtime first resolved a dataset"⟩
  -- The scope that is bound already is another one.
  have hraise : Runs LocalStep (bindRuntimeScope (identityScopeOf c)) u (raise e) u := by
    refine .bind (.call .getIdentityScope) ?_
    rw [hpin']
    simp only [ne_eq, hdrift.symm, not_false_eq_true, if_true]
    exact .refl
  exact ⟨e, u, .bind hvalidate (.bind ht' (.bind_raise (.bind huser
    (.bind (.ofExcept (physicalIdentityScope_eq hc)) (.bind_raise hraise))))), hpin'⟩

end Resolving

end

/-- An instance for the default user. -/
def LocalCogneeRuntime.sample : @LocalCogneeRuntime .sample :=
  @LocalCogneeRuntime.mk .sample "/data" "/system" none

/-- A user without a tenant. -/
def SdkUser.sample (id : String) : @SdkUser .sample :=
  @SdkUser.mk .sample (@SdkAttribute.uuid .sample id) (@SdkAttribute.none .sample)

/-- The handle of `alice` for a dataset that does not exist yet. -/
def DatasetHandle.sample : @DatasetHandle .sample :=
  @DatasetHandle.mk .sample "docs" "default" (@identityScopeOf .sample ("alice", none)) none
    (by decide)

/-- Alice resolves a dataset; Cognee then says that the user is Bob, for whom
    nothing is done. -/
theorem one_owner_sample :
    letI : Platform := .sample
    ∃ records pin setupDone,
      Session LocalCogneeRuntime.sample records pin setupDone ∧ records.length = 2 ∧
        ∃ c, pin = some (identityScopeOf c) ∧ ∀ record ∈ records, record.OwnedBy c := by
  let _ : Platform := .sample
  let handle := DatasetHandle.sample
  have hname : validateDatasetName handle.name = .ok () := by decide
  have htenant : validateTenant handle.tenant = .ok () := by decide
  have hrt : LocalCogneeRuntime.sample.user = none := rfl
  have hs : (⟨none, false, []⟩ : LocalState).resolvedIdentityScope = none := rfl
  have halice : userCoordinates (.sample "alice") = .ok ("alice", none) := rfl
  have hbob : userCoordinates (.sample "bob") = .ok ("bob", none) := rfl
  have hid : ownedDatasetId handle.name ("alice", none) [] = .ok handle.datasetId := rfl
  have hhandle : DatasetHandle.init handle.name handle.tenant (identityScopeOf ("alice", none))
    handle.datasetId = .ok handle := by decide
  obtain ⟨t, ht, hpin⟩ := runs_resolveDataset hname htenant hrt hs halice hid hhandle
  have hs' : (⟨t.resolvedIdentityScope, t.setupDone, []⟩ : LocalState).resolvedIdentityScope =
    some handle.identityScope := hpin
  obtain ⟨e, t', ht', hpin'⟩ := runs_cognifyDataset_drifted hname htenant hrt hs' hbob (by decide)
  have hresolve : Runs LocalStep (Operation.body .sample (.resolveDataset "docs" "default"))
      ⟨none, false, []⟩ (ofExcept (.ok (some handle))) t := .bind ht .refl
  have hcognify : Runs LocalStep (Operation.body .sample (.cognifyDataset handle {}))
      ⟨t.resolvedIdentityScope, t.setupDone, []⟩ (ofExcept (.error e)) t' := .bind_raise ht'
  have hsession := (Session.start.perform _ hresolve).perform _ hcognify
  refine ⟨_, _, _, hsession, rfl, ?_⟩
  rcases (one_owner Platform.sample_uuidText hsession).2 with ⟨hnone, -⟩ | howned
  · rw [hpin'] at hnone
    cases hnone
  · exact howned

end Cogindex
