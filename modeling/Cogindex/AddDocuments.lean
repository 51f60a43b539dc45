import Cogindex.Library.Grouping
import Cogindex.OneOwner
import Cogindex.PipelineGuard

/-!
# Adding documents

What an in-process runtime sends to `cognee.add`, whatever the SDK answers. The
payloads are grouped by the parameters that an add has only once, and the groups
are sent one after the other until one is not accepted (`wp_addGroups`).

* `wp_adds_addDocuments`: the adds of an operation, whether it returns or raises;
* `payloads_sent_once`: they are a partition of the payloads, each with the
  parameters of its documents, up to the equality of numbers.
-/

namespace Cogindex

open Coroutine

section

variable [Platform]

/-! ## The adds of a log -/

/-- An add, and its response. -/
def Exchange.add? : Exchange → Option (AddRequest × Except PyError RunInfo)
  | ⟨.add request _, response⟩ => some (request, response)
  | _ => none

/-- The adds of an operation. -/
def LocalState.adds (s : LocalState) : List (AddRequest × Except PyError RunInfo) :=
  s.log.filterMap Exchange.add?

/-- Any call but an add. -/
def LocalCall.NotAdd : LocalCall → Prop
  | add _ _ => False
  | _ => True

section Steps

variable {s s' : LocalState} {c : LocalCall} {r : Except PyError c.Response} {α : Type}
  {p : LocalProgram α}

theorem LocalState.adds_exchange :
    (s.exchange c r).adds = s.adds ++ (Exchange.add? ⟨c, r⟩).toList := by
  simp only [LocalState.adds, LocalState.exchange, List.filterMap_append]
  cases h : Exchange.add? ⟨c, r⟩ <;> simp [h]

theorem LocalStep.adds_eq (hc : c.NotAdd) (h : LocalStep c s r s') : s'.adds = s.adds := by
  cases h with
  | sdk =>
    rw [LocalState.adds_exchange]
    cases c <;> first | exact List.append_nil _ | exact hc.elim
  | _ => rfl

theorem LocalStep.add_eq {request : AddRequest} {user : SdkUser} {r : Except PyError RunInfo}
    (h : LocalStep (.add request user) s r s') : s'.adds = s.adds ++ [(request, r)] := by
  cases h
  exact LocalState.adds_exchange

/-- A coroutine without adds. -/
theorem wp_adds (hp : p.AllCalls LocalCall.NotAdd) :
    wp LocalStep p (fun _ t => t.adds = s.adds) (fun _ t => t.adds = s.adds) s :=
  hp.wp (fun _ _ _ _ hc hs h => (h.adds_eq hc).trans hs) rfl

/-- A call that does nothing for any user is not an add. -/
theorem LocalCall.For.notAdd (h : c.For none) : c.NotAdd := by
  cases c <;> first | trivial | exact absurd (h _ rfl) nofun

end Steps

open LocalCogneeRuntime

section Calls

variable {rt : LocalCogneeRuntime} {handle : DatasetHandle} {user : SdkUser}

theorem allCalls_bindUser : (rt.bindUser handle).AllCalls LocalCall.NotAdd := by
  have hcheck (u : SdkUser) : (do
      let _ ← ofExcept (userCoordinates u)
      return u : LocalProgram SdkUser).AllCalls LocalCall.NotAdd :=
    AllCalls.bind (allCalls_ofExcept _) fun _ => trivial
  have hresolve : rt.resolveActingUser.AllCalls LocalCall.NotAdd := by
    rw [resolveActingUser]
    cases rt.user with
    | none => exact AllCalls.bind (allCalls_call trivial) hcheck
    | some configured =>
      exact AllCalls.bind (allCalls_ofExcept _) fun _ => AllCalls.bind (allCalls_call trivial)
        fun u => AllCalls.bind (allCalls_ofExcept _) fun _ => .ite (fun _ => trivial)
          fun _ => hcheck u
  have hbind (sc : String) : (bindRuntimeScope sc).AllCalls LocalCall.NotAdd := by
    refine (allCalls_call trivial).bind fun bound => ?_
    cases bound with
    | none => exact allCalls_call trivial
    | some b => exact .ite (fun _ => trivial) fun _ => trivial
  exact hresolve.bind fun _ => (allCalls_ofExcept _).bind fun _ => (hbind _).bind fun _ =>
    .ite (fun _ => trivial) fun _ => trivial

theorem allCalls_resolveDatasetForUser {name tenant sc : String} :
    (resolveDatasetForUser name tenant user sc).AllCalls LocalCall.NotAdd :=
  (allCalls_ofExcept _).bind fun _ => (allCalls_call trivial).bind fun _ =>
    (allCalls_ofExcept _).bind fun _ => allCalls_ofExcept _

end Calls

/-! ## Groups -/

/-- The parameters of an add that a payload asks for. -/
def payloadKey (payload : DocumentPayload) : GroupKey := (payload.nodeSet, payload.importanceWeight)

theorem joinGroup_eq (payload : DocumentPayload)
    (groups : List (GroupKey × List DocumentPayload)) :
    joinGroup payload groups = Grouping.join groupKeyEq payloadKey payload groups := by
  induction groups with
  | nil => rfl
  | cons group groups ih =>
    rw [joinGroup, Grouping.join, ih]
    rfl

theorem groupKeyEq_symmetric (hsymm : FloatEqSymmetric) (k k' : GroupKey) :
    groupKeyEq k k' = groupKeyEq k' k := by
  obtain ⟨nodes, weight⟩ := k
  obtain ⟨nodes', weight'⟩ := k'
  unfold groupKeyEq
  congr 1
  · exact decide_eq_decide.2 eq_comm
  · cases weight <;> cases weight' <;> first | rfl | exact hsymm _ _

theorem payloadGroups_perm (payloads : List DocumentPayload) :
    (payloadGroups payloads).Perm (Grouping.groups groupKeyEq payloadKey payloads) := by
  have hfold : payloads.foldl (fun groups payload => joinGroup payload groups) [] =
      Grouping.groups groupKeyEq payloadKey payloads := by
    simp only [joinGroup_eq]
    rfl
  rw [payloadGroups, hfold]
  exact List.mergeSort_perm _ _

/-- The groups of an add are a partition of the payloads by their parameters. -/
theorem isGrouping_payloadGroups (hsymm : FloatEqSymmetric) (payloads : List DocumentPayload) :
    Grouping.IsGrouping groupKeyEq payloadKey payloads (payloadGroups payloads) :=
  (Grouping.isGrouping_groups payloads).of_perm (payloadGroups_perm payloads)
    (groupKeyEq_symmetric hsymm)

theorem payloadGroups_ne_nil {payloads : List DocumentPayload} (hne : payloads ≠ []) :
    payloadGroups payloads ≠ [] := by
  intro hnil
  have hperm := payloadGroups_perm payloads
  rw [hnil] at hperm
  have hpartition := (@Grouping.isGrouping_groups _ _ groupKeyEq payloadKey payloads).partition
  rw [List.nil_perm.1 hperm] at hpartition
  exact hne (List.nil_perm.1 hpartition)

/-- The same number, or none: `0.0` and `-0.0` are the same. -/
def SameNumber : Option PyFloat → Option PyFloat → Prop
  | none, none => True
  | some x, some y => x = y ∨ Platform.floatEq x y = true
  | _, _ => False

/-- An item is that of a payload, with its content as bytes. -/
structure ItemOf (payload : DocumentPayload) (item : DataItem) : Prop where
  dataId : item.dataId = payload.dataId
  label : item.label = payload.label
  externalMetadata : item.externalMetadata = payload.externalMetadata
  data : match payload.content with
    | .str s => item.data = utf8 s
    | .bytes b => item.data = b

/-- A request has the items of payloads, and their parameters. -/
structure Carries (handle : DatasetHandle) (payloads : List DocumentPayload)
    (request : AddRequest) : Prop where
  datasetName : request.datasetName = handle.name
  datasetId : request.datasetId = handle.datasetId
  items : List.Forall₂ ItemOf payloads request.items
  nodeSet : ∀ payload ∈ payloads, request.nodeSet = payload.nodeSet
  importanceWeight : ∀ payload ∈ payloads,
    SameNumber request.importanceWeight payload.importanceWeight

/-- Payloads were sent in one request, and its result was accepted. -/
def Sent (handle : DatasetHandle) (payloads : List DocumentPayload)
    (add : AddRequest × Except PyError RunInfo) : Prop :=
  Carries handle payloads add.1 ∧ ∃ result, add.2 = .ok result ∧
    result.Accepted RunInfo.SameText handle.name (some payloads.length) handle.datasetId

/-- The request of a group. -/
def groupRequest (handle : DatasetHandle) (group : GroupKey × List DocumentPayload) :
    AddRequest where
  items := group.2.map dataItem
  datasetName := handle.name
  incrementalLoading := false
  dataCache := false
  nodeSet := group.1.1
  importanceWeight := group.1.2
  datasetId := handle.datasetId

theorem itemOf_dataItem (payload : DocumentPayload) : ItemOf payload (dataItem payload) := by
  refine ⟨rfl, rfl, rfl, ?_⟩
  cases h : payload.content <;> simp [dataItem, h]

/-- The request of a group carries its payloads. -/
theorem carries_groupRequest {handle : DatasetHandle} {group : GroupKey × List DocumentPayload}
    (hown : ∀ p ∈ group.2, payloadKey p = group.1 ∨ groupKeyEq group.1 (payloadKey p) = true) :
    Carries handle group.2 (groupRequest handle group) where
  datasetName := rfl
  datasetId := rfl
  items := by
    rw [groupRequest, List.forall₂_map_right_iff, List.forall₂_same]
    exact fun p _ => itemOf_dataItem p
  nodeSet p hp := by
    rcases hown p hp with h | h
    · exact (congrArg Prod.fst h).symm
    · rw [groupKeyEq, Bool.and_eq_true, decide_eq_true_iff] at h
      exact h.1
  importanceWeight p hp := by
    show SameNumber group.1.2 p.importanceWeight
    rcases hown p hp with h | h
    · rw [← h]
      show SameNumber p.importanceWeight p.importanceWeight
      cases p.importanceWeight <;> simp [SameNumber]
    · rw [groupKeyEq, Bool.and_eq_true] at h
      have hweight := h.2
      show SameNumber group.1.2 p.importanceWeight
      simp only [payloadKey] at hweight
      cases hw : group.1.2 <;> cases hw' : p.importanceWeight <;>
        simp_all [SameNumber]

/-! ## Sending the groups -/

section Wp

variable {rt : LocalCogneeRuntime} {handle : DatasetHandle} {user : SdkUser} {s : LocalState}
  {group : GroupKey × List DocumentPayload} {groups : List (GroupKey × List DocumentPayload)}
  {payloads : List DocumentPayload}

/-- The request of a group was sent, and its result was accepted. -/
def Accepts (handle : DatasetHandle) (group : GroupKey × List DocumentPayload)
    (add : AddRequest × Except PyError RunInfo) : Prop :=
  add.1 = groupRequest handle group ∧ ∃ result, add.2 = .ok result ∧
    result.Accepted RunInfo.SameText handle.name (some group.2.length) handle.datasetId

/-- The adds of groups that were sent one after the other: they were accepted,
    and at the end there may be one more that failed, or was not. -/
inductive Stopped (handle : DatasetHandle) (groups : List (GroupKey × List DocumentPayload)) :
    List (AddRequest × Except PyError RunInfo) → Prop
  | between {done rest : List (GroupKey × List DocumentPayload)}
    {adds : List (AddRequest × Except PyError RunInfo)} (hgroups : groups = done ++ rest)
    (hadds : List.Forall₂ (Accepts handle) done adds) : Stopped handle groups adds
  | at {done rest : List (GroupKey × List DocumentPayload)}
    {group : GroupKey × List DocumentPayload}
    {adds : List (AddRequest × Except PyError RunInfo)} (hgroups : groups = done ++ group :: rest)
    (hadds : List.Forall₂ (Accepts handle) done adds) (r : Except PyError RunInfo) :
    Stopped handle groups (adds ++ [(groupRequest handle group, r)])

theorem wp_addGroup : wp LocalStep (addGroup handle user group)
    (fun _ t => ∃ add, Accepts handle group add ∧ t.adds = s.adds ++ [add])
    (fun _ t => t.adds = s.adds ∨ ∃ r, t.adds = s.adds ++ [(groupRequest handle group, r)]) s := by
  have hvalidate {s : LocalState} {E : PyError → LocalState → Prop} {Q : Unit → LocalState → Prop}
      (hQ : ∀ t : LocalState, t.adds = s.adds → Q () t)
      (hE : ∀ e (t : LocalState), t.adds = s.adds → E e t) :
      wp LocalStep (sdk .validateEmbeddingDimensions) Q E s :=
    wp_mono (wp_adds (allCalls_call trivial)) (fun _ => hQ) hE
  rw [addGroup, wp_bind]
  refine hvalidate (fun t ht => ?_) fun _ _ => .inl
  rw [wp_bind]
  refine wp_call.2 ⟨fun result t' h => ?_, fun e t' h => .inr ⟨.error e, ?_⟩⟩
  · have hadds : t'.adds = s.adds ++ [(groupRequest handle group, .ok result)] := by
      rw [h.add_eq, ht]
      rfl
    rw [wp_bind, wp_ofExcept]
    refine ⟨fun _ hok => ?_, fun _ _ => .inr ⟨_, hadds⟩⟩
    refine hvalidate (fun t'' ht'' => ?_) fun _ t'' ht'' => .inr ⟨_, ht''.trans hadds⟩
    exact ⟨_, ⟨rfl, result, rfl, (raiseOnErroredRuns_eq_ok_iff.1 hok).2⟩, ht''.trans hadds⟩
  · rw [h.add_eq, ht]
    rfl

/-- The groups are sent in their order, until one is not accepted. -/
theorem wp_addGroups : wp LocalStep (addGroups handle user groups)
    (fun _ t => ∃ adds, List.Forall₂ (Accepts handle) groups adds ∧ t.adds = s.adds ++ adds)
    (fun _ t => ∃ adds, Stopped handle groups adds ∧ t.adds = s.adds ++ adds) s := by
  induction groups generalizing s with
  | nil => exact ⟨[], .nil, (List.append_nil _).symm⟩
  -- The first group is accepted and the others follow, or it is where the adds stop.
  | cons group groups ih =>
    rw [addGroups, wp_bind]
    refine wp_mono wp_addGroup ?_ ?_
    · rintro - t ⟨add, hadd, ht⟩
      refine wp_mono ih ?_ ?_
      · rintro - t' ⟨adds, hadds, ht'⟩
        exact ⟨add :: adds, .cons hadd hadds, by rw [ht', ht, List.append_assoc]; rfl⟩
      · rintro - t' ⟨adds, hstopped, ht'⟩
        refine ⟨add :: adds, ?_, by rw [ht', ht, List.append_assoc]; rfl⟩
        cases hstopped with
        | between hgroups hadds =>
          exact .between (congrArg (group :: ·) hgroups) (.cons hadd hadds)
        | «at» hgroups hadds r =>
          exact .at (congrArg (group :: ·) hgroups) (.cons hadd hadds) r
    · rintro - t (ht | ⟨r, ht⟩)
      · exact ⟨[], .between (List.nil_append _).symm .nil, by rw [ht, List.append_nil]⟩
      · exact ⟨_, .at (List.nil_append _).symm .nil r, ht⟩

/-- Nothing of the groups was sent yet. -/
theorem Stopped.start {t : LocalState} (ht : t.adds = s.adds) :
    ∃ adds, Stopped handle groups adds ∧ t.adds = s.adds ++ adds :=
  ⟨[], .between (List.nil_append _).symm .nil, by rw [ht, List.append_nil]⟩

/-- All groups were sent. -/
theorem Stopped.all {t t' : LocalState} {adds : List (AddRequest × Except PyError RunInfo)}
    (hadds : List.Forall₂ (Accepts handle) groups adds) (ht : t.adds = s.adds ++ adds)
    (ht' : t'.adds = t.adds) : ∃ adds, Stopped handle groups adds ∧ t'.adds = s.adds ++ adds :=
  ⟨adds, .between (List.append_nil groups).symm hadds, ht'.trans ht⟩

/-- The adds of all payloads, up to the first that is not accepted. -/
theorem wp_adds_addDocuments : wp LocalStep (rt.addDocuments handle payloads)
    (fun h t => (handle.datasetId.isSome → h = handle) ∧
      ∃ adds, List.Forall₂ (Accepts handle) (payloadGroups payloads) adds ∧
        t.adds = s.adds ++ adds)
    (fun _ t => ∃ adds, Stopped handle (payloadGroups payloads) adds ∧ t.adds = s.adds ++ adds)
    s := by
  have hnone {α : Type} {p : LocalProgram α} (hp : p.AllCalls (LocalCall.For none)) :
      p.AllCalls LocalCall.NotAdd := hp.mono fun _ => LocalCall.For.notAdd
  rw [addDocuments, wp_bind]
  refine wp_mono (wp_adds (hnone allCalls_validateHandle)) (fun _ t₁ h₁ => ?_)
    fun _ _ => Stopped.start
  refine wp_ite (fun hempty => ?_) fun _ => ?_
  · rw [List.isEmpty_iff.1 hempty]
    have hgroups : payloadGroups [] = [] := by simp [payloadGroups]
    exact ⟨fun _ => rfl, [], hgroups ▸ .nil, by rw [h₁, List.append_nil]⟩
  rw [wp_bind]
  refine wp_mono (wp_adds (hnone allCalls_ensureReady)) (fun _ t₂ h₂ => ?_)
    fun _ t h => Stopped.start (h.trans h₁)
  rw [wp_bind]
  refine wp_mono (wp_adds allCalls_bindUser) (fun user t₃ h₃ => ?_)
    fun _ t h => Stopped.start (h.trans (h₂.trans h₁))
  rw [wp_bind]
  have hstart : t₃.adds = s.adds := h₃.trans (h₂.trans h₁)
  refine wp_mono wp_addGroups ?_ ?_
  · rintro - t₄ ⟨adds, hadds, h₄⟩
    rw [hstart] at h₄
    -- Only a handle without a dataset is resolved again.
    cases hid : handle.datasetId with
    | some d => exact ⟨fun _ => rfl, adds, hadds, h₄⟩
    | none =>
      refine wp_bind.2 (wp_mono (wp_adds allCalls_resolveDatasetForUser) (fun h t₅ h₅ => ?_)
        fun _ t h => Stopped.all hadds h₄ h)
      refine wp_ite (fun _ => Stopped.all hadds h₄ h₅) fun _ => ?_
      exact ⟨by simp, adds, hadds, h₅.trans h₄⟩
  · rintro - t₄ ⟨adds, hstopped, h₄⟩
    exact ⟨adds, hstopped, by rw [h₄, hstart]⟩

end Wp

/-! ## Operations that are not stopped -/

/-- A user that the runtime can act as, with its coordinates. -/
def LocalCogneeRuntime.ActsAs (rt : LocalCogneeRuntime) (user : SdkUser)
    (c : UUID × Option UUID) : Prop :=
  userCoordinates user = .ok c ∧
    ∀ configured, rt.user = some configured → userCoordinates configured = .ok c

/-- A handle that a runtime may have issued: its name and its tenant are valid,
    and its scope is that of a user that the runtime can act as. -/
structure LocalCogneeRuntime.Admits (rt : LocalCogneeRuntime) (handle : DatasetHandle) : Prop where
  name : validateDatasetName handle.name = .ok ()
  tenant : validateTenant handle.tenant = .ok ()
  user : ∃ user c, rt.ActsAs user c ∧ identityScopeOf c = handle.identityScope

section Accepting

variable {rt : LocalCogneeRuntime} {handle : DatasetHandle} {user : SdkUser}
  {c : UUID × Option UUID}
  {s : LocalState} {payloads : List DocumentPayload}

/-- The success of an add of a number of items, on a dataset with an id and a name. -/
def RunInfo.success (datasetId name : String) (count : ℕ) : RunInfo :=
  .object "PipelineRunCompleted" (some datasetId) (some name) <| some <| List.replicate count <|
    .dict [("run_info", .object "PipelineRunCompleted" (some datasetId) (some name) Option.none)]

/-- A success is accepted if no other dataset is expected. -/
theorem raiseOnErroredRuns_success {op datasetId name : String} {count : ℕ}
    {expectedDatasetId : Option UUID}
    (hexpected : ∀ d ∈ expectedDatasetId, datasetId = Platform.uuidStr d) :
    raiseOnErroredRuns (.success datasetId name count) op name (some count) expectedDatasetId =
      .ok () := by
  have hitem : (RunInfo.object "PipelineRunCompleted" (some datasetId) (some name) none).Clean :=
    (RunInfo.clean_leaf_iff fun _ h => by cases h; rfl).2
      (show "PipelineRunCompleted" ≠ _ by decide)
  refine raiseOnErroredRuns_eq_ok_iff.2 ⟨?_, datasetId, _, nofun, ⟨.inr rfl, rfl, rfl⟩, hexpected,
    rfl, List.length_replicate, fun entry hentry => ?_⟩
  · refine RunInfo.clean_object_iff.2 ⟨by decide, fun entry hentry => ?_⟩
    rw [List.eq_of_mem_replicate hentry]
    rintro value ⟨⟩
    exact hitem
  · rw [List.eq_of_mem_replicate hentry]
    exact ⟨_, _, rfl, rfl, .inr rfl, rfl, rfl⟩

/-- Cognee returns a user that the runtime can act as. -/
theorem runs_bindUser (hacts : rt.ActsAs user c) (hscope : identityScopeOf c = handle.identityScope)
    (hs : s.resolvedIdentityScope = some handle.identityScope) :
    ∃ t, Runs LocalStep (rt.bindUser handle) s (ret user) t ∧
      t.resolvedIdentityScope = s.resolvedIdentityScope := by
  have hresolve : ∃ t, Runs LocalStep rt.resolveActingUser s (ret user) t ∧
      t.resolvedIdentityScope = s.resolvedIdentityScope := by
    cases hrt : rt.user with
    | none => exact ⟨_, runs_resolveActingUser hrt hacts.1 s, rfl⟩
    | some configured =>
      refine ⟨s.exchange (.resolveUser c.1) (.ok user), ?_, rfl⟩
      rw [resolveActingUser, hrt]
      refine .bind (.ofExcept (hacts.2 configured hrt)) ?_
      refine .bind (.call (.sdk id (.ok user))) ?_
      refine .bind (.ofExcept hacts.1) ?_
      rw [if_neg (not_not.2 rfl)]
      exact .bind .refl (.bind (.ofExcept hacts.1) .refl)
  obtain ⟨t, ht, hpin⟩ := hresolve
  have hbind : Runs LocalStep (bindRuntimeScope (identityScopeOf c)) t (ret ()) t := by
    refine .bind (.call .getIdentityScope) ?_
    rw [hpin, hs, hscope]
    simp only [ne_eq, not_true_eq_false, if_false]
    exact .refl
  refine ⟨t, .bind ht (.bind (.ofExcept (physicalIdentityScope_eq hacts.1)) (.bind hbind ?_)), hpin⟩
  rw [if_neg (not_not.2 hscope)]
  exact .refl

theorem datasetHandle_init_eq (handle : DatasetHandle) :
    DatasetHandle.init handle.name handle.tenant handle.identityScope handle.datasetId =
      .ok handle := by
  rw [DatasetHandle.init, attachOk_eq (validateCoordinate_ok_iff.2 handle.identityScope_ok)]
  rfl

/-- The results of the adds of groups that report a dataset with an id. -/
def successes (handle : DatasetHandle) (datasetId : String)
    (groups : List (GroupKey × List DocumentPayload)) :
    List (AddRequest × Except PyError RunInfo) :=
  groups.map fun group =>
    (groupRequest handle group, .ok (.success datasetId handle.name group.2.length))

theorem mem_successes (handle : DatasetHandle) (datasetId : String)
    {groups : List (GroupKey × List DocumentPayload)} {group : GroupKey × List DocumentPayload}
    (hgroup : group ∈ groups) :
    (groupRequest handle group, .ok (.success datasetId handle.name group.2.length)) ∈
      successes handle datasetId groups :=
  List.mem_map.2 ⟨group, hgroup, rfl⟩

/-- All groups are accepted, whatever dataset their results report. -/
theorem runs_addGroups (user : SdkUser) (datasetId : String) (hnone : handle.datasetId = none)
    (groups : List (GroupKey × List DocumentPayload)) (s : LocalState) :
    ∃ t, Runs LocalStep (addGroups handle user groups) s (ret ()) t ∧
      t.resolvedIdentityScope = s.resolvedIdentityScope ∧
      t.adds = s.adds ++ successes handle datasetId groups := by
  induction groups generalizing s with
  | nil => exact ⟨s, .refl, rfl, (List.append_nil _).symm⟩
  | cons group groups ih =>
    have hgroup : ∃ t, Runs LocalStep (addGroup handle user group) s (ret ()) t ∧
        t.resolvedIdentityScope = s.resolvedIdentityScope ∧
        t.adds = s.adds ++ successes handle datasetId [group] := by
      have hvalidate (s : LocalState) : Runs LocalStep (sdk .validateEmbeddingDimensions) s (ret ())
          (s.exchange .validateEmbeddingDimensions (.ok ())) := .call (.sdk id _)
      refine ⟨_, .bind (hvalidate s) (.bind (.call (.sdk id (.ok
        (RunInfo.success datasetId handle.name group.2.length)))) (.bind (.ofExcept
        (raiseOnErroredRuns_success ?_)) (hvalidate _))), ?_, ?_⟩
      · rw [hnone]
        exact fun d hd => absurd hd (Option.not_mem_none d)
      · rfl
      · rw [LocalState.adds_exchange, LocalState.adds_exchange, LocalState.adds_exchange]
        simp [Exchange.add?, successes, groupRequest]
    obtain ⟨t, ht, hpin, hadds⟩ := hgroup
    obtain ⟨t', ht', hpin', hadds'⟩ := ih t
    refine ⟨t', .bind ht ht', hpin'.trans hpin, ?_⟩
    rw [hadds', hadds, List.append_assoc]
    rfl

/-- Adds that report any dataset are taken for adds to the one that is listed afterwards. -/
theorem runs_addDocuments_unknown (hadmits : rt.Admits handle) (hnone : handle.datasetId = none)
    (hne : payloads ≠ []) (datasetId : String) (d : UUID) :
    ∃ t, Runs LocalStep (rt.addDocuments handle payloads)
        ⟨some handle.identityScope, false, []⟩ (ret { handle with datasetId := some d }) t ∧
      t.adds = successes handle datasetId (payloadGroups payloads) := by
  obtain ⟨user, c, hacts, hscope⟩ := hadmits.user
  let s₀ : LocalState := ⟨some handle.identityScope, false, []⟩
  have hvalidate : Runs LocalStep (rt.validateHandle handle) s₀ (ret ()) _ :=
    runs_validateHandle hadmits.name hadmits.tenant rfl
  obtain ⟨s₂, hready, hpin₂⟩ := runs_ensureReady rt
    (s₀.exchange .storageRoots (.ok (some rt.dataRoot, some rt.systemRoot)))
  obtain ⟨s₃, huser, hpin₃⟩ := runs_bindUser hacts hscope hpin₂
  obtain ⟨s₄, hgroups, hpin₄, hadds₄⟩ := runs_addGroups user datasetId hnone
    (payloadGroups payloads) s₃
  -- Nothing is added before the groups are.
  have hadds₃ : s₃.adds = [] := by
    have hnotAdd (c : LocalCall) : c.For none → c.NotAdd := LocalCall.For.notAdd
    have h₁ := wp_runs hvalidate (wp_adds (allCalls_validateHandle.mono hnotAdd))
    have h₂ := wp_runs hready (wp_adds (allCalls_ensureReady.mono hnotAdd))
    have h₃ := wp_runs huser (wp_adds allCalls_bindUser)
    exact h₃.trans (h₂.trans h₁)
  let dataset : SdkDataset := ⟨d, handle.name, .uuid c.1, c.2.elim .none .uuid⟩
  have hlist : Runs LocalStep
      (resolveDatasetForUser handle.name handle.tenant user handle.identityScope) s₄
      (ret { handle with datasetId := some d })
      (s₄.exchange (.listDatasets user) (.ok [dataset])) := by
    refine .bind (.ofExcept hacts.1) (.bind (.call (.sdk id (.ok [dataset])))
      (.bind (.ofExcept (a := some d) ?_) (.ofExcept ?_)))
    · have howned : isOwnedMatch handle.name c dataset = .ok true := by
        simp only [isOwnedMatch, dataset, and_self, if_true]
        cases c.2 <;> simp [datasetTenantId]
      simp [ownedDatasetId, ownedMatches, howned]
      rfl
    · exact datasetHandle_init_eq { handle with datasetId := some d }
  refine ⟨s₄.exchange (.listDatasets user) (.ok [dataset]), .bind hvalidate ?_, ?_⟩
  · rw [if_neg (by rwa [List.isEmpty_iff])]
    refine .bind hready (.bind huser (.bind hgroups ?_))
    rw [hnone]
    exact .bind hlist .refl
  · rw [LocalState.adds_exchange, hadds₄, hadds₃]
    exact List.append_nil _

end Accepting

/-! ## Partitions -/

section Sent

variable {handle : DatasetHandle} {groups : List (GroupKey × List DocumentPayload)}
  {adds : List (AddRequest × Except PyError RunInfo)} {payloads : List DocumentPayload}

/-- An accepted add has sent the payloads of its group. -/
theorem Accepts.sent {group : GroupKey × List DocumentPayload}
    {add : AddRequest × Except PyError RunInfo} (h : Accepts handle group add)
    (hown : ∀ p ∈ group.2, payloadKey p = group.1 ∨ groupKeyEq group.1 (payloadKey p) = true) :
    Sent handle group.2 add := by
  refine ⟨?_, h.2⟩
  rw [h.1]
  exact carries_groupRequest hown

theorem forall₂_sent (hadds : List.Forall₂ (Accepts handle) groups adds)
    (hown : ∀ g ∈ groups, ∀ p ∈ g.2, payloadKey p = g.1 ∨ groupKeyEq g.1 (payloadKey p) = true) :
    List.Forall₂ (Sent handle) (groups.map Prod.snd) adds := by
  rw [List.forall₂_map_left_iff]
  induction hadds with
  | nil => exact .nil
  | cons hadd _ ih =>
    rw [List.forall_mem_cons] at hown
    exact .cons (hadd.sent hown.1) (ih hown.2)

/-- The parameters of the adds are the keys of the groups. -/
theorem map_parameters (hadds : List.Forall₂ (Accepts handle) groups adds) :
    adds.map (fun add => (add.1.nodeSet, add.1.importanceWeight)) = groups.map Prod.fst := by
  induction hadds with
  | nil => rfl
  | cons hadd _ ih =>
    rw [List.map_cons, List.map_cons, ih, hadd.1]
    rfl

/-- The adds of an operation that stopped have the parameters of its first groups. -/
theorem Stopped.parameters_prefix (h : Stopped handle groups adds) :
    adds.map (fun add => (add.1.nodeSet, add.1.importanceWeight)) <+: groups.map Prod.fst := by
  cases h with
  | between hgroups hadds =>
    rw [map_parameters hadds, hgroups, List.map_append]
    exact List.prefix_append _ _
  | «at» hgroups hadds r =>
    rw [List.map_append, map_parameters hadds, hgroups, List.map_append]
    exact (List.prefix_append_right_inj _).2 (List.prefix_append [_] _)

/-- The adds of an operation that stopped have sent its first groups. -/
theorem Stopped.sent (h : Stopped handle groups adds)
    (hown : ∀ g ∈ groups, ∀ p ∈ g.2, payloadKey p = g.1 ∨ groupKeyEq g.1 (payloadKey p) = true) :
    ∃ done rest adds', groups.map Prod.snd = done ++ rest ∧
      List.Forall₂ (Sent handle) done adds' ∧
      (adds = adds' ∨ ∃ group rest' add, rest = group :: rest' ∧
        adds = adds' ++ [add] ∧ Carries handle group add.1) := by
  cases h with
  | between hgroups hadds =>
    rw [hgroups, List.forall_mem_append] at hown
    exact ⟨_, _, _, by rw [hgroups, List.map_append], forall₂_sent hadds hown.1, .inl rfl⟩
  | @«at» done rest group adds hgroups hadds r =>
    rw [hgroups, List.forall_mem_append, List.forall_mem_cons] at hown
    exact ⟨done.map Prod.snd, group.2 :: rest.map Prod.snd, adds,
      by rw [hgroups, List.map_append]; rfl, forall₂_sent hadds hown.1,
      .inr ⟨_, _, _, rfl, rfl, carries_groupRequest hown.2.1⟩⟩

end Sent

/-- The adds of payloads with different ids are a partition of them, each with
    the parameters of its payloads; an operation that raises stops after some of
    its groups, or within one. -/
theorem payloads_sent_once (hsymm : FloatEqSymmetric) (rt : LocalCogneeRuntime)
    (handle : DatasetHandle) (payloads : List DocumentPayload)
    (hnodup : (payloads.map DocumentPayload.dataId).Nodup) {pin : Option String}
    {setupDone : Bool} {outcome : Except PyError DatasetHandle} {t : LocalState}
    (hrun : Runs LocalStep (rt.addDocuments handle payloads) ⟨pin, setupDone, []⟩
      (ofExcept outcome) t) :
    ∃ groups : List (List DocumentPayload),
      groups.flatten.Perm payloads ∧ groups.Pairwise List.Disjoint ∧
      (∀ group ∈ groups, group ≠ [] ∧ group.Sublist payloads) ∧
      (t.adds.map fun add => (add.1.nodeSet, add.1.importanceWeight)).Pairwise
        (fun k k' => groupKeyEq k k' = false) ∧
      match outcome with
      | .ok _ => List.Forall₂ (Sent handle) groups t.adds
      | .error _ => ∃ done rest adds, groups = done ++ rest ∧
          List.Forall₂ (Sent handle) done adds ∧
          (t.adds = adds ∨ ∃ group rest' add, rest = group :: rest' ∧
            t.adds = adds ++ [add] ∧ Carries handle group add.1) := by
  have hend := wp_runs hrun wp_adds_addDocuments
  have hgrouping := isGrouping_payloadGroups hsymm payloads
  have hflatten : ((payloadGroups payloads).map Prod.snd).flatten.Perm payloads := by
    rw [← List.flatMap_def]
    exact hgrouping.partition
  refine ⟨(payloadGroups payloads).map Prod.snd, hflatten, ?_, ?_, ?_, ?_⟩
  · exact (List.nodup_flatten.1 (hflatten.nodup_iff.2 (List.Nodup.of_map _ hnodup))).2
  · exact List.forall_mem_map.2 fun g hg => ⟨hgrouping.nonempty g hg, hgrouping.ordered g hg⟩
  · have hprefix : t.adds.map (fun add => (add.1.nodeSet, add.1.importanceWeight)) <+:
        (payloadGroups payloads).map Prod.fst := by
      cases outcome with
      | ok h =>
        obtain ⟨-, adds, hadds, ht⟩ := hend
        rw [ht, LocalState.adds, List.filterMap_nil, List.nil_append, map_parameters hadds]
      | error e =>
        obtain ⟨adds, hstopped, ht⟩ := hend
        rw [ht, LocalState.adds, List.filterMap_nil, List.nil_append]
        exact hstopped.parameters_prefix
    exact hgrouping.distinct.sublist hprefix.sublist
  · cases outcome with
    | ok h =>
      obtain ⟨-, adds, hadds, ht⟩ := hend
      rw [ht, LocalState.adds, List.filterMap_nil, List.nil_append]
      exact forall₂_sent hadds hgrouping.own
    | error e =>
      obtain ⟨adds, hstopped, ht⟩ := hend
      rw [ht, LocalState.adds, List.filterMap_nil, List.nil_append]
      exact hstopped.sent hgrouping.own

end

/-- A text without parameters, on the sample platform. -/
def DocumentPayload.sample (dataId : String) : @DocumentPayload .sample :=
  letI : Platform := .sample
  ⟨dataId, .str "alpha", none, none, none, none⟩

/-- Documents with two weights, and two documents without parameters, are sent in three adds. -/
theorem payloads_sent_once_sample :
    letI : Platform := .sample
    let weighted (dataId : String) (weight : ℕ) : DocumentPayload :=
      { DocumentPayload.sample dataId with
        nodeSet := some ["notes"]
        importanceWeight := some weight }
    let payloads := [.sample "a", weighted "b" 5, .sample "c", weighted "d" 20]
    ∃ t, Runs LocalStep (LocalCogneeRuntime.sample.addDocuments DatasetHandle.sample payloads)
        ⟨some DatasetHandle.sample.identityScope, false, []⟩
        (ret { DatasetHandle.sample with datasetId := some "hers" }) t ∧
      (t.adds.map fun add => (add.1.nodeSet, add.1.importanceWeight)).Perm
        [(none, none), (some ["notes"], some (5 : ℕ)), (some ["notes"], some (20 : ℕ))] ∧
      ∃ groups, groups.flatten.Perm payloads ∧
        List.Forall₂ (Sent DatasetHandle.sample) groups t.adds := by
  let _ : Platform := .sample
  intro weighted payloads
  have hadmits : LocalCogneeRuntime.sample.Admits DatasetHandle.sample :=
    ⟨by decide, by decide, .sample "alice", ("alice", none), ⟨rfl, nofun⟩, rfl⟩
  obtain ⟨t, hrun, hadds⟩ := runs_addDocuments_unknown hadmits rfl
    (List.cons_ne_nil _ _ : payloads ≠ []) (Platform.uuidStr "hers") "hers"
  have hreturns : Runs LocalStep
    (LocalCogneeRuntime.sample.addDocuments DatasetHandle.sample payloads) _ (ofExcept (.ok _)) t :=
      hrun
  obtain ⟨groups, hflatten, -, -, -, hsent⟩ := payloads_sent_once Platform.sample_floatEq .sample
    DatasetHandle.sample payloads (by decide) hreturns
  have hparameters : (t.adds.map fun add => (add.1.nodeSet, add.1.importanceWeight)) =
      (LocalCogneeRuntime.payloadGroups payloads).map Prod.fst := by
    rw [hadds, successes, List.map_map]
    rfl
  refine ⟨t, hrun, ?_, groups, hflatten, hsent⟩
  rw [hparameters]
  exact (List.mergeSort_perm _ _).map Prod.fst

/-- The sample platform, with no floats but `0.0` and `-0.0`. -/
abbrev Platform.zeros : Platform :=
  { Platform.sample with
    PyFloat := Bool
    floatRepr := fun negative => if negative then "-0.0" else "0.0"
    floatIsFinite := fun _ => true
    floatEq := fun _ _ => true
    floatOfInt := fun i => if i = 0 then some false else none }

/-- A document with the weight `-0.0` is sent with the weight `0.0` of another one. -/
theorem sends_negative_zero_as_zero :
    letI : Platform := .zeros
    let rt : LocalCogneeRuntime := ⟨"/data", "/system", none⟩
    let handle : DatasetHandle :=
      ⟨"docs", "default", identityScopeOf ("alice", none), none, by decide⟩
    let positive : DocumentPayload := ⟨"a", .str "alpha", none, none, none, some false⟩
    let negative : DocumentPayload := ⟨"b", .str "beta", none, none, none, some true⟩
    ∃ t, Runs LocalStep (rt.addDocuments handle [positive, negative])
        ⟨some handle.identityScope, false, []⟩ (ret { handle with datasetId := some "hers" }) t ∧
      ∃ request result, t.adds = [(request, .ok result)] ∧
        request.items = [positive, negative].map LocalCogneeRuntime.dataItem ∧
        request.importanceWeight ≠ negative.importanceWeight := by
  let _ : Platform := .zeros
  intro rt handle positive negative
  have hadmits : rt.Admits handle :=
    ⟨by decide, by decide, ⟨.uuid "alice", .none⟩, ("alice", none), ⟨rfl, nofun⟩, rfl⟩
  obtain ⟨t, hrun, hadds⟩ := runs_addDocuments_unknown hadmits rfl
    (List.cons_ne_nil positive [negative]) (Platform.uuidStr "hers") "hers"
  have hgroups : LocalCogneeRuntime.payloadGroups [positive, negative] =
      [((none, some false), [positive, negative])] := by
    have hjoin : [positive, negative].foldl
        (fun groups payload => LocalCogneeRuntime.joinGroup payload groups) [] =
          [((none, some false), [positive, negative])] := rfl
    rw [LocalCogneeRuntime.payloadGroups, hjoin, List.mergeSort_singleton]
  refine ⟨t, hrun, _, _, by rw [hadds, hgroups]; rfl, rfl, ?_⟩
  show some false ≠ some true
  decide

end Cogindex
