import Cogindex.Convergence
import Cogindex.Verify

/-!
# Verification after a sync

The verifier and the target derive the ids of documents independently. Right
after a complete sync they agree:

* `Drift`: the differences between expected documents and the declarations of a
  connector;
* `verify_dataset_exact`: verification is exact for every listing, and after
  every run that ends with a complete sync, its issues are the drift of what is
  expected from what is declared.
-/

namespace Cogindex

open Coroutine FakeCogneeRuntime

section

variable [Platform]

/-! ## The listing of the in-memory runtime -/

/-- The rows of a dataset, as they are listed. -/
def FakeCogneeRuntime.listing (s : FakeCogneeRuntime) (tenant name : String) :
    List StoredDocument :=
  ((s.dataset tenant name).map fun d => d.documents.toList.map fun e =>
    ({ dataId := e.1, label := e.2.payload.label,
       externalMetadata := e.2.payload.externalMetadata,
       cognifyComplete := e.2.cognifyComplete } : StoredDocument)).getD []

variable {s : FakeCogneeRuntime} {tenant name : String}

/-- What is listed are the rows. -/
theorem mem_listing {d : StoredDocument} : d ∈ s.listing tenant name ↔
    ∃ x, s.row (toLex (tenant, name)) d.dataId = some x ∧ d.label = x.payload.label ∧
      d.externalMetadata = x.payload.externalMetadata ∧ d.cognifyComplete = x.cognifyComplete := by
  rw [listing, dataset, row]
  cases s.datasets[toLex (tenant, name)]? with
  | none => simp
  | some dataset =>
    simp only [Option.map_some, Option.getD_some, List.mem_map, Option.bind_some]
    constructor
    · rintro ⟨⟨i, x⟩, hx, rfl⟩
      exact ⟨x, Std.ExtTreeMap.mem_toList_iff_getElem?_eq_some.1 hx, rfl, rfl, rfl⟩
    · rintro ⟨x, hx, hlabel, hmetadata, hcomplete⟩
      refine ⟨(d.dataId, x), Std.ExtTreeMap.mem_toList_iff_getElem?_eq_some.2 hx, ?_⟩
      cases d
      simp_all

/-- A row is listed once. -/
theorem nodup_listing : ((s.listing tenant name).map StoredDocument.dataId).Nodup := by
  rw [listing]
  cases s.dataset tenant name with
  | none => exact .nil
  | some dataset =>
    rw [Option.map_some, Option.getD_some, List.map_map]
    show (dataset.documents.toList.map Prod.fst).Nodup
    rw [Std.ExtTreeMap.map_fst_toList_eq_keys]
    exact Std.ExtTreeMap.nodup_keys

/-- Without faults, the in-memory runtime answers a verification. -/
theorem answering_unfaulted : Answering (Unfaulted perform)
    (fun t => t.identityScope = s.identityScope ∧ t.datasets = s.datasets)
    (fun handle => handle.identityScope = s.identityScope ∧ handle.tenant = tenant ∧
      handle.name = name) name tenant (s.listing tenant name) where
  resolve t r t' ht h := by
    cases h
    exact ⟨ht, _, rfl, ht.1, rfl, rfl⟩
  enter handle t r t' hgood ht h := by
    have hvalid : t.validateHandle handle = .ok () := if_pos (hgood.1.trans ht.1.symm)
    simp only [Unfaulted, perform, lockEnter, hvalid] at h
    cases h
    exact ⟨ht, rfl⟩
  exit handle t r t' hgood ht h := by
    cases h
    exact ⟨ht, rfl⟩
  list handle t r t' hgood ht h := by
    have hvalid : t.validateHandle handle = .ok () := if_pos (hgood.1.trans ht.1.symm)
    obtain ⟨-, rfl, rfl⟩ := hgood
    simp only [Unfaulted, perform, listDocuments, hvalid] at h
    cases h
    exact ⟨ht, by rw [listing, dataset, dataset, ht.2]⟩

/-- Verifying without faults is the comparison with the rows of the dataset. -/
theorem run_verifyDataset {runtimeKey : String} {expected : List ExpectedDocument}
    (hkey : Coordinate runtimeKey ∧ matchesRuntimeKeyPattern runtimeKey)
    (htenant : Coordinate tenant) (hname : Coordinate name) :
    (Coroutine.run perform (verifyDataset runtimeKey name expected tenant) [] s).1 =
      verification runtimeKey name expected tenant s.identityScope (s.listing tenant name) := by
  have hwp : wp (Unfaulted perform) (verifyDataset runtimeKey name expected tenant) _ _ s :=
    answering_unfaulted.wp_verifyDataset hkey htenant hname ⟨rfl, rfl⟩
  obtain ⟨hok, herr⟩ := wp_run_nil perform hwp
  cases houtcome :
    (Coroutine.run perform (verifyDataset runtimeKey name expected tenant) [] s).1 with
  | ok report =>
    obtain ⟨handle, hgood, h⟩ := hok _ houtcome
    rw [h, hgood.1]
  | error e =>
    obtain ⟨handle, hgood, h⟩ := herr _ houtcome
    rw [h, hgood.1]

/-! ## Drift -/

/-- Without its row, the differences between expected documents and the
    declarations of a connector. -/
inductive Drift (d : Deployment Unit) (declared : Declared) (expected : List ExpectedDocument) :
    VerificationIssue → Prop
  | missing {e : ExpectedDocument} {i : UUID} (he : e ∈ expected)
    (hid : documentDataId d.runtimeKey d.handle.identityScope d.handle.tenant d.handle.name
      e.externalKey = .ok i)
    (hdeclared : ∀ k ∈ declared, k.text ≠ Platform.nfc e.externalKey) :
    Drift d declared expected (.missing i e)
  | unexpected {k : DocumentKey} {i : UUID} (hk : k ∈ declared) (hid : d.dataId () k = .ok i)
    (hexpected : ∀ e ∈ expected, Platform.nfc e.externalKey ≠ k.text) :
    Drift d declared expected (.unexpected i)
  | labelMismatch {e : ExpectedDocument} {k : DocumentKey} {spec : CogneeDocumentSpec} {i : UUID}
    (he : e ∈ expected) (hk : declared[k]? = some spec) (hid : d.dataId () k = .ok i)
    (htext : Platform.nfc e.externalKey = k.text) (hlabel : spec.label ≠ e.label) :
    Drift d declared expected (.labelMismatch i e spec.label)

/-- The expected documents are the declared ones, under any spelling of their keys. -/
structure Expects (declared : Declared) (expected : List ExpectedDocument) : Prop where
  sound : ∀ e ∈ expected, ∃ (k : DocumentKey) (spec : CogneeDocumentSpec),
    declared[k]? = some spec ∧ Platform.nfc e.externalKey = k.text ∧ e.label = spec.label
  complete : ∀ k ∈ declared, ∃ e ∈ expected, Platform.nfc e.externalKey = k.text

section Drift

variable {runtimeKey : String} {handle : DatasetHandle} {profileOf : String → CognifyProfile}
  {m : ConvergenceMachine Unit} {expected : List ExpectedDocument} {id : ExpectedDocument → UUID}

/-- The verifier and the target give a key the same id exactly if its spelling
    is the same in NFC. -/
theorem id_eq_iff (huuid : Uuid5CollisionFree) {externalKey : String} {k : DocumentKey} {i j : UUID}
    (hi : documentDataId runtimeKey handle.identityScope handle.tenant handle.name externalKey =
      .ok i)
    (hj : (Deployment.connector runtimeKey handle profileOf).dataId () k = .ok j) :
    i = j ↔ Platform.nfc externalKey = k.text := by
  constructor
  · rintro rfl
    obtain ⟨-, -, -, -, hnfc⟩ := documentDataId_inj huuid hi hj
    rw [hnfc, k.nfc_text]
  · intro htext
    obtain ⟨-, rfl⟩ := documentDataId_ok_iff.1 hi
    obtain ⟨-, rfl⟩ := documentDataId_ok_iff.1 hj
    rw [htext, k.nfc_text]
    rfl

section Converged

variable (hm : m.Converged (.connector runtimeKey handle profileOf))

include hm

/-- The listed ids are those of the declared keys. -/
theorem exists_listing_iff {i : UUID} :
    (∃ x ∈ m.fake.listing handle.tenant handle.name, x.dataId = i) ↔
      ∃ k ∈ m.declared, (Deployment.connector runtimeKey handle profileOf).dataId () k = .ok i := by
  rw [← hm.rows i, Option.isSome_iff_exists]
  constructor
  · rintro ⟨x, hx, rfl⟩
    obtain ⟨row, hrow, -⟩ := mem_listing.1 hx
    exact ⟨row, hrow⟩
  · rintro ⟨row, hrow⟩
    exact ⟨⟨i, row.payload.label, row.payload.externalMetadata, row.cognifyComplete⟩,
      mem_listing.2 ⟨row, hrow, rfl, rfl, rfl⟩, rfl⟩

/-- What is listed of a declared key is complete and has its label. -/
theorem listing_converged {k : DocumentKey} {spec : CogneeDocumentSpec}
    (hk : m.declared[k]? = some spec) {x : StoredDocument}
    (hx : x ∈ m.fake.listing handle.tenant handle.name)
    (hid : (Deployment.connector runtimeKey handle profileOf).dataId () k = .ok x.dataId) :
    x.cognifyComplete = true ∧ x.label = spec.label := by
  obtain ⟨row, hrow, hlabel, -, hcomplete⟩ := mem_listing.1 hx
  obtain ⟨i, row', hi, hrow', hconverged⟩ := hm.documents k spec hk
  rw [Except.ok.inj (hi.symm.trans hid)] at hrow'
  obtain rfl := Option.some.inj (hrow.symm.trans hrow')
  exact ⟨hcomplete.trans hconverged.complete, hlabel.trans hconverged.label⟩

/-- In a converged state, what is listed differs from what is expected by the drift. -/
theorem difference_iff_drift (huuid : Uuid5CollisionFree)
    (hid : ∀ e ∈ expected, documentDataId runtimeKey handle.identityScope handle.tenant
      handle.name e.externalKey = .ok (id e)) {issue : VerificationIssue} :
    Difference id expected (m.fake.listing handle.tenant handle.name) issue ↔
      Drift (.connector runtimeKey handle profileOf) m.declared expected issue := by
  have hdeclared {k : DocumentKey} (hk : k ∈ m.declared) :=
    Option.isSome_iff_exists.1 (Std.ExtTreeMap.isSome_getElem?_iff_mem.2 hk)
  constructor
  · intro h
    cases h with
    | @missing e he hstored =>
      refine .missing he (hid e he) fun k hk htext => ?_
      obtain ⟨spec, hspec⟩ := hdeclared hk
      obtain ⟨i, -, hi, -⟩ := hm.documents k spec hspec
      obtain ⟨x, hx, rfl⟩ := (exists_listing_iff hm).2 ⟨k, hk, hi⟩
      exact hstored x hx ((id_eq_iff huuid (hid e he) hi).2 htext.symm).symm
    | @unexpected x hx hexpected =>
      obtain ⟨k, hk, hi⟩ := (exists_listing_iff hm).1 ⟨x, hx, rfl⟩
      exact .unexpected hk hi fun e he htext =>
        hexpected e he ((id_eq_iff huuid (hid e he) hi).2 htext)
    -- In a converged state, every stored row is complete.
    | @incomplete e x he hx hxid hcomplete =>
      obtain ⟨k, hk, hi⟩ := (exists_listing_iff hm).1 ⟨x, hx, rfl⟩
      obtain ⟨spec, hspec⟩ := hdeclared hk
      rw [(listing_converged hm hspec hx hi).1] at hcomplete
      cases hcomplete
    | @labelMismatch e x he hx hxid hlabel =>
      obtain ⟨k, hk, hi⟩ := (exists_listing_iff hm).1 ⟨x, hx, rfl⟩
      obtain ⟨spec, hspec⟩ := hdeclared hk
      have hrow := (listing_converged hm hspec hx hi).2
      rw [hrow] at hlabel ⊢
      exact .labelMismatch he hspec (hxid ▸ hi)
        ((id_eq_iff huuid (hid e he) hi).1 hxid.symm) hlabel
  · intro h
    cases h with
    | @missing e i he hi hnot =>
      obtain rfl := Except.ok.inj ((hid e he).symm.trans hi)
      refine .missing he fun x hx hxid => ?_
      obtain ⟨k, hk, hk'⟩ := (exists_listing_iff hm).1 ⟨x, hx, rfl⟩
      exact hnot k hk ((id_eq_iff huuid (hid e he) hk').1 hxid.symm).symm
    | @unexpected k i hk hi hexpected =>
      obtain ⟨x, hx, rfl⟩ := (exists_listing_iff hm).2 ⟨k, hk, hi⟩
      exact .unexpected hx fun e he hxid => hexpected e he ((id_eq_iff huuid (hid e he) hi).1 hxid)
    | @labelMismatch e k spec i he hk hi htext hlabel =>
      obtain rfl := (id_eq_iff huuid (hid e he) hi).2 htext
      obtain ⟨x, hx, hxid⟩ := (exists_listing_iff hm).2
        ⟨k, Std.ExtTreeMap.isSome_getElem?_iff_mem.1 (by rw [hk]; rfl), hi⟩
      have hrow := (listing_converged hm hk hx (hxid ▸ hi)).2
      rw [← hrow] at hlabel ⊢
      exact .labelMismatch he hx hxid hlabel

omit hm in
/-- There is no drift exactly if what is declared is expected. -/
theorem expects_iff (hids : ∀ k ∈ m.declared, ∃ i,
      (Deployment.connector runtimeKey handle profileOf).dataId () k = .ok i)
    (hid : ∀ e ∈ expected, documentDataId runtimeKey handle.identityScope handle.tenant
      handle.name e.externalKey = .ok (id e)) :
    Expects m.declared expected ↔
      ∀ issue, ¬Drift (.connector runtimeKey handle profileOf) m.declared expected issue := by
  have hmem {k : DocumentKey} {spec : CogneeDocumentSpec} (hk : m.declared[k]? = some spec) :
      k ∈ m.declared :=
    Std.ExtTreeMap.isSome_getElem?_iff_mem.1 (by rw [hk]; rfl)
  constructor
  · intro h issue hdrift
    cases hdrift with
    | @missing e i he hi hnot =>
      obtain ⟨k, spec, hk, htext, -⟩ := h.sound e he
      exact hnot k (hmem hk) htext.symm
    | @unexpected k i hk hi hexpected =>
      obtain ⟨e, he, htext⟩ := h.complete k hk
      exact hexpected e he htext
    | @labelMismatch e k spec i he hk hi htext hlabel =>
      obtain ⟨k', spec', hk', htext', hlabel'⟩ := h.sound e he
      obtain rfl := DocumentKey.text_injective (htext.symm.trans htext')
      obtain rfl := Option.some.inj (hk.symm.trans hk')
      exact hlabel hlabel'.symm
  · intro h
    refine ⟨fun e he => ?_, fun k hk => ?_⟩
    -- What is expected and not declared so would be a difference: in the label, or as a whole.
    · by_contra hne
      by_cases hdeclared : ∃ k ∈ m.declared, k.text = Platform.nfc e.externalKey
      · obtain ⟨k, hk, htext⟩ := hdeclared
        obtain ⟨spec, hspec⟩ := Option.isSome_iff_exists.1
          (Std.ExtTreeMap.isSome_getElem?_iff_mem.2 hk)
        obtain ⟨i, hi⟩ := hids k hk
        exact h _ (.labelMismatch he hspec hi htext.symm fun hlabel =>
          hne ⟨k, spec, hspec, htext.symm, hlabel.symm⟩)
      · exact h _ (.missing he (hid e he) fun k hk htext => hdeclared ⟨k, hk, htext⟩)
    · by_contra hne
      obtain ⟨i, hi⟩ := hids k hk
      exact h _ (.unexpected hk hi fun e he htext => hne ⟨e, he, htext⟩)

end Converged

end Drift

/-! ## Main result -/

/-- The outcome of a verification after a sync: a `ValueError` for expected keys
    that are the same in NFC, and otherwise the drift of what is expected. -/
structure AgreeingOutcome (d : Deployment Unit) (declared : Declared)
    (expected : List ExpectedDocument) (outcome : Except PyError VerificationReport) : Prop where
  repeatedKey : (∃ e, outcome = .error e ∧ e.kind = .valueError) ↔
    ¬(expected.map fun e => Platform.nfc e.externalKey).Nodup
  report : (expected.map fun e => Platform.nfc e.externalKey).Nodup →
    ∃ report, outcome = .ok report ∧ (report.ok ↔ Expects declared expected) ∧
      (∀ issue, issue ∈ report.issues ↔ Drift d declared expected issue) ∧
      (report.issues.Pairwise fun x y => x.dataId ≤ y.dataId) ∧ report.issues.Nodup

/-- Verifying in a converged state agrees with the declarations. -/
theorem ConvergenceMachine.Converged.agreeingOutcome (huuid : Uuid5CollisionFree)
    (hnfc : NfcLaws) {runtimeKey : String} {handle : DatasetHandle}
    {profileOf : String → CognifyProfile} {m : ConvergenceMachine Unit}
    (hm : m.Converged (.connector runtimeKey handle profileOf))
    (hkey : Coordinate runtimeKey ∧ matchesRuntimeKeyPattern runtimeKey)
    (htenant : Coordinate handle.tenant) (hname : Coordinate handle.name)
    (hscope : handle.identityScope = m.fake.identityScope) {expected : List ExpectedDocument}
    (hexpected : ∀ e ∈ expected, Coordinate e.externalKey) :
    AgreeingOutcome (.connector runtimeKey handle profileOf) m.declared expected
      (Coroutine.run perform (verifyDataset runtimeKey handle.name expected handle.tenant) []
        m.fake).1 := by
  rw [run_verifyDataset hkey htenant hname, ← hscope]
  have hid : ∀ e ∈ expected, documentDataId runtimeKey handle.identityScope handle.tenant
      handle.name e.externalKey = .ok (verifiedId runtimeKey handle.identityScope handle.tenant
        handle.name e) :=
    fun e he => documentDataId_verifiedId hkey htenant hname handle.identityScope_ok hexpected he
  have hids : ∀ k ∈ m.declared, ∃ i,
      (Deployment.connector runtimeKey handle profileOf).dataId () k = .ok i :=
    fun k _ => Deployment.connector_dataId hkey htenant hname k
  have hexact := verification_exact hnfc hkey htenant hname handle.identityScope_ok hexpected huuid
    (m.fake.listing handle.tenant handle.name)
  refine ⟨hexact.repeatedKey, fun hnodup => ?_⟩
  obtain ⟨report, hreport, -, hmem, hsorted, hnodup', hmatches⟩ :=
    hexact.report hnodup nodup_listing
  -- The stored rows are those of the declared keys, so that the listing can be left out.
  have hdrift (issue : VerificationIssue) : Difference _ expected _ issue ↔ Drift _ _ _ issue :=
    difference_iff_drift hm huuid hid
  refine ⟨report, hreport, ?_, fun issue => (hmem issue).trans (hdrift issue), hsorted, hnodup'⟩
  rw [hmatches, matches_iff, expects_iff hids hid]
  exact forall_congr' fun issue => not_congr (hdrift issue)

/-- **Verification is exact and agrees with the target.** Of any expected
    documents, whatever a runtime lists, the outcome is exact; and in every run
    of a connector, right after a complete sync, the issues are what differs
    between the expected documents and the declared ones. -/
theorem verify_dataset_exact (hblake : Blake2bCollisionFree) (hfloat : FloatReprLaws)
    (huuid : Uuid5CollisionFree) (hnfc : NfcLaws) (hdiff : DiffContract) (runtimeKey : String)
    (hkey : Coordinate runtimeKey ∧ matchesRuntimeKeyPattern runtimeKey)
    (expected : List ExpectedDocument) (hexpected : ∀ e ∈ expected, Coordinate e.externalKey) :
    (∀ (tenant name : String) (listing : List StoredDocument)
        (outcome : Except PyError VerificationReport), Coordinate tenant → Coordinate name →
      Runs (Lists listing) (verifyDataset runtimeKey name expected tenant) ()
        (ofExcept outcome) () →
      ∃ (identityScope : String) (id : ExpectedDocument → UUID),
        (∀ e ∈ expected, documentDataId runtimeKey identityScope tenant name e.externalKey =
          .ok (id e)) ∧ ExactOutcome id expected listing outcome) ∧
    ∀ (handle : DatasetHandle) (profileOf : String → CognifyProfile) (m : ConvergenceMachine Unit)
        (rules : List (ConvergenceMachine.Rule Unit)) (faults : List (Option Fault)),
      Coordinate handle.tenant → Coordinate handle.name →
      handle.identityScope = m.fake.identityScope →
      m.Initial (.connector runtimeKey handle profileOf) →
      ((m.run (.connector runtimeKey handle profileOf) rules).sync
        (.connector runtimeKey handle profileOf) faults).1 = .ok () →
      AgreeingOutcome (.connector runtimeKey handle profileOf)
        ((m.run (.connector runtimeKey handle profileOf) rules).sync
          (.connector runtimeKey handle profileOf) faults).2.declared expected
        (Coroutine.run perform (verifyDataset runtimeKey handle.name expected handle.tenant) []
          ((m.run (.connector runtimeKey handle profileOf) rules).sync
            (.connector runtimeKey handle profileOf) faults).2.fake).1 := by
  refine ⟨fun tenant name listing outcome htenant hname hrun => ?_,
    fun handle profileOf m rules faults htenant hname hscope hinit hok => ?_⟩
  · obtain ⟨handle, rfl⟩ := runs_verifyDataset hkey htenant hname hrun
    exact ⟨handle.identityScope, _,
      fun e he => documentDataId_verifiedId hkey htenant hname handle.identityScope_ok hexpected he,
      verification_exact hnfc hkey htenant hname handle.identityScope_ok hexpected huuid listing⟩
  · have hconverged := hinit.converged hblake hfloat
      (Deployment.connector_separated huuid runtimeKey handle profileOf) hdiff hok
    have hrun : (((m.run (.connector runtimeKey handle profileOf) rules).run
        (.connector runtimeKey handle profileOf) [.sync faults]).fake.identityScope =
          m.fake.identityScope) :=
      (ConvergenceMachine.run_identityScope _).trans (ConvergenceMachine.run_identityScope _)
    exact hconverged.agreeingOutcome huuid hnfc hkey htenant hname
      (hscope.trans hrun.symm) hexpected

end

/-- On the sample platform, an expected document that is not declared. -/
theorem verify_dataset_exact_sample :
    letI : Platform := .sample
    let expected : List ExpectedDocument := [⟨"b.md", some "new"⟩]
    let synced := ((ConvergenceMachine.sample.run .sample ConvergenceMachine.sampleRun).sync
      .sample []).2
    (∃ outcome, Runs (Lists []) (verifyDataset "rt" "docs" expected "default") ()
        (ofExcept outcome) () ∧
      ∃ (identityScope : String) (id : ExpectedDocument → UUID),
        (∀ e ∈ expected, documentDataId "rt" identityScope "default" "docs" e.externalKey =
          .ok (id e)) ∧ ExactOutcome id expected [] outcome) ∧
    AgreeingOutcome .sample synced.declared expected (Coroutine.run perform
      (verifyDataset "rt" DocumentHandler.sample.handle.name expected
        DocumentHandler.sample.handle.tenant) [] synced.fake).1 := by
  let _ : Platform := .sample
  intro expected synced
  have hexpected : ∀ e ∈ expected, Coordinate e.externalKey := by
    intro e he
    rw [List.mem_singleton.1 he]
    decide
  have hexact := verify_dataset_exact Platform.sample_blake2b Platform.sample_floatRepr
    Platform.sample_uuid5 Platform.sample_nfc Platform.sample_diff "rt" ⟨by decide, by decide⟩
    expected hexpected
  have hanswers : ∀ c s, ∃ r s', Lists [] c s r s' := by
    intro c s
    cases c with
    | resolveDataset name tenant => exact ⟨.ok DocumentHandler.sample.handle, (), rfl⟩
    | addDocuments handle payloads => exact ⟨.ok handle, (), rfl⟩
    | listDocuments handle => exact ⟨.ok [], (), rfl⟩
    | _ => exact ⟨.ok (), (), rfl⟩
  obtain ⟨outcome, _, hrun⟩ :=
    exists_runs hanswers (verifyDataset "rt" "docs" expected "default") ()
  exact ⟨⟨outcome, hrun, hexact.1 "default" "docs" [] outcome (by decide) (by decide) hrun⟩,
    hexact.2 _ _ .sample ConvergenceMachine.sampleRun [] (by decide) (by decide) rfl
      ConvergenceMachine.sample_initial (ConvergenceMachine.sample_sync _)⟩

end Cogindex
