import MacProvider.Coordinator.Billing.CanonicalJson
import MacProvider.Lib.Json.Decode
import MacProvider.Lib.Runs
import MacProvider.Lib.Tables
import Mathlib.Data.List.Permutation

/-! # Route snapshots

`internal/billing/route_snapshot.go`: what is pinned when a request is routed. A snapshot is stored
as columns and as JSON; it is loaded from the columns, except for its algorithms, and its digest is
computed again. The digest is of texts in normal form C (`RouteSnapshot.canonicalForm_eq_iff`). -/

namespace MacProvider.Coordinator.Billing.RouteSnapshots

open MacProvider.Gateway MacProvider.Lib Lib.Json Lib.Tables Billing.CanonicalJson

/-! ### Checks over maps -/

/-- The order in which a run goes through a map. -/
structure MapOrder where
  order : List (String × String) → List (String × String)
  perm : ∀ entries, (order entries).Perm entries

/-- Entries as they are written. -/
def MapOrder.written : MapOrder := ⟨id, fun _ => .refl _⟩

/-- The first field without what it needs. -/
def firstFailing (o : MapOrder) (ok : String → Bool) (entries : List (String × String)) :
    Option String :=
  ((o.order entries).find? fun e => !ok e.2).map Prod.fst

variable {o : MapOrder} {p : Platform}

theorem firstFailing_eq_none {ok : String → Bool} {entries : List (String × String)} :
    firstFailing o ok entries = none ↔ ∀ e ∈ entries, ok e.2 = true := by
  simp [firstFailing, (o.perm entries).mem_iff]

/-- The problem, if there is one. -/
def problem (bad : Prop) [Decidable bad] (text : String) : Option String :=
  if bad then some text else none

theorem problem_eq_none {bad : Prop} [Decidable bad] {text : String} :
    problem bad text = none ↔ ¬ bad := by
  simp [problem]

/-! ### Snapshots -/

/-- The columns of their own. -/
structure RouteColumns where
  accountScope : String
  requestID : String
  attemptN : ℤ
  providerID : String
  providerSessionID : Option String
  providerGenerationID : Option String
  paidEntrypoint : String
  providerReceiptKeyID : String
  providerReceiptKeySource : String
  modelID : String
  providerReportedModelHash : String
  expectedCatalogModelHash : String
  catalogID : String
  catalogBodyDigest : String
  catalogSignatureKeyID : String
  catalogSignaturePubkeyFingerprint : String
  catalogExpiresAtUnixMS : ℤ
  spec008HashStatus : String
  routeSnapshotPolicyVersion : String
  routeSnapshotMode : String
  routeDecisionTSUnixMS : ℤ
  requestStartTSUnixMS : ℤ
  pendingDeadlineSeconds : ℤ
  promptHashBasis : String
  promptHash : String
deriving DecidableEq

/-- A snapshot. -/
structure RouteSnapshot extends RouteColumns where
  providerReportedModelHashAlgorithm : String
  expectedCatalogModelHashAlgorithm : String
deriving DecidableEq

variable {r : RouteSnapshot}

/-- The algorithm that there is. -/
def snapshotManifestV1 : String := "macprovider.snapshot-manifest.v1"

/-- The longest deadline. -/
def maxPendingReceiptDeadlineSeconds : ℤ := 900

/-- A text or `null`. -/
def nullableString {ν : Type} : Option String → Datum ν
  | none => .null
  | some s => .string s

/-- The members that have columns. -/
def RouteColumns.members (r : RouteColumns) : List (String × Datum ℤ) :=
  [("account_scope", .string r.accountScope),
    ("request_id", .string r.requestID),
    ("attempt_n", .number r.attemptN),
    ("provider_id", .string r.providerID),
    ("provider_session_id", nullableString r.providerSessionID),
    ("provider_generation_id", nullableString r.providerGenerationID),
    ("paid_entrypoint", .string r.paidEntrypoint),
    ("provider_receipt_key_id", .string r.providerReceiptKeyID),
    ("provider_receipt_key_source", .string r.providerReceiptKeySource),
    ("model_id", .string r.modelID),
    ("provider_reported_model_hash", .string r.providerReportedModelHash),
    ("expected_catalog_model_hash", .string r.expectedCatalogModelHash),
    ("catalog_id", .string r.catalogID),
    ("catalog_body_digest", .string r.catalogBodyDigest),
    ("catalog_signature_key_id", .string r.catalogSignatureKeyID),
    ("catalog_signature_pubkey_fingerprint", .string r.catalogSignaturePubkeyFingerprint),
    ("catalog_expires_at_unix_ms", .number r.catalogExpiresAtUnixMS),
    ("spec008_hash_status", .string r.spec008HashStatus),
    ("route_snapshot_policy_version", .string r.routeSnapshotPolicyVersion),
    ("route_snapshot_mode", .string r.routeSnapshotMode),
    ("route_decision_ts_unix_ms", .number r.routeDecisionTSUnixMS),
    ("request_start_ts_unix_ms", .number r.requestStartTSUnixMS),
    ("pending_deadline_seconds", .number r.pendingDeadlineSeconds),
    ("prompt_hash_basis", .string r.promptHashBasis),
    ("prompt_hash", .string r.promptHash)]

namespace RouteSnapshot

/-- The members of the algorithms, if one is given. -/
def algorithmMembers (r : RouteSnapshot) : List (String × Datum ℤ) :=
  if r.providerReportedModelHashAlgorithm ≠ "" ∨ r.expectedCatalogModelHashAlgorithm ≠ "" then
    [("provider_reported_model_hash_algorithm", .string r.providerReportedModelHashAlgorithm),
      ("expected_catalog_model_hash_algorithm", .string r.expectedCatalogModelHashAlgorithm)]
  else []

/-- The members of the JSON object. -/
def value (r : RouteSnapshot) : List (String × Datum ℤ) := r.members ++ r.algorithmMembers

end RouteSnapshot

/-! ### Validation -/

/-- A digit in lower case. -/
def isLowerHex (c : Char) : Bool := c.isDigit || ('a' ≤ c && c ≤ 'f')

/-- `^[0-9a-f]{64}$`. -/
def hex64Pattern (s : String) : Bool := s.toList.length = 64 && s.toList.all isLowerHex

/-- `^ed25519-sha256:[0-9a-f]{64}$`. -/
def receiptKeyIDPattern (s : String) : Bool :=
  s.toList.take 15 = "ed25519-sha256:".toList &&
    ((s.toList.drop 15).length = 64 && (s.toList.drop 15).all isLowerHex)

/-- Not only spaces. -/
def present (s : String) : Bool := trimSpace s ≠ ""

namespace RouteColumns

/-- The fields that must not be empty. -/
def required (r : RouteColumns) : List (String × String) :=
  [("account_scope", r.accountScope),
    ("request_id", r.requestID),
    ("provider_id", r.providerID),
    ("paid_entrypoint", r.paidEntrypoint),
    ("provider_receipt_key_id", r.providerReceiptKeyID),
    ("provider_receipt_key_source", r.providerReceiptKeySource),
    ("model_id", r.modelID),
    ("provider_reported_model_hash", r.providerReportedModelHash),
    ("expected_catalog_model_hash", r.expectedCatalogModelHash),
    ("catalog_id", r.catalogID),
    ("catalog_body_digest", r.catalogBodyDigest),
    ("catalog_signature_key_id", r.catalogSignatureKeyID),
    ("catalog_signature_pubkey_fingerprint", r.catalogSignaturePubkeyFingerprint),
    ("spec008_hash_status", r.spec008HashStatus),
    ("route_snapshot_policy_version", r.routeSnapshotPolicyVersion),
    ("route_snapshot_mode", r.routeSnapshotMode),
    ("prompt_hash_basis", r.promptHashBasis),
    ("prompt_hash", r.promptHash)]

/-- The fields that must be hashes. -/
def hashes (r : RouteColumns) : List (String × String) :=
  [("provider_reported_model_hash", r.providerReportedModelHash),
    ("expected_catalog_model_hash", r.expectedCatalogModelHash),
    ("catalog_body_digest", r.catalogBodyDigest),
    ("prompt_hash", r.promptHash)]

end RouteColumns

namespace RouteSnapshot

/-- `Validate`: the first problem that is found. -/
def validate (o : MapOrder) (r : RouteSnapshot) : Option String :=
  ((firstFailing o present r.required).map ("route snapshot missing " ++ ·)).or <|
  (problem (r.attemptN < 0) "route snapshot attempt_n must be >= 0").or <|
  (problem (¬ receiptKeyIDPattern r.providerReceiptKeyID)
    "route snapshot provider_receipt_key_id invalid").or <|
  (problem (r.providerReceiptKeySource ≠ "auth_session" ∧
      r.providerReceiptKeySource ≠ "rotation_grace" ∧ r.providerReceiptKeySource ≠ "operator_pin")
    "route snapshot provider_receipt_key_source invalid").or <|
  (problem (r.routeSnapshotMode ≠ "observe" ∧ r.routeSnapshotMode ≠ "enforce")
    "route snapshot route_snapshot_mode invalid").or <|
  (problem ((r.providerReportedModelHashAlgorithm ≠ "" ∨ r.expectedCatalogModelHashAlgorithm ≠ "") ∧
      (r.providerReportedModelHashAlgorithm ≠ snapshotManifestV1 ∨
        r.expectedCatalogModelHashAlgorithm ≠ snapshotManifestV1))
    "route snapshot model hash algorithm invalid").or <|
  ((firstFailing o hex64Pattern r.hashes).map
    fun field => "route snapshot " ++ field ++ " must be 64 lowercase hex chars").or <|
  (problem (¬ receiptKeyIDPattern r.catalogSignaturePubkeyFingerprint)
    "route snapshot catalog_signature_pubkey_fingerprint invalid").or <|
  (problem (r.catalogExpiresAtUnixMS ≤ 0 ∨ r.routeDecisionTSUnixMS ≤ 0 ∨ r.requestStartTSUnixMS ≤ 0)
    "route snapshot timestamps must be positive").or <|
  problem (r.pendingDeadlineSeconds ≤ 0 ∨
      maxPendingReceiptDeadlineSeconds < r.pendingDeadlineSeconds)
    "route snapshot pending_deadline_seconds must be between 1 and 900"

/-- Both are missing, or named. -/
def NamesAlgorithms (r : RouteSnapshot) : Prop :=
  (r.providerReportedModelHashAlgorithm = "" ∧ r.expectedCatalogModelHashAlgorithm = "") ∨
    (r.providerReportedModelHashAlgorithm = snapshotManifestV1 ∧
      r.expectedCatalogModelHashAlgorithm = snapshotManifestV1)

/-- What `Validate` accepts. -/
structure Valid (r : RouteSnapshot) : Prop where
  required : ∀ e ∈ r.required, present e.2 = true
  attemptN : 0 ≤ r.attemptN
  receiptKeyID : receiptKeyIDPattern r.providerReceiptKeyID = true
  keySource : r.providerReceiptKeySource = "auth_session" ∨
    r.providerReceiptKeySource = "rotation_grace" ∨ r.providerReceiptKeySource = "operator_pin"
  mode : r.routeSnapshotMode = "observe" ∨ r.routeSnapshotMode = "enforce"
  algorithms : r.NamesAlgorithms
  hashes : ∀ e ∈ r.hashes, hex64Pattern e.2 = true
  fingerprint : receiptKeyIDPattern r.catalogSignaturePubkeyFingerprint = true
  timestamps : 0 < r.catalogExpiresAtUnixMS ∧ 0 < r.routeDecisionTSUnixMS ∧
    0 < r.requestStartTSUnixMS
  deadline : 0 < r.pendingDeadlineSeconds ∧
    r.pendingDeadlineSeconds ≤ maxPendingReceiptDeadlineSeconds

theorem validate_eq_none {o : MapOrder} {r : RouteSnapshot} : r.validate o = none ↔ r.Valid := by
  simp only [validate, Option.or_eq_none_iff, Option.map_eq_none_iff, firstFailing_eq_none,
    problem_eq_none, not_and_or, not_or, not_not, not_lt, not_le]
  constructor
  · rintro ⟨h1, h2, h3, h4, h5, h6, h7, h8, h9, h10⟩
    exact ⟨h1, h2, h3, h4, h5, h6, h7, h8, h9, h10⟩
  · rintro ⟨h1, h2, h3, h4, h5, h6, h7, h8, h9, h10⟩
    exact ⟨h1, h2, h3, h4, h5, h6, h7, h8, h9, h10⟩

/-- `Digest`: the hash, and the canonical JSON. -/
def digest (p : Platform) (o : MapOrder) (r : RouteSnapshot) : Except String (String × List Char) :=
  match r.validate o with
  | some reason => .error reason
  | none =>
    match canonicalSHA256Hex p (.object r.value) with
    | some result => .ok result
    | none => .error "unsupported JCS value"

end RouteSnapshot

/-! ### Rows -/

/-- A row is found by it. -/
structure SettlementReceiptIdentity where
  accountScope : String
  requestID : String
  attemptN : ℤ
  providerID : String
deriving DecidableEq

/-- By which the snapshot is found. -/
def RouteColumns.identity (r : RouteColumns) : SettlementReceiptIdentity :=
  ⟨r.accountScope, r.requestID, r.attemptN, r.providerID⟩

/-- A row of `settlement_route_snapshots`. -/
structure SnapshotRow extends RouteColumns where
  routeSnapshotDigest : String
  routeSnapshotJSON : String
  routeSnapshotCanonicalJSON : String

def SnapshotRow.key (row : SnapshotRow) : SettlementReceiptIdentity := row.identity

/-- `settlement_route_snapshots`. -/
abbrev SnapshotTable := Table SnapshotRow.key

variable {db : SnapshotTable}

/-- `json.Marshal` on a map of texts and integers. -/
def marshal (ms : List (String × Datum ℤ)) : List Char :=
  print escapeHtml (.object ((scalarMembers Number.ofInt id ms).insertionSort fun a b => a.1 ≤ b.1))

/-- Its row. -/
def RouteSnapshot.row (r : RouteSnapshot) (digest : String) (canonical : List Char) :
    SnapshotRow where
  toRouteColumns := r.toRouteColumns
  routeSnapshotDigest := digest
  routeSnapshotJSON := String.ofList (marshal r.value)
  routeSnapshotCanonicalJSON := String.ofList canonical

/-- **`InsertRouteSnapshot`**. -/
def insertRouteSnapshot (p : Platform) (o : MapOrder) (r : RouteSnapshot) (db : SnapshotTable) :
    Except String (SnapshotTable × String) :=
  match r.digest p o with
  | .error reason => .error reason
  | .ok (digest, canonical) =>
    match db.insert (r.row digest canonical) with
    | none => .error "UNIQUE constraint failed"
    | some db' => .ok (db', digest)

/-- The part of `route_snapshot_json` that is read. -/
structure Algorithms where
  providerReported : String
  expectedCatalog : String
deriving DecidableEq

/-- The fields that are read. -/
def algorithmFields : List (Slot Algorithms) :=
  [.of "provider_reported_model_hash_algorithm" decodeString (·.providerReported)
      fun s a => { a with providerReported := s },
    .of "expected_catalog_model_hash_algorithm" decodeString (·.expectedCatalog)
      fun s a => { a with expectedCatalog := s }]

/-- `json.Unmarshal` of the stored text. -/
def readAlgorithms (text : String) : Option Algorithms :=
  (decodeText text.toList).bind fun v => decodeRecord false algorithmFields v ⟨"", ""⟩

/-- The snapshot of a row. -/
def SnapshotRow.snapshot (row : SnapshotRow) (id : SettlementReceiptIdentity) (a : Algorithms) :
    RouteSnapshot where
  toRouteColumns :=
    { row.toRouteColumns with
      accountScope := id.accountScope
      requestID := id.requestID
      attemptN := id.attemptN
      providerID := id.providerID }
  providerReportedModelHashAlgorithm := a.providerReported
  expectedCatalogModelHashAlgorithm := a.expectedCatalog

/-- **`loadSettlementRouteSnapshotConn`**. -/
def loadSettlementRouteSnapshot (p : Platform) (o : MapOrder) (id : SettlementReceiptIdentity)
    (db : SnapshotTable) : Except String (RouteSnapshot × String) :=
  match db.find? id with
  | none => .error "settlement route snapshot missing"
  | some row =>
    match readAlgorithms row.routeSnapshotJSON with
    | none => .error "settlement route snapshot identity metadata invalid"
    | some a =>
      match (row.snapshot id a).digest p o with
      | .error reason => .error reason
      | .ok (computed, _) =>
        if row.routeSnapshotDigest ≠ computed then
          .error "settlement route snapshot digest mismatch"
        else .ok (row.snapshot id a, computed)

/-! ### Round trip -/

theorem isScalar_nullableString {ν : Type} (s : Option String) :
    (nullableString s : Datum ν).isScalar = true := by
  cases s with
  | none => rfl
  | some s => rfl

namespace RouteSnapshot
variable {r : RouteSnapshot}

theorem isScalar_value (r : RouteSnapshot) : ∀ m ∈ r.value, m.2.isScalar = true := by
  have hcolumns : ∀ m ∈ r.members, m.2.isScalar = true := by
    simp [RouteColumns.members, isScalar_nullableString]
  have halgorithms : ∀ m ∈ r.algorithmMembers, m.2.isScalar = true := by
    unfold algorithmMembers
    split_ifs
    · simp
    · simp
  exact List.forall_mem_append.mpr ⟨hcolumns, halgorithms⟩

/-- Its canonical JSON. -/
def canonicalForm (p : Platform) (r : RouteSnapshot) : List Char :=
  print escapeJcs (.object (sortMembers (scalarMembers Number.ofInt p.nfc r.value)))

theorem canonicalInts_value (p : Platform) (r : RouteSnapshot) :
    canonicalInts p (.object r.value) = some (r.canonicalForm p) := by
  rw [canonicalInts, canonicalJSON, canonical, canonicalMembers_scalars r.isScalar_value]
  rfl

/-- **Exactly the valid snapshots have a digest.** -/
theorem digest_eq_ok {p : Platform} {o : MapOrder} {result : String × List Char} :
    r.digest p o = .ok result ↔
      r.Valid ∧ result = (p.sha256Hex (Utf8.encode (r.canonicalForm p)), r.canonicalForm p) := by
  unfold digest
  cases hvalidate : r.validate o with
  | some reason =>
    have hnot : ¬ r.Valid := fun hvalid => by
      rw [validate_eq_none.mpr hvalid] at hvalidate
      cases hvalidate
    simp [hnot]
  | none =>
    simp only [canonicalSHA256Hex, canonicalInts_value, Option.map_some, Except.ok.injEq,
      validate_eq_none.mp hvalidate, true_and]
    exact eq_comm

/-- The names of the members. -/
def columnNames : List String :=
  ["account_scope", "request_id", "attempt_n", "provider_id", "provider_session_id",
    "provider_generation_id", "paid_entrypoint", "provider_receipt_key_id",
    "provider_receipt_key_source", "model_id", "provider_reported_model_hash",
    "expected_catalog_model_hash", "catalog_id", "catalog_body_digest", "catalog_signature_key_id",
    "catalog_signature_pubkey_fingerprint", "catalog_expires_at_unix_ms", "spec008_hash_status",
    "route_snapshot_policy_version", "route_snapshot_mode", "route_decision_ts_unix_ms",
    "request_start_ts_unix_ms", "pending_deadline_seconds", "prompt_hash_basis", "prompt_hash"]

theorem keys_members (c : RouteColumns) : keys c.members = columnNames := rfl

theorem filter_columns (c : RouteColumns) :
    (scalarMembers Number.ofInt id c.members).filter
      (fun m => (findField algorithmFields m.1).isSome) = [] := by
  have hnot : ∀ k ∈ columnNames, ¬ (findField algorithmFields k).isSome := by decide
  have hkeys : keys (scalarMembers Number.ofInt id c.members) = columnNames :=
    (keys_scalarMembers Number.ofInt c.members).trans (keys_members c)
  exact List.filter_eq_nil_iff.mpr fun m hm => hnot m.1 (hkeys ▸ List.mem_map_of_mem hm)

theorem decodeText_marshal (ms : List (String × Datum ℤ)) : decodeText (marshal ms) =
    some (.object ((scalarMembers Number.ofInt id ms).insertionSort fun a b => a.1 ≤ b.1)) := by
  refine decodeText_print escapes_escapeHtml ?_
  have hflat : depthMembers ((scalarMembers Number.ofInt id ms).insertionSort
      fun a b => a.1 ≤ b.1) ≤ 0 :=
    depthMembers_le.mpr fun k v hmem =>
      (depth_scalarMembers ((List.perm_insertionSort _ _).mem_iff.mp hmem)).le
  rw [depth, maxNestingDepth]
  omega

/-- **The algorithms are read back.** -/
theorem readAlgorithms_marshal (hnames : r.NamesAlgorithms) :
    readAlgorithms (String.ofList (marshal r.value)) =
      some ⟨r.providerReportedModelHashAlgorithm, r.expectedCatalogModelHashAlgorithm⟩ := by
  have hread : ((scalarMembers Number.ofInt id r.value).insertionSort fun a b => a.1 ≤ b.1).filter
      (fun m => (findField algorithmFields m.1).isSome) |>.Perm
      ((scalarMembers Number.ofInt id r.algorithmMembers).filter
        fun m => (findField algorithmFields m.1).isSome) := by
    refine ((List.perm_insertionSort _ _).filter _).trans ?_
    rw [value, scalarMembers, List.map_append, List.filter_append]
    exact .of_eq (congrArg (· ++ _) (filter_columns r.toRouteColumns))
  rw [readAlgorithms, String.toList_ofList, decodeText_marshal, Option.bind_some,
    decodeRecord_filter]
  -- both algorithms are missing, or they stand in one order or the other
  rcases hnames with ⟨hp, he⟩ | ⟨hp, he⟩
  · rw [algorithmMembers, if_neg (by simp [hp, he])] at hread
    rw [List.perm_nil.mp hread, hp, he]
    rfl
  · rw [algorithmMembers, if_pos (by simp [hp, snapshotManifestV1]), hp, he] at hread
    rw [hp, he]
    rcases List.perm_pair.mp hread with horder | horder
    · rw [horder]
      rfl
    · rw [horder]
      rfl

end RouteSnapshot

variable {row : SnapshotRow} {digest : String} {id : SettlementReceiptIdentity}
  {db' : SnapshotTable}

theorem insertRouteSnapshot_eq_ok
    (h : insertRouteSnapshot p o r db = .ok (db', digest)) :
    r.Valid ∧ digest = p.sha256Hex (Utf8.encode (r.canonicalForm p)) ∧
      db.insert (r.row digest (r.canonicalForm p)) = some db' := by
  unfold insertRouteSnapshot at h
  cases hdigest : r.digest p o with
  | error reason =>
    rw [hdigest] at h
    cases h
  | ok result =>
    obtain ⟨hvalid, rfl⟩ := RouteSnapshot.digest_eq_ok.mp hdigest
    rw [hdigest] at h
    dsimp only at h
    split at h
    · cases h
    · next db'' hinsert =>
      cases h
      exact ⟨hvalid, rfl, hinsert⟩

/-- **A row loads as its snapshot.** -/
theorem load_row
    (hvalid : r.Valid)
    (hfind : db.find? r.identity =
      some (r.row (p.sha256Hex (Utf8.encode (r.canonicalForm p))) (r.canonicalForm p))) :
    loadSettlementRouteSnapshot p o r.identity db =
      .ok (r, p.sha256Hex (Utf8.encode (r.canonicalForm p))) := by
  have hdigest := RouteSnapshot.digest_eq_ok (p := p) (o := o) (r := r) |>.mpr ⟨hvalid, rfl⟩
  have hread : readAlgorithms (r.row (p.sha256Hex (Utf8.encode (r.canonicalForm p)))
      (r.canonicalForm p)).routeSnapshotJSON = _ :=
    RouteSnapshot.readAlgorithms_marshal hvalid.algorithms
  have hsnapshot : (r.row (p.sha256Hex (Utf8.encode (r.canonicalForm p)))
      (r.canonicalForm p)).snapshot r.identity
        ⟨r.providerReportedModelHashAlgorithm, r.expectedCatalogModelHashAlgorithm⟩ = r := rfl
  rw [loadSettlementRouteSnapshot, hfind]
  dsimp only
  rw [hread]
  dsimp only
  rw [hsnapshot, hdigest]
  exact if_neg fun hne => hne rfl

/-- An insert, with its order of maps. -/
def insertStep (p : Platform) (db : SnapshotTable) (a : MapOrder × RouteSnapshot) : SnapshotTable :=
  match insertRouteSnapshot p a.1 a.2 db with
  | .ok (db', _) => db'
  | .error _ => db

theorem find?_insertStep {a : MapOrder × RouteSnapshot} (h : db.find? id = some row) :
    (insertStep p db a).find? id = some row := by
  unfold insertStep
  split
  · next db' digest hinsert =>
    obtain ⟨-, -, hrow⟩ := insertRouteSnapshot_eq_ok hinsert
    rw [Table.find?_insert hrow]
    split_ifs with hkey
    · -- the key is taken, so that the insert would have failed
      rw [Table.insert_eq_none.mpr (by rw [hkey, h]; exact Option.some_ne_none row)] at hrow
      cases hrow
    · exact h
  · exact h

theorem find?_run
    (later : List (MapOrder × RouteSnapshot)) (h : db.find? id = some row) :
    (Runs.run (insertStep p) db later).find? id = some row := by
  induction later generalizing db with
  | nil => exact h
  | cons a later ih => exact ih (find?_insertStep h)

/-- **An inserted snapshot loads**, with its digest. -/
theorem load_of_insert {o' : MapOrder} (h : insertRouteSnapshot p o r db = .ok (db', digest))
    (later : List (MapOrder × RouteSnapshot)) :
    loadSettlementRouteSnapshot p o' r.identity (Runs.run (insertStep p) db' later) =
      .ok (r, digest) := by
  obtain ⟨hvalid, rfl, hrow⟩ := insertRouteSnapshot_eq_ok h
  refine load_row hvalid (find?_run later ?_)
  rw [Table.find?_insert hrow, if_pos]
  rfl

/-! ### What the canonical JSON determines -/

namespace RouteSnapshot

/-- Its texts in normal form. -/
def normalised (nfc : String → String) (r : RouteSnapshot) : RouteSnapshot where
  accountScope := nfc r.accountScope
  requestID := nfc r.requestID
  attemptN := r.attemptN
  providerID := nfc r.providerID
  providerSessionID := r.providerSessionID.map nfc
  providerGenerationID := r.providerGenerationID.map nfc
  paidEntrypoint := nfc r.paidEntrypoint
  providerReceiptKeyID := nfc r.providerReceiptKeyID
  providerReceiptKeySource := nfc r.providerReceiptKeySource
  modelID := nfc r.modelID
  providerReportedModelHash := nfc r.providerReportedModelHash
  expectedCatalogModelHash := nfc r.expectedCatalogModelHash
  catalogID := nfc r.catalogID
  catalogBodyDigest := nfc r.catalogBodyDigest
  catalogSignatureKeyID := nfc r.catalogSignatureKeyID
  catalogSignaturePubkeyFingerprint := nfc r.catalogSignaturePubkeyFingerprint
  catalogExpiresAtUnixMS := r.catalogExpiresAtUnixMS
  spec008HashStatus := nfc r.spec008HashStatus
  routeSnapshotPolicyVersion := nfc r.routeSnapshotPolicyVersion
  routeSnapshotMode := nfc r.routeSnapshotMode
  routeDecisionTSUnixMS := r.routeDecisionTSUnixMS
  requestStartTSUnixMS := r.requestStartTSUnixMS
  pendingDeadlineSeconds := r.pendingDeadlineSeconds
  promptHashBasis := nfc r.promptHashBasis
  promptHash := nfc r.promptHash
  providerReportedModelHashAlgorithm := r.providerReportedModelHashAlgorithm
  expectedCatalogModelHashAlgorithm := r.expectedCatalogModelHashAlgorithm

variable {r t : RouteSnapshot}

/-- Its algorithms. -/
def algorithms (r : RouteSnapshot) : Algorithms :=
  ⟨r.providerReportedModelHashAlgorithm, r.expectedCatalogModelHashAlgorithm⟩

theorem algorithms_of_length (hr : r.NamesAlgorithms) (ht : t.NamesAlgorithms)
    (h : r.algorithmMembers.length = t.algorithmMembers.length) : r.algorithms = t.algorithms := by
  have hlength : ∀ s : RouteSnapshot, s.NamesAlgorithms →
      s.algorithmMembers.length = 0 ∧ s.algorithms = ⟨"", ""⟩ ∨
        s.algorithmMembers.length = 2 ∧
          s.algorithms = ⟨snapshotManifestV1, snapshotManifestV1⟩ := by
    rintro s (⟨hp, he⟩ | ⟨hp, he⟩)
    · simp [algorithmMembers, algorithms, hp, he]
    · simp [algorithmMembers, algorithms, hp, he, snapshotManifestV1]
  rcases hlength r hr with ⟨hrl, hra⟩ | ⟨hrl, hra⟩ <;>
    rcases hlength t ht with ⟨htl, hta⟩ | ⟨htl, hta⟩
  · rw [hra, hta]
  · omega
  · omega
  · rw [hra, hta]

theorem algorithmMembers_eq (r : RouteSnapshot) : r.algorithmMembers =
    if r.algorithms.providerReported ≠ "" ∨ r.algorithms.expectedCatalog ≠ "" then
      [("provider_reported_model_hash_algorithm", .string r.algorithms.providerReported),
        ("expected_catalog_model_hash_algorithm", .string r.algorithms.expectedCatalog)]
    else [] := rfl

variable {nfc : String → String}

theorem scalarValue_nullableString_inj {s u : Option String} :
    scalarValue Number.ofInt nfc (nullableString s) =
        scalarValue Number.ofInt nfc (nullableString u) ↔
      s.map nfc = u.map nfc := by
  cases s with
  | none =>
    cases u with
    | none => simp
    | some u => simp [nullableString, scalarValue]
  | some s =>
    cases u with
    | none => simp [nullableString, scalarValue]
    | some u => simp [nullableString, scalarValue]

theorem columns_of_members (halgorithms : r.algorithms = t.algorithms) :
    scalarMembers Number.ofInt nfc r.members = scalarMembers Number.ofInt nfc t.members ↔
      r.normalised nfc = t.normalised nfc := by
  obtain ⟨hp, he⟩ := Algorithms.mk.inj halgorithms
  simp only [scalarMembers, RouteColumns.members, List.map_cons, List.map_nil, List.cons.injEq,
    Prod.mk.injEq, true_and, scalarValue_nullableString_inj, and_true, normalised, mk.injEq,
    RouteColumns.mk.injEq, hp, he]
  simp only [scalarValue, Value.string.injEq, Value.number.injEq, Number.ofInt_inj]

theorem algorithmMembers_congr (h : r.algorithms = t.algorithms) :
    r.algorithmMembers = t.algorithmMembers := by
  rw [algorithmMembers_eq r, algorithmMembers_eq t, h]

theorem keys_value_nodup (r : RouteSnapshot) : (keys r.value).Nodup := by
  have hboth : (columnNames ++ ["provider_reported_model_hash_algorithm",
      "expected_catalog_model_hash_algorithm"]).Nodup := by decide
  have hkeys : keys r.value = columnNames ++ keys r.algorithmMembers := by
    rfl
  rw [hkeys, algorithmMembers]
  split_ifs
  · exact hboth
  · exact (List.append_nil columnNames).symm ▸ hboth.of_append_left

/-- **The canonical JSON determines** a snapshot up to the normal form. -/
theorem canonicalForm_eq_iff {p : Platform} (hr : r.NamesAlgorithms) (ht : t.NamesAlgorithms) :
    r.canonicalForm p = t.canonicalForm p ↔ r.normalised p.nfc = t.normalised p.nfc := by
  constructor
  · intro h
    have hsorted := Value.object.inj (print_injective escapes_escapeJcs h)
    have hlength : r.algorithmMembers.length = t.algorithmMembers.length := by
      have hperm := (perm_sortMembers _).symm.trans (hsorted ▸ perm_sortMembers _)
      have htotal := hperm.length_eq
      have hcolumns : r.members.length = t.members.length := rfl
      simp only [scalarMembers, List.length_map, value, List.length_append] at htotal
      omega
    have halgorithms := algorithms_of_length hr ht hlength
    have hkeys : keys (scalarMembers Number.ofInt p.nfc r.value) =
        keys (scalarMembers Number.ofInt p.nfc t.value) := by
      rw [keys_scalarMembers, keys_scalarMembers, value, value, algorithmMembers_congr halgorithms]
      exact congrArg (· ++ _) ((keys_members r.toRouteColumns).trans (keys_members _).symm)
    have hmembers := sortMembers_injective hkeys
      (by rw [keys_scalarMembers]; exact r.keys_value_nodup) hsorted
    rw [value, value, algorithmMembers_congr halgorithms, scalarMembers, scalarMembers,
      List.map_append, List.map_append] at hmembers
    exact (columns_of_members halgorithms).mp (List.append_cancel_right hmembers)
  · intro h
    have halgorithms : (r.normalised p.nfc).algorithms = (t.normalised p.nfc).algorithms :=
      congrArg algorithms h
    change r.algorithms = t.algorithms at halgorithms
    have hmembers := (columns_of_members halgorithms).mpr h
    have hvalue : scalarMembers Number.ofInt p.nfc r.value =
        scalarMembers Number.ofInt p.nfc t.value := by
      rw [value, value, algorithmMembers_congr halgorithms, scalarMembers, scalarMembers,
        List.map_append, List.map_append]
      exact congrArg (· ++ _) hmembers
    rw [canonicalForm, canonicalForm, hvalue]

end RouteSnapshot

/-- **A stored snapshot loads as it was inserted**, with its digest, after any further inserts. The
JSON determines it up to the normal form. -/
theorem stored_snapshot_loads (p : Platform) :
    (∀ (o o' : MapOrder) (r : RouteSnapshot) (db db' : SnapshotTable) (digest : String)
      (later : List (MapOrder × RouteSnapshot)),
      insertRouteSnapshot p o r db = .ok (db', digest) →
      loadSettlementRouteSnapshot p o' r.identity (Runs.run (insertStep p) db' later) =
        .ok (r, digest)) ∧
    (∀ (o o' : MapOrder) (r t : RouteSnapshot) (d d' : String) (j j' : List Char),
      r.digest p o = .ok (d, j) → t.digest p o' = .ok (d', j') →
      (j = j' ↔ r.normalised p.nfc = t.normalised p.nfc)) := by
  refine ⟨fun o o' r db db' digest later h => load_of_insert h later, ?_⟩
  intro o o' r t d d' j j' hr ht
  obtain ⟨hvalid, hj⟩ := RouteSnapshot.digest_eq_ok.mp hr
  obtain ⟨hvalid', hj'⟩ := RouteSnapshot.digest_eq_ok.mp ht
  cases hj
  cases hj'
  exact RouteSnapshot.canonicalForm_eq_iff hvalid.algorithms hvalid'.algorithms

def demoSnapshot (model : String) : RouteSnapshot where
  accountScope := "scope"
  requestID := "request"
  attemptN := 0
  providerID := "provider"
  providerSessionID := some "session"
  providerGenerationID := none
  paidEntrypoint := "/v1/chat/completions"
  providerReceiptKeyID := "ed25519-sha256:" ++ demoHash
  providerReceiptKeySource := "auth_session"
  modelID := model
  providerReportedModelHash := demoHash
  expectedCatalogModelHash := demoHash
  catalogID := "catalog"
  catalogBodyDigest := demoHash
  catalogSignatureKeyID := "key"
  catalogSignaturePubkeyFingerprint := "ed25519-sha256:" ++ demoHash
  catalogExpiresAtUnixMS := 1
  spec008HashStatus := "match"
  routeSnapshotPolicyVersion := "spec022-prereq-v1"
  routeSnapshotMode := "observe"
  routeDecisionTSUnixMS := 1
  requestStartTSUnixMS := 1
  pendingDeadlineSeconds := 300
  promptHashBasis := "canonical_prompt"
  promptHash := demoHash
  providerReportedModelHashAlgorithm := snapshotManifestV1
  expectedCatalogModelHashAlgorithm := snapshotManifestV1

theorem demoSnapshot_valid :
    (demoSnapshot "e\u0301").validate .written = none ∧
      (demoSnapshot "\u00e9").validate .written = none := by
  decide +kernel

/-- **The normal form is lost**: one digest for two snapshots. -/
theorem composed_letter_shares_digest :
    demoPlatform.nfc "e\u0301" = "\u00e9" ∧ demoPlatform.nfc "\u00e9" = "\u00e9" ∧
    ∃ d j, (demoSnapshot "e\u0301").digest demoPlatform .written = .ok (d, j) ∧
      (demoSnapshot "\u00e9").digest demoPlatform .written = .ok (d, j) ∧
      demoSnapshot "e\u0301" ≠ demoSnapshot "\u00e9" := by
  have hvalid := RouteSnapshot.validate_eq_none.mp demoSnapshot_valid.1
  have hvalid' := RouteSnapshot.validate_eq_none.mp demoSnapshot_valid.2
  have hform : (demoSnapshot "e\u0301").canonicalForm demoPlatform =
      (demoSnapshot "\u00e9").canonicalForm demoPlatform :=
    (RouteSnapshot.canonicalForm_eq_iff hvalid.algorithms hvalid'.algorithms).mpr
      (by decide +kernel)
  refine ⟨by decide, by decide, _, _, RouteSnapshot.digest_eq_ok.mpr ⟨hvalid, rfl⟩,
    RouteSnapshot.digest_eq_ok.mpr ⟨hvalid', ?_⟩, by decide +kernel⟩
  rw [hform]

/-- Behind an insert that fails. -/
theorem demo_snapshot_loads :
    ∃ db' digest, insertRouteSnapshot demoPlatform .written (demoSnapshot "\u00e9") .empty =
        .ok (db', digest) ∧
      loadSettlementRouteSnapshot demoPlatform .written (demoSnapshot "\u00e9").identity
        (Runs.run (insertStep demoPlatform) db' [(.written, demoSnapshot "e\u0301")]) =
          .ok (demoSnapshot "\u00e9", digest) := by
  have hvalid := RouteSnapshot.validate_eq_none.mp demoSnapshot_valid.2
  have hdigest := RouteSnapshot.digest_eq_ok (p := demoPlatform) (o := .written) |>.mpr
    ⟨hvalid, rfl⟩
  have hinsert : ∃ db' digest, insertRouteSnapshot demoPlatform .written (demoSnapshot "\u00e9")
      .empty = .ok (db', digest) := by
    rw [insertRouteSnapshot, hdigest]
    exact ⟨_, _, rfl⟩
  obtain ⟨db', digest, h⟩ := hinsert
  exact ⟨db', digest, h, (stored_snapshot_loads demoPlatform).1 _ _ _ _ _ _ _ h⟩

end MacProvider.Coordinator.Billing.RouteSnapshots
