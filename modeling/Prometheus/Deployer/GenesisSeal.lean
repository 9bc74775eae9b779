import Prometheus.Deployer.CanonicalReading
import Prometheus.Deployer.Genesis

/-!
# The seal of a signing request

The hash of a signing request covers every member but itself: two requests that are hashed alike
agree in all of them. So a request that was changed under its hash is refused.
-/

namespace Prometheus.Deployer.Genesis

open Prometheus.Codec
open Prometheus.Deployer.DeployRequest (removeKey sha256Hex)

/-! ## Results -/

theorem bailIf_eq_ok {condition : Prop} [Decidable condition] {text : String} {u : Unit} :
    bailIf condition text = .ok u ↔ ¬ condition := by
  unfold bailIf
  split
  · simp [*]
  · simp [*]

theorem okOrElse_eq_ok {α : Type} {value : Option α} {text : String} {a : α} :
    okOrElse value text = .ok a ↔ value = some a := by
  cases value <;> simp [okOrElse]

theorem context_eq_ok {α : Type} {text : String} {result : Except String α} {a : α} :
    context text result = .ok a ↔ result = .ok a := by
  cases result <;> simp [context, Except.mapError]

/-! ## Values that say what they were made of -/

theorem natValue_inj {m n : Nat} {hm : m < 2 ^ 64} {hn : n < 2 ^ 64} :
    sortedJson (natValue m hm) = sortedJson (natValue n hn) ↔ m = n := by
  simp [natValue, sortedJson]

theorem u64Value_inj {m n : UInt64} : sortedJson (u64Value m) = sortedJson (u64Value n) ↔ m = n := by
  rw [u64Value, u64Value, natValue_inj, UInt64.toNat_inj]

theorem u32Value_inj {m n : UInt32} : sortedJson (u32Value m) = sortedJson (u32Value n) ↔ m = n := by
  rw [u32Value, u32Value, natValue_inj, UInt32.toNat_inj]

theorem u16Value_inj {m n : UInt16} : sortedJson (u16Value m) = sortedJson (u16Value n) ↔ m = n := by
  rw [u16Value, u16Value, natValue_inj, UInt16.toNat_inj]

theorem stringValue_inj {s t : Bytes} :
    sortedJson (.string s) = sortedJson (.string t) ↔ s = t := by
  rw [sortedJson, sortedJson, Json.string.injEq, toStr_inj]

theorem boolValue_inj {b c : Bool} : sortedJson (.bool b) = sortedJson (.bool c) ↔ b = c := by
  rw [sortedJson, sortedJson, Json.bool.injEq]

theorem sortedFields_of_sortedJson {fields fields' : List (Bytes × Value)}
    (same : sortedJson (.object fields) = sortedJson (.object fields'))
    (keys : fields.map Prod.fst = fields'.map Prod.fst) (distinct : (fields.map Prod.fst).Nodup) :
    sortedFields fields = sortedFields fields' := by
  refine sortedFields_eq ?_ keys distinct
  have texts : toStr (canonicalJson (.object fields)) = toStr (canonicalJson (.object fields')) := by
    rw [toStr_canonicalJson, toStr_canonicalJson, same]
  exact toStr_inj.mp texts

theorem scriptValue_inj {spec spec' : ScriptSpec} :
    sortedJson spec.value = sortedJson spec'.value ↔ spec = spec' := by
  constructor
  · intro same
    have distinct : [ascii "version", ascii "script_hex"].Nodup := by decide
    have fields := sortedFields_of_sortedJson same rfl distinct
    simp only [sortedFields, List.cons.injEq, Prod.mk.injEq, true_and, and_true, u16Value_inj,
      stringValue_inj] at fields
    cases spec
    cases spec'
    simp_all
  · rintro rfl
    rfl

theorem outpointValue_inj {spec spec' : OutpointSpec} :
    sortedJson spec.value = sortedJson spec'.value ↔ spec = spec' := by
  constructor
  · intro same
    have distinct : [ascii "transaction_id", ascii "index"].Nodup := by decide
    have fields := sortedFields_of_sortedJson same rfl distinct
    simp only [sortedFields, List.cons.injEq, Prod.mk.injEq, true_and, and_true, u32Value_inj,
      stringValue_inj] at fields
    cases spec
    cases spec'
    simp_all
  · rintro rfl
    rfl

theorem mapValue_inj {α : Type} {ofEntry : α → Value} {map map' : BTreeMap α}
    (injective : ∀ a b, sortedJson (ofEntry a) = sortedJson (ofEntry b) → a = b) :
    sortedJson (map.value ofEntry) = sortedJson (map'.value ofEntry) ↔ map = map' := by
  constructor
  · intro same
    have keys (m : BTreeMap α) :
        (m.entries.map fun entry => (entry.1, ofEntry entry.2)).map Prod.fst =
          m.entries.map Prod.fst := by
      rw [List.map_map]
      rfl
    have fields (entries : List (Bytes × α)) :
        sortedFields (entries.map fun entry => (entry.1, ofEntry entry.2)) =
          entries.map fun entry => (entry.1, sortedJson (ofEntry entry.2)) := by
      induction entries with
      | nil => rfl
      | cons entry entries ih => rw [List.map_cons, sortedFields, ih, List.map_cons]
    rw [BTreeMap.value, BTreeMap.value, sortedJson_inOrder (by rw [keys]; exact map.sorted),
      sortedJson_inOrder (by rw [keys]; exact map'.sorted), fields, fields, List.map_map,
      List.map_map] at same
    have entries := List.map_injective_iff.mpr (fun f g h => ?_) (Json.object.inj same)
    · cases map
      cases map'
      simp_all
    · obtain ⟨isKey, isValue⟩ := Prod.mk.inj h
      exact Prod.ext (toStr_inj.mp isKey) (injective _ _ isValue)
  · rintro rfl
    rfl

/-! ## What the hash covers -/

variable {r r' : SigningRequest}

def coveredKeys : List Bytes :=
  ["schema_version", "kind", "status", "request_sha256", "contract_name", "network", "network_id",
    "rpc_url", "deployer_address", "funding_outpoint", "funding_amount",
    "funding_script_public_key", "funding_block_daa_score", "funding_is_coinbase",
    "genesis_output_value", "change_output_value", "fee_sompi", "minimum_fee_sompi",
    "maximum_fee_sompi", "transaction_version", "compute_budget", "toccata_activation_daa_score",
    "compute_mass", "transient_mass", "storage_mass", "normalized_non_contextual_mass",
    "normalized_overall_mass", "pinned_fee_rate_sompi_per_kg", "minimum_relay_fee_sompi",
    "minimum_operator_fee_sompi", "authorizing_input", "contract_output_index",
    "unsigned_transaction_id", "covenant_id", "deployed_instance_id", "contract_address",
    "contract_script_sha256", "contract_script_public_key", "sighash_type", "sighash_hex",
    "expected_xonly_public_key_hex", "external_signer_contract", "safety"].map ascii

theorem covered_keys (r : SigningRequest) : r.covered.map Prod.fst = coveredKeys := rfl

theorem nodup_coveredKeys : coveredKeys.Nodup := by decide +kernel

theorem hash_not_mem_coveredKeys : ascii "signing_request_sha256" ∉ coveredKeys := by
  decide +kernel

/-- The hash is over all members but itself. -/
theorem hashed_eq (r : SigningRequest) : r.hashed = canonicalJson (.object r.covered) := by
  have kept : r.covered.filter (fun f => f.1 != ascii "signing_request_sha256") = r.covered := by
    refine List.filter_eq_self.mpr fun f isField => bne_iff_ne.mpr fun same => ?_
    have isKey := List.mem_map_of_mem (f := Prod.fst) isField
    rw [covered_keys, same] at isKey
    exact hash_not_mem_coveredKeys isKey
  rw [SigningRequest.hashed, SigningRequest.fields, removeKey, List.filter_append, kept]
  simp

/-- Requests that are hashed alike agree in everything but the hash itself. -/
theorem hashed_inj (same : r.hashed = r'.hashed) :
    r' = { r with signingRequestSha256 := r'.signingRequestSha256 } := by
  rw [hashed_eq, hashed_eq] at same
  have fields := sortedFields_eq same rfl (by rw [covered_keys]; exact nodup_coveredKeys)
  simp only [SigningRequest.covered, sortedFields, List.cons.injEq, Prod.mk.injEq, true_and,
    and_true, u64Value_inj, u32Value_inj, u16Value_inj, stringValue_inj, boolValue_inj,
    scriptValue_inj, outpointValue_inj, mapValue_inj fun _ _ => stringValue_inj.mp,
    mapValue_inj fun _ _ => boolValue_inj.mp] at fields
  cases r
  cases r'
  simp_all

theorem sha256Hex_inj {a b : Bytes} (same : sha256Hex a = sha256Hex b) : sha256 a = sha256 b :=
  hex_inj (encodeAscii_inj (isAscii_hex _).small (isAscii_hex _).small same)

/-! ## Requests that were changed -/

variable {kaspa : Kaspa}

theorem hash_of_validateSigningRequest {u : Unit} (h : validateSigningRequest kaspa r = .ok u) :
    r.signingRequestSha256 = signingRequestHash r := by
  obtain ⟨_, _, h⟩ := bind_eq_ok.mp h
  obtain ⟨_, isHash, _⟩ := bind_eq_ok.mp h
  exact not_not.mp (bailIf_eq_ok.mp isHash)

/-- A sealed request that was changed, but not its hash, or in its hash alone, is refused. -/
theorem changed_refused (isSealed : r.signingRequestSha256 = signingRequestHash r)
    (changed : r' ≠ r)
    (unsealed : r'.signingRequestSha256 = r.signingRequestSha256 ∨
      r' = { r with signingRequestSha256 := r'.signingRequestSha256 })
    (noCollision : NoCollision sha256 r'.hashed r.hashed) :
    ∃ text, validateSigningRequest kaspa r' = .error text := by
  cases checked : validateSigningRequest kaspa r' with
  | error text => exact ⟨text, rfl⟩
  | ok u =>
    have isSealed' := hash_of_validateSigningRequest checked
    refine absurd ?_ changed
    rcases unsealed with sameHash | sameRest
    · rw [isSealed, isSealed'] at sameHash
      rw [hashed_inj (noCollision (sha256Hex_inj sameHash)).symm, isSealed', sameHash, ← isSealed]
    · have sameHashed : r'.hashed = r.hashed := by
        rw [sameRest, hashed_eq, hashed_eq]
        rfl
      rw [sameRest, isSealed', signingRequestHash, sameHashed, ← signingRequestHash, ← isSealed]

end Prometheus.Deployer.Genesis
