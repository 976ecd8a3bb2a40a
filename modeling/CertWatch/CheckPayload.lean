/-
# `CertWatch.CheckPayload` — check results as they stand in a report.

`check_payload.py`: one builder for each of the two check functions.  The second one carries its nine statuses
beside the three that the first one knows.
-/
import CertWatch.CertCheckWithDiscovery

namespace CertWatch

/-! ## Values on the wire -/

/-- An optional integer: `None` is `null`. -/
def Json.ofOptInt : Option Int → Json
  | none => .null
  | some n => .int n

/-- An optional boolean: `None` is `null`. -/
def Json.ofOptBool : Option Bool → Json
  | none => .null
  | some b => .bool b

/-! ## The builder for `cert_check` -/

/-- `cert_dict_from_result`. -/
def certDictFromResult (r : CertResult) : Json :=
  if r.state = .connectionFailed then
    .null
  else if r.issuer_full_dn = none then
    .null
  else
    .obj [
      ("subject_cn", .ofOptStr r.subject_cn),
      ("subject_sans", .arr (r.subject_sans.map .str)),
      ("issuer_cn", .ofOptStr r.issuer_cn),
      ("issuer_o", .ofOptStr r.issuer_o),
      ("issuer_full_dn", .ofOptStr r.issuer_full_dn),
      ("ca_category", .ofOptStr (r.ca_category.map CaCategory.text)),
      ("is_self_signed", .ofOptBool r.is_self_signed),
      ("not_before", .ofOptStr r.not_before),
      ("not_after", .ofOptStr r.not_after),
      ("days_until_expiry", .ofOptInt r.days_until_expiry),
      ("signature_algorithm", .ofOptStr r.signature_algorithm),
      ("key_size", .ofOptInt r.key_size),
      ("hostname_matches", .ofOptBool r.hostname_matches),
      ("chain_trusted_by_system", .ofOptBool r.chain_trusted_by_system),
      ("chain_error_reason", .ofOptStr r.chain_error_reason)]

/-- `build_check_payload`. -/
def buildCheckPayload (host_ref : Json) (result : CertResult) : Dict :=
  [("host_ref", host_ref), ("checked_at", .str result.checked_at), ("status", .str result.state.text),
    ("error_reason", .ofOptStr result.error_message), ("cert", certDictFromResult result)]

/-! ## The builder for `cert_check_with_discovery` -/

/-- `_DETAILED_TO_LEGACY_STATUS`. -/
def detailedToLegacyStatus : CertStatus → ResultState
  | .success => .success
  | .certExpiringSoon => .success
  | .tlsWarning => .success
  | .certExpired => .tlsFailed
  | .certNoUsableHostname => .tlsFailed
  | .tlsFailedNoCert => .tlsFailed
  | .tlsFailedMalformedCert => .tlsFailed
  | .connectionRefused => .connectionFailed
  | .connectionTimeout => .connectionFailed

/-- `cert_dict_from_discovery_result`. -/
def certDictFromDiscoveryResult (rt : Runtime) (r : CertCheckResult) : Json :=
  if r.issuer_full_dn = none then
    .null
  else
    .obj [
      ("canonical_hostname", .ofOptStr r.canonical_hostname),
      ("subject_cn", .ofOptStr r.subject_cn),
      ("subject_sans", .arr (r.subject_sans.map .str)),
      ("issuer_cn", .ofOptStr r.issuer_cn),
      ("issuer_o", .ofOptStr r.issuer_o),
      ("issuer_full_dn", .ofOptStr r.issuer_full_dn),
      ("ca_category", .str (categorizeCa rt (r.is_self_signed = some true) (r.chain_trusted_by_system = some true)
        r.issuer_full_dn).text),
      ("is_self_signed", .ofOptBool r.is_self_signed),
      ("not_before", .ofOptStr r.not_before),
      ("not_after", .ofOptStr r.not_after),
      ("days_until_expiry", .ofOptInt r.days_until_expiry),
      ("signature_algorithm", .ofOptStr r.signature_algorithm),
      ("key_size", .ofOptInt r.key_size),
      ("hostname_matches", .ofOptBool r.hostname_matches),
      ("chain_trusted_by_system", .ofOptBool r.chain_trusted_by_system),
      ("chain_trust_reason", .ofOptStr r.chain_trust_reason),
      ("chain_error_reason", .ofOptStr r.chain_trust_reason)]

/-- `build_check_payload_from_discovery`. -/
def buildCheckPayloadFromDiscovery (rt : Runtime) (host_ref : Json) (result : CertCheckResult) : Dict :=
  [("host_ref", host_ref), ("checked_at", .str result.checked_at),
    ("status", .str (detailedToLegacyStatus result.status).text), ("status_detail", .str result.status.text),
    ("error_reason", .ofOptStr result.error_message), ("cert", certDictFromDiscoveryResult rt result)]

end CertWatch
