/-
# `CertWatch.CaCategory` — the four buckets of issuers.

`ca_category.py`: the bucket describes the issuer of a certificate and not its validity, so a chain that fails
for a date or a name only still counts as a public one.
-/
import CertWatch.Certificate
import Mathlib.Data.List.Infix

namespace CertWatch

/-- `ca_category` of a result. -/
inductive CaCategory where
  | selfSigned
  | wellKnownPublic
  | internalCorporate
  | unknown
  deriving DecidableEq, Repr

/-- The string that stands for it on the wire. -/
def CaCategory.text : CaCategory → String
  | .selfSigned => "self_signed"
  | .wellKnownPublic => "well_known_public"
  | .internalCorporate => "internal_corporate"
  | .unknown => "unknown"

/-- `DEFAULT_INTERNAL_CA_PATTERNS`. -/
def defaultInternalCaPatterns : List String := ["kurmi", "internal", "lab ca", "corporate ca", "intermediate ca"]

/-- `_CHAIN_PATH_OK_CODES`: dates and names only. -/
def chainPathOkCodes : List Int := [9, 10, 11, 12, 62, 63, 64]

/-- `chain_path_trusted`. -/
def chainPathTrusted (verify_code : Option Int) : Bool :=
  match verify_code with
  | none => true
  | some code => chainPathOkCodes.contains code

/-- `load_internal_patterns_from_env`. -/
def loadInternalPatternsFromEnv (rt : Runtime) : List String :=
  match rt.internal_ca_patterns with
  | none => defaultInternalCaPatterns
  | some val => ((val.toList.splitOn ',').map fun p => strip (String.ofList p)).filter (· != "")

/-- `_matches_any`. -/
def matchesAny (rt : Runtime) (dn : String) (patterns : List String) : Bool :=
  patterns.any fun p => decide ((rt.lower p).toList <:+: (rt.lower dn).toList)

/-- `categorize_ca`. -/
def categorizeCa (rt : Runtime) (is_self_signed chain_path_to_system_root : Bool) (issuer_full_dn : Option String)
    (internal_patterns : Option (List String) := none) : CaCategory :=
  if is_self_signed then
    .selfSigned
  else if chain_path_to_system_root then
    .wellKnownPublic
  else
    let patterns := internal_patterns.getD (loadInternalPatternsFromEnv rt)
    match issuer_full_dn with
    | some dn => if !patterns.isEmpty && dn != "" && matchesAny rt dn patterns then .internalCorporate else .unknown
    | none => .unknown

end CertWatch
