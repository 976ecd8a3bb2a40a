/-
# `CertWatch.Certificate` — what the agent reads off a certificate.

A certificate is what the `cryptography` package yields for it: the attributes the agent looks at, each with
the errors that its parsing can raise.  The readers are the helpers of `cert_check.py`, which both check
functions use.  Letter case is the interpreter's (`str.lower` over all of Unicode), so it is a parameter.
-/
import CertWatch.Exceptions
import CertWatch.Clock

namespace CertWatch

/-! ## Certificates -/

/-- What parsing raises: `ValueError`, `TypeError`, or a class of the package, by name. -/
inductive X509Error where
  | valueError (text : String)
  | typeError (text : String)
  | other (class_name text : String)
  deriving DecidableEq, Repr

/-- The exception in flight. -/
def X509Error.exc : X509Error → PyExc
  | .valueError text => .valueError text
  | .typeError _ => .typeError
  | .other class_name _ => .other class_name

/-- `str(e)`. -/
def X509Error.text : X509Error → String
  | .valueError text => text
  | .typeError text => text
  | .other _ text => text

/-- The attribute types that the agent asks for. -/
inductive NameOid where
  | commonName
  | organizationName
  | other (dotted : String)
  deriving DecidableEq, Repr

/-- The value of a name attribute; bytes stand as they decode with `errors="replace"`. -/
inductive AttrValue where
  | str (s : String)
  | bytes (decoded : String)
  deriving DecidableEq, Repr

/-- `x509.Name`: its relative names, each with its attributes in a canonical order. -/
structure Name where
  rdns : List (List (NameOid × AttrValue))
  deriving DecidableEq, Repr

/-- An entry of the subject alternative names; an address stands as its text. -/
inductive GeneralName where
  | dns (value : String)
  | ip (text : String)
  | other
  deriving DecidableEq, Repr

/-- The kind of a public key, with the size that the agent reports. -/
inductive PublicKey where
  | rsa (key_size : Int)
  | dsa (key_size : Int)
  | ec (curve_key_size : Int)
  | ed25519
  | ed448
  | other
  deriving DecidableEq, Repr

/-- `x509.Certificate`; instants are in microseconds since the first of year 1. -/
structure Certificate where
  not_valid_before_utc : Nat
  not_valid_after_utc : Nat
  subject : Name
  issuer : Name
  /-- The subject alternative names; `none` is `ExtensionNotFound`. -/
  san : Except X509Error (Option (List GeneralName)) := .ok none
  /-- The name of `signature_hash_algorithm`. -/
  signature_hash_algorithm : Except X509Error (Option String)
  public_key : Except X509Error PublicKey

/-- Reading the certificate raises nothing. -/
def Certificate.Readable (cert : Certificate) : Prop :=
  (∃ names, cert.san = .ok names) ∧ ∃ key, cert.public_key = .ok key

/-- What a check takes from the interpreter, from the environment and from the `cryptography` package. -/
structure Runtime where
  /-- `str.lower`. -/
  lower : String → String
  /-- `str.upper`. -/
  upper : String → String
  /-- `repr` of a value other than a string. -/
  repr : Json → String
  /-- `float` of a string. -/
  floatOfText : String → Except PyExc PyFloat
  /-- `os.environ.get("INTERNAL_CA_PATTERNS")`. -/
  internal_ca_patterns : Option String
  /-- `Name.rfc4514_string`. -/
  rfc4514_string : Name → String

/-- `_iso_z`. -/
def isoZ (us : Nat) : String := utcNowIso us

/-- `(t - now).days`. -/
def daysUntil (t now : Nat) : Int := ((t : Int) - now) / (secondsPerDay * 1000000 : Nat)

/-! ## Names -/

/-- The text of an attribute value. -/
def AttrValue.text : AttrValue → String
  | .str s => s
  | .bytes decoded => decoded

/-- `name.get_attributes_for_oid`. -/
def Name.attributesFor (name : Name) (oid : NameOid) : List AttrValue :=
  (name.rdns.flatten.filter fun a => a.1 = oid).map Prod.snd

/-- `_first_attr`. -/
def firstAttr (name : Name) (oid : NameOid) : Option String :=
  (name.attributesFor oid).head?.map AttrValue.text

/-- The DNS names among the subject alternative names. -/
def dnsNames (names : List GeneralName) : List String :=
  names.filterMap fun n => match n with
    | .dns value => some value
    | _ => none

/-- The addresses among the subject alternative names. -/
def ipAddresses (names : List GeneralName) : List String :=
  names.filterMap fun n => match n with
    | .ip text => some text
    | _ => none

/-- `cert.extensions.get_extension_for_oid(SUBJECT_ALTERNATIVE_NAME)`. -/
def sanExtension (cert : Certificate) : Except PyExc (Option (List GeneralName)) :=
  cert.san.mapError X509Error.exc

/-- `_subject_alt_names`. -/
def subjectAltNames (cert : Certificate) : Except PyExc (List String) := do
  match ← sanExtension cert with
  | none => return []
  | some names => return dnsNames names ++ ipAddresses names

/-! ## Matching a hostname -/

/-- `_match_dns`. -/
def matchDns (hostname pattern : String) : Bool :=
  if pattern = hostname then
    true
  else match pattern.toList with
    | '*' :: '.' :: suffix => match hostname.toList.dropWhile (· != '.') with
      | [] => false
      | _ :: rest => rest = suffix
    | _ => false

/-- `s.rstrip(".")`. -/
def rstripDots (s : String) : String := String.ofList (s.toList.reverse.dropWhile (· == '.')).reverse

/-- `_hostname_matches`. -/
def hostnameMatches (rt : Runtime) (hostname : Json) (cert : Certificate) : Except PyExc Bool := do
  match hostname with
  | .str hostname => do
    let host := rstripDots (rt.lower hostname)
    let names ← sanExtension cert
    let sans := (dnsNames (names.getD [])).map rt.lower
    if sans.isEmpty then
      match firstAttr cert.subject .commonName with
      | some cn => return cn != "" && matchDns host (rt.lower cn)
      | none => return false
    else
      return sans.any fun pattern => matchDns host pattern
  | _ => .error .attributeError

/-! ## Algorithms -/

/-- `_signature_algorithm`. -/
def signatureAlgorithm (rt : Runtime) (cert : Certificate) : Except PyExc (Option String) :=
  match cert.signature_hash_algorithm with
  | .error _ => return none
  | .ok none => return none
  | .ok (some hash_alg) => do
    let pub ← cert.public_key.mapError X509Error.exc
    return some (match pub with
      | .rsa _ => rt.upper hash_alg ++ "withRSA"
      | .ec _ => rt.upper hash_alg ++ "withECDSA"
      | .ed25519 => "Ed25519"
      | .ed448 => "Ed448"
      | .dsa _ => rt.upper hash_alg ++ "withDSA"
      | .other => rt.upper hash_alg ++ "withUnknown")

/-- `_key_size`. -/
def keySize (cert : Certificate) : Except PyExc (Option Int) := do
  let pub ← cert.public_key.mapError X509Error.exc
  return match pub with
    | .rsa key_size => some key_size
    | .dsa key_size => some key_size
    | .ec curve_key_size => some curve_key_size
    | .ed25519 => some 256
    | .ed448 => some 448
    | .other => none

end CertWatch
