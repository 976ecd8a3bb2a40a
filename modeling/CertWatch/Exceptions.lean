/-
# `CertWatch.Exceptions` — the exception classes the agent meets, and the Python idioms that raise them.

One type holds every exception that can travel through the modelled code: Python's own classes, the
dashboard client's hierarchy and the per-module classes.  All of them are subclasses of `Exception`, so
`except Exception` catches each.
-/
import CertWatch.Python

namespace CertWatch

/-! ## `OSError` and its subclasses -/

/-- The subclass of `OSError` that was raised. -/
inductive OSErrorKind where
  | fileNotFound
  | connectionRefused
  | timeout
  | gaierror
  /-- `ssl.SSLError`, or a subclass other than a verification failure, by name. -/
  | ssl (class_name : String)
  /-- `ssl.SSLCertVerificationError`, with its `verify_code` and `verify_message` attributes. -/
  | sslCertVerification (verify_code : Option Int) (verify_message : Option String)
  /-- `OSError` itself or another subclass, by name. -/
  | other (class_name : String)
  deriving DecidableEq, Repr

/-- `type(e).__name__`. -/
def OSErrorKind.className : OSErrorKind → String
  | .fileNotFound => "FileNotFoundError"
  | .connectionRefused => "ConnectionRefusedError"
  | .timeout => "TimeoutError"
  | .gaierror => "gaierror"
  | .ssl class_name => class_name
  | .sslCertVerification _ _ => "SSLCertVerificationError"
  | .other class_name => class_name

/-- `ssl.SSLError` or a subclass. -/
def OSErrorKind.isSSLError : OSErrorKind → Bool
  | .ssl _ => true
  | .sslCertVerification _ _ => true
  | _ => false

/-- An `OSError` with its text `str(e)`. -/
structure OSError where
  kind : OSErrorKind
  text : String
  deriving DecidableEq, Repr

/-- `f"{type(e).__name__}: {e}"`. -/
def OSError.describe (e : OSError) : String := e.kind.className ++ ": " ++ e.text

/-! ## The dashboard client's hierarchy -/

/-- The concrete class of a `DashboardError`. -/
inductive DashboardErrorKind where
  | auth
  | notFound
  | validation
  | conflict
  | payloadTooLarge
  | server
  | network
  | rateLimit
  /-- `DashboardError` itself. -/
  | base
  deriving DecidableEq, Repr

/-- Subclass of `DashboardRetriableError`. -/
def DashboardErrorKind.isRetriable : DashboardErrorKind → Bool
  | .server => true
  | .network => true
  | .rateLimit => true
  | _ => false

/-- A dashboard error with the envelope fields the server provided; the envelope is whatever JSON the
server sent, so its fields are arbitrary documents.  `body` is the conflict error's parsed body. -/
structure DashboardError where
  kind : DashboardErrorKind
  message : Json
  code : Json := .null
  request_id : Json := .null
  status_code : Option Nat := none
  body : Json := .null
  deriving DecidableEq, Repr

/-! ## All exceptions -/

/-- Why a pending-report file counts as corrupt. -/
inductive CorruptCause where
  | notJson
  | unreadable (e : OSError)
  | notObject
  deriving DecidableEq, Repr

/-- An exception in flight. -/
inductive PyExc where
  | os (e : OSError)
  /-- `json.JSONDecodeError`. -/
  | jsonDecode
  /-- `UnicodeDecodeError`, a `ValueError` that is neither a `JSONDecodeError` nor an `OSError`. -/
  | unicodeDecode
  /-- `UnicodeError` other than a decoding error. -/
  | unicode
  | valueError (text : String)
  | typeError
  | keyError (k : String)
  | attributeError
  | overflowError
  /-- Any exception of the `requests` package. -/
  | requests
  | dashboard (e : DashboardError)
  | pendingReportCorrupt (cause : CorruptCause)
  /-- `NetBoxSyncError` around the error it was raised from. -/
  | netBoxSync (original_error : PyExc)
  /-- Any other exception class, by name. -/
  | other (name : String)
  deriving DecidableEq, Repr

/-- `isinstance(e, OSError)`. -/
def PyExc.isOSError : PyExc → Bool
  | .os _ => true
  | _ => false

/-- What converting an integer of too many digits from or to a text raises. -/
def overlongInt : PyExc := .valueError "Exceeds the limit (4300 digits) for integer string conversion"

/-! ## Idioms that raise -/

/-- `x.get(k)` with `None` for an absent key; only dicts have the attribute. -/
def Json.get (x : Json) (k : String) : Except PyExc Json :=
  match x with
  | .obj d => .ok (Dict.getD d k .null)
  | _ => .error .attributeError

/-- `x.get(k, default)`. -/
def Json.getOr (x : Json) (k : String) (dflt : Json) : Except PyExc Json :=
  match x with
  | .obj d => .ok (Dict.getD d k dflt)
  | _ => .error .attributeError

/-- The items that `for` visits in `x`: those of a list, the keys of a dict, the characters of a string. -/
def Json.iterate : Json → Except PyExc (List Json)
  | .arr xs => .ok xs
  | .obj d => .ok (d.map fun kv => .str kv.1)
  | .str s => .ok (s.toList.map fun c => .str (String.singleton c))
  | _ => .error .typeError

/-- `d[k]`. -/
def Dict.getItem (d : Dict) (k : String) : Except PyExc Json :=
  match d.get? k with
  | some v => .ok v
  | none => .error (.keyError k)

/-- `int(x)`. -/
def Json.toInt : Json → Except PyExc Int
  | .bool b => .ok (if b then 1 else 0)
  | .int n => .ok n
  | .float (.finite q) => .ok (Int.tdiv q.num q.den)
  | .float .nan => .error (.valueError "cannot convert float NaN to integer")
  | .float _ => .error .overflowError
  | .str s => match intOfText s with
    | some n => .ok n
    | none => .error (.valueError "invalid literal for int() with base 10")
  | .null => .error .typeError
  | .arr _ => .error .typeError
  | .obj _ => .error .typeError

/-- `len(x)`. -/
def Json.len : Json → Except PyExc Nat
  | .str s => .ok s.length
  | .arr xs => .ok xs.length
  | .obj d => .ok d.length
  | _ => .error .typeError

/-- `x < s` for a string `s`: strings compare by code points, anything else raises. -/
def Json.ltStr (x : Json) (s : String) : Except PyExc Bool :=
  match x with
  | .str t => .ok (decide (t < s))
  | _ => .error .typeError

@[simp] theorem Json.get_obj (d : Dict) (k : String) :
    (Json.obj d).get k = .ok (Dict.getD d k .null) := rfl

theorem Dict.getItem_of_get? {d : Dict} {k : String} {v : Json} (h : d.get? k = some v) :
    d.getItem k = .ok v := by
  rw [Dict.getItem, h]

end CertWatch
