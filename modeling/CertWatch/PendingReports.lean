/-
# `CertWatch.PendingReports` — the on-disk queue, call by call.

`pending_reports.py` as programs over the calls it makes: every file operation is one call, so a process
can stop between any two of them.  A file is named by its name inside `<data_dir>/pending_reports/`; a
path of the source is that name.  Texts that are only logged are left out, and so is the key order of
`json.dump(..., sort_keys=True)`: no code reads it, and dictionaries compare without it.
-/
import CertWatch.Exceptions
import CertWatch.DashboardClient
import CertWatch.Lib.Trace
import Mathlib.Data.List.Sort

namespace CertWatch

open CertWatch.Lib

/-! ## The calls -/

/-- Who reads a pending-report file: the scan of the replay loop, or `increment_attempts`. -/
inductive ReadSite where
  | scan
  | increment
  deriving DecidableEq, Repr

/-- The body of `submit_report`. -/
structure ReportBody where
  report_id : Json
  report_type : Json
  started_at : Json
  completed_at : Json
  action_id : Json
  checks : Json
  deriving DecidableEq, Repr

/-- What the queue asks of its surroundings: the file system, the clocks, the shutdown event and the
dashboard.  `submit` carries the name of the file it is made for; only the body is sent. -/
inductive QueueOp where
  | now
  | utcNowIso
  | mkdir
  | mkdirCorrupt
  | openTmp (tmp : String)
  /-- `json.dump` and `flush` into the open temporary file. -/
  | dump (tmp : String) (payload : Dict)
  | fsync (tmp : String)
  | unlink (name : String)
  | replace (tmp name : String)
  | chmod (name : String)
  /-- `open` and `json.load`. -/
  | read (site : ReadSite) (name : String)
  /-- `exists()` and `iterdir()`, the plain files only; a missing directory has none. -/
  | iterdir
  | statMtime (name : String)
  | rename (name target : String)
  | submit (path : String) (body : ReportBody)
  | isSet
  | waitFor (seconds : Rat)
  | sleep (seconds : Rat)
  deriving DecidableEq

/-- What each call returns. -/
abbrev QueueOp.Ret : QueueOp → Type
  | .now => Rat
  | .utcNowIso => String
  | .read _ _ => Json
  | .iterdir => List String
  | .statMtime _ => Nat
  | .submit _ _ => HttpResponse
  | .isSet => Bool
  | .waitFor _ => Bool
  | _ => Unit

abbrev queueSig : Sig := ⟨QueueOp, QueueOp.Ret⟩

/-- Programs over the queue's calls. -/
abbrev Queue (α : Type) := Prog queueSig PyExc α

/-- Perform one of the queue's calls. -/
abbrev queueCall (o : QueueOp) : Queue o.Ret := Prog.perform (S := queueSig) o

/-! ## The functions -/

/-- `_WIRE_FIELDS`. -/
def wireFields : List String :=
  ["report_id", "report_type", "started_at", "completed_at", "action_id", "checks"]

/-- `wire_payload`. -/
def wirePayload (persisted : Dict) : Dict := persisted.restrict wireFields

/-- The file name of a report. -/
def reportFile (report_id : String) : String := report_id ++ ".json"

/-- The temporary file beside a file. -/
def tmpFile (name : String) : String := name ++ ".tmp"

/-- `except FileNotFoundError: pass` around a call. -/
def ignoreMissing (p : Queue Unit) : Queue Unit :=
  p.tryCatch fun e => match e with
    | .os ⟨.fileNotFound, _⟩ => .ret ()
    | e => .raise e

/-- The `try` block of `_atomic_write_json`: fill the temporary file, or unlink it and re-raise. -/
def fillTmp (tmp : String) (payload : Dict) : Queue Unit :=
  let write : Queue Unit := do
    queueCall (.dump tmp payload)
    queueCall (.fsync tmp)
  write.tryCatch fun e => do
    ignoreMissing (queueCall (.unlink tmp))
    .raise e

/-- `_atomic_write_json`. -/
def atomicWriteJson (path : String) (payload : Dict) : Queue Unit := do
  queueCall .mkdir
  queueCall (.openTmp (tmpFile path))
  fillTmp (tmpFile path) payload
  queueCall (.replace (tmpFile path) path)
  queueCall (.chmod path)

/-- What `save_pending_report` writes: the payload and the two metadata fields. -/
def persistedRecord (payload : Dict) (persisted_at : String) : Dict :=
  (payload.set "_persisted_at" (.str persisted_at)).set "_attempts" (.int 0)

/-- A record as `save_pending_report` and `increment_attempts` write it: the six wire fields and the two
metadata fields, each of its type. -/
def wellFormed (d : Dict) : Bool :=
  (["report_id", "report_type", "started_at", "completed_at", "_persisted_at"].all fun k =>
    (Dict.getD d k .null).isStr) &&
  (match d.get? "action_id" with
    | some v => v.isStr || v == .null
    | none => false) &&
  (Dict.getD d "checks" .null).isArr && (Dict.getD d "_attempts" .null).isInt

/-- `save_pending_report`. -/
def savePendingReport (report_id : String) (payload : Dict) : Queue String := do
  let persisted_at ← queueCall .utcNowIso
  queueCall .mkdir
  atomicWriteJson (reportFile report_id) (persistedRecord payload persisted_at)
  return reportFile report_id

/-- `load_pending_report`. -/
def loadPendingReport (site : ReadSite) (path : String) : Queue Dict := do
  let data ← (queueCall (.read site path)).tryCatch fun e => match e with
    | .jsonDecode => .raise (.pendingReportCorrupt .notJson)
    | .os e => .raise (.pendingReportCorrupt (.unreadable e))
    | e => .raise e
  match data with
  | .obj d => return d
  | _ => .raise (.pendingReportCorrupt .notObject)

/-- `increment_attempts`. -/
def incrementAttempts (path : String) : Queue Int := do
  let data ← loadPendingReport .increment path
  let old ← .ofExcept (Dict.getD data "_attempts" (.int 0)).toInt
  atomicWriteJson path (data.set "_attempts" (.int (old + 1)))
  return old + 1

/-- `delete_pending_report`. -/
def deletePendingReport (path : String) : Queue Unit :=
  ignoreMissing (queueCall (.unlink path))

/-- The sort keys of `list_pending_report_paths`: each file with its mtime. -/
def statAll : List String → Queue (List (String × Nat))
  | [] => return []
  | n :: ns => do
    let mtime ← queueCall (.statMtime n)
    let rest ← statAll ns
    return (n, mtime) :: rest

/-- Oldest first; files of one mtime stay in directory order. -/
def sortByMtime (keyed : List (String × Nat)) : List String :=
  (keyed.insertionSort fun a b => a.2 ≤ b.2).map Prod.fst

/-- `list_pending_report_paths`. -/
def listPendingReportPaths : Queue (List String) := do
  let entries ← queueCall .iterdir
  let keyed ← statAll (entries.filter fun n => suffix n = ".json".toList)
  return sortByMtime keyed

/-- Unlink each entry and report those that were still there. -/
def unlinkAll : List String → Queue (List String)
  | [] => return []
  | n :: ns => do
    let unlinked : Queue Bool := do
      queueCall (.unlink n)
      return true
    let deleted ← unlinked.tryCatch fun e => match e with
      | .os ⟨.fileNotFound, _⟩ => return false
      | e => .raise e
    let rest ← unlinkAll ns
    return if deleted then n :: rest else rest

/-- `cleanup_stray_tmp_files`. -/
def cleanupStrayTmpFiles : Queue (List String) := do
  let entries ← queueCall .iterdir
  unlinkAll (entries.filter fun n => suffix n = ".tmp".toList)

/-- `re.sub(r"[^0-9TZ]", "", now)`. -/
def filenameTimestamp (now : String) : String :=
  String.ofList (now.toList.filter fun c => c.isDigit || c == 'T' || c == 'Z')

/-- `quarantine_corrupt`. -/
def quarantineCorrupt (path : String) : Queue String := do
  queueCall .mkdirCorrupt
  let now ← queueCall .utcNowIso
  let target := path ++ "." ++ filenameTimestamp now
  queueCall (.rename path target)
  return target

/-! ## Names and records -/

theorem reportFile_injective {a b : String} (h : reportFile a = reportFile b) : a = b :=
  String.append_left_inj ".json" |>.mp h

theorem tmpFile_injective {a b : String} (h : tmpFile a = tmpFile b) : a = b :=
  String.append_left_inj ".tmp" |>.mp h

/-- A temporary file is never a pending report. -/
theorem suffix_tmpFile {name : String} (h : name ≠ "") : suffix (tmpFile name) = ".tmp".toList :=
  suffix_append h (by decide : ['t', 'm', 'p'] ≠ []) (by decide)

theorem suffix_reportFile {report_id : String} (h : report_id ≠ "") :
    suffix (reportFile report_id) = ".json".toList :=
  suffix_append h (by decide : ['j', 's', 'o', 'n'] ≠ []) (by decide)

/-- The metadata fields are not wire fields, so neither writing them nor rewriting the counter moves
the wire payload. -/
theorem wirePayload_set {d : Dict} {k : String} (v : Json) (hk : k ∉ wireFields) :
    wirePayload (d.set k v) = wirePayload d := by
  unfold wirePayload
  generalize hw : wireFields = ks at hk
  clear hw
  induction ks with
  | nil => rfl
  | cons j ks ih =>
    rw [List.mem_cons, not_or] at hk
    rw [Dict.restrict, Dict.restrict, Dict.get?_set_ne _ _ (Ne.symm hk.1), ih hk.2]

theorem wirePayload_persistedRecord (payload : Dict) (persisted_at : String) :
    wirePayload (persistedRecord payload persisted_at) = wirePayload payload := by
  rw [persistedRecord, wirePayload_set _ (by decide), wirePayload_set _ (by decide)]

/-- Rewriting the counter keeps a record well-formed. -/
theorem wellFormed_recount {d : Dict} (n : Int) (h : wellFormed d = true) :
    wellFormed (d.set "_attempts" (.int n)) = true := by
  have hother : ∀ k, k ≠ "_attempts" → (d.set "_attempts" (.int n)).get? k = d.get? k :=
    fun k hk => Dict.get?_set_ne d (.int n) hk
  simp only [wellFormed, List.all_cons, List.all_nil, Dict.getD, Bool.and_eq_true] at h ⊢
  simp only [hother "report_id" (by decide), hother "report_type" (by decide),
    hother "started_at" (by decide), hother "completed_at" (by decide),
    hother "_persisted_at" (by decide), hother "action_id" (by decide), hother "checks" (by decide),
    Dict.get?_set_self]
  exact ⟨h.1, rfl⟩

/-! ## File operations -/

/-- Reading and writing files, which neither the count of the calls nor the dashboard bears on. -/
def QueueOp.isFileCall : QueueOp → Bool
  | .now | .utcNowIso | .submit _ _ | .isSet | .waitFor _ | .sleep _ => false
  | _ => true

/-- The program does nothing but read and write files, and comes to an end. -/
abbrev FileCalls {α : Type} (p : Queue α) : Prop := p.Finishes fun o : QueueOp => o.isFileCall = true

theorem fileCall {o : QueueOp} (h : o.isFileCall = true) : FileCalls (queueCall o) := Prog.finishes_perform h

theorem fileCalls_ignoreMissing {p : Queue Unit} (h : FileCalls p) : FileCalls (ignoreMissing p) := by
  refine h.tryCatch fun e => ?_
  split <;> trivial

theorem fileCalls_atomicWriteJson (path : String) (payload : Dict) : FileCalls (atomicWriteJson path payload) := by
  have hfill : FileCalls (fillTmp (tmpFile path) payload) := by
    refine ((fileCall rfl).bind fun _ => fileCall rfl).tryCatch fun e => ?_
    exact (fileCalls_ignoreMissing (fileCall rfl)).bind fun _ => trivial
  exact (fileCall rfl).bind fun _ => (fileCall rfl).bind fun _ => hfill.bind fun _ =>
    (fileCall rfl).bind fun _ => fileCall rfl

theorem fileCalls_loadPendingReport (site : ReadSite) (path : String) : FileCalls (loadPendingReport site path) := by
  refine Prog.Finishes.bind ((fileCall rfl).tryCatch fun e => ?_) fun data => ?_
  · split <;> trivial
  · cases data <;> trivial

theorem fileCalls_incrementAttempts (path : String) : FileCalls (incrementAttempts path) :=
  (fileCalls_loadPendingReport _ _).bind fun _ => (Prog.finishes_ofExcept _).bind fun _ =>
    (fileCalls_atomicWriteJson _ _).bind fun _ => trivial

theorem fileCalls_deletePendingReport (path : String) : FileCalls (deletePendingReport path) :=
  fileCalls_ignoreMissing (fileCall rfl)

end CertWatch
