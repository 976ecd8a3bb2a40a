/-
# `CertWatch.CheckLoop` — the loop of the local mode.

`check_loop.py` over the calls that its main thread and its tasks make.  The loop is written with a bound on the
number of cycles; a loop that comes to its bound while it may go on hangs.
-/
import CertWatch.Agent
import CertWatch.LocalConfig
import CertWatch.Lib.Executor

namespace CertWatch

open CertWatch.Lib

/-! ## Log lines -/

/-- `d.update(e)`. -/
def Dict.update (d e : Dict) : Dict := e.foldl (fun d kv => d.set kv.1 kv.2) d

/-- `d.pop(k, None)`. -/
def Dict.drop (d : Dict) (k : String) : Dict := d.filter fun kv => kv.1 ≠ k

/-- `dataclasses.asdict(r)`. -/
def CertResult.asdict (r : CertResult) : Dict :=
  [("state", .str r.state.text), ("hostname", r.hostname), ("port", .int r.port), ("checked_at", .str r.checked_at),
    ("error_message", .ofOptStr r.error_message), ("subject_cn", .ofOptStr r.subject_cn),
    ("subject_sans", .arr (r.subject_sans.map .str)), ("issuer_cn", .ofOptStr r.issuer_cn),
    ("issuer_o", .ofOptStr r.issuer_o), ("issuer_full_dn", .ofOptStr r.issuer_full_dn),
    ("ca_category", .ofOptStr (r.ca_category.map CaCategory.text)), ("is_self_signed", .ofOptBool r.is_self_signed),
    ("not_before", .ofOptStr r.not_before), ("not_after", .ofOptStr r.not_after),
    ("days_until_expiry", .ofOptInt r.days_until_expiry), ("signature_algorithm", .ofOptStr r.signature_algorithm),
    ("key_size", .ofOptInt r.key_size), ("hostname_matches", .ofOptBool r.hostname_matches),
    ("chain_trusted_by_system", .ofOptBool r.chain_trusted_by_system),
    ("chain_error_reason", .ofOptStr r.chain_error_reason)]

/-- `host.display_name or host.hostname`. -/
def HostConfig.shownName (host : HostConfig) : String :=
  match host.display_name with
  | some name => if name = "" then host.hostname else name
  | none => host.hostname

/-- `_result_log_payload`. -/
def resultLogPayload (r : CertResult) (host : HostConfig) (include_sans : Bool) : Dict :=
  let payload : Dict := [("event", .str "cert_check_result"), ("display_name", .str host.shownName),
    ("tags", .arr (host.tags.map .str))]
  let payload := payload.update r.asdict
  let payload := payload.set "subject_san_count" (.int r.subject_sans.length)
  if include_sans then payload else payload.drop "subject_sans"

/-- `_summary_counts`. -/
def summaryCounts (results : List CertResult) (state : ResultState) : Nat := results.countP fun r => r.state = state

def loopStarting (config : AgentConfig) : Dict :=
  [("event", .str "loop_starting"), ("host_count", .int config.hosts.length),
    ("sweep_interval_seconds", .int config.sweep_interval_seconds), ("max_concurrency", .int config.max_concurrency)]

def loopStopped : Dict := [("event", .str "loop_stopped")]

def cycleStart (config : AgentConfig) : Dict :=
  [("event", .str "cycle_start"), ("host_count", .int config.hosts.length)]

def cycleAborted (skipped completed : Nat) : Dict :=
  [("event", .str "cycle_aborted"), ("skipped_hosts", .int skipped), ("completed_hosts", .int completed)]

def cycleSummary (results : List CertResult) (duration_s : PyFloat) : Dict :=
  [("event", .str "cycle_summary"), ("total", .int results.length), ("success", .int (summaryCounts results .success)),
    ("connection_failed", .int (summaryCounts results .connectionFailed)),
    ("tls_failed", .int (summaryCounts results .tlsFailed)), ("duration_seconds", .float duration_s)]

def unhandledError (host : HostConfig) (error : String) : Dict :=
  [("event", .str "cert_check_unhandled_error"), ("hostname", .str host.hostname), ("port", .int host.port),
    ("error", .str error)]

/-! ## The tasks -/

/-- What a task does: its look at the stop signal and the calls of its check, and a line about a check that raised. -/
inductive LocalTaskOp where
  | check (o : CheckOp)
  | log (entry : Dict)

/-- What each call returns. -/
abbrev LocalTaskOp.Ret : LocalTaskOp → Type
  | .check o => o.Ret
  | .log _ => Unit

abbrev localTaskSig : Sig := ⟨LocalTaskOp, LocalTaskOp.Ret⟩

/-- Programs over the calls of a task. -/
abbrev LocalTask (α : Type) := Prog localTaskSig PyExc α

abbrev localTaskCall (o : LocalTaskOp) : LocalTask o.Ret := Prog.perform (S := localTaskSig) o

/-- The calls of a check among those of a task. -/
def checkCalls : Embedding checkSig localTaskSig where
  op := .check
  ret _ := Equiv.refl _

/-- What a host that was checked yields: the host and its result. -/
abbrev LocalOutcome := Option (HostConfig × CertResult)

section

variable (rt : Runtime) (repr : PyExc → String) (config : AgentConfig)

/-- `check_fn`, on a host, with the timeouts of the config. -/
def checkLocalHost (host : HostConfig) : Check CertResult :=
  certCheck rt (.str host.hostname) host.port config.tcp_connect_seconds config.tls_handshake_seconds

/-- What `task` does with what the check ended with. -/
def afterCheck (host : HostConfig) : Except PyExc CertResult → LocalTask LocalOutcome
  | .ok r => return some (host, r)
  | .error e => do
    localTaskCall (.log (unhandledError host (repr e)))
    return none

/-- What `task` does after its look at the stop signal. -/
def afterLocalLook (host : HostConfig) (signaled : Bool) : LocalTask LocalOutcome :=
  if signaled then
    return none
  else do
    let outcome ← ((checkLocalHost rt config host).embed checkCalls).attempt
    afterCheck repr host outcome

/-- `task` of `run_cycle`. -/
def localTask (host : HostConfig) : LocalTask LocalOutcome := do
  let signaled ← localTaskCall (.check .isSet)
  afterLocalLook rt repr config host signaled

end

/-! ## The loop -/

/-- What the main thread does beside its executor. -/
inductive LoopOp where
  /-- `stop.is_set`. -/
  | isSet
  /-- `stop.wait(timeout)`. -/
  | wait (timeout : Int)
  | monotonic
  | log (entry : Dict)

/-- What each call returns. -/
abbrev LoopOp.Ret : LoopOp → Type
  | .isSet => Bool
  | .wait _ => Bool
  | .monotonic => Rat
  | .log _ => Unit

abbrev loopSig : Sig := ⟨LoopOp, LoopOp.Ret⟩

abbrev loopClientSig : Sig := clientSig loopSig HostConfig LocalOutcome

/-- Programs over the calls of the main thread. -/
abbrev Loop (α : Type) := Prog loopClientSig PyExc α

abbrev loopCall (o : LoopOp) : Loop o.Ret := Prog.perform (S := loopClientSig) (.own o)

abbrev executorCall (o : ClientOp loopSig HostConfig) : Loop (o.Ret LocalOutcome) := Prog.perform (S := loopClientSig) o

section

variable (config : AgentConfig) (debug : Bool) (round3 : Rat → PyFloat)

/-- The body of `for fut in as_completed(futures)`: the results and the count of skipped hosts so far.  `debug` says
whether the logger is enabled for `DEBUG`. -/
def recordResult : List CertResult × Nat → LocalOutcome → Loop (List CertResult × Nat)
  | (results, skipped), none => return (results, skipped + 1)
  | (results, skipped), some (host, r) => do
    loopCall (.log (resultLogPayload r host debug))
    return (results ++ [r], skipped)

/-- `if skipped: log.info(...)`. -/
def logAborted (skipped completed : Nat) : Loop Unit :=
  if skipped = 0 then return () else loopCall (.log (cycleAborted skipped completed))

/-- `run_cycle`; `round3` is `round(x, 3)` of a float. -/
def runCycle : Loop (List CertResult) := do
  let started ← loopCall .monotonic
  loopCall (.log (cycleStart config))
  if config.max_concurrency ≤ 0 then
    .raise (.valueError "max_workers must be greater than 0")
  else do
    executorCall (.create config.max_concurrency.toNat)
    submitAll config.hosts
    let (results, skipped) ← forEachCompleted (recordResult debug) config.hosts.length ([], 0)
    executorCall .shutdown
    let ended ← loopCall .monotonic
    logAborted skipped results.length
    loopCall (.log (cycleSummary results (round3 (ended - started))))
    return results

/-- What the loop does while its condition holds, before it is tested again. -/
def loopBody (again : Loop Unit) : Loop Unit := do
  let _ ← runCycle config debug round3
  let signaled ← loopCall .isSet
  if signaled then
    return ()
  else do
    let signaled ← loopCall (.wait config.sweep_interval_seconds)
    if signaled then return () else again

/-- `while not stop.is_set`, for so many cycles. -/
def loopCycles : Nat → Loop Unit
  | 0 => do
    let signaled ← loopCall .isSet
    if signaled then return () else .hang
  | fuel + 1 => do
    let signaled ← loopCall .isSet
    if signaled then return () else loopBody config debug round3 (loopCycles fuel)

/-- `run_loop`. -/
def runLoop (fuel : Nat) : Loop Unit := do
  loopCall (.log (loopStarting config))
  loopCycles config debug round3 fuel
  loopCall (.log loopStopped)

end

end CertWatch
