/-
# `CertWatch.AtomicWrites` — the two writers of the agent replace their file in one step.

`_atomic_write_json` and `save_credentials` are the same replacement over different calls.  A file is bytes here,
and what `json.dump` writes is a parameter; a prior state is any contents of the target and of a temporary file
that an earlier crash left behind.
-/
import CertWatch.AgentCredentials
import CertWatch.QueueSteps
import CertWatch.Lib.AtomicReplace

namespace CertWatch

open CertWatch.Lib

/-- `isinstance(e, FileNotFoundError)`. -/
def isFileNotFound : PyExc → Bool
  | .os ⟨.fileNotFound, _⟩ => true
  | _ => false

/-! ## The two writers -/

/-- The file calls of the queue. -/
def queueFiles : Embedding (fileSig String Dict) queueSig where
  op
    | .mkdir => .mkdir
    | .openTmp tmp => .openTmp tmp
    | .write tmp payload => .dump tmp payload
    | .sync tmp => .fsync tmp
    | .unlink tmp => .unlink tmp
    | .replace tmp name => .replace tmp name
    | .chmod name => .chmod name
  ret o := match o with
    | .mkdir | .openTmp _ | .write _ _ | .sync _ | .unlink _ | .replace _ _ | .chmod _ => Equiv.refl Unit

/-- `agent.json` and the file beside it. -/
inductive CredsFile where
  | agentJson
  | tmp
  deriving DecidableEq

/-- The file calls of the credentials; each of them is on one of the two files. -/
def credsFiles : Embedding (fileSig CredsFile Dict) credsSig where
  op
    | .mkdir => .mkdir
    | .openTmp _ => .openTmp
    | .write _ payload => .dump payload
    | .sync _ => .fsync
    | .unlink _ => .unlinkTmp
    | .replace _ _ => .replace
    | .chmod _ => .chmod
  ret o := match o with
    | .mkdir | .openTmp _ | .write _ _ | .sync _ | .unlink _ | .replace _ _ | .chmod _ => Equiv.refl Unit

/-- A file call of the queue. -/
def queueFileCall : FileOp String Dict → Queue Unit
  | .mkdir => queueCall .mkdir
  | .openTmp tmp => queueCall (.openTmp tmp)
  | .write tmp payload => queueCall (.dump tmp payload)
  | .sync tmp => queueCall (.fsync tmp)
  | .unlink tmp => queueCall (.unlink tmp)
  | .replace tmp name => queueCall (.replace tmp name)
  | .chmod name => queueCall (.chmod name)

/-- A file call of the credentials. -/
def credsFileCall : FileOp CredsFile Dict → Creds Unit
  | .mkdir => credsCall .mkdir
  | .openTmp _ => credsCall .openTmp
  | .write _ payload => credsCall (.dump payload)
  | .sync _ => credsCall .fsync
  | .unlink _ => credsCall .unlinkTmp
  | .replace _ _ => credsCall .replace
  | .chmod _ => credsCall .chmod

theorem embed_queueFiles (o : FileOp String Dict) : (callFile o).embed queueFiles = queueFileCall o := by
  cases o <;> exact congrArg (Prog.call _) (funext fun r => by cases r <;> rfl)

theorem embed_credsFiles (o : FileOp CredsFile Dict) : (callFile o).embed credsFiles = credsFileCall o := by
  cases o <;> exact congrArg (Prog.call _) (funext fun r => by cases r <;> rfl)

/-- `except FileNotFoundError: pass`, as a test of the exception. -/
theorem handler_eq {S : Sig} (e : PyExc) :
    (match e with
      | .os ⟨.fileNotFound, _⟩ => .ret ()
      | e => .raise e : Prog S PyExc Unit) = if isFileNotFound e then .ret () else .raise e := by
  cases e with
  | os e =>
    obtain ⟨kind, text⟩ := e
    cases kind <;> rfl
  | _ => rfl

theorem embed_handler {S T : Sig} (E : Embedding S T) (e : PyExc) :
    (if isFileNotFound e then .ret () else .raise e : Prog S PyExc Unit).embed E =
      match e with
      | .os ⟨.fileNotFound, _⟩ => .ret ()
      | e => .raise e := by
  rw [handler_eq]
  split_ifs <;> rfl

/-- `_atomic_write_json` is the replacement of a report file. -/
theorem atomicWriteJson_eq (path : String) (payload : Dict) :
    atomicWriteJson path payload = (replaceFile isFileNotFound (tmpFile path) path payload).embed queueFiles := by
  simp only [replaceFile, prepareSibling, fillSibling, Prog.embed_bind, Prog.embed_tryCatch, embed_queueFiles,
    embed_handler, Prog.bind_assoc]
  rfl

/-- `save_credentials` is the replacement of `agent.json`. -/
theorem saveCredentials_eq (agent_id agent_secret dashboard_url registered_at : Json) :
    saveCredentials agent_id agent_secret dashboard_url registered_at =
      (replaceFile isFileNotFound .tmp .agentJson
        (credentialsPayload agent_id agent_secret dashboard_url registered_at)).embed credsFiles := by
  simp only [replaceFile, prepareSibling, fillSibling, Prog.embed_bind, Prog.embed_tryCatch, embed_credsFiles,
    embed_handler, Prog.bind_assoc]
  rfl

/-! ## What the calls do -/

section

variable {Bytes : Type} (dump : Dict → Bytes) (empty : Bytes)

/-- What the queue's calls do to the directory of the reports; a file in `corrupt/` is not in it. -/
def queueEffects : Effects queueSig PyExc (String → Option Bytes) where
  completes
    | .openTmp tmp, d, r, d' => fileCompletes dump empty isFileNotFound (.openTmp tmp) d r d'
    | .dump tmp payload, d, r, d' => fileCompletes dump empty isFileNotFound (.write tmp payload) d r d'
    | .unlink name, d, r, d' => fileCompletes dump empty isFileNotFound (.unlink name) d r d'
    | .replace tmp name, d, r, d' => fileCompletes dump empty isFileNotFound (.replace tmp name) d r d'
    | .rename name _, d, r, d' => ((∃ e, r = .error e) ∧ d' = d) ∨ r = .ok () ∧ d' = Function.update d name none
    | _, d, _, d' => d' = d
  interrupted
    | .openTmp tmp, d, d' => ∃ content, d' = Function.update d tmp content
    | .dump tmp _, d, d' => ∃ content, d' = Function.update d tmp content
    | _, d, d' => d' = d

/-- What the calls of the credentials do to the two files. -/
def credsEffects : Effects credsSig PyExc (CredsFile → Option Bytes) where
  completes
    | .openTmp, d, r, d' => fileCompletes dump empty isFileNotFound (.openTmp .tmp) d r d'
    | .dump payload, d, r, d' => fileCompletes dump empty isFileNotFound (.write .tmp payload) d r d'
    | .unlinkTmp, d, r, d' => fileCompletes dump empty isFileNotFound (.unlink .tmp) d r d'
    | .replace, d, r, d' => fileCompletes dump empty isFileNotFound (.replace .tmp .agentJson) d r d'
    | _, d, _, d' => d' = d
  interrupted
    | .openTmp, d, d' => ∃ content, d' = Function.update d .tmp content
    | .dump _, d, d' => ∃ content, d' = Function.update d .tmp content
    | _, d, d' => d' = d

variable {dump empty}

theorem except_map_refl (r : Except PyExc Unit) : r.map (Equiv.refl Unit) = r := by
  cases r <;> rfl

theorem queueFiles_injective (o o' : FileOp String Dict) (h : queueFiles.op o = queueFiles.op o') : o = o' := by
  cases o <;> cases o' <;> cases h <;> rfl

/-- The queue's file calls do what file calls do. -/
theorem queueEffects_completes (o : FileOp String Dict) (d : String → Option Bytes) (r : Except PyExc Unit)
    (d' : String → Option Bytes)
    (h : (queueEffects dump empty).completes (queueFiles.op o) d (r.map (queueFiles.ret o)) d') :
    fileCompletes dump empty isFileNotFound o d r d' := by
  rw [← except_map_refl r]
  cases o <;> exact h

theorem queueEffects_interrupted (o : FileOp String Dict) (d d' : String → Option Bytes)
    (h : (queueEffects dump empty).interrupted (queueFiles.op o) d d') : fileInterrupted o d d' := by
  cases o <;> exact h

/-- The calls of one replacement of `agent.json`, with the names that they leave out. -/
theorem credsFiles_injective {payload : Dict} (o o' : FileOp CredsFile Dict)
    (ho : o.OfReplacement .tmp .agentJson payload) (ho' : o'.OfReplacement .tmp .agentJson payload)
    (h : credsFiles.op o = credsFiles.op o') : o = o' := by
  rcases ho.cases with rfl | rfl | rfl | rfl | rfl | rfl | rfl <;>
    rcases ho'.cases with rfl | rfl | rfl | rfl | rfl | rfl | rfl <;> first | rfl | cases h

theorem credsEffects_completes {payload : Dict} (o : FileOp CredsFile Dict)
    (ho : o.OfReplacement .tmp .agentJson payload) (d : CredsFile → Option Bytes) (r : Except PyExc Unit)
    (d' : CredsFile → Option Bytes)
    (h : (credsEffects dump empty).completes (credsFiles.op o) d (r.map (credsFiles.ret o)) d') :
    fileCompletes dump empty isFileNotFound o d r d' := by
  rw [← except_map_refl r]
  rcases ho.cases with rfl | rfl | rfl | rfl | rfl | rfl | rfl <;> exact h

theorem credsEffects_interrupted {payload : Dict} (o : FileOp CredsFile Dict)
    (ho : o.OfReplacement .tmp .agentJson payload) (d d' : CredsFile → Option Bytes)
    (h : (credsEffects dump empty).interrupted (credsFiles.op o) d d') : fileInterrupted o d d' := by
  rcases ho.cases with rfl | rfl | rfl | rfl | rfl | rfl | rfl <;> exact h

/-- What a run of a writer leaves of its target, from what was there, and of the temporary file. -/
structure WrittenAtomically (old new current left : Option Bytes) (replaced writeFailed unlinkFailed killed : Prop) :
    Prop where
  old_or_new : current = old ∨ current = new
  replaced_new : replaced → current = new
  new_replaced : old ≠ new → current = new → replaced
  cleaned : writeFailed → ¬ killed → left = none ∨ unlinkFailed

theorem writtenAtomically_of {old new current left : Option Bytes} {replaced writeFailed unlinkFailed killed : Prop}
    (hreplaced : replaced → current = new) (hkept : ¬ replaced → current = old)
    (hcleaned : writeFailed → ¬ killed → left = none ∨ unlinkFailed) :
    WrittenAtomically old new current left replaced writeFailed unlinkFailed killed where
  old_or_new := by
    by_cases h : replaced
    · exact .inr (hreplaced h)
    · exact .inl (hkept h)
  replaced_new := hreplaced
  new_replaced hne hnew := by
    by_contra h
    exact hne ((hkept h).symm.trans hnew)
  cleaned := hcleaned

/-- **Both writers are atomic**: the target holds what it held or the whole new document, the latter once the
renaming has completed, and a failed write leaves no temporary file. -/
theorem atomic_file_replacement :
    (∀ path payload d cs x d', (atomicWriteJson path payload).Runs (queueEffects dump empty) d cs x d' →
      WrittenAtomically (d path) (some (dump payload)) (d' path) (d' (tmpFile path))
        (⟨.replace (tmpFile path) path, .ok ()⟩ ∈ cs)
        (∃ e, ⟨.dump (tmpFile path) payload, .error e⟩ ∈ cs ∨ ⟨.fsync (tmpFile path), .error e⟩ ∈ cs)
        (∃ e, isFileNotFound e = false ∧ ⟨.unlink (tmpFile path), .error e⟩ ∈ cs) (x = .killed)) ∧
    ∀ agent_id agent_secret dashboard_url registered_at d cs x d',
      (saveCredentials agent_id agent_secret dashboard_url registered_at).Runs (credsEffects dump empty) d cs x d' →
      WrittenAtomically (d .agentJson)
        (some (dump (credentialsPayload agent_id agent_secret dashboard_url registered_at))) (d' .agentJson) (d' .tmp)
        (⟨.replace, .ok ()⟩ ∈ cs)
        (∃ e, ⟨.dump (credentialsPayload agent_id agent_secret dashboard_url registered_at), .error e⟩ ∈ cs ∨
          ⟨.fsync, .error e⟩ ∈ cs)
        (∃ e, isFileNotFound e = false ∧ ⟨.unlinkTmp, .error e⟩ ∈ cs) (x = .killed) := by
  constructor
  · intro path payload d cs x d' h
    rw [atomicWriteJson_eq] at h
    obtain ⟨hreplaced, hkept, hcleaned⟩ := replaceFile_embed_runs (ne_tmpFile path)
      (fun o o' _ _ => queueFiles_injective o o') (fun o _ => queueEffects_completes o)
      (fun o _ => queueEffects_interrupted o) h
    exact writtenAtomically_of hreplaced hkept hcleaned
  · intro agent_id agent_secret dashboard_url registered_at d cs x d' h
    rw [saveCredentials_eq] at h
    obtain ⟨hreplaced, hkept, hcleaned⟩ := replaceFile_embed_runs (nofun : CredsFile.agentJson ≠ .tmp)
      (fun o o' => credsFiles_injective o o') (fun o ho => credsEffects_completes o ho)
      (fun o ho => credsEffects_interrupted o ho) h
    exact writtenAtomically_of hreplaced hkept hcleaned

end

/-! ## A whole write, a crash and a failed write -/

/-- One byte for each field. -/
def fieldBytes (payload : Dict) : List UInt8 := payload.map fun _ => 1

/-- An old report beside what an earlier crash left. -/
def oldReport : String → Option (List UInt8) := fun n => if n = "r1.json" then some [3] else some [7, 7, 7]

def twoFields : Dict := [("report_id", .str "r1"), ("_attempts", .int 1)]

/-- The new report in the temporary file, and in its place. -/
def filledReport : String → Option (List UInt8) :=
  Function.update (Function.update oldReport (tmpFile "r1.json") (some [])) (tmpFile "r1.json") (some [1, 1])

def newReport : String → Option (List UInt8) :=
  Function.update (Function.update filledReport (tmpFile "r1.json") none) "r1.json" (some [1, 1])

/-- The new report is written. -/
theorem whole_run : (atomicWriteJson "r1.json" twoFields).Runs (queueEffects fieldBytes []) oldReport
    [⟨.mkdir, .ok ()⟩, ⟨.openTmp (tmpFile "r1.json"), .ok ()⟩, ⟨.dump (tmpFile "r1.json") twoFields, .ok ()⟩,
      ⟨.fsync (tmpFile "r1.json"), .ok ()⟩, ⟨.replace (tmpFile "r1.json") "r1.json", .ok ()⟩,
      ⟨.chmod "r1.json", .ok ()⟩]
    (.finished (.ok ())) newReport := by
  have hmkdir : (queueEffects fieldBytes []).completes .mkdir oldReport (.ok ()) oldReport := rfl
  have hopen : (queueEffects fieldBytes []).completes (.openTmp (tmpFile "r1.json")) oldReport (.ok ())
      (Function.update oldReport (tmpFile "r1.json") (some [])) := .inr ⟨rfl, rfl⟩
  have hdump : (queueEffects fieldBytes []).completes (.dump (tmpFile "r1.json") twoFields)
      (Function.update oldReport (tmpFile "r1.json") (some [])) (.ok ()) filledReport := .inr ⟨rfl, rfl⟩
  have hreplace : (queueEffects fieldBytes []).completes (.replace (tmpFile "r1.json") "r1.json") filledReport (.ok ())
      newReport := .inr ⟨rfl, _, Function.update_self _ _ _, rfl⟩
  exact .call hmkdir (.call hopen (.call hdump (.call rfl (.call hreplace (.call rfl (.ret _ _))))))

/-- The new report, written half-way. -/
def tornReport : String → Option (List UInt8) :=
  Function.update (Function.update oldReport (tmpFile "r1.json") (some [])) (tmpFile "r1.json") (some [1])

/-- The process dies in the middle of writing the new report. -/
theorem killed_run : (atomicWriteJson "r1.json" twoFields).Runs (queueEffects fieldBytes []) oldReport
    [⟨.mkdir, .ok ()⟩, ⟨.openTmp (tmpFile "r1.json"), .ok ()⟩] .killed tornReport := by
  have hmkdir : (queueEffects fieldBytes []).completes .mkdir oldReport (.ok ()) oldReport := rfl
  have hopen : (queueEffects fieldBytes []).completes (.openTmp (tmpFile "r1.json")) oldReport (.ok ())
      (Function.update oldReport (tmpFile "r1.json") (some [])) := .inr ⟨rfl, rfl⟩
  have hdump : (queueEffects fieldBytes []).interrupted (.dump (tmpFile "r1.json") twoFields)
      (Function.update oldReport (tmpFile "r1.json") (some [])) tornReport := ⟨some [1], rfl⟩
  exact .call hmkdir (.call hopen (.interrupted hdump))

/-- A first `agent.json`. -/
def firstCredentials : Dict := credentialsPayload (.str "a1") (.str "s1") (.str "https://d") (.str "t")

/-- No file, an empty temporary one, and one written half-way. -/
def noCredentials : CredsFile → Option (List UInt8) := fun _ => none

def emptyTmp : CredsFile → Option (List UInt8) := Function.update noCredentials .tmp (some [])

def tornTmp : CredsFile → Option (List UInt8) := Function.update emptyTmp .tmp (some [1, 1])

/-- The first write of `agent.json` fails half-way. -/
theorem failed_run : (saveCredentials (.str "a1") (.str "s1") (.str "https://d") (.str "t")).Runs
    (credsEffects fieldBytes []) noCredentials
    [⟨.mkdir, .ok ()⟩, ⟨.openTmp, .ok ()⟩, ⟨.dump firstCredentials, .error .typeError⟩, ⟨.unlinkTmp, .ok ()⟩]
    (.finished (.error .typeError)) (Function.update tornTmp .tmp none) := by
  have hmkdir : (credsEffects fieldBytes []).completes .mkdir noCredentials (.ok ()) noCredentials := rfl
  have hopen : (credsEffects fieldBytes []).completes .openTmp noCredentials (.ok ()) emptyTmp := .inr ⟨rfl, rfl⟩
  have hdump : (credsEffects fieldBytes []).completes (.dump firstCredentials) emptyTmp (.error .typeError) tornTmp :=
    .inl ⟨⟨_, rfl⟩, some [1, 1], rfl⟩
  have hunlink : (credsEffects fieldBytes []).completes .unlinkTmp tornTmp (.ok ())
      (Function.update tornTmp .tmp none) := .inr ⟨rfl, rfl⟩
  exact .call hmkdir (.call hopen (.call hdump (.call hunlink (.raise _ _))))

/-- The new report is there; after the crash the old one is, or would be the new one; and nothing is left beside
`agent.json`. -/
theorem atomic_file_replacement_faults :
    newReport "r1.json" = some [1, 1] ∧ (tornReport "r1.json" = some [3] ∨ tornReport "r1.json" = some [1, 1]) ∧
      Function.update tornTmp .tmp none .tmp = none := by
  refine ⟨(atomic_file_replacement.1 _ _ _ _ _ _ whole_run).replaced_new (by simp),
    (atomic_file_replacement.1 _ _ _ _ _ _ killed_run).old_or_new, ?_⟩
  refine ((atomic_file_replacement.2 _ _ _ _ _ _ _ _ failed_run).cleaned ⟨.typeError, .inl ?_⟩ nofun).resolve_right ?_
  · exact List.mem_cons_of_mem _ (List.mem_cons_of_mem _ List.mem_cons_self)
  · rintro ⟨e, -, hmem⟩
    simp at hmem

end CertWatch
