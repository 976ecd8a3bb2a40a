/-
# `CertWatch.QueueWorld` — the directory, the dashboard's answers, and what each call may do to them.

A file is what `open` and `json.load` make of its bytes, with the time of its last write.  `exec` says
which outcomes a call may have: a write-side operation may fail and then changed nothing (a failed
`json.dump` leaves anything in the temporary file), a request may be lost before it arrives or its
response after it, the dashboard may answer any status with any body.  `handle` is one deterministic
choice among them, scripted by the dashboard's replies and the reads that fail.
-/
import CertWatch.ReportSubmission
import CertWatch.Clock
import Mathlib.Data.List.AList

namespace CertWatch

open CertWatch.Lib

/-! ## Worlds -/

/-- Why `json.load` raises what is neither a `JSONDecodeError` nor an `OSError`. -/
inductive LoadRefusal where
  /-- The bytes are not UTF-8. -/
  | undecodable
  /-- An integer has too many digits. -/
  | overlongInt
  /-- The document is nested beyond the recursion limit of the interpreter. -/
  | tooDeep
  deriving DecidableEq, Repr

/-- The exception in flight. -/
def LoadRefusal.exc : LoadRefusal → PyExc
  | .undecodable => .unicodeDecode
  | .overlongInt => CertWatch.overlongInt
  | .tooDeep => .other "RecursionError"

/-- What reading a file yields: no JSON text, a refusal, or a document. -/
inductive Content where
  | notJson
  | refused (why : LoadRefusal)
  | json (v : Json)
  deriving DecidableEq, Repr

/-- A file with the time of its last write. -/
structure File where
  content : Content
  mtime : Nat
  deriving DecidableEq, Repr

/-- One call of `client.submit_report`, with the status the dashboard answered if the request reached it. -/
structure Submission where
  path : String
  body : ReportBody
  answer : Option Nat
  deriving DecidableEq, Repr

/-- The shared world: `pending_reports/` and its `corrupt/`, the agent's wall clock, every submission so
far, and the names that a `replace` has created, in that order. -/
structure World where
  dir : AList fun _ : String => File
  corrupt : AList fun _ : String => Content
  time : Nat
  submissions : List Submission
  persisted : List String

namespace World

/-- An empty data directory. -/
def fresh (time : Nat) : World := ⟨∅, ∅, time, [], []⟩

/-- A data directory as a process finds it. -/
def onDisk (dir : AList fun _ : String => File) (corrupt : AList fun _ : String => Content) (time : Nat) :
    World :=
  ⟨dir, corrupt, time, [], []⟩

def lookup (w : World) (name : String) : Option File := w.dir.lookup name

/-- Create or truncate a file and write the content to it. -/
def write (w : World) (name : String) (c : Content) : World :=
  { w with dir := w.dir.insert name ⟨c, w.time⟩ }

/-- Write through an open descriptor: when the name is gone, nothing in the directory changes. -/
def writeOpen (w : World) (name : String) (c : Content) : World :=
  if name ∈ w.dir then w.write name c else w

def remove (w : World) (name : String) : World := { w with dir := w.dir.erase name }

/-- `os.replace` of an existing file. -/
def install (w : World) (tmp name : String) (f : File) : World :=
  { w with
    dir := (w.dir.erase tmp).insert name f
    persisted := if name ∈ w.persisted then w.persisted else w.persisted ++ [name] }

/-- `os.rename` of an existing file into `corrupt/`. -/
def quarantine (w : World) (name target : String) (f : File) : World :=
  { w with dir := w.dir.erase name, corrupt := w.corrupt.insert target f.content }

def submitted (w : World) (s : Submission) : World := { w with submissions := w.submissions ++ [s] }

/-- The wall clock moves. -/
def setTime (w : World) (t : Nat) : World := { w with time := t }

section Lookup

variable (w : World) (name tmp n : String) (f : File) (c : Content)

@[simp] theorem lookup_fresh (t : Nat) : (fresh t).lookup n = none := AList.lookup_empty n

@[simp] theorem lookup_write_self : (w.write name c).lookup name = some ⟨c, w.time⟩ :=
  AList.lookup_insert _

variable {n name tmp}

theorem lookup_write_ne (h : n ≠ name) : (w.write name c).lookup n = w.lookup n :=
  AList.lookup_insert_ne h

theorem lookup_writeOpen_ne (h : n ≠ name) : (w.writeOpen name c).lookup n = w.lookup n := by
  unfold writeOpen
  split_ifs
  · exact lookup_write_ne w c h
  · rfl

theorem lookup_writeOpen_self {f : File} (h : w.lookup name = some f) :
    (w.writeOpen name c).lookup name = some ⟨c, w.time⟩ := by
  have hmem : name ∈ w.dir := AList.lookup_isSome.mp (by show (w.lookup name).isSome; rw [h]; rfl)
  rw [writeOpen, if_pos hmem, lookup_write_self]

@[simp] theorem lookup_remove_self : (w.remove name).lookup name = none := AList.lookup_erase name w.dir

theorem lookup_remove_ne (h : n ≠ name) : (w.remove name).lookup n = w.lookup n :=
  AList.lookup_erase_ne h

@[simp] theorem lookup_install_self : (w.install tmp name f).lookup name = some f :=
  AList.lookup_insert _

theorem lookup_install_ne (h : n ≠ name) (ht : n ≠ tmp) :
    (w.install tmp name f).lookup n = w.lookup n := by
  show AList.lookup n ((w.dir.erase tmp).insert name f) = _
  rw [AList.lookup_insert_ne h, AList.lookup_erase_ne ht]
  rfl

theorem lookup_quarantine_ne {target : String} (h : n ≠ name) :
    (w.quarantine name target f).lookup n = w.lookup n :=
  AList.lookup_erase_ne h

@[simp] theorem lookup_quarantine_self {target : String} :
    (w.quarantine name target f).lookup name = none :=
  AList.lookup_erase name w.dir

@[simp] theorem lookup_submitted (s : Submission) : (w.submitted s).lookup n = w.lookup n := rfl

@[simp] theorem lookup_setTime (t : Nat) : (w.setTime t).lookup n = w.lookup n := rfl

theorem mem_keys_iff : n ∈ w.dir.keys ↔ ∃ f, w.lookup n = some f := by
  rw [← AList.mem_keys, ← AList.lookup_isSome, Option.isSome_iff_exists]
  exact Iff.rfl

end Lookup

end World

/-! ## What a call may do -/

/-- `open` and `json.load` of a file that can be read. -/
def Content.load : Content → Except PyExc Json
  | .notJson => .error .jsonDecode
  | .refused why => .error why.exc
  | .json v => .ok v

/-- The call raises an `OSError` and changes nothing. -/
def OsFails {α : Type} (r : Except PyExc α) (w w' : World) : Prop :=
  (∃ e, r = .error (.os e)) ∧ w' = w

/-- The outcomes of a call; `readFails` says at which read, of which content, an `OSError` may strike. -/
def exec (readFails : ReadSite → Content → Prop) :
    (o : QueueOp) → World → Except PyExc o.Ret → World → Prop
  | .now, w, r, w' => (∃ t, r = .ok t) ∧ w' = w
  | .utcNowIso, w, r, w' => r = .ok (utcNowIso w.time) ∧ w' = w
  | .mkdir, w, r, w' => OsFails r w w' ∨ (r = .ok () ∧ w' = w)
  | .mkdirCorrupt, w, r, w' => OsFails r w w' ∨ (r = .ok () ∧ w' = w)
  | .openTmp tmp, w, r, w' => OsFails r w w' ∨ (r = .ok () ∧ w' = w.write tmp .notJson)
  | .dump tmp payload, w, r, w' =>
      (∃ e c, r = .error e ∧ w' = w.writeOpen tmp c) ∨
      (r = .ok () ∧ w' = w.writeOpen tmp (.json (.obj payload)))
  | .fsync _, w, r, w' => OsFails r w w' ∨ (r = .ok () ∧ w' = w)
  | .unlink name, w, r, w' =>
      OsFails r w w' ∨ (r = .ok () ∧ (∃ f, w.lookup name = some f) ∧ w' = w.remove name)
  | .replace tmp name, w, r, w' =>
      OsFails r w w' ∨ (r = .ok () ∧ ∃ f, w.lookup tmp = some f ∧ w' = w.install tmp name f)
  | .chmod _, w, r, w' => OsFails r w w' ∨ (r = .ok () ∧ w' = w)
  | .read site name, w, r, w' =>
      w' = w ∧ match w.lookup name with
        | none => ∃ e, r = .error (.os e)
        | some f => r = f.content.load ∨ (readFails site f.content ∧ ∃ e, r = .error (.os e))
  | .iterdir, w, r, w' => OsFails r w w' ∨ ((∃ names, names.Perm w.dir.keys ∧ r = .ok names) ∧ w' = w)
  | .statMtime name, w, r, w' =>
      OsFails r w w' ∨ ((∃ f, w.lookup name = some f ∧ r = .ok f.mtime) ∧ w' = w)
  | .rename name target, w, r, w' =>
      OsFails r w w' ∨ (r = .ok () ∧ ∃ f, w.lookup name = some f ∧ w' = w.quarantine name target f)
  | .submit path body, w, r, w' =>
      -- the request never arrived, or the dashboard answered and the response may have been lost
      (r = .error .requests ∧ w' = w.submitted ⟨path, body, none⟩) ∨
      ∃ resp : HttpResponse, (r = .ok resp ∨ r = .error .requests) ∧
        w' = w.submitted ⟨path, body, some resp.status⟩
  | .isSet, w, r, w' => (∃ b, r = .ok b) ∧ w' = w
  | .waitFor _, w, r, w' => (∃ b, r = .ok b) ∧ w' = w
  | .sleep _, w, r, w' => r = .ok () ∧ w' = w

/-! ## Scripted surroundings -/

/-- The dashboard's reply to the n-th submission for a file (`none`: a connection error), the reads that fail, and
the payloads that `json.dump` does not write. -/
structure Surroundings where
  reply : String → Nat → Option HttpResponse
  readFault : ReadSite → String → Option OSError := fun _ _ => none
  dumpFault : Dict → Option PyExc := fun _ => none

/-- `FileNotFoundError`. -/
def fileNotFound : PyExc := .os ⟨.fileNotFound, "No such file or directory"⟩

/-- How many submissions a file has had. -/
def World.callsFor (w : World) (path : String) : Nat :=
  w.submissions.countP fun s => s.path = path

/-- One deterministic outcome of every call; shutdown is never signaled. -/
def handle (env : Surroundings) : (o : QueueOp) → World → Except PyExc o.Ret × World
  | .now, w => (.ok 0, w)
  | .utcNowIso, w => (.ok (utcNowIso w.time), w)
  | .mkdir, w => (.ok (), w)
  | .mkdirCorrupt, w => (.ok (), w)
  | .openTmp tmp, w => (.ok (), w.write tmp .notJson)
  | .dump tmp payload, w => match env.dumpFault payload with
    | some e => (.error e, w.writeOpen tmp .notJson)
    | none => (.ok (), w.writeOpen tmp (.json (.obj payload)))
  | .fsync _, w => (.ok (), w)
  | .unlink name, w => match w.lookup name with
    | none => (.error fileNotFound, w)
    | some _ => (.ok (), w.remove name)
  | .replace tmp name, w => match w.lookup tmp with
    | none => (.error fileNotFound, w)
    | some f => (.ok (), w.install tmp name f)
  | .chmod _, w => (.ok (), w)
  | .read site name, w => match w.lookup name with
    | none => (.error fileNotFound, w)
    | some f => match env.readFault site name with
      | some e => (.error (.os e), w)
      | none => (f.content.load, w)
  | .iterdir, w => (.ok w.dir.keys, w)
  | .statMtime name, w => match w.lookup name with
    | none => (.error fileNotFound, w)
    | some f => (.ok f.mtime, w)
  | .rename name target, w => match w.lookup name with
    | none => (.error fileNotFound, w)
    | some f => (.ok (), w.quarantine name target f)
  | .submit path body, w => match env.reply path (w.callsFor path) with
    | none => (.error .requests, w.submitted ⟨path, body, none⟩)
    | some resp => (.ok resp, w.submitted ⟨path, body, some resp.status⟩)
  | .isSet, w => (.ok false, w)
  | .waitFor _, w => (.ok false, w)
  | .sleep _, w => (.ok (), w)

/-- **The script is one of the possible behaviours**, wherever its read faults are allowed. -/
theorem handle_exec {readFails : ReadSite → Content → Prop} {env : Surroundings}
    (h : ∀ site name c, (env.readFault site name).isSome → readFails site c) (o : QueueOp) (w : World) :
    exec readFails o w (handle env o w).1 (handle env o w).2 := by
  cases o with
  | now => exact ⟨⟨0, rfl⟩, rfl⟩
  | utcNowIso => exact ⟨rfl, rfl⟩
  | mkdir => exact Or.inr ⟨rfl, rfl⟩
  | mkdirCorrupt => exact Or.inr ⟨rfl, rfl⟩
  | openTmp tmp => exact Or.inr ⟨rfl, rfl⟩
  | dump tmp payload =>
    simp only [handle, exec]
    cases hf : env.dumpFault payload with
    | some e => exact Or.inl ⟨e, .notJson, rfl, rfl⟩
    | none => exact Or.inr ⟨rfl, rfl⟩
  | fsync tmp => exact Or.inr ⟨rfl, rfl⟩
  | unlink name =>
    simp only [handle, exec]
    cases hf : w.lookup name with
    | none => exact Or.inl ⟨⟨_, rfl⟩, rfl⟩
    | some f => exact Or.inr ⟨rfl, ⟨f, rfl⟩, rfl⟩
  | replace tmp name =>
    simp only [handle, exec]
    cases hf : w.lookup tmp with
    | none => exact Or.inl ⟨⟨_, rfl⟩, rfl⟩
    | some f => exact Or.inr ⟨rfl, f, rfl, rfl⟩
  | chmod name => exact Or.inr ⟨rfl, rfl⟩
  | read site name =>
    simp only [handle, exec]
    cases hf : w.lookup name with
    | none => exact ⟨rfl, _, rfl⟩
    | some f =>
      -- a fault is scripted only where `h` allows one
      cases he : env.readFault site name with
      | some e => exact ⟨rfl, Or.inr ⟨h site name f.content (by rw [he]; rfl), e, rfl⟩⟩
      | none => exact ⟨rfl, Or.inl rfl⟩
  | iterdir => exact Or.inr ⟨⟨_, List.Perm.refl _, rfl⟩, rfl⟩
  | statMtime name =>
    simp only [handle, exec]
    cases hf : w.lookup name with
    | none => exact Or.inl ⟨⟨_, rfl⟩, rfl⟩
    | some f => exact Or.inr ⟨⟨f, rfl, rfl⟩, rfl⟩
  | rename name target =>
    simp only [handle, exec]
    cases hf : w.lookup name with
    | none => exact Or.inl ⟨⟨_, rfl⟩, rfl⟩
    | some f => exact Or.inr ⟨rfl, f, rfl, rfl⟩
  | submit path body =>
    simp only [handle, exec]
    cases hr : env.reply path (w.callsFor path) with
    | none => exact Or.inl ⟨rfl, rfl⟩
    | some resp => exact Or.inr ⟨resp, Or.inl rfl, rfl⟩
  | isSet => exact ⟨⟨false, rfl⟩, rfl⟩
  | waitFor d => exact ⟨⟨false, rfl⟩, rfl⟩
  | sleep d => exact ⟨rfl, rfl⟩

end CertWatch
