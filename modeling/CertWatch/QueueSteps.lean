/-
# `CertWatch.QueueSteps` — everything one call of the queue code can do to the world.

The programs of `CertWatch.ReportSubmission` make many calls, but seen from the directory and the
dashboard a report has only five kinds of step: nothing but its temporary file moves, it is persisted,
its counter is rewritten, it is sent while its file is on disk, and its file is deleted after an answer
that ends it.  `RetryStep` and `SubmitStep` list them; the weakest-precondition rules below say that the
programs stay within them at every call, whatever fails and whatever the other reports' owners do.
-/
import CertWatch.QueueWorld

namespace CertWatch

open CertWatch.Lib

/-! ## What is on disk, and what was answered -/

/-- The file holds this record. -/
def HoldsRecord (p : String) (d : Dict) (w : World) : Prop :=
  ∃ f, w.lookup p = some f ∧ f.content = .json (.obj d)

/-- The file holds a record with these wire fields. -/
def Holds (p : String) (wire : Dict) (w : World) : Prop :=
  ∃ d, HoldsRecord p d w ∧ wirePayload d = wire

/-- The statuses after which a report is done with: 2xx, 409, 400 and 413. -/
def EndsReport (status : Nat) : Prop :=
  (200 ≤ status ∧ status < 300) ∨ status = 409 ∨ status = 400 ∨ status = 413

instance (status : Nat) : Decidable (EndsReport status) := by unfold EndsReport; infer_instance

/-- The dashboard has given a submission for this file an answer that ends the report. -/
def Answered (p : String) (w : World) : Prop :=
  ∃ s ∈ w.submissions, s.path = p ∧ ∃ status, s.answer = some status ∧ EndsReport status

/-! ## The steps -/

/-- Only the temporary file of `p` may differ. -/
structure TmpOnly (p : String) (w w' : World) : Prop where
  lookup : ∀ n, n ≠ tmpFile p → w'.lookup n = w.lookup n
  corrupt : w'.corrupt = w.corrupt
  time : w'.time = w.time
  submissions : w'.submissions = w.submissions
  persisted : w'.persisted = w.persisted

/-- What the retry loop for `p` does with each call. -/
inductive RetryStep (p : String) (wire : Dict) : World → World → Prop where
  | quiet {w w' : World} : TmpOnly p w w' → RetryStep p wire w w'
  /-- `increment_attempts` installs the rewritten record. -/
  | recount {w : World} {d : Dict} {n : Int} {f : File} : HoldsRecord p d w →
      f.content = .json (.obj (d.set "_attempts" (.int n))) →
      RetryStep p wire w (w.install (tmpFile p) p f)
  | call {w : World} {s : Submission} : Holds p wire w → s.path = p → wireBody wire = .ok s.body →
      RetryStep p wire w (w.submitted s)
  | delete {w : World} : Answered p w → RetryStep p wire w (w.remove p)

/-- What a fresh submission does: it persists the record, then retries. -/
inductive SubmitStep (p : String) (wire : Dict) : World → World → Prop where
  | persist {w : World} {persisted_at : String} {f : File} :
      f.content = .json (.obj (persistedRecord wire persisted_at)) →
      SubmitStep p wire w (w.install (tmpFile p) p f)
  | retry {w w' : World} : RetryStep p wire w w' → SubmitStep p wire w w'

/-- What the owner of `p` relies on: nobody else touches its two files, and the log only grows. -/
structure Others (p : String) (w w' : World) : Prop where
  file : w'.lookup p = w.lookup p
  tmp : w'.lookup (tmpFile p) = w.lookup (tmpFile p)
  log : w.submissions <+: w'.submissions

theorem Others.refl (p : String) (w : World) : Others p w w := ⟨rfl, rfl, List.prefix_refl _⟩

theorem Others.trans {p : String} {a b c : World} (h : Others p a b) (h' : Others p b c) : Others p a c :=
  ⟨h'.file.trans h.file, h'.tmp.trans h.tmp, h.log.trans h'.log⟩

theorem TmpOnly.refl (p : String) (w : World) : TmpOnly p w w := ⟨fun _ _ => rfl, rfl, rfl, rfl, rfl⟩

theorem ne_tmpFile (p : String) : p ≠ tmpFile p := by
  intro h
  have hlen := congrArg (fun s => s.toList.length) h
  simp [tmpFile, String.toList_append] at hlen

theorem TmpOnly.write (p : String) (w : World) (c : Content) : TmpOnly p w (w.write (tmpFile p) c) :=
  ⟨fun _ hn => w.lookup_write_ne c hn, rfl, rfl, rfl, rfl⟩

theorem TmpOnly.writeOpen (p : String) (w : World) (c : Content) :
    TmpOnly p w (w.writeOpen (tmpFile p) c) := by
  refine ⟨fun _ hn => w.lookup_writeOpen_ne c hn, ?_, ?_, ?_, ?_⟩ <;>
    · unfold World.writeOpen
      split_ifs <;> rfl

theorem TmpOnly.remove (p : String) (w : World) : TmpOnly p w (w.remove (tmpFile p)) :=
  ⟨fun _ hn => w.lookup_remove_ne hn, rfl, rfl, rfl, rfl⟩

/-! ## Assertions that the surroundings cannot break -/

theorem HoldsRecord.others {p : String} {d : Dict} {w w' : World} (h : HoldsRecord p d w)
    (ho : Others p w w') : HoldsRecord p d w' := by
  obtain ⟨f, hf, hc⟩ := h
  exact ⟨f, by rw [ho.file, hf], hc⟩

theorem HoldsRecord.tmpOnly {p : String} {d : Dict} {w w' : World} (h : HoldsRecord p d w)
    (ho : TmpOnly p w w') : HoldsRecord p d w' := by
  obtain ⟨f, hf, hc⟩ := h
  exact ⟨f, by rw [ho.lookup p (ne_tmpFile p), hf], hc⟩

theorem Holds.others {p : String} {wire : Dict} {w w' : World} (h : Holds p wire w)
    (ho : Others p w w') : Holds p wire w' := by
  obtain ⟨d, hd, hw⟩ := h
  exact ⟨d, hd.others ho, hw⟩

theorem Holds.tmpOnly {p : String} {wire : Dict} {w w' : World} (h : Holds p wire w)
    (ho : TmpOnly p w w') : Holds p wire w' := by
  obtain ⟨d, hd, hw⟩ := h
  exact ⟨d, hd.tmpOnly ho, hw⟩

theorem Answered.mono {p : String} {w w' : World} (h : Answered p w)
    (hlog : w.submissions <+: w'.submissions) : Answered p w' := by
  obtain ⟨s, hs, hp⟩ := h
  exact ⟨s, hlog.subset hs, hp⟩

/-- An assertion about the world that neither the surroundings of `p` nor its temporary file disturb. -/
structure Stable (p : String) (P : World → Prop) : Prop where
  others : ∀ w w', Others p w w' → P w → P w'
  tmpOnly : ∀ w w', TmpOnly p w w' → P w → P w'

theorem stable_true (p : String) : Stable p fun _ => True := ⟨fun _ _ _ _ => trivial, fun _ _ _ _ => trivial⟩

theorem stable_holdsRecord (p : String) (d : Dict) : Stable p (HoldsRecord p d) :=
  ⟨fun _ _ ho h => h.others ho, fun _ _ ho h => h.tmpOnly ho⟩

theorem stable_holds (p : String) (wire : Dict) : Stable p (Holds p wire) :=
  ⟨fun _ _ ho h => h.others ho, fun _ _ ho h => h.tmpOnly ho⟩

/-! ## The rules of the file operations -/

section Rules

variable {readFails : ReadSite → Content → Prop} {p : String} {G : World → World → Prop}

theorem wp_queueCall {R : World → World → Prop} {o : QueueOp} {Q : Except PyExc o.Ret → World → Prop}
    {w : World} : (queueCall o).wp (exec readFails) R G Q w ↔
      ∀ s, R w s → ∀ r s', exec readFails o s r s' → G s s' ∧ Q r s' :=
  Prog.wp_perform

/-- A call that leaves the world alone. -/
theorem wp_still {R : World → World → Prop} {o : QueueOp} {P : World → Prop}
    {Q : Except PyExc o.Ret → World → Prop} {w : World}
    (ho : ∀ s r s', exec readFails o s r s' → s' = s) (hR : ∀ s s', R s s' → P s → P s')
    (hG : ∀ s, P s → G s s) (h : P w) (hQ : ∀ r s, P s → Q r s) :
    (queueCall o).wp (exec readFails) R G Q w := by
  refine wp_queueCall.mpr ?_
  intro s₁ hs r s₂ hex
  obtain rfl := ho s₁ r s₂ hex
  have h₁ := hR _ _ hs h
  exact ⟨hG _ h₁, hQ r _ h₁⟩

theorem exec_mkdir_still (s : World) (r : Except PyExc Unit) (s' : World)
    (h : exec readFails .mkdir s r s') : s' = s := by
  rcases h with ⟨-, rfl⟩ | ⟨-, rfl⟩ <;> rfl

theorem exec_fsync_still (tmp : String) (s : World) (r : Except PyExc Unit) (s' : World)
    (h : exec readFails (.fsync tmp) s r s') : s' = s := by
  rcases h with ⟨-, rfl⟩ | ⟨-, rfl⟩ <;> rfl

theorem exec_chmod_still (n : String) (s : World) (r : Except PyExc Unit) (s' : World)
    (h : exec readFails (.chmod n) s r s') : s' = s := by
  rcases h with ⟨-, rfl⟩ | ⟨-, rfl⟩ <;> rfl

/-- The temporary file, if it is there, holds the record. -/
def TmpReady (p : String) (payload : Dict) (w : World) : Prop :=
  ∀ f, w.lookup (tmpFile p) = some f → f.content = .json (.obj payload)

theorem TmpReady.others {payload : Dict} {w w' : World} (h : TmpReady p payload w)
    (ho : Others p w w') : TmpReady p payload w' := by
  intro f hf
  exact h f (by rw [← ho.tmp, hf])

theorem tmpReady_writeOpen (payload : Dict) (w : World) :
    TmpReady p payload (w.writeOpen (tmpFile p) (.json (.obj payload))) := by
  intro f hf
  cases hl : w.lookup (tmpFile p) with
  | none =>
    have hmem : tmpFile p ∉ w.dir := AList.lookup_eq_none.mp hl
    rw [World.writeOpen, if_neg hmem, hl] at hf
    exact absurd hf (by simp)
  | some g =>
    rw [World.lookup_writeOpen_self w _ hl] at hf
    obtain rfl := Option.some.inj hf
    rfl

/-- `except FileNotFoundError: pass` around the removal of the temporary file. -/
theorem wp_unlinkTmp {P : World → Prop} {Q : Except PyExc Unit → World → Prop} {w : World}
    (hP : Stable p P) (hG : ∀ w w', TmpOnly p w w' → G w w') (h : P w) (hQ : ∀ r s, P s → Q r s) :
    (ignoreMissing (queueCall (.unlink (tmpFile p)))).wp (exec readFails) (Others p) G Q w := by
  rw [ignoreMissing, Prog.wp_tryCatch]
  refine wp_queueCall.mpr ?_
  intro s₁ hs r s₂ hex
  have h₁ := hP.others _ _ hs h
  rcases hex with ⟨⟨e, rfl⟩, rfl⟩ | ⟨rfl, -, rfl⟩
  · refine ⟨hG _ _ (TmpOnly.refl p _), ?_⟩
    rw [Prog.catchPost_error]
    split
    · exact hQ _ _ h₁
    · exact hQ _ _ h₁
  · have ht := TmpOnly.remove p s₁
    exact ⟨hG _ _ ht, hQ _ _ (hP.tmpOnly _ _ ht h₁)⟩

/-- Filling the temporary file: it is complete when the call returned. -/
theorem wp_fillTmp {payload : Dict} {P : World → Prop} {w : World} (hP : Stable p P)
    (hG : ∀ w w', TmpOnly p w w' → G w w') (h : P w) :
    (fillTmp (tmpFile p) payload).wp (exec readFails) (Others p) G
      (fun x w' => P w' ∧ (x = .ok () → TmpReady p payload w')) w := by
  simp only [fillTmp, Prog.bind_eq, Prog.wp_tryCatch, Prog.wp_bind]
  refine wp_queueCall.mpr fun s₁ hs₁ r s₂ hex => ?_
  have h₁ := hP.others _ _ hs₁ h
  rcases hex with ⟨e, c, rfl, rfl⟩ | ⟨rfl, rfl⟩
  · -- the dump failed: the temporary file holds anything, and is unlinked
    have hdump := TmpOnly.writeOpen p s₁ c
    refine ⟨hG _ _ hdump, ?_⟩
    simp only [Prog.thenPost_error, Prog.catchPost_error, Prog.wp_bind]
    refine wp_unlinkTmp hP hG (hP.tmpOnly _ _ hdump h₁) fun r s hs => ?_
    rcases r with e' | u
    · exact ⟨hs, by rintro ⟨⟩⟩
    · exact ⟨hs, by rintro ⟨⟩⟩
  · have hdump := TmpOnly.writeOpen p s₁ (.json (.obj payload))
    refine ⟨hG _ _ hdump, ?_⟩
    rw [Prog.thenPost_ok]
    refine wp_queueCall.mpr fun s₃ hs₃ r s₄ hex => ?_
    obtain rfl := exec_fsync_still _ _ _ _ hex
    have h₃ := hP.others _ _ hs₃ (hP.tmpOnly _ _ hdump h₁)
    refine ⟨hG _ _ (TmpOnly.refl p _), ?_⟩
    rcases r with e | u
    · rw [Prog.catchPost_error, Prog.wp_bind]
      refine wp_unlinkTmp hP hG h₃ fun r s hs => ?_
      rcases r with e' | u
      · exact ⟨hs, by rintro ⟨⟩⟩
      · exact ⟨hs, by rintro ⟨⟩⟩
    · exact ⟨h₃, fun _ => (tmpReady_writeOpen payload s₁).others hs₃⟩

/-- **`_atomic_write_json`.** Whatever fails, the file at `p` is either untouched or holds the whole new
record, and it is the new record when the call returned. -/
theorem wp_atomicWriteJson {payload : Dict} {P : World → Prop} {w : World} (hP : Stable p P)
    (hG : ∀ w w', TmpOnly p w w' → G w w')
    (hinstall : ∀ w f, P w → f.content = .json (.obj payload) → G w (w.install (tmpFile p) p f))
    (h : P w) :
    (atomicWriteJson p payload).wp (exec readFails) (Others p) G
      (fun x w' => HoldsRecord p payload w' ∨ (P w' ∧ ∃ e, x = .error e)) w := by
  unfold atomicWriteJson
  simp only [Prog.bind_eq, Prog.wp_bind]
  refine wp_still exec_mkdir_still hP.others (fun s _ => hG _ _ (TmpOnly.refl p s)) h fun r s h₀ => ?_
  rcases r with e | u
  · exact Or.inr ⟨h₀, e, rfl⟩
  rw [Prog.thenPost_ok, Prog.wp_bind]
  refine wp_queueCall.mpr fun s₁ hs₁ r s₂ hex => ?_
  have h₁ := hP.others _ _ hs₁ h₀
  rcases hex with ⟨⟨e, rfl⟩, rfl⟩ | ⟨rfl, rfl⟩
  · exact ⟨hG _ _ (TmpOnly.refl p _), Or.inr ⟨h₁, _, rfl⟩⟩
  have hopen := TmpOnly.write p s₁ .notJson
  refine ⟨hG _ _ hopen, ?_⟩
  rw [Prog.thenPost_ok, Prog.wp_bind]
  refine Prog.wp_mono ?_ (wp_fillTmp hP hG (hP.tmpOnly _ _ hopen h₁))
  rintro (e | u) s ⟨h₂, hready⟩
  · exact Or.inr ⟨h₂, e, rfl⟩
  -- the rename is the only call that moves the file itself
  rw [Prog.thenPost_ok, Prog.wp_bind]
  refine wp_queueCall.mpr fun s₃ hs₃ r s₄ hex => ?_
  have h₃ := hP.others _ _ hs₃ h₂
  rcases hex with ⟨⟨e, rfl⟩, rfl⟩ | ⟨rfl, f, hf, rfl⟩
  · exact ⟨hG _ _ (TmpOnly.refl p _), Or.inr ⟨h₃, _, rfl⟩⟩
  have hcontent := ((hready rfl).others hs₃) f hf
  refine ⟨hinstall _ _ h₃ hcontent, ?_⟩
  have hnew : HoldsRecord p payload (s₃.install (tmpFile p) p f) :=
    ⟨f, World.lookup_install_self _ _, hcontent⟩
  exact wp_still (exec_chmod_still p) (stable_holdsRecord p payload).others
    (fun s _ => hG _ _ (TmpOnly.refl p s)) hnew fun _ _ hn => Or.inl hn

/-! ## The rules of the queue's functions -/

/-- The read of this content at this site raises `PendingReportCorruptError`. -/
def Unreadable (readFails : ReadSite → Content → Prop) (site : ReadSite) (c : Content) : Prop :=
  c = .notJson ∨ (∃ v, c = .json v ∧ v.isObj = false) ∨ readFails site c

/-- `load_pending_report`: the record on disk, or a corrupt-file error with its reason. -/
def Loaded (readFails : ReadSite → Content → Prop) (site : ReadSite) (p : String)
    (x : Except PyExc Dict) (w : World) : Prop :=
  (∀ d, x = .ok d → HoldsRecord p d w) ∧
  (∀ cause, x = .error (.pendingReportCorrupt cause) →
    ∀ f, w.lookup p = some f → Unreadable readFails site f.content)

/-- The four outcomes of a read. -/
theorem read_cases {site : ReadSite} {s : World} {r : Except PyExc Json} {s' : World}
    (hex : exec readFails (.read site p) s r s') :
    s' = s ∧
      ((∃ v f, r = .ok v ∧ s.lookup p = some f ∧ f.content = .json v) ∨
        (r = .error .jsonDecode ∧ ∃ f, s.lookup p = some f ∧ f.content = .notJson) ∨
        (∃ why : LoadRefusal, r = .error why.exc) ∨
        ((∃ e, r = .error (.os e)) ∧ ∀ f, s.lookup p = some f → readFails site f.content)) := by
  obtain ⟨rfl, hr⟩ := hex
  refine ⟨rfl, ?_⟩
  cases hl : s'.lookup p with
  | none =>
    rw [hl] at hr
    exact Or.inr (Or.inr (Or.inr ⟨hr, nofun⟩))
  | some f =>
    rw [hl] at hr
    obtain ⟨c, t⟩ := f
    rcases hr with rfl | ⟨hfail, e, rfl⟩
    · cases c with
      | notJson => exact Or.inr (Or.inl ⟨rfl, _, rfl, rfl⟩)
      | refused why => exact Or.inr (Or.inr (Or.inl ⟨why, rfl⟩))
      | json v => exact Or.inl ⟨v, _, rfl, rfl, rfl⟩
    · refine Or.inr (Or.inr (Or.inr ⟨⟨e, rfl⟩, fun g hg => ?_⟩))
      obtain rfl := Option.some.inj hg
      exact hfail

theorem wp_loadPendingReport {site : ReadSite} {P : World → Prop} {w : World} (hP : Stable p P)
    (hG : ∀ w w', TmpOnly p w w' → G w w') (h : P w) :
    (loadPendingReport site p).wp (exec readFails) (Others p) G
      (fun x w' => P w' ∧ Loaded readFails site p x w') w := by
  simp only [loadPendingReport, Prog.bind_eq, Prog.wp_bind, Prog.wp_tryCatch]
  refine wp_queueCall.mpr fun s₁ hs₁ r s₂ hex => ?_
  have h₁ := hP.others _ _ hs₁ h
  obtain ⟨rfl, hr⟩ := read_cases hex
  refine ⟨hG _ _ (TmpOnly.refl p _), ?_⟩
  rcases hr with ⟨v, f, rfl, hf, hc⟩ | ⟨rfl, f, hf, hc⟩ | ⟨why, rfl⟩ | ⟨⟨e, rfl⟩, hfail⟩
  · rw [Prog.catchPost_ok, Prog.thenPost_ok]
    cases v with
    | obj d =>
      refine ⟨h₁, fun d' hd => ?_, nofun⟩
      obtain rfl := Except.ok.inj hd
      exact ⟨f, hf, hc⟩
    | _ =>
      refine ⟨h₁, nofun, fun cause _ g hg => ?_⟩
      obtain rfl := Option.some.inj (hf.symm.trans hg)
      exact Or.inr (Or.inl ⟨_, hc, rfl⟩)
  · refine ⟨h₁, nofun, fun cause _ g hg => ?_⟩
    obtain rfl := Option.some.inj (hf.symm.trans hg)
    exact Or.inl hc
  · -- a refusal is caught by neither clause
    cases why <;> exact ⟨h₁, nofun, nofun⟩
  · exact ⟨h₁, nofun, fun cause _ g hg => Or.inr (Or.inr (hfail g hg))⟩

end Rules

/-! ## The retry loop -/

section Retry

variable {readFails : ReadSite → Content → Prop} {p : String} {wire : Dict}

theorem RetryStep.still (w : World) : RetryStep p wire w w := RetryStep.quiet (TmpOnly.refl p w)

/-- Rewriting the counter keeps the wire fields. -/
theorem wirePayload_recount (d : Dict) (n : Int) :
    wirePayload (d.set "_attempts" (.int n)) = wirePayload d :=
  wirePayload_set _ (by decide)

/-- `increment_attempts` keeps the report on disk at every call, also when it raises. -/
theorem wp_incrementAttempts {w : World} (h : Holds p wire w) :
    (incrementAttempts p).wp (exec readFails) (Others p) (RetryStep p wire)
      (fun _ w' => Holds p wire w') w := by
  simp only [incrementAttempts, Prog.bind_eq, Prog.wp_bind]
  refine Prog.wp_mono ?_ (wp_loadPendingReport (stable_holds p wire) (fun _ _ => RetryStep.quiet) h)
  rintro (e | d) s ⟨hs, hload, -⟩
  · exact hs
  have hd : HoldsRecord p d s := hload d rfl
  have hwire : wirePayload d = wire := by
    obtain ⟨d', ⟨f, hf, hc⟩, hw⟩ := hs
    obtain ⟨g, hg, hc'⟩ := hd
    obtain rfl := Option.some.inj (hf.symm.trans hg)
    obtain rfl : d' = d := by
      rw [hc] at hc'
      exact Json.obj.inj (Content.json.inj hc')
    exact hw
  rw [Prog.thenPost_ok, Prog.wp_bind, Prog.wp_ofExcept]
  cases (Dict.getD d "_attempts" (.int 0)).toInt with
  | error e => exact hs
  | ok old =>
    rw [Prog.thenPost_ok, Prog.wp_bind]
    refine Prog.wp_mono ?_ (wp_atomicWriteJson (stable_holdsRecord p d) (fun _ _ => RetryStep.quiet)
      (fun _ _ hd hf => RetryStep.recount hd hf) hd)
    rintro (e | u) s' (hnew | ⟨hold, -⟩)
    · exact ⟨_, hnew, by rw [wirePayload_recount, hwire]⟩
    · exact ⟨_, hold, hwire⟩
    · exact ⟨_, hnew, by rw [wirePayload_recount, hwire]⟩
    · exact ⟨_, hold, hwire⟩

/-- The results of an attempt after which the loop deletes the file. -/
def Conclusive (x : Except PyExc Json) : Prop :=
  (∃ v, x = .ok v) ∨
    ∃ e : DashboardError, x = .error (.dashboard e) ∧
      (e.kind = .conflict ∨ e.kind = .validation ∨ e.kind = .payloadTooLarge)

/-- Only a status that ends the report makes a response conclusive. -/
theorem endsReport_of_conclusive {method path : String} {resp : HttpResponse}
    (h : Conclusive (handleResponse method path resp)) : EndsReport resp.status := by
  by_cases hok : 200 ≤ resp.status ∧ resp.status < 300
  · exact Or.inl hok
  right
  obtain ⟨e, he, hk⟩ := @handleResponse_error method path resp hok
  rw [he] at h
  rcases h with ⟨v, hv⟩ | ⟨e', he', hkind⟩
  · cases hv
  · obtain rfl : e = e' := PyExc.dashboard.inj (Except.error.inj he')
    rw [hk, errorKindOfStatus] at hkind
    split_ifs at hkind <;> simp_all

/-- The `try` block: the body goes out with the report on disk, and a conclusive result means that the
dashboard answered. -/
theorem wp_submitWire {client : DashboardClient} {w : World} (h : Holds p wire w) :
    (submitWire client p wire).wp (exec readFails) (Others p) (RetryStep p wire)
      (fun x w' => Holds p wire w' ∧ (Conclusive x → Answered p w')) w := by
  simp only [submitWire, Prog.bind_eq, Prog.wp_bind, Prog.wp_ofExcept]
  cases hb : wireBody wire with
  | error e =>
    refine ⟨h, ?_⟩
    rintro (⟨v, hv⟩ | ⟨e', he', -⟩)
    · cases hv
    · -- an incomplete wire payload raises a `KeyError`, which is no dashboard error
      obtain ⟨k, rfl⟩ := wireBody_error hb
      cases he'
  | ok body =>
    simp only [Prog.thenPost_ok, submitReport, request, Prog.bind_eq, Prog.wp_bind, Prog.wp_tryCatch]
    refine wp_queueCall.mpr fun s₁ hs₁ r s₂ hex => ?_
    have h₁ := h.others hs₁
    rcases hex with ⟨rfl, rfl⟩ | ⟨resp, rfl | rfl, rfl⟩
    · refine ⟨RetryStep.call h₁ rfl hb, h₁, ?_⟩
      rintro (⟨v, hv⟩ | ⟨e', he', hk⟩)
      · cases hv
      · cases he'
        rcases hk with hk | hk | hk <;> cases hk
    · refine ⟨RetryStep.call h₁ rfl hb, ?_⟩
      rw [Prog.catchPost_ok, Prog.thenPost_ok, Prog.wp_ofExcept]
      refine ⟨h₁, fun hc => ⟨_, List.mem_append_right _ List.mem_cons_self, rfl, _, rfl, ?_⟩⟩
      exact endsReport_of_conclusive hc
    · refine ⟨RetryStep.call h₁ rfl hb, h₁, ?_⟩
      rintro (⟨v, hv⟩ | ⟨e', he', hk⟩)
      · cases hv
      · cases he'
        rcases hk with hk | hk | hk <;> cases hk

theorem wp_deletePendingReport {w : World} (h : Answered p w) :
    (deletePendingReport p).wp (exec readFails) (Others p) (RetryStep p wire) (fun _ _ => True) w := by
  rw [deletePendingReport, ignoreMissing, Prog.wp_tryCatch]
  refine wp_queueCall.mpr fun s₁ hs₁ r s₂ hex => ?_
  rcases hex with ⟨⟨e, rfl⟩, rfl⟩ | ⟨rfl, -, rfl⟩
  · refine ⟨RetryStep.quiet (TmpOnly.refl p _), ?_⟩
    rw [Prog.catchPost_error]
    split <;> trivial
  · exact ⟨RetryStep.delete (h.mono hs₁.log), trivial⟩

theorem exec_now_still (s : World) (r : Except PyExc Rat) (s' : World)
    (h : exec readFails .now s r s') : s' = s := h.2

theorem wp_finishAttempt {started_mono : Rat} {status : SubmissionStatus} {attempts : Int} {summary : Json}
    {w : World} (h : Answered p w) :
    (finishAttempt p started_mono status attempts summary).wp (exec readFails) (Others p)
      (RetryStep p wire) (fun _ _ => True) w := by
  simp only [finishAttempt, Prog.bind_eq, Prog.wp_bind]
  refine Prog.wp_mono ?_ (wp_deletePendingReport h)
  rintro (e | u) s -
  · trivial
  · rw [Prog.thenPost_ok, Prog.wp_bind]
    refine wp_still exec_now_still (stable_true p).others (fun s _ => RetryStep.still s) trivial ?_
    rintro (e | t) s' - <;> trivial

theorem wp_backoffWait {shutdown_event : Bool} {delay : Rat} {w : World} (h : Holds p wire w) :
    (backoffWait shutdown_event delay).wp (exec readFails) (Others p) (RetryStep p wire)
      (fun _ w' => Holds p wire w') w := by
  unfold backoffWait
  split_ifs
  · exact wp_still (fun _ _ _ h => h.2) (stable_holds p wire).others (fun s _ => RetryStep.still s) h
      fun _ _ hs => hs
  · simp only [Prog.bind_eq, Prog.wp_bind]
    refine wp_still (fun _ _ _ h => h.2) (stable_holds p wire).others (fun s _ => RetryStep.still s) h ?_
    rintro (e | u) s hs
    · exact hs
    · exact hs

/-- What the loop makes of an attempt: it deletes only after a conclusive one, and goes on only with the
report on disk. -/
theorem wp_handleOutcome {shutdown_event : Bool} {started_mono : Rat} {attempts : Int}
    {retry : Queue ReportSubmissionResult} {x : Except PyExc Json} {w : World} (h : Holds p wire w)
    (hconc : Conclusive x → Answered p w)
    (hretry : ∀ s, Holds p wire s →
      retry.wp (exec readFails) (Others p) (RetryStep p wire) (fun _ _ => True) s) :
    (handleOutcome shutdown_event p wire started_mono attempts retry x).wp (exec readFails) (Others p)
      (RetryStep p wire) (fun _ _ => True) w := by
  rcases x with e | response
  · cases e with
    | dashboard e =>
      obtain ⟨kind, message, code, request_id, status_code, body⟩ := e
      cases kind with
      | conflict =>
        have ha := hconc (Or.inr ⟨_, rfl, Or.inl rfl⟩)
        simp only [handleOutcome, Prog.bind_eq, Prog.wp_bind, Prog.wp_ofExcept]
        exact Prog.thenPost_intro (fun _ _ => wp_finishAttempt ha) fun _ _ => trivial
      | validation => exact wp_finishAttempt (hconc (Or.inr ⟨_, rfl, Or.inr (Or.inl rfl)⟩))
      | payloadTooLarge =>
        have ha := hconc (Or.inr ⟨_, rfl, Or.inr (Or.inr rfl)⟩)
        simp only [handleOutcome, Prog.bind_eq, Prog.wp_bind, Prog.wp_ofExcept]
        exact Prog.thenPost_intro (fun _ _ => wp_finishAttempt ha) fun _ _ => trivial
      | server | network | rateLimit =>
        simp only [handleOutcome, Prog.bind_eq, Prog.wp_bind]
        refine Prog.wp_mono ?_ (wp_backoffWait h)
        rintro (e | woke_early) s hs
        · trivial
        rw [Prog.thenPost_ok]
        cases woke_early with
        | false => exact hretry s hs
        | true =>
          -- shutdown: the report stays on disk
          simp only [if_true, Prog.wp_bind]
          refine wp_still exec_now_still (stable_true p).others (fun s _ => RetryStep.still s) trivial ?_
          rintro (e | t) s' - <;> trivial
      -- raised on with the report on disk
      | auth | notFound | base => trivial
    | _ => trivial
  · have ha := hconc (Or.inl ⟨response, rfl⟩)
    simp only [handleOutcome, Prog.bind_eq, Prog.wp_bind, Prog.wp_ofExcept]
    exact Prog.thenPost_intro (fun _ _ => wp_finishAttempt ha) fun _ _ => trivial

/-- **The retry loop stays within its steps**, from any moment at which the report is on disk. -/
theorem wp_retryLoopForPath {client : DashboardClient} {shutdown_event : Bool} {started_mono : Rat}
    (fuel : Nat) {w : World} (h : Holds p wire w) :
    (retryLoopForPath client shutdown_event p wire started_mono fuel).wp (exec readFails) (Others p)
      (RetryStep p wire) (fun _ _ => True) w := by
  induction fuel generalizing w with
  | zero => trivial
  | succ fuel ih =>
    simp only [retryLoopForPath, Prog.bind_eq, Prog.wp_bind]
    refine Prog.wp_mono ?_ (wp_incrementAttempts h)
    rintro (e | attempts) s hs
    · trivial
    rw [Prog.thenPost_ok, Prog.wp_bind, Prog.wp_attempt]
    refine Prog.wp_mono ?_ (wp_submitWire hs)
    rintro x s' ⟨hs', hconc⟩
    exact wp_handleOutcome hs' hconc fun _ => ih

end Retry

/-! ## A fresh submission -/

section Submit

variable {readFails : ReadSite → Content → Prop}

theorem exec_utcNowIso_still (s : World) (r : Except PyExc String) (s' : World)
    (h : exec readFails .utcNowIso s r s') : s' = s := h.2

theorem SubmitStep.still {p : String} {wire : Dict} (w : World) : SubmitStep p wire w w :=
  .retry (.still w)

/-- `save_pending_report` returns only once the record is on disk. -/
theorem wp_savePendingReport {report_id : String} {payload : Dict} (hpayload : wirePayload payload = payload)
    (w : World) :
    (savePendingReport report_id payload).wp (exec readFails) (Others (reportFile report_id))
      (SubmitStep (reportFile report_id) payload)
      (fun x w' => ∀ path, x = .ok path → path = reportFile report_id ∧ Holds path payload w') w := by
  simp only [savePendingReport, Prog.bind_eq, Prog.wp_bind]
  refine wp_still exec_utcNowIso_still (stable_true _).others (fun s _ => SubmitStep.still s) trivial ?_
  rintro (e | persisted_at) s₁ -
  · exact nofun
  rw [Prog.thenPost_ok, Prog.wp_bind]
  refine wp_still exec_mkdir_still (stable_true _).others (fun s _ => SubmitStep.still s) trivial ?_
  rintro (e | u) s₂ -
  · exact nofun
  rw [Prog.thenPost_ok, Prog.wp_bind]
  refine Prog.wp_mono ?_ (wp_atomicWriteJson (stable_true _) (fun _ _ h => .retry (.quiet h))
    (fun _ _ _ hf => .persist hf) trivial)
  rintro (e | u) s₃ h₃
  · exact nofun
  rw [Prog.thenPost_ok]
  intro path hpath
  obtain rfl := Except.ok.inj hpath
  rcases h₃ with hnew | ⟨-, e, he⟩
  · exact ⟨rfl, _, hnew, by rw [wirePayload_persistedRecord, hpayload]⟩
  · cases he

theorem wirePayload_payload (args : ReportArgs) : wirePayload args.payload = args.payload := by
  obtain ⟨report_id, report_type, started_at, completed_at, action_id, checks⟩ := args
  simp [wirePayload, wireFields, ReportArgs.payload, Dict.restrict, Dict.get?_cons]

/-- **A fresh submission stays within its steps**, from any state of the directory. -/
theorem wp_submitReportWithRetry {client : DashboardClient} {shutdown_event : Bool} (fuel : Nat)
    (args : ReportArgs) (w : World) :
    (submitReportWithRetry client shutdown_event fuel args).wp (exec readFails)
      (Others (reportFile args.report_id)) (SubmitStep (reportFile args.report_id) args.payload)
      (fun _ _ => True) w := by
  simp only [submitReportWithRetry, Prog.bind_eq, Prog.wp_bind]
  refine wp_still exec_now_still (stable_true _).others (fun s _ => SubmitStep.still s) trivial ?_
  rintro (e | t) s₁ -
  · trivial
  rw [Prog.thenPost_ok, Prog.wp_bind]
  refine Prog.wp_mono ?_ (wp_savePendingReport (wirePayload_payload args) s₁)
  rintro (e | path) s₂ h₂
  · trivial
  obtain ⟨rfl, hholds⟩ := h₂ path rfl
  exact Prog.wp_weaken (fun _ _ h => h) (fun _ _ h => .retry h) (wp_retryLoopForPath fuel hholds)

end Submit

/-! ## Replay -/

section Replay

variable {readFails : ReadSite → Content → Prop}

/-- Replay runs before every other thread: around it only the clock moves. -/
def Tick (w w' : World) : Prop := ∃ t, w.time ≤ t ∧ w' = w.setTime t

theorem Tick.others {w w' : World} (h : Tick w w') (p : String) : Others p w w' := by
  obtain ⟨t, -, rfl⟩ := h
  exact ⟨rfl, rfl, List.prefix_refl _⟩

/-- What the replay loop's body does for one file. -/
inductive PathStep (readFails : ReadSite → Content → Prop) (p : String) : World → World → Prop where
  | retry {d : Dict} {w w' : World} : RetryStep p (wirePayload d) w w' → PathStep readFails p w w'
  /-- The file is moved to `corrupt/`, its scan having failed. -/
  | quarantine {w : World} {target : String} {f : File} : w.lookup p = some f →
      Unreadable readFails .scan f.content → PathStep readFails p w (w.quarantine p target f)

theorem PathStep.still {p : String} (w : World) : PathStep readFails p w w :=
  .retry (d := []) (.still w)

/-- A file that cannot be read stays so while the clock moves. -/
def ScanFailed (readFails : ReadSite → Content → Prop) (p : String) (w : World) : Prop :=
  ∀ f, w.lookup p = some f → Unreadable readFails .scan f.content

theorem ScanFailed.others {p : String} {w w' : World} (ho : Others p w w')
    (h : ScanFailed readFails p w) : ScanFailed readFails p w' := by
  intro f hf
  exact h f (by rw [← ho.file, hf])

theorem wp_quarantineCorrupt {p : String} {w : World} (h : ScanFailed readFails p w) :
    (quarantineCorrupt p).wp (exec readFails) (Others p) (PathStep readFails p) (fun _ _ => True) w := by
  simp only [quarantineCorrupt, Prog.bind_eq, Prog.wp_bind]
  refine wp_still (fun s r s' hex => ?_) (fun _ _ ho hs => ScanFailed.others ho hs) (fun s _ => PathStep.still s) h ?_
  · rcases hex with ⟨-, rfl⟩ | ⟨-, rfl⟩ <;> rfl
  rintro (e | u) s₁ h₁
  · trivial
  rw [Prog.thenPost_ok, Prog.wp_bind]
  refine wp_still exec_utcNowIso_still (fun _ _ ho hs => ScanFailed.others ho hs) (fun s _ => PathStep.still s) h₁ ?_
  rintro (e | now) s₂ h₂
  · trivial
  rw [Prog.thenPost_ok, Prog.wp_bind]
  refine wp_queueCall.mpr fun s₃ hs₃ r s₄ hex => ?_
  rcases hex with ⟨⟨e, rfl⟩, rfl⟩ | ⟨rfl, f, hf, rfl⟩
  · exact ⟨PathStep.still _, trivial⟩
  · exact ⟨PathStep.quarantine hf (h₂.others hs₃ f hf), trivial⟩

/-- **The body of the replay loop** touches one report only, sends it only as it is on disk, and
quarantines it only after its own scan failed. -/
theorem wp_replayOne {client : DashboardClient} {shutdown_event : Bool} {fuel : Nat} {registered_at : String}
    (p : String) (w : World) :
    (replayOne client shutdown_event fuel registered_at p).wp (exec readFails) (Others p)
      (PathStep readFails p) (fun _ _ => True) w := by
  simp only [replayOne, Prog.bind_eq, Prog.wp_bind, Prog.wp_attempt]
  refine Prog.wp_mono ?_ (wp_loadPendingReport (stable_true p)
    (fun _ _ h => PathStep.retry (d := []) (.quiet h)) trivial)
  rintro x s ⟨-, hok, hcorrupt⟩
  rw [Prog.thenPost_ok]
  rcases x with e | persisted
  · cases e with
    | pendingReportCorrupt cause =>
      simp only [Prog.wp_bind]
      refine Prog.wp_mono ?_ (wp_quarantineCorrupt (hcorrupt cause rfl))
      rintro (e | t) s' - <;> trivial
    | _ => trivial
  · simp only [Prog.wp_bind, Prog.wp_ofExcept]
    refine Prog.thenPost_intro (fun orphan _ => ?_) fun _ _ => trivial
    split_ifs
    · trivial
    rw [Prog.wp_bind]
    have hholds : Holds p (wirePayload persisted) s := ⟨persisted, hok persisted rfl, rfl⟩
    refine wp_still exec_now_still (stable_holds p (wirePayload persisted)).others (fun s _ => PathStep.still s)
      hholds ?_
    rintro (e | t) s₁ h₁
    · trivial
    rw [Prog.thenPost_ok, Prog.wp_bind]
    refine Prog.wp_weaken (fun _ _ h => h)
      (fun _ _ (h : RetryStep p (wirePayload persisted) _ _) => PathStep.retry h) ?_
    refine Prog.wp_mono ?_ (wp_retryLoopForPath fuel h₁)
    rintro (e | r) s' - <;> trivial

/-- The same while replay runs alone. -/
theorem wp_replayOne_alone {client : DashboardClient} {shutdown_event : Bool} {fuel : Nat}
    {registered_at : String} (p : String) (w : World) :
    (replayOne client shutdown_event fuel registered_at p).wp (exec readFails) Tick (PathStep readFails p)
      (fun _ _ => True) w :=
  Prog.wp_weaken (fun _ _ ht => ht.others p) (fun _ _ hs => hs) (wp_replayOne p w)

/-- What a whole replay does with each call: it unlinks a stray temporary file, or it is busy with one
of the `.json` files. -/
inductive ReplayStep (readFails : ReadSite → Content → Prop) : World → World → Prop where
  | still (w : World) : ReplayStep readFails w w
  | stray {w : World} {n : String} : suffix n = ".tmp".toList → ReplayStep readFails w (w.remove n)
  | path {p : String} {w w' : World} : suffix p = ".json".toList → PathStep readFails p w w' →
      ReplayStep readFails w w'

section Listing

-- an assertion that replay carries along, and a guarantee that its idle calls keep
variable {G : World → World → Prop} {P : World → Prop}

theorem wp_unlinkAll {names : List String} (hnames : ∀ n ∈ names, suffix n = ".tmp".toList)
    (hP : ∀ s s', Tick s s' → P s → P s') (hG : ∀ s, P s → G s s)
    (hstray : ∀ s n, suffix n = ".tmp".toList → P s → G s (s.remove n) ∧ P (s.remove n)) {w : World} (h : P w) :
    (unlinkAll names).wp (exec readFails) Tick G (fun _ w' => P w') w := by
  induction names generalizing w with
  | nil => exact h
  | cons n ns ih =>
    have htail : ∀ s, P s → (unlinkAll ns).wp (exec readFails) Tick G (fun _ w' => P w') s :=
      fun s hs => ih (fun m hm => hnames m (List.mem_cons_of_mem n hm)) hs
    simp only [unlinkAll, Prog.bind_eq, Prog.wp_bind, Prog.wp_tryCatch]
    refine wp_queueCall.mpr fun s₁ hs₁ r s₂ hex => ?_
    have h₁ := hP _ _ hs₁ h
    have hrest : ∀ (deleted : Bool) (s : World), P s →
        ((unlinkAll ns).bind fun rest => pure (if deleted then n :: rest else rest)).wp (exec readFails) Tick
          G (fun _ w' => P w') s := by
      intro deleted s hs
      rw [Prog.wp_bind]
      refine Prog.wp_mono ?_ (htail s hs)
      rintro (e | rest) s' hs'
      · exact hs'
      · exact hs'
    rcases hex with ⟨⟨e, rfl⟩, rfl⟩ | ⟨rfl, -, rfl⟩
    · refine ⟨hG _ h₁, ?_⟩
      rw [Prog.thenPost_error, Prog.catchPost_error]
      split
      · exact hrest false _ h₁
      · exact h₁
    · obtain ⟨hg, h₂⟩ := hstray s₁ n (hnames n List.mem_cons_self) h₁
      exact ⟨hg, hrest true _ h₂⟩

theorem exec_iterdir_still (s : World) (r : Except PyExc (List String)) (s' : World)
    (h : exec readFails .iterdir s r s') : s' = s := by
  rcases h with ⟨-, rfl⟩ | ⟨-, rfl⟩ <;> rfl

theorem mem_filter_suffix {names : List String} {ext : List Char} {n : String} :
    n ∈ names.filter (fun n => suffix n = ext) ↔ n ∈ names ∧ suffix n = ext := by
  rw [List.mem_filter, decide_eq_true_iff]

theorem wp_cleanupStrayTmpFiles (hP : ∀ s s', Tick s s' → P s → P s') (hG : ∀ s, P s → G s s)
    (hstray : ∀ s n, suffix n = ".tmp".toList → P s → G s (s.remove n) ∧ P (s.remove n)) {w : World} (h : P w) :
    cleanupStrayTmpFiles.wp (exec readFails) Tick G (fun _ w' => P w') w := by
  simp only [cleanupStrayTmpFiles, Prog.bind_eq, Prog.wp_bind]
  refine wp_still exec_iterdir_still hP hG h ?_
  rintro (e | entries) s hs
  · exact hs
  · exact wp_unlinkAll (fun n hn => (mem_filter_suffix.mp hn).2) hP hG hstray hs

/-- The names of the `.json` files with their mtimes, as they were listed. -/
def Keyed (w : World) (keyed : List (String × Nat)) : Prop :=
  ∀ q ∈ keyed, ∃ f, w.lookup q.1 = some f ∧ f.mtime = q.2

theorem Keyed.tick {w w' : World} {keyed : List (String × Nat)} (ht : Tick w w') (h : Keyed w keyed) :
    Keyed w' keyed := by
  obtain ⟨t, -, rfl⟩ := ht
  exact h

theorem wp_statAll (hP : ∀ s s', Tick s s' → P s → P s') (hG : ∀ s, P s → G s s) (names : List String)
    {w : World} (h : P w) :
    (statAll names).wp (exec readFails) Tick G
      (fun x w' => P w' ∧ ∀ keyed, x = .ok keyed → keyed.map Prod.fst = names ∧ Keyed w' keyed) w := by
  induction names generalizing P w with
  | nil =>
    refine ⟨h, fun keyed hk => ?_⟩
    obtain rfl := Except.ok.inj hk
    exact ⟨rfl, nofun⟩
  | cons n ns ih =>
    simp only [statAll, Prog.bind_eq, Prog.wp_bind]
    refine wp_queueCall.mpr fun s₁ hs₁ r s₂ hex => ?_
    have h₁ := hP _ _ hs₁ h
    rcases hex with ⟨⟨e, rfl⟩, rfl⟩ | ⟨⟨f, hf, rfl⟩, rfl⟩
    · exact ⟨hG _ h₁, h₁, nofun⟩
    refine ⟨hG _ h₁, ?_⟩
    rw [Prog.thenPost_ok, Prog.wp_bind]
    -- the mtime just read is carried along while the rest is listed
    have hhead : P s₂ ∧ Keyed s₂ [(n, f.mtime)] := by
      refine ⟨h₁, fun q hq => ?_⟩
      obtain rfl := List.mem_singleton.mp hq
      exact ⟨f, hf, rfl⟩
    refine Prog.wp_mono ?_ (ih (P := fun s => P s ∧ Keyed s [(n, f.mtime)])
      (fun s s' ht hs => ⟨hP _ _ ht hs.1, hs.2.tick ht⟩) (fun s hs => hG s hs.1) hhead)
    rintro (e | rest) s ⟨⟨hPs, hkey⟩, hrest⟩
    · exact ⟨hPs, nofun⟩
    refine ⟨hPs, fun keyed hk => ?_⟩
    obtain rfl := Except.ok.inj hk
    obtain ⟨hmap, hkeyed⟩ := hrest rest rfl
    refine ⟨by rw [List.map_cons, hmap], fun q hq => ?_⟩
    rcases List.mem_cons.mp hq with rfl | hq
    · exact hkey _ (List.mem_singleton_self _)
    · exact hkeyed q hq

/-- The paths of a replay: every `.json` file of the directory once, oldest first. -/
structure Listed (w : World) (paths : List String) : Prop where
  mem_iff : ∀ p, p ∈ paths ↔ suffix p = ".json".toList ∧ ∃ f, w.lookup p = some f
  nodup : paths.Nodup
  sorted : paths.Pairwise fun p q => ∀ f g, w.lookup p = some f → w.lookup q = some g → f.mtime ≤ g.mtime

/-- Sorting by the second component orders the first components by it. -/
theorem sortByMtime_sorted {keyed : List (String × Nat)} {w : World} (h : Keyed w keyed) :
    (sortByMtime keyed).Pairwise fun p q =>
      ∀ f g, w.lookup p = some f → w.lookup q = some g → f.mtime ≤ g.mtime := by
  have htotal : Std.Total fun a b : String × Nat => a.2 ≤ b.2 := ⟨fun a b => Nat.le_total a.2 b.2⟩
  have htrans : IsTrans (String × Nat) fun a b => a.2 ≤ b.2 := ⟨fun _ _ _ => Nat.le_trans⟩
  have hsorted := List.pairwise_insertionSort (fun a b : String × Nat => a.2 ≤ b.2) keyed
  rw [sortByMtime, List.pairwise_map]
  refine hsorted.imp_of_mem fun {a b} ha hb hab f g hf hg => ?_
  obtain ⟨f', hf', hfa⟩ := h a ((List.mem_insertionSort _).mp ha)
  obtain ⟨g', hg', hgb⟩ := h b ((List.mem_insertionSort _).mp hb)
  obtain rfl := Option.some.inj (hf.symm.trans hf')
  obtain rfl := Option.some.inj (hg.symm.trans hg')
  omega

theorem wp_listPendingReportPaths (hP : ∀ s s', Tick s s' → P s → P s') (hG : ∀ s, P s → G s s)
    {w : World} (h : P w) :
    listPendingReportPaths.wp (exec readFails) Tick G
      (fun x w' => P w' ∧ ∀ paths, x = .ok paths → Listed w' paths) w := by
  simp only [listPendingReportPaths, Prog.bind_eq, Prog.wp_bind]
  refine wp_queueCall.mpr fun s₁ hs₁ r s₂ hex => ?_
  have h₁ := hP _ _ hs₁ h
  rcases hex with ⟨⟨e, rfl⟩, rfl⟩ | ⟨⟨entries, hperm, rfl⟩, rfl⟩
  · exact ⟨hG _ h₁, h₁, nofun⟩
  refine ⟨hG _ h₁, ?_⟩
  rw [Prog.thenPost_ok, Prog.wp_bind]
  have hkeys : ∀ n, n ∈ entries ↔ ∃ f, s₂.lookup n = some f := by
    intro n
    rw [hperm.mem_iff, World.mem_keys_iff]
  refine Prog.wp_mono ?_ (wp_statAll (P := fun s => P s ∧ ∀ n, n ∈ entries ↔ ∃ f, s.lookup n = some f)
    ?_ (fun s hs => hG s hs.1) _ ⟨h₁, hkeys⟩)
  · rintro (e | keyed) s ⟨⟨hPs, hks⟩, hkeyed⟩
    · exact ⟨hPs, nofun⟩
    refine ⟨hPs, fun paths hp => ?_⟩
    obtain rfl := Except.ok.inj hp
    obtain ⟨hmap, hk⟩ := hkeyed keyed rfl
    have hsort : (sortByMtime keyed).Perm (entries.filter fun n => suffix n = ".json".toList) := by
      rw [← hmap]
      exact (List.perm_insertionSort _ keyed).map Prod.fst
    refine ⟨fun p => ?_, ?_, sortByMtime_sorted hk⟩
    · rw [hsort.mem_iff, mem_filter_suffix, hks]
      exact and_comm
    · exact hsort.nodup_iff.mpr ((hperm.nodup_iff.mpr s₂.dir.keys_nodup).filter _)
  · rintro s s' ht ⟨hPs, hks⟩
    refine ⟨hP _ _ ht hPs, fun n => ?_⟩
    obtain ⟨t, -, rfl⟩ := ht
    exact hks n

theorem wp_shutdownSet {shutdown_event : Bool} (hP : ∀ s s', Tick s s' → P s → P s')
    (hG : ∀ s, P s → G s s) {w : World} (h : P w) :
    (shutdownSet shutdown_event).wp (exec readFails) Tick G (fun _ w' => P w') w := by
  unfold shutdownSet
  split_ifs
  · exact wp_still (fun _ _ _ hex => hex.2) hP hG h fun _ _ hs => hs
  · exact h

end Listing

/-- **A replay stays within its steps**, from any state of the directory. -/
theorem wp_replayPaths {client : DashboardClient} {shutdown_event : Bool} {fuel : Nat}
    {registered_at : String} {paths : List String} (hpaths : ∀ p ∈ paths, suffix p = ".json".toList)
    (result : ReplayResult) (w : World) :
    (replayPaths client shutdown_event fuel registered_at paths result).wp (exec readFails) Tick
      (ReplayStep readFails) (fun _ _ => True) w := by
  induction paths generalizing result w with
  | nil => trivial
  | cons p ps ih =>
    simp only [replayPaths, Prog.bind_eq, Prog.wp_bind]
    refine Prog.wp_mono ?_ (wp_shutdownSet (P := fun _ => True) (fun _ _ _ _ => trivial)
      (fun s _ => ReplayStep.still s) trivial)
    rintro (e | interrupted) s₁ -
    · trivial
    rw [Prog.thenPost_ok]
    split_ifs
    · trivial
    rw [Prog.wp_bind]
    refine Prog.wp_mono ?_ (Prog.wp_weaken (fun _ _ ht => ht)
      (fun _ _ hstep => ReplayStep.path (hpaths p List.mem_cons_self) hstep) (wp_replayOne_alone p s₁))
    rintro (e | outcome) s₂ -
    · trivial
    rw [Prog.thenPost_ok]
    split_ifs
    · trivial
    · exact ih (fun q hq => hpaths q (List.mem_cons_of_mem p hq)) _ _

theorem wp_replayPendingReports {client : DashboardClient} {shutdown_event : Bool} {fuel : Nat}
    {registered_at : String} (w : World) :
    (replayPendingReports client shutdown_event fuel registered_at).wp (exec readFails) Tick
      (ReplayStep readFails) (fun _ _ => True) w := by
  simp only [replayPendingReports, Prog.bind_eq, Prog.wp_bind]
  refine Prog.wp_mono ?_ (wp_cleanupStrayTmpFiles (P := fun _ => True) (fun _ _ _ _ => trivial)
    (fun s _ => ReplayStep.still s) (fun _ _ hn _ => ⟨ReplayStep.stray hn, trivial⟩) trivial)
  rintro (e | stray) s₁ -
  · trivial
  rw [Prog.thenPost_ok, Prog.wp_bind]
  refine Prog.wp_mono ?_ (wp_listPendingReportPaths (P := fun _ => True) (fun _ _ _ _ => trivial)
    (fun s _ => ReplayStep.still s) trivial)
  rintro (e | paths) s₂ ⟨-, hlisted⟩
  · trivial
  · exact wp_replayPaths (fun p hp => (((hlisted paths rfl).mem_iff p).mp hp).1) _ _

end Replay

end CertWatch
