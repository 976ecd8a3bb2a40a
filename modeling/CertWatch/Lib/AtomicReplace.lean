/-
# `CertWatch.Lib.AtomicReplace` — replacing a file in one step, however the process ends.

A document is written in full to a sibling file, synced, and renamed over the target.  Any call may fail, and
the process may be killed between two calls or in the middle of one, so a run here has an ending and the list of
the calls that completed before it.  What the target holds afterwards depends on nothing but whether the renaming
is among them.
-/
import CertWatch.Lib.Trace
import Mathlib.Logic.Function.Basic

namespace CertWatch.Lib

/-! ## Runs that may be killed -/

section

variable {S T : Sig} {ε α β σ : Type}

/-- How a run ends: with the result of the program, or with the death of the process. -/
inductive Ending (ε α : Type) where
  | finished (x : Except ε α)
  | killed

/-- What a call does to the state: when it completes, with its answer, and when the process dies in it. -/
structure Effects (S : Sig) (ε σ : Type) where
  completes : (o : S.Op) → σ → Except ε (S.Ret o) → σ → Prop
  interrupted : S.Op → σ → σ → Prop

/-- The effects of the calls of a part of the interface. -/
def Effects.comap (W : Effects T ε σ) (E : Embedding S T) : Effects S ε σ where
  completes o s r s' := W.completes (E.op o) s (r.map (E.ret o)) s'
  interrupted o s s' := W.interrupted (E.op o) s s'

/-- A call of a part, as one of the whole. -/
def Call.embed (E : Embedding S T) (c : Call S ε) : Call T ε := ⟨E.op c.op, c.answer.map (E.ret c.op)⟩

namespace Prog

/-- A run of a program: the calls that completed, how it ended, and the state at its end. -/
inductive Runs (W : Effects S ε σ) : Prog S ε α → σ → List (Call S ε) → Ending ε α → σ → Prop where
  | ret (a : α) (s : σ) : Runs W (.ret a) s [] (.finished (.ok a)) s
  | raise (e : ε) (s : σ) : Runs W (.raise e) s [] (.finished (.error e)) s
  | killed (p : Prog S ε α) (s : σ) : Runs W p s [] .killed s
  | interrupted {o : S.Op} {k : Except ε (S.Ret o) → Prog S ε α} {s s' : σ} (h : W.interrupted o s s') :
    Runs W (.call o k) s [] .killed s'
  | call {o : S.Op} {k : Except ε (S.Ret o) → Prog S ε α} {s s₁ s' : σ} {r : Except ε (S.Ret o)}
    {cs : List (Call S ε)} {x : Ending ε α} (h : W.completes o s r s₁) (hk : Runs W (k r) s₁ cs x s') :
    Runs W (.call o k) s (⟨o, r⟩ :: cs) x s'

variable {W : Effects S ε σ} {s s' : σ} {cs : List (Call S ε)}

/-- A single call ends in one of three ways. -/
theorem runs_perform {o : S.Op} {x : Ending ε (S.Ret o)} (h : (perform o : Prog S ε (S.Ret o)).Runs W s cs x s') :
    (cs = [] ∧ x = .killed ∧ (s' = s ∨ W.interrupted o s s')) ∨
      ∃ r, cs = [⟨o, r⟩] ∧ (x = .finished r ∨ x = .killed) ∧ W.completes o s r s' := by
  cases h with
  | killed => exact .inl ⟨rfl, rfl, .inl rfl⟩
  | interrupted h => exact .inl ⟨rfl, rfl, .inr h⟩
  | @call _ _ _ s₁ _ r cs _ h hk =>
    refine .inr ⟨r, ?_⟩
    cases r with
    | ok a => cases hk with
      | ret => exact ⟨rfl, .inl rfl, h⟩
      | killed => exact ⟨rfl, .inr rfl, h⟩
    | error e => cases hk with
      | raise => exact ⟨rfl, .inl rfl, h⟩
      | killed => exact ⟨rfl, .inr rfl, h⟩

/-- A program without calls ends as it says, or is killed. -/
theorem runs_ofExcept {y : Except ε α} {x : Ending ε α} (h : (ofExcept y : Prog S ε α).Runs W s cs x s') :
    s' = s ∧ (x = .finished y ∨ x = .killed) := by
  cases y with
  | ok a => cases h with
    | ret => exact ⟨rfl, .inl rfl⟩
    | killed => exact ⟨rfl, .inr rfl⟩
  | error e => cases h with
    | raise => exact ⟨rfl, .inl rfl⟩
    | killed => exact ⟨rfl, .inr rfl⟩

/-- A single call that answers has completed. -/
theorem runs_perform_finished {o : S.Op} {r : Except ε (S.Ret o)}
    (h : (perform o : Prog S ε (S.Ret o)).Runs W s cs (.finished r) s') : cs = [⟨o, r⟩] ∧ W.completes o s r s' := by
  obtain ⟨-, hx, -⟩ | ⟨r', rfl, hx, hr⟩ := runs_perform h
  · cases hx
  · obtain hx | hx := hx
    · obtain rfl := Ending.finished.inj hx
      exact ⟨rfl, hr⟩
    · cases hx

/-- A sequence ends in its first part, or goes on with what that returns. -/
theorem runs_bind {p : Prog S ε α} {f : α → Prog S ε β} {x : Ending ε β} (h : (p.bind f).Runs W s cs x s') :
    (x = .killed ∧ p.Runs W s cs .killed s') ∨
    (∃ e, x = .finished (.error e) ∧ p.Runs W s cs (.finished (.error e)) s') ∨
    ∃ a s₁ cs₁ cs₂, p.Runs W s cs₁ (.finished (.ok a)) s₁ ∧ (f a).Runs W s₁ cs₂ x s' ∧ cs = cs₁ ++ cs₂ := by
  induction p generalizing s cs with
  | ret a => exact .inr (.inr ⟨a, s, [], cs, .ret a s, h, rfl⟩)
  | raise e => cases h with
    | raise => exact .inr (.inl ⟨e, rfl, .raise e _⟩)
    | killed => exact .inl ⟨rfl, .killed _ _⟩
  | hang => cases h with
    | killed => exact .inl ⟨rfl, .killed _ _⟩
  | call o k ih => cases h with
    | killed => exact .inl ⟨rfl, .killed _ _⟩
    | interrupted h => exact .inl ⟨rfl, .interrupted h⟩
    | call h hk =>
      obtain ⟨hx, hp⟩ | ⟨e, hx, hp⟩ | ⟨a, s₁, cs₁, cs₂, hp, hf, rfl⟩ := ih _ hk
      · exact .inl ⟨hx, .call h hp⟩
      · exact .inr (.inl ⟨e, hx, .call h hp⟩)
      · exact .inr (.inr ⟨a, s₁, _, cs₂, .call h hp, hf, rfl⟩)

/-- A guarded part ends by itself, or its handler goes on with what it raises. -/
theorem runs_tryCatch {p : Prog S ε α} {f : ε → Prog S ε α} {x : Ending ε α}
    (h : (p.tryCatch f).Runs W s cs x s') :
    (x = .killed ∧ p.Runs W s cs .killed s') ∨
    (∃ a, x = .finished (.ok a) ∧ p.Runs W s cs (.finished (.ok a)) s') ∨
    ∃ e s₁ cs₁ cs₂, p.Runs W s cs₁ (.finished (.error e)) s₁ ∧ (f e).Runs W s₁ cs₂ x s' ∧ cs = cs₁ ++ cs₂ := by
  induction p generalizing s cs with
  | ret a => cases h with
    | ret => exact .inr (.inl ⟨a, rfl, .ret a _⟩)
    | killed => exact .inl ⟨rfl, .killed _ _⟩
  | raise e => exact .inr (.inr ⟨e, s, [], cs, .raise e s, h, rfl⟩)
  | hang => cases h with
    | killed => exact .inl ⟨rfl, .killed _ _⟩
  | call o k ih => cases h with
    | killed => exact .inl ⟨rfl, .killed _ _⟩
    | interrupted h => exact .inl ⟨rfl, .interrupted h⟩
    | call h hk =>
      obtain ⟨hx, hp⟩ | ⟨a, hx, hp⟩ | ⟨e, s₁, cs₁, cs₂, hp, hf, rfl⟩ := ih _ hk
      · exact .inl ⟨hx, .call h hp⟩
      · exact .inr (.inl ⟨a, hx, .call h hp⟩)
      · exact .inr (.inr ⟨e, s₁, _, cs₂, .call h hp, hf, rfl⟩)

/-- A run is one over any effects that allow its calls more. -/
theorem Runs.weaken {W' : Effects S ε σ} {A : S.Op → Prop} {p : Prog S ε α} {x : Ending ε α} (hp : p.Only A)
    (hcompletes : ∀ o, A o → ∀ s r s', W.completes o s r s' → W'.completes o s r s')
    (hinterrupted : ∀ o, A o → ∀ s s', W.interrupted o s s' → W'.interrupted o s s') (h : p.Runs W s cs x s') :
    p.Runs W' s cs x s' := by
  induction h with
  | ret a s => exact .ret a s
  | raise e s => exact .raise e s
  | killed p s => exact .killed p s
  | interrupted h => exact .interrupted (hinterrupted _ hp.1 _ _ h)
  | call h _ ih => exact .call (hcompletes _ hp.1 _ _ _ h) (ih (hp.2 _))

/-- The calls of a run are among those of the program. -/
theorem Only.runs {A : S.Op → Prop} {p : Prog S ε α} {x : Ending ε α} (hp : p.Only A) (h : p.Runs W s cs x s') :
    ∀ c ∈ cs, A c.op := by
  induction h with
  | ret | raise | killed | interrupted => exact nofun
  | call h hk ih =>
    intro c hc
    rcases List.mem_cons.mp hc with rfl | hc
    · exact hp.1
    · exact ih (hp.2 _) c hc

/-- A run of an embedded program is one of the program, over the effects of its part. -/
theorem runs_embed {E : Embedding S T} {W : Effects T ε σ} {p : Prog S ε α} {cs : List (Call T ε)} {x : Ending ε α}
    (h : (p.embed E).Runs W s cs x s') :
    ∃ cs₀, p.Runs (W.comap E) s cs₀ x s' ∧ cs = cs₀.map (Call.embed E) := by
  induction p generalizing s cs with
  | ret a => cases h with
    | ret => exact ⟨[], .ret a _, rfl⟩
    | killed => exact ⟨[], .killed _ _, rfl⟩
  | raise e => cases h with
    | raise => exact ⟨[], .raise e _, rfl⟩
    | killed => exact ⟨[], .killed _ _, rfl⟩
  | hang => cases h with
    | killed => exact ⟨[], .killed _ _, rfl⟩
  | call o k ih => cases h with
    | killed => exact ⟨[], .killed _ _, rfl⟩
    | interrupted h => exact ⟨[], .interrupted h, rfl⟩
    | @call _ _ _ s₁ _ r cs _ h hk =>
      obtain ⟨cs₀, hp, rfl⟩ := ih _ hk
      have hr := E.map_symm_map o r
      refine ⟨⟨o, r.map (E.ret o).symm⟩ :: cs₀, .call ?_ hp, ?_⟩
      · show W.completes (E.op o) s ((r.map (E.ret o).symm).map (E.ret o)) s₁
        rwa [hr]
      · rw [List.map_cons, Call.embed, hr]

end Prog

end

/-! ## A directory -/

/-- The calls of a replacement, on files by name. -/
inductive FileOp (Name Doc : Type) where
  | mkdir
  | openTmp (tmp : Name)
  /-- Serialize the document into the open file, and flush it. -/
  | write (tmp : Name) (doc : Doc)
  | sync (tmp : Name)
  | unlink (tmp : Name)
  | replace (tmp name : Name)
  | chmod (name : Name)

abbrev fileSig (Name Doc : Type) : Sig := ⟨FileOp Name Doc, fun _ => Unit⟩

section

variable {Name Doc ε : Type} {tmp name n : Name} {doc : Doc}

abbrev callFile (o : FileOp Name Doc) : Prog (fileSig Name Doc) ε Unit := Prog.perform (S := fileSig Name Doc) o

/-- The files that a call may change. -/
def FileOp.touches : FileOp Name Doc → Name → Prop
  | .openTmp tmp, n => n = tmp
  | .write tmp _, n => n = tmp
  | .unlink tmp, n => n = tmp
  | .replace tmp name, n => n = tmp ∨ n = name
  | _, _ => False

/-- A call beside the target: on the sibling file only, with this document. -/
def FileOp.Beside (tmp : Name) (doc : Doc) : FileOp Name Doc → Prop
  | .mkdir => True
  | .openTmp n => n = tmp
  | .write n doc' => n = tmp ∧ doc' = doc
  | .sync n => n = tmp
  | .unlink n => n = tmp
  | .replace _ _ => False
  | .chmod _ => False

theorem FileOp.Beside.not_touches {o : FileOp Name Doc} (h : o.Beside tmp doc) (hn : n ≠ tmp) : ¬ o.touches n := by
  cases o with
  | mkdir | sync | chmod => exact id
  | openTmp | unlink =>
    obtain rfl := h
    exact hn
  | write =>
    obtain ⟨rfl, -⟩ := h
    exact hn
  | replace => cases h

theorem only_beside {o : FileOp Name Doc} (h : o.Beside tmp doc) :
    (callFile o : Prog (fileSig Name Doc) ε Unit).Only (FileOp.Beside tmp doc) :=
  Prog.only_perform (S := fileSig Name Doc) h

/-! ## The replacement -/

variable (isMissing : ε → Bool)

/-- Fill the sibling file, or unlink it and raise again. -/
def fillSibling (tmp : Name) (doc : Doc) : Prog (fileSig Name Doc) ε Unit :=
  ((callFile (.write tmp doc)).bind fun _ =>
    callFile (.sync tmp)).tryCatch fun e =>
      ((callFile (.unlink tmp)).tryCatch fun e' =>
        if isMissing e' then .ret () else .raise e').bind fun _ => .raise e

/-- Create the sibling file and fill it. -/
def prepareSibling (tmp : Name) (doc : Doc) : Prog (fileSig Name Doc) ε Unit :=
  (callFile .mkdir).bind fun _ =>
  (callFile (.openTmp tmp)).bind fun _ => fillSibling isMissing tmp doc

/-- Write a sibling file and rename it over the target. -/
def replaceFile (tmp name : Name) (doc : Doc) : Prog (fileSig Name Doc) ε Unit :=
  (prepareSibling isMissing tmp doc).bind fun _ =>
  (callFile (.replace tmp name)).bind fun _ =>
  callFile (.chmod name)

variable {isMissing}

theorem fillSibling_beside : (fillSibling isMissing tmp doc).Only (FileOp.Beside tmp doc) := by
  have hwrite : (callFile (.write tmp doc) : Prog (fileSig Name Doc) ε Unit).Only (FileOp.Beside tmp doc) :=
    only_beside ⟨rfl, rfl⟩
  have hsync : (callFile (.sync tmp) : Prog (fileSig Name Doc) ε Unit).Only (FileOp.Beside tmp doc) :=
    only_beside rfl
  have hunlink : (callFile (.unlink tmp) : Prog (fileSig Name Doc) ε Unit).Only (FileOp.Beside tmp doc) :=
    only_beside rfl
  refine (hwrite.bind fun _ => hsync).tryCatch fun e => (hunlink.tryCatch fun e' => ?_).bind fun _ => trivial
  split_ifs
  · trivial
  · trivial

theorem prepareSibling_beside : (prepareSibling isMissing tmp doc).Only (FileOp.Beside tmp doc) :=
  (only_beside (o := .mkdir) trivial).bind fun _ => (only_beside (o := .openTmp tmp) rfl).bind fun _ =>
    fillSibling_beside

/-- The calls of a replacement. -/
def FileOp.OfReplacement (tmp name : Name) (doc : Doc) (o : FileOp Name Doc) : Prop :=
  o.Beside tmp doc ∨ o = .replace tmp name ∨ o = .chmod name

theorem FileOp.OfReplacement.cases {o : FileOp Name Doc} (h : o.OfReplacement tmp name doc) :
    o = .mkdir ∨ o = .openTmp tmp ∨ o = .write tmp doc ∨ o = .sync tmp ∨ o = .unlink tmp ∨
      o = .replace tmp name ∨ o = .chmod name := by
  obtain h | rfl | rfl := h
  · cases o with
    | mkdir => simp
    | openTmp | sync | unlink =>
      obtain rfl := h
      simp
    | write =>
      obtain ⟨rfl, rfl⟩ := h
      simp
    | replace | chmod => cases h
  · simp
  · simp

theorem replaceFile_only : (replaceFile isMissing tmp name doc).Only (FileOp.OfReplacement tmp name doc) := by
  refine Prog.Only.bind (prepareSibling_beside.mono fun _ ho => .inl ho) fun _ => ?_
  exact (Prog.only_perform (S := fileSig Name Doc) (.inr (.inl rfl))).bind fun _ =>
    Prog.only_perform (S := fileSig Name Doc) (.inr (.inr rfl))

/-- A replacement that comes to its end has renamed the file. -/
theorem replaceFile_ok {σ : Type} {W : Effects (fileSig Name Doc) ε σ} {cs : List (Call (fileSig Name Doc) ε)}
    {s s' : σ} {u : Unit} (h : (replaceFile isMissing tmp name doc).Runs W s cs (.finished (.ok u)) s') :
    ⟨.replace tmp name, .ok ()⟩ ∈ cs := by
  obtain ⟨hx, -⟩ | ⟨e, hx, -⟩ | ⟨a, d₁, cs₁, cs₂, -, hrename, rfl⟩ := Prog.runs_bind h
  · cases hx
  · cases hx
  · obtain ⟨hx, -⟩ | ⟨e, hx, -⟩ | ⟨b, d₂, cs₃, cs₄, hreplace, -, rfl⟩ := Prog.runs_bind hrename
    · cases hx
    · cases hx
    · obtain ⟨rfl, -⟩ := Prog.runs_perform_finished hreplace
      exact List.mem_append_right _ (List.mem_append_left _ List.mem_cons_self)

/-- A call is among the embedded ones when it is among the calls, if the embedding keeps these apart. -/
theorem mem_map_embed_iff {T : Sig} {E : Embedding (fileSig Name Doc) T} {A : FileOp Name Doc → Prop}
    {cs : List (Call (fileSig Name Doc) ε)} (hcs : ∀ c ∈ cs, A c.op)
    (hinj : ∀ o o', A o → A o' → E.op o = E.op o' → o = o') {o : FileOp Name Doc} (ho : A o) (r : Except ε Unit) :
    Call.embed E ⟨o, r⟩ ∈ cs.map (Call.embed E) ↔ ⟨o, r⟩ ∈ cs := by
  constructor
  · intro h
    obtain ⟨⟨o', r'⟩, hmem, heq⟩ := List.mem_map.mp h
    obtain rfl : o' = o := hinj o' o (hcs _ hmem) ho (congrArg Call.op heq)
    have hr : r'.map (E.ret o') = r.map (E.ret o') := by simpa [Call.embed] using heq
    suffices r' = r by rwa [this] at hmem
    cases r' with
    | ok u => cases r with
      | ok u' => rfl
      | error e => cases hr
    | error e' => cases r with
      | ok u' => cases hr
      | error e => exact congrArg Except.error (Except.error.inj hr)
  · exact fun h => List.mem_map_of_mem h

/-- Writing or syncing the sibling file has failed. -/
def WriteFailed (tmp : Name) (doc : Doc) (cs : List (Call (fileSig Name Doc) ε)) : Prop :=
  ∃ e : ε, ⟨.write tmp doc, .error e⟩ ∈ cs ∨ ⟨.sync tmp, .error e⟩ ∈ cs

/-- Nothing was written before the filling. -/
theorem not_writeFailed_append {cs₁ cs₂ : List (Call (fileSig Name Doc) ε)}
    (h : ∀ c ∈ cs₁, c.op = .mkdir ∨ c.op = .openTmp tmp) :
    WriteFailed tmp doc (cs₁ ++ cs₂) ↔ WriteFailed tmp doc cs₂ := by
  have hnot (o : FileOp Name Doc) (ho : o ≠ .mkdir ∧ o ≠ .openTmp tmp) (r : Except ε Unit) :
      (⟨o, r⟩ : Call (fileSig Name Doc) ε) ∉ cs₁ := by
    intro hmem
    obtain heq | heq := h _ hmem
    · exact ho.1 heq
    · exact ho.2 heq
  unfold WriteFailed
  simp only [List.mem_append, hnot (.write tmp doc) ⟨nofun, nofun⟩, hnot (.sync tmp) ⟨nofun, nofun⟩, false_or]

end

/-! ## Its effects -/

section

variable {Name Doc Bytes ε : Type} [DecidableEq Name] (encode : Doc → Bytes) (empty : Bytes) (isMissing : ε → Bool)

/-- What a completed call does to the files.  A failing one leaves anything in the file that it writes to. -/
def fileCompletes : FileOp Name Doc → (Name → Option Bytes) → Except ε Unit → (Name → Option Bytes) → Prop
  | .openTmp tmp, d, r, d' =>
    ((∃ e, r = .error e) ∧ ∃ content, d' = Function.update d tmp content) ∨
      r = .ok () ∧ d' = Function.update d tmp (some empty)
  | .write tmp doc, d, r, d' =>
    ((∃ e, r = .error e) ∧ ∃ content, d' = Function.update d tmp content) ∨
      r = .ok () ∧ d' = Function.update d tmp (some (encode doc))
  | .unlink tmp, d, r, d' =>
    (∃ e, r = .error e ∧ (isMissing e = true → d tmp = none) ∧ d' = d) ∨
      r = .ok () ∧ d' = Function.update d tmp none
  | .replace tmp name, d, r, d' =>
    -- the renaming is atomic
    ((∃ e, r = .error e) ∧ d' = d) ∨
      r = .ok () ∧ ∃ bytes, d tmp = some bytes ∧ d' = Function.update (Function.update d tmp none) name (some bytes)
  | .mkdir, d, _, d' => d' = d
  | .sync _, d, _, d' => d' = d
  | .chmod _, d, _, d' => d' = d

/-- What a call does in which the process dies: a file that is being written holds anything. -/
def fileInterrupted : FileOp Name Doc → (Name → Option Bytes) → (Name → Option Bytes) → Prop
  | .openTmp tmp, d, d' => ∃ content, d' = Function.update d tmp content
  | .write tmp _, d, d' => ∃ content, d' = Function.update d tmp content
  | _, d, d' => d' = d

/-- The effects on a directory. -/
def fileEffects : Effects (fileSig Name Doc) ε (Name → Option Bytes) where
  completes := fileCompletes encode empty isMissing
  interrupted := fileInterrupted

variable {encode empty isMissing} {tmp name n : Name} {doc : Doc} {d d' : Name → Option Bytes}
  {cs : List (Call (fileSig Name Doc) ε)}

theorem fileCompletes_frame {o : FileOp Name Doc} {r : Except ε Unit} (hn : ¬ o.touches n)
    (h : fileCompletes encode empty isMissing o d r d') : d' n = d n := by
  cases o with
  | mkdir | sync | chmod => exact congrFun h n
  | openTmp tmp | write tmp doc =>
    obtain ⟨-, content, rfl⟩ | ⟨-, rfl⟩ := h
    · exact Function.update_of_ne hn _ _
    · exact Function.update_of_ne hn _ _
  | unlink tmp =>
    obtain ⟨e, -, -, rfl⟩ | ⟨-, rfl⟩ := h
    · rfl
    · exact Function.update_of_ne hn _ _
  | replace tmp name =>
    obtain ⟨-, rfl⟩ | ⟨-, bytes, -, rfl⟩ := h
    · rfl
    · rw [Function.update_of_ne (fun h => hn (.inr h)), Function.update_of_ne (fun h => hn (.inl h))]

theorem fileInterrupted_frame {o : FileOp Name Doc} (hn : ¬ o.touches n) (h : fileInterrupted o d d') :
    d' n = d n := by
  cases o with
  | openTmp tmp | write tmp doc =>
    obtain ⟨content, rfl⟩ := h
    exact Function.update_of_ne hn _ _
  | mkdir | sync | chmod | unlink | replace => exact congrFun h n

/-- A program changes no file that its calls do not touch. -/
theorem runs_frame {α : Type} {p : Prog (fileSig Name Doc) ε α} {x : Ending ε α}
    (hp : p.Only fun o : FileOp Name Doc => ¬ o.touches n)
    (h : p.Runs (fileEffects encode empty isMissing) d cs x d') : d' n = d n := by
  induction h with
  | ret | raise | killed => rfl
  | interrupted h => exact fileInterrupted_frame hp.1 h
  | call h hk ih => exact (ih (hp.2 _)).trans (fileCompletes_frame hp.1 h)

theorem writeSync_ok {u : Unit} (h : ((callFile (.write tmp doc)).bind fun _ =>
    callFile (.sync tmp)).Runs (fileEffects encode empty isMissing) d cs
      (.finished (.ok u)) d') : d' tmp = some (encode doc) ∧ ¬ WriteFailed tmp doc cs := by
  obtain ⟨hx, -⟩ | ⟨e, hx, -⟩ | ⟨a, d₁, cs₁, cs₂, hwrite, hsync, rfl⟩ := Prog.runs_bind h
  · cases hx
  · cases hx
  · obtain ⟨rfl, hwritten⟩ := Prog.runs_perform_finished hwrite
    obtain ⟨rfl, rfl : d' = d₁⟩ := Prog.runs_perform_finished hsync
    obtain ⟨⟨e, he⟩, -⟩ | ⟨-, rfl⟩ := hwritten
    · cases he
    · refine ⟨Function.update_self _ _ _, ?_⟩
      rintro ⟨e, he⟩
      simp at he

/-- A filled file holds the whole document. -/
theorem fillSibling_ok {u : Unit} (h : (fillSibling isMissing tmp doc).Runs (fileEffects encode empty isMissing) d cs
    (.finished (.ok u)) d') : d' tmp = some (encode doc) ∧ ¬ WriteFailed tmp doc cs := by
  obtain ⟨hx, -⟩ | ⟨a, -, hfilled⟩ | ⟨e, d₁, cs₁, cs₂, -, hhandler, -⟩ := Prog.runs_tryCatch h
  · cases hx
  · exact writeSync_ok hfilled
  · -- the handler raises again
    obtain ⟨hx, -⟩ | ⟨e, hx, -⟩ | ⟨a, d₂, cs₃, cs₄, -, hraise, -⟩ := Prog.runs_bind hhandler
    · cases hx
    · cases hx
    · cases hraise

/-- The handler removes the file, unless unlinking it fails. -/
theorem unlinkSibling_finished {x : Except ε Unit}
    (h : ((callFile (.unlink tmp)).tryCatch fun e =>
      if isMissing e then .ret () else .raise e).Runs (fileEffects encode empty isMissing) d cs (.finished x) d') :
    d' tmp = none ∨ ∃ e, isMissing e = false ∧ ⟨.unlink tmp, .error e⟩ ∈ cs := by
  obtain ⟨hx, -⟩ | ⟨a, -, hunlink⟩ | ⟨e, d₁, cs₁, cs₂, hunlink, hhandler, rfl⟩ := Prog.runs_tryCatch h
  · cases hx
  · obtain ⟨-, ⟨e, he, -⟩ | ⟨-, rfl⟩⟩ := Prog.runs_perform_finished hunlink
    · cases he
    · exact .inl (Function.update_self _ _ _)
  · obtain ⟨rfl, ⟨e', he, hmissing, rfl⟩ | ⟨hok, -⟩⟩ := Prog.runs_perform_finished hunlink
    · obtain rfl := Except.error.inj he
      cases hcase : isMissing e with
      | true =>
        rw [hcase] at hhandler
        cases hhandler
        exact .inl (hmissing hcase)
      | false => exact .inr ⟨e, hcase, List.mem_append_left _ List.mem_cons_self⟩
    · cases hok

/-- A file that could not be filled is gone, unless unlinking it failed as well. -/
theorem fillSibling_error {e : ε} (h : (fillSibling isMissing tmp doc).Runs (fileEffects encode empty isMissing) d cs
    (.finished (.error e)) d') :
    d' tmp = none ∨ ∃ e', isMissing e' = false ∧ ⟨.unlink tmp, .error e'⟩ ∈ cs := by
  obtain ⟨hx, -⟩ | ⟨a, hx, -⟩ | ⟨e₁, d₁, cs₁, cs₂, -, hhandler, rfl⟩ := Prog.runs_tryCatch h
  · cases hx
  · cases hx
  · have hgone : d' tmp = none ∨ ∃ e', isMissing e' = false ∧ ⟨.unlink tmp, .error e'⟩ ∈ cs₂ := by
      obtain ⟨hx, -⟩ | ⟨e₂, -, hunlink⟩ | ⟨a, d₂, cs₃, cs₄, hunlink, hraise, rfl⟩ := Prog.runs_bind hhandler
      · cases hx
      · exact unlinkSibling_finished hunlink
      · cases hraise
        rw [List.append_nil]
        exact unlinkSibling_finished hunlink
    refine hgone.imp_right ?_
    rintro ⟨e', hmissing, hmem⟩
    exact ⟨e', hmissing, List.mem_append_right _ hmem⟩

/-- Calls beside the target leave it as it is, and do not replace it. -/
theorem runs_beside {α : Type} {p : Prog (fileSig Name Doc) ε α} {x : Ending ε α} (hne : name ≠ tmp)
    (hp : p.Only (FileOp.Beside tmp doc)) (h : p.Runs (fileEffects encode empty isMissing) d cs x d') :
    d' name = d name ∧ ∀ r, ⟨.replace tmp name, r⟩ ∉ cs :=
  ⟨runs_frame (hp.mono fun _ ho => ho.not_touches hne) h, fun r hr => hp.runs h ⟨.replace tmp name, r⟩ hr⟩

/-- Where a run of the preparation stands when it answers: before the filling, or at its end. -/
theorem prepareSibling_finished {x : Except ε Unit}
    (h : (prepareSibling isMissing tmp doc).Runs (fileEffects encode empty isMissing) d cs (.finished x) d') :
    (∃ e, x = .error e ∧ ∀ c ∈ cs, c.op = .mkdir ∨ c.op = .openTmp tmp) ∨
      ∃ d₁ cs₁ cs₂, (fillSibling isMissing tmp doc).Runs (fileEffects encode empty isMissing) d₁ cs₂ (.finished x) d' ∧
        cs = cs₁ ++ cs₂ ∧ ∀ c ∈ cs₁, c.op = .mkdir ∨ c.op = .openTmp tmp := by
  obtain ⟨hx, -⟩ | ⟨e, hx, hmkdir⟩ | ⟨a, d₁, cs₁, cs₂, hmkdir, hrest, rfl⟩ := Prog.runs_bind h
  · cases hx
  · obtain ⟨rfl, -⟩ := Prog.runs_perform_finished hmkdir
    exact .inl ⟨e, Ending.finished.inj hx, by simp⟩
  · obtain ⟨rfl, -⟩ := Prog.runs_perform_finished hmkdir
    obtain ⟨hx, -⟩ | ⟨e, hx, hopen⟩ | ⟨b, d₂, cs₃, cs₄, hopen, hfill, rfl⟩ := Prog.runs_bind hrest
    · cases hx
    · obtain ⟨rfl, -⟩ := Prog.runs_perform_finished hopen
      exact .inl ⟨e, Ending.finished.inj hx, by simp⟩
    · obtain ⟨rfl, -⟩ := Prog.runs_perform_finished hopen
      exact .inr ⟨d₂, [⟨.mkdir, .ok a⟩, ⟨.openTmp tmp, .ok b⟩], cs₄, hfill, rfl, by simp⟩

/-- A prepared file holds the whole document. -/
theorem prepareSibling_ok {u : Unit} (h : (prepareSibling isMissing tmp doc).Runs (fileEffects encode empty isMissing)
    d cs (.finished (.ok u)) d') : d' tmp = some (encode doc) ∧ ¬ WriteFailed tmp doc cs := by
  obtain ⟨e, hx, -⟩ | ⟨d₁, cs₁, cs₂, hfill, rfl, hbefore⟩ := prepareSibling_finished h
  · cases hx
  · rw [not_writeFailed_append hbefore]
    exact fillSibling_ok hfill

/-- A file that could not be filled is gone, unless unlinking it failed as well. -/
theorem prepareSibling_error {e : ε} (h : (prepareSibling isMissing tmp doc).Runs
    (fileEffects encode empty isMissing) d cs (.finished (.error e)) d') (hfailed : WriteFailed tmp doc cs) :
    d' tmp = none ∨ ∃ e', isMissing e' = false ∧ ⟨.unlink tmp, .error e'⟩ ∈ cs := by
  obtain ⟨e', -, hbefore⟩ | ⟨d₁, cs₁, cs₂, hfill, rfl, hbefore⟩ := prepareSibling_finished h
  · rw [← List.append_nil cs, not_writeFailed_append hbefore] at hfailed
    obtain ⟨e'', hmem | hmem⟩ := hfailed
    · cases hmem
    · cases hmem
  · refine (fillSibling_error hfill).imp_right ?_
    rintro ⟨e', hmissing, hmem⟩
    exact ⟨e', hmissing, List.mem_append_right _ hmem⟩

/-- The renaming over the target, of a sibling file that holds these bytes. -/
theorem rename_runs {bytes : Bytes} {x : Ending ε Unit} (htmp : d tmp = some bytes)
    (h : ((callFile (.replace tmp name)).bind fun _ => callFile (.chmod name)).Runs
      (fileEffects encode empty isMissing) d cs x d') :
    (⟨.replace tmp name, .ok ()⟩ ∈ cs → d' name = some bytes) ∧
      (⟨.replace tmp name, .ok ()⟩ ∉ cs → d' = d) ∧ ¬ WriteFailed tmp doc cs := by
  have hinstall {r : Except ε Unit} {d₁ : Name → Option Bytes}
      (hr : fileCompletes encode empty isMissing (.replace tmp name) d r d₁) :
      (r = .ok () ∧ d₁ name = some bytes) ∨ ((∃ e, r = .error e) ∧ d₁ = d) := by
    obtain hfails | ⟨rfl, bytes', hbytes, rfl⟩ := hr
    · exact .inr hfails
    · exact .inl ⟨rfl, by rw [Function.update_self, ← hbytes, htmp]⟩
  obtain ⟨rfl, hreplace⟩ | ⟨e, rfl, hreplace⟩ | ⟨u, d₁, cs₁, cs₂, hreplace, hchmod, rfl⟩ := Prog.runs_bind h
  · obtain ⟨rfl, -, hd⟩ | ⟨r, rfl, -, hr⟩ := Prog.runs_perform hreplace
    · refine ⟨nofun, fun _ => ?_, by rintro ⟨e, h | h⟩ <;> cases h⟩
      obtain rfl | hd := hd
      · rfl
      · exact hd
    · obtain ⟨rfl, hinstalled⟩ | ⟨⟨e, rfl⟩, rfl⟩ := hinstall hr
      · exact ⟨fun _ => hinstalled, fun hnot => absurd List.mem_cons_self hnot, by simp [WriteFailed]⟩
      · exact ⟨fun hmem => by simp at hmem, fun _ => rfl, by simp [WriteFailed]⟩
  · obtain ⟨rfl, hr⟩ := Prog.runs_perform_finished hreplace
    obtain ⟨hok, -⟩ | ⟨-, rfl⟩ := hinstall hr
    · cases hok
    · exact ⟨fun hmem => by simp at hmem, fun _ => rfl, by simp [WriteFailed]⟩
  · obtain ⟨rfl, hr⟩ := Prog.runs_perform_finished hreplace
    obtain ⟨-, hinstalled⟩ | ⟨⟨e, he⟩, -⟩ := hinstall hr
    · have hmode : (callFile (.chmod name) : Prog (fileSig Name Doc) ε Unit).Only
          fun o : FileOp Name Doc => o = .chmod name :=
        Prog.only_perform (S := fileSig Name Doc) rfl
      have hsame : d' name = d₁ name :=
        runs_frame (hmode.mono fun o ho => by rw [ho]; exact id) hchmod
      refine ⟨fun _ => hsame.trans hinstalled, fun hnot => absurd List.mem_cons_self hnot, ?_⟩
      rintro ⟨e, hmem | hmem⟩
      · obtain hmem | hmem := List.mem_cons.mp hmem
        · cases hmem
        · cases hmode.runs hchmod _ hmem
      · obtain hmem | hmem := List.mem_cons.mp hmem
        · cases hmem
        · cases hmode.runs hchmod _ hmem
    · cases he

/-- What a run of the replacement leaves. -/
structure ReplacedOrKept (encode : Doc → Bytes) (isMissing : ε → Bool) (tmp name : Name) (doc : Doc)
    (d : Name → Option Bytes) (cs : List (Call (fileSig Name Doc) ε)) (x : Ending ε Unit) (d' : Name → Option Bytes) :
    Prop where
  replaced : ⟨.replace tmp name, .ok ()⟩ ∈ cs → d' name = some (encode doc)
  kept : ⟨.replace tmp name, .ok ()⟩ ∉ cs → d' name = d name
  others : ∀ n, n ≠ name → n ≠ tmp → d' n = d n
  cleaned : x ≠ .killed → WriteFailed tmp doc cs →
    d' tmp = none ∨ ∃ e, isMissing e = false ∧ ⟨.unlink tmp, .error e⟩ ∈ cs

theorem replaceFile_frame {x : Ending ε Unit} (hname : n ≠ name) (htmp : n ≠ tmp)
    (h : (replaceFile isMissing tmp name doc).Runs (fileEffects encode empty isMissing) d cs x d') : d' n = d n := by
  refine runs_frame (Prog.Only.bind (prepareSibling_beside.mono fun _ ho => ho.not_touches htmp) fun _ => ?_) h
  have hreplace : ¬ (FileOp.replace tmp name : FileOp Name Doc).touches n := not_or.mpr ⟨htmp, hname⟩
  exact (Prog.only_perform (S := fileSig Name Doc) hreplace).bind fun _ => Prog.only_perform (S := fileSig Name Doc) id

/-- **The replacement is atomic**, whatever was there before and however the run ends. -/
theorem replaceFile_runs {x : Ending ε Unit} (hne : name ≠ tmp)
    (h : (replaceFile isMissing tmp name doc).Runs (fileEffects encode empty isMissing) d cs x d') :
    ReplacedOrKept encode isMissing tmp name doc d cs x d' := by
  have hframe (n) (hname : n ≠ name) (htmp : n ≠ tmp) := replaceFile_frame hname htmp h
  obtain ⟨rfl, hprepare⟩ | ⟨e, rfl, hprepare⟩ | ⟨u, d₁, cs₁, cs₂, hprepare, hrename, rfl⟩ := Prog.runs_bind h
  · -- killed before the renaming
    obtain ⟨hkept, hnot⟩ := runs_beside hne prepareSibling_beside hprepare
    exact ⟨fun hr => absurd hr (hnot _), fun _ => hkept, hframe, fun hx => absurd rfl hx⟩
  · obtain ⟨hkept, hnot⟩ := runs_beside hne prepareSibling_beside hprepare
    exact ⟨fun hr => absurd hr (hnot _), fun _ => hkept, hframe, fun _ => prepareSibling_error hprepare⟩
  · -- the sibling file is complete
    obtain ⟨hkept, hnot⟩ := runs_beside hne prepareSibling_beside hprepare
    obtain ⟨hfilled, hwritten⟩ := prepareSibling_ok hprepare
    obtain ⟨hreplaced, hsame, hwritten'⟩ := rename_runs hfilled hrename
    refine ⟨fun hmem => ?_, fun hmem => ?_, hframe, ?_⟩
    · exact hreplaced ((List.mem_append.mp hmem).resolve_left (hnot _))
    · rw [hsame fun hr => hmem (List.mem_append_right _ hr), hkept]
    · rintro - ⟨e, hmem⟩
      simp only [List.mem_append] at hmem
      obtain (h₁ | h₂) | (h₁ | h₂) := hmem
      · exact absurd ⟨e, .inl h₁⟩ hwritten
      · exact absurd ⟨e, .inl h₂⟩ hwritten'
      · exact absurd ⟨e, .inr h₁⟩ hwritten
      · exact absurd ⟨e, .inr h₂⟩ hwritten'

/-- The same of a program that makes these calls under other names, which it keeps apart. -/
theorem replaceFile_embed_runs {T : Sig} {E : Embedding (fileSig Name Doc) T} {W : Effects T ε (Name → Option Bytes)}
    {x : Ending ε Unit} {cs : List (Call T ε)} (hne : name ≠ tmp)
    (hinj : ∀ o o' : FileOp Name Doc, o.OfReplacement tmp name doc → o'.OfReplacement tmp name doc →
      E.op o = E.op o' → o = o')
    (hcompletes : ∀ o : FileOp Name Doc, o.OfReplacement tmp name doc → ∀ d r d',
      W.completes (E.op o) d (r.map (E.ret o)) d' → fileCompletes encode empty isMissing o d r d')
    (hinterrupted : ∀ o : FileOp Name Doc, o.OfReplacement tmp name doc → ∀ d d',
      W.interrupted (E.op o) d d' → fileInterrupted o d d')
    (h : ((replaceFile isMissing tmp name doc).embed E).Runs W d cs x d') :
    (Call.embed E ⟨.replace tmp name, .ok ()⟩ ∈ cs → d' name = some (encode doc)) ∧
    (Call.embed E ⟨.replace tmp name, .ok ()⟩ ∉ cs → d' name = d name) ∧
    ((∃ e, Call.embed E ⟨.write tmp doc, .error e⟩ ∈ cs ∨ Call.embed E ⟨.sync tmp, .error e⟩ ∈ cs) → x ≠ .killed →
      d' tmp = none ∨ ∃ e, isMissing e = false ∧ Call.embed E ⟨.unlink tmp, .error e⟩ ∈ cs) := by
  obtain ⟨cs₀, hruns, rfl⟩ := Prog.runs_embed h
  have hcs := replaceFile_only.runs hruns
  have hmem {o : FileOp Name Doc} (ho : o.OfReplacement tmp name doc) (r : Except ε Unit) :=
    mem_map_embed_iff hcs hinj ho r
  have hruns' : (replaceFile isMissing tmp name doc).Runs (fileEffects encode empty isMissing) d cs₀ x d' :=
    hruns.weaken replaceFile_only hcompletes hinterrupted
  have hleft := replaceFile_runs hne hruns'
  simp only [hmem (.inr (.inl rfl)), hmem (o := .write tmp doc) (.inl ⟨rfl, rfl⟩), hmem (o := .sync tmp) (.inl rfl),
    hmem (o := .unlink tmp) (.inl rfl)]
  exact ⟨hleft.replaced, hleft.kept, fun hfailed hx => hleft.cleaned hx hfailed⟩

end

end CertWatch.Lib
