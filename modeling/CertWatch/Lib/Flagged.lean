/-
# `CertWatch.Lib.Flagged` — tasks that look at a flag before they begin, and the signal that sets it.

The workers of an executor share a flag with a client and with surroundings that may set it at any moment.  A task
that goes on only when it found the flag clear is past its gate; after the signal no other task passes, and those
that have passed are no more than the executor has workers, so a signal stops the work that has not begun and leaves
the rest alone.  The world keeps everything that happens, so that this can be said of the order of events.
-/
import CertWatch.Lib.ExecutorRuns

namespace CertWatch.Lib

variable {C S : Sig} {ω ε β γ μ : Type}

/-! ## The world -/

/-- What happens around the flag: a call of the task with this number, a call of the client, or a signal. -/
inductive Noted (S C : Sig) (ε μ : Type) where
  | task (n : Nat) (c : Call S ε)
  | own (c : Call C ε)
  | signal (m : μ)

/-- The flag, and everything that has happened. -/
structure Flagged (S C : Sig) (ε μ : Type) where
  set : Bool := false
  history : List (Noted S C ε μ) := []

namespace Flagged

/-- The calls of the tasks. -/
def log (s : Flagged S C ε μ) : List (Nat × Call S ε) := s.history.filterMap fun e => match e with
  | .task n c => some (n, c)
  | _ => none

/-- The calls of one task. -/
def callsOf (s : Flagged S C ε μ) (n : Nat) : List (Call S ε) := ownEvents n s.log

section

variable (answers : Nat → Bool → (o : S.Op) → Except ε (S.Ret o) → Prop)
  (ownAnswers : Bool → (o : C.Op) → Except ε (C.Ret o) → Prop)

/-- A task's call is answered as the flag allows. -/
def exec (n : Nat) (o : S.Op) (s : Flagged S C ε μ) (r : Except ε (S.Ret o)) (s' : Flagged S C ε μ) : Prop :=
  answers n s.set o r ∧ s' = { s with history := s.history ++ [.task n ⟨o, r⟩] }

/-- So is a call of the client. -/
def own (o : C.Op) (s : Flagged S C ε μ) (r : Except ε (C.Ret o)) (s' : Flagged S C ε μ) : Prop :=
  ownAnswers s.set o r ∧ s' = { s with history := s.history ++ [.own ⟨o, r⟩] }

end

/-- A signal sets the flag. -/
def env (s s' : Flagged S C ε μ) : Prop := ∃ m, s' = { set := true, history := s.history ++ [.signal m] }

/-- What a run comes to, from a flag that is clear. -/
abbrev Reachable (answers : Nat → Bool → (o : S.Op) → Except ε (S.Ret o) → Prop)
    (ownAnswers : Bool → (o : C.Op) → Except ε (C.Ret o) → Prop) (program : ω → Prog S ε β)
    (client : Prog (clientSig C ω β) ε γ) : Serving C S ω ε β γ (Flagged S C ε μ) → Prop :=
  Serving.Reachable program (exec answers) (own ownAnswers) env client {}

variable {answers : Nat → Bool → (o : S.Op) → Except ε (S.Ret o) → Prop}
  {ownAnswers : Bool → (o : C.Op) → Except ε (C.Ret o) → Prop}

/-- The history keeps the calls of the tasks. -/
theorem logs : Serving.Logs (exec answers) (own ownAnswers) env (log (S := S) (C := C) (ε := ε) (μ := μ)) where
  exec := by
    rintro n o s r s' ⟨-, rfl⟩
    exact List.filterMap_append
  own := by
    rintro o s r s' ⟨-, rfl⟩
    exact List.filterMap_append.trans (List.append_nil _)
  env := by
    rintro s s' ⟨m, rfl⟩
    exact List.filterMap_append.trans (List.append_nil _)

theorem mem_callsOf {s : Flagged S C ε μ} {n : Nat} {c : Call S ε} : c ∈ s.callsOf n ↔ .task n c ∈ s.history := by
  rw [callsOf, mem_ownEvents_iff, log, List.mem_filterMap]
  constructor
  · rintro ⟨e, he, hcall⟩
    cases e with
    | task m c' =>
      cases hcall
      exact he
    | own c' => cases hcall
    | signal m => cases hcall
  · intro h
    exact ⟨_, h, rfl⟩

/-! ## The flag -/

variable {program : ω → Prog S ε β} {client : Prog (clientSig C ω β) ε γ}
  {V : Serving C S ω ε β γ (Flagged S C ε μ)}

/-- The world of a run. -/
abbrev world (V : Serving C S ω ε β γ (Flagged S C ε μ)) : Flagged S C ε μ := V.executor.pool.shared

/-- The flag is set when there was a signal. -/
theorem Reachable.set_iff (h : Reachable answers ownAnswers program client V) :
    (world V).set = true ↔ ∃ m, .signal m ∈ (world V).history := by
  refine h.world (I := fun s => s.set = true ↔ ∃ m, .signal m ∈ s.history) ?_ ?_ ?_ ?_
  · simp
  · rintro n o s r s' ⟨-, rfl⟩ ih
    simpa using ih
  · rintro o s r s' ⟨-, rfl⟩ ih
    simpa using ih
  · rintro s s' ⟨m, rfl⟩ -
    simp

/-- An answer that a task has only when the flag is set comes after a signal. -/
theorem Reachable.signaled (h : Reachable answers ownAnswers program client V) {n : Nat} {c : Call S ε}
    (hc : .task n c ∈ (world V).history) (hset : ¬ answers n false c.op c.answer) :
    ∃ m, .signal m ∈ (world V).history := by
  have hall : (world V).set = true ∨ ∀ n c, .task n c ∈ (world V).history → answers n false c.op c.answer := by
    refine h.world (I := fun s => s.set = true ∨
      ∀ n c, .task n c ∈ s.history → answers n false c.op c.answer) ?_ ?_ ?_ ?_
    · exact .inr fun _ _ => nofun
    · rintro n o s r s' ⟨hanswer, rfl⟩ (hset | ih)
      · exact .inl hset
      cases hflag : s.set with
      | true => exact .inl rfl
      | false =>
        refine .inr fun m c hm => ?_
        rcases List.mem_append.mp hm with hm | hm
        · exact ih m c hm
        · cases List.mem_singleton.mp hm
          rwa [hflag] at hanswer
    · rintro o s r s' ⟨-, rfl⟩ (hset | ih)
      · exact .inl hset
      · exact .inr fun m c hm => ih m c (by simpa using hm)
    · rintro s s' ⟨m, rfl⟩ -
      exact .inl rfl
  rcases hall with hflag | hclear
  · exact h.set_iff.mp hflag
  · exact absurd (hclear n c hc) hset

/-! ## The gate -/

/-- A task makes the calls of its work only after a look that found the flag clear, which no look does once the flag
is set. -/
structure Gate (answers : Nat → Bool → (o : S.Op) → Except ε (S.Ret o) → Prop) (program : ω → Prog S ε β)
    (clear : Call S ε) (Work : S.Op → Prop) : Prop where
  unset : ∀ n, ¬ answers n true clear.op clear.answer
  gated : ∀ w n cs p, (program w).Trace cs p → (∀ c ∈ cs, ∃ b, answers n b c.op c.answer) →
    ∀ pre c post, cs = pre ++ c :: post → Work c.op → clear ∈ pre

variable {clear : Call S ε} {Work : S.Op → Prop}

/-- No look finds the flag clear after a signal. -/
theorem Reachable.not_clear (h : Reachable answers ownAnswers program client V)
    (hgate : Gate answers program clear Work) (n : Nat) (m : μ) :
    ¬ Precedes (world V).history (.signal m) (.task n clear) := by
  have hall : (.signal m ∈ (world V).history → (world V).set = true) ∧
      ¬ Precedes (world V).history (.signal m) (.task n clear) := by
    refine h.world (I := fun s => (.signal m ∈ s.history → s.set = true) ∧
      ¬ Precedes s.history (.signal m) (.task n clear)) ⟨nofun, nofun⟩ ?_ ?_ ?_
    · rintro n' o s r s' ⟨hanswer, rfl⟩ ⟨hset, ih⟩
      refine ⟨fun hmem => hset (by simpa using hmem), ?_⟩
      rw [precedes_concat_iff]
      rintro (hbefore | ⟨hmem, hlast⟩)
      · exact ih hbefore
      · -- the flag is set when the task looks
        cases hlast
        rw [hset hmem] at hanswer
        exact hgate.unset n hanswer
    · rintro o s r s' ⟨-, rfl⟩ ⟨hset, ih⟩
      refine ⟨fun hmem => hset (by simpa using hmem), ?_⟩
      rw [precedes_concat_iff]
      rintro (hbefore | ⟨-, hlast⟩)
      · exact ih hbefore
      · cases hlast
    · rintro s s' ⟨m', rfl⟩ ⟨-, ih⟩
      refine ⟨fun _ => rfl, ?_⟩
      rw [precedes_concat_iff]
      rintro (hbefore | ⟨-, hlast⟩)
      · exact ih hbefore
      · cases hlast
  exact hall.2

/-- The work of a task comes after a look that found the flag clear. -/
theorem Reachable.cleared (h : Reachable answers ownAnswers program client V)
    (hgate : Gate answers program clear Work) {n : Nat} {c : Call S ε} (hc : Work c.op)
    {pre post : List (Noted S C ε μ)} (hsplit : (world V).history = pre ++ .task n c :: post) :
    .task n clear ∈ pre := by
  have hcalls : (world V).callsOf n = callsOf ⟨false, pre⟩ n ++ c :: callsOf ⟨false, post⟩ n := by
    simp only [callsOf, log]
    rw [hsplit, List.filterMap_append, List.filterMap_cons, ownEvents_append, ownEvents_cons_self]
  cases hthread : V.executor.pool.threads n with
  | none =>
    have hnone : (world V).callsOf n = [] := (h.traced logs rfl).of_none hthread
    rw [hnone] at hcalls
    simp at hcalls
  | some p =>
    obtain ⟨p₀, ⟨w, -, rfl⟩, htrace⟩ := (h.traced logs rfl).of_some hthread
    have hanswers : ∀ c ∈ (world V).callsOf n, ∃ b, answers n b c.op c.answer := by
      intro c' hc'
      obtain ⟨s, s', hanswer, -⟩ := h.answered logs rfl (mem_ownEvents_iff.mp hc')
      exact ⟨s.set, hanswer⟩
    exact mem_callsOf.mp (hgate.gated w n _ p htrace hanswers _ c _ hcalls hc)

/-- **After a signal only tasks go on that had passed the gate before it.** -/
theorem Reachable.begun_before (h : Reachable answers ownAnswers program client V)
    (hgate : Gate answers program clear Work) {pre post : List (Noted S C ε μ)} {m : μ}
    (hsplit : (world V).history = pre ++ .signal m :: post) {n : Nat} {c : Call S ε} (hcall : .task n c ∈ post)
    (hc : Work c.op) : .task n clear ∈ pre := by
  obtain ⟨post₁, post₂, rfl⟩ := List.append_of_mem hcall
  have hclear : .task n clear ∈ pre ++ .signal m :: post₁ := by
    apply h.cleared hgate hc
    rw [hsplit, List.append_assoc, List.cons_append]
  rcases List.mem_append.mp hclear with hclear | hclear
  · exact hclear
  · exfalso
    apply h.not_clear hgate n m
    have hafter : Noted.task n clear ∈ post₁ := by
      rcases List.mem_cons.mp hclear with hclear | hclear
      · cases hclear
      · exact hclear
    have hsublist : [Noted.signal m, .task n clear].Sublist (.signal m :: (post₁ ++ .task n c :: post₂)) :=
      (List.singleton_sublist.mpr (List.mem_append_left _ hafter)).cons_cons _
    rw [Precedes, hsplit]
    exact hsublist.trans (List.sublist_append_right pre _)

/-- The tasks that go on after a signal are among these, no more than `N`. -/
structure InFlight (clear : Call S ε) (Work : S.Op → Prop) (N : Nat) (pre post : List (Noted S C ε μ))
    (running inflight : List Nat) : Prop where
  bounded : inflight.length ≤ N
  calling : ∀ n c, .task n c ∈ post → Work c.op → n ∈ inflight
  running : ∀ n ∈ running, .task n clear ∈ pre → n ∈ inflight

/-- **The tasks that go on after a signal are no more than there are workers.** -/
theorem Reachable.in_flight {N : Nat} (h : Reachable answers ownAnswers program client V)
    (hgate : Gate answers program clear Work)
    (hN : ∀ V : Serving C S ω ε β γ (Flagged S C ε μ), Reachable answers ownAnswers program client V →
      V.executor.workers ≤ N) {pre post : List (Noted S C ε μ)} {m : μ}
    (hsplit : (world V).history = pre ++ .signal m :: post) :
    ∃ inflight, InFlight clear Work N pre post V.executor.running inflight := by
  induction h generalizing pre post with
  | initial => exact absurd hsplit (by simp [Serving.initial])
  | @move V V' hreach hmove ih =>
    have h' : Reachable answers ownAnswers program client V' := .move hreach hmove
    cases hmove with
    | serve _ hserve =>
      cases hserve with
      | own hcall =>
        obtain ⟨-, rfl⟩ := hcall
        obtain ⟨-, hlast, -⟩ | ⟨post', rfl, hsplit'⟩ := split_concat hsplit
        · cases hlast
        obtain ⟨inflight, hin⟩ := ih hsplit'
        exact ⟨inflight, hin.bounded, fun n c hn => hin.calling n c (by simpa using hn), hin.running⟩
      | create | submit | next | shutdown => exact ih hsplit
    | work hwork =>
      cases hwork with
      | start hitem _ =>
        obtain ⟨inflight, hin⟩ := ih hsplit
        refine ⟨inflight, hin.bounded, hin.calling, fun n hn hclear => ?_⟩
        rcases List.mem_append.mp hn with hn | hn
        · exact hin.running n hn hclear
        · -- a task that was just taken has made no call
          obtain rfl := List.mem_singleton.mp hn
          have hnone : (world V).callsOf V.executor.begun = [] :=
            (hreach.traced logs rfl).of_none (hreach.sound.unstarted _ (Nat.le_refl _))
          have hsplit' : (world V).history = pre ++ .signal m :: post := hsplit
          have hevent : .task V.executor.begun clear ∈ (world V).history := by
            rw [hsplit']
            exact List.mem_append_left _ hclear
          have hmem := mem_callsOf.mpr hevent
          rw [hnone] at hmem
          cases hmem
      | @call n P' hrunning hcall =>
        cases hcall with
        | @call o k r s' _ hex =>
          obtain ⟨-, rfl⟩ := hex
          obtain ⟨-, hlast, -⟩ | ⟨post', rfl, hsplit'⟩ := split_concat hsplit
          · cases hlast
          obtain ⟨inflight, hin⟩ := ih hsplit'
          refine ⟨inflight, hin.bounded, fun m' c hm hc => ?_, hin.running⟩
          have hclear := h'.begun_before hgate hsplit hm hc
          rcases List.mem_append.mp hm with hm | hm
          · exact hin.calling m' c hm hc
          · cases List.mem_singleton.mp hm
            exact hin.running n hrunning hclear
      | finish _ _ =>
        obtain ⟨inflight, hin⟩ := ih hsplit
        exact ⟨inflight, hin.bounded, hin.calling, fun n hn => hin.running n (List.mem_of_mem_erase hn)⟩
  | @change V V' hreach hchange ih =>
    cases hchange with
    | env henv =>
      obtain ⟨m', rfl⟩ := henv
      obtain ⟨rfl, -, rfl⟩ | ⟨post', rfl, hsplit'⟩ := split_concat hsplit
      · exact ⟨V.executor.running, hreach.sound.bounded.trans (hN V hreach), fun _ _ => nofun, fun _ hn _ => hn⟩
      · obtain ⟨inflight, hin⟩ := ih hsplit'
        exact ⟨inflight, hin.bounded, fun n c hn => hin.calling n c (by simpa using hn), hin.running⟩

end Flagged

end CertWatch.Lib
