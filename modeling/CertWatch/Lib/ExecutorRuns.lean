/-
# `CertWatch.Lib.ExecutorRuns` — every run of a client with its executor.

The client, the workers and the surroundings take turns in any order.  On every run the books are in order, each
item's program stands where the answers to its own calls have taken it, and the client's account agrees with the
executor; a client that keeps to its side is never stuck, and comes to its end.
-/
import CertWatch.Lib.Executor

namespace CertWatch.Lib

variable {C S : Sig} {ω ε β γ σ Q : Type}

/-- A client, the calls that it has made, and its executor. -/
structure Serving (C S : Sig) (ω ε β γ σ : Type) where
  client : Prog (clientSig C ω β) ε γ
  calls : List (Call (clientSig C ω β) ε) := []
  executor : Executor ω S ε β σ

namespace Serving

/-- A client that starts in this world. -/
def initial (client : Prog (clientSig C ω β) ε γ) (s : σ) : Serving C S ω ε β γ σ where
  client
  executor := { pool := ⟨fun _ => none, s⟩ }

section Runs

variable (program : ω → Prog S ε β) (exec : Nat → (o : S.Op) → σ → Except ε (S.Ret o) → σ → Prop)
  (own : (o : C.Op) → σ → Except ε (C.Ret o) → σ → Prop) (env : σ → σ → Prop)

/-- The client makes its next call, or a worker does something. -/
inductive Move : Serving C S ω ε β γ σ → Serving C S ω ε β γ σ → Prop where
  | serve {V : Serving C S ω ε β γ σ} {o : ClientOp C ω}
      {k : Except ε (o.Ret β) → Prog (clientSig C ω β) ε γ} {r : Except ε (o.Ret β)} {E' : Executor ω S ε β σ}
      (hclient : V.client = .call o k) (hserve : Executor.Serve own o V.executor r E') :
      Move V ⟨k r, V.calls ++ [⟨o, r⟩], E'⟩
  | work {V : Serving C S ω ε β γ σ} {E' : Executor ω S ε β σ} (hwork : Executor.Work program exec V.executor E') :
      Move V { V with executor := E' }

/-- The surroundings change the world. -/
inductive Change : Serving C S ω ε β γ σ → Serving C S ω ε β γ σ → Prop where
  | env {V : Serving C S ω ε β γ σ} {s' : σ} (henv : env V.executor.pool.shared s') :
      Change V { V with executor := { V.executor with pool := { V.executor.pool with shared := s' } } }

/-- What a run comes to. -/
inductive Reachable (client : Prog (clientSig C ω β) ε γ) (s₀ : σ) : Serving C S ω ε β γ σ → Prop where
  | initial : Reachable client s₀ (initial client s₀)
  | move {V V' : Serving C S ω ε β γ σ} (h : Reachable client s₀ V) (hmove : Move program exec own V V') :
      Reachable client s₀ V'
  | change {V V' : Serving C S ω ε β γ σ} (h : Reachable client s₀ V) (hchange : Change env V V') :
      Reachable client s₀ V'

end Runs

variable {program : ω → Prog S ε β} {exec : Nat → (o : S.Op) → σ → Except ε (S.Ret o) → σ → Prop}
  {own : (o : C.Op) → σ → Except ε (C.Ret o) → σ → Prop} {env : σ → σ → Prop}
  {client : Prog (clientSig C ω β) ε γ} {s₀ : σ} {V V' : Serving C S ω ε β γ σ}

/-! ## What holds on every run -/

/-- **World rule.**  What every call and the surroundings keep holds of the world on every run. -/
theorem Reachable.world {I : σ → Prop} (h : Reachable program exec own env client s₀ V) (h₀ : I s₀)
    (hexec : ∀ n o s r s', exec n o s r s' → I s → I s') (hown : ∀ o s r s', own o s r s' → I s → I s')
    (henv : ∀ s s', env s s' → I s → I s') : I V.executor.pool.shared := by
  induction h with
  | initial => exact h₀
  | move _ hmove ih =>
    cases hmove with
    | serve _ hserve =>
      cases hserve with
      | own hcall => exact hown _ _ _ _ hcall ih
      | create | submit | next | shutdown => exact ih
    | work hwork =>
      cases hwork with
      | call _ hcall =>
        cases hcall with
        | call _ hex => exact hexec _ _ _ _ _ hex ih
      | start | finish => exact ih
  | change _ hchange ih =>
    cases hchange with
    | env hs => exact henv _ _ hs ih

/-- **The books are in order on every run.** -/
theorem Reachable.sound (h : Reachable program exec own env client s₀ V) : V.executor.Sound := by
  induction h with
  | initial => exact Executor.Sound.empty s₀
  | move _ hmove ih =>
    cases hmove with
    | serve _ hserve => exact ih.serve hserve
    | work hwork => exact ih.work hwork
  | change _ hchange ih =>
    cases hchange with
    | env _ => exact ih.shared _

/-- The client stands where the answers to its calls have taken it. -/
theorem Reachable.client_trace (h : Reachable program exec own env client s₀ V) :
    client.Trace V.calls V.client := by
  induction h with
  | initial => exact .nil client
  | move _ hmove ih =>
    cases hmove with
    | serve hclient _ =>
      rw [hclient] at ih
      exact .concat _ ih
    | work _ => exact ih
  | change _ hchange ih =>
    cases hchange with
    | env _ => exact ih

/-! ## The items -/

/-- The world keeps the calls of the items' programs, each with the number of its item. -/
structure Logs (exec : Nat → (o : S.Op) → σ → Except ε (S.Ret o) → σ → Prop)
    (own : (o : C.Op) → σ → Except ε (C.Ret o) → σ → Prop) (env : σ → σ → Prop)
    (log : σ → List (Nat × Call S ε)) : Prop where
  exec : ∀ n o s r s', exec n o s r s' → log s' = log s ++ [(n, ⟨o, r⟩)]
  own : ∀ o s r s', own o s r s' → log s' = log s
  env : ∀ s s', env s s' → log s' = log s

variable {log : σ → List (Nat × Call S ε)}

/-- The program of an item with this number. -/
def Runs (program : ω → Prog S ε β) (E : Executor ω S ε β σ) (n : Nat) (p : Prog S ε β) : Prop :=
  ∃ w, E.items[n]? = some w ∧ p = program w

theorem traced_mono {P : Pool Nat S ε β σ} {A A' : Nat → Prog S ε β → Prop} (h : P.Traced A log)
    (hA : ∀ n p, A n p → A' n p) : P.Traced A' log := by
  intro n
  cases hn : P.threads n with
  | none => exact h.of_none hn
  | some p =>
    obtain ⟨p₀, hp₀, htrace⟩ := h.of_some hn
    exact ⟨p₀, hA n p₀ hp₀, htrace⟩

/-- **Every item's program stands where the answers to its own calls have taken it.** -/
theorem Reachable.traced (h : Reachable program exec own env client s₀ V) (hlogs : Logs exec own env log)
    (h₀ : log s₀ = []) : V.executor.pool.Traced (Runs program V.executor) log := by
  induction h with
  | initial =>
    intro n
    show ownEvents n (log s₀) = []
    rw [h₀]
    rfl
  | @move V V' hreach hmove ih =>
    cases hmove with
    | serve _ hserve =>
      cases hserve with
      | own hcall => exact ih.shared (hlogs.own _ _ _ _ hcall)
      | create | next | shutdown => exact ih
      | submit w =>
        refine traced_mono ih ?_
        rintro n p ⟨w', hw', rfl⟩
        obtain ⟨hlt, hget⟩ := List.getElem?_eq_some_iff.mp hw'
        refine ⟨w', ?_, rfl⟩
        rw [← hget]
        exact (List.getElem?_append_left hlt).trans (List.getElem?_eq_getElem hlt)
    | work hwork =>
      cases hwork with
      | start hitem _ => exact ih.spawn (hreach.sound.unstarted _ (Nat.le_refl _)) ⟨_, hitem, rfl⟩
      | call _ hcall => exact ih.step hlogs.exec hcall
      | finish => exact ih
  | change _ hchange ih =>
    cases hchange with
    | env hs => exact ih.shared (hlogs.env _ _ hs)

/-- Every answer that is kept is one that the call may have. -/
theorem Reachable.answered (h : Reachable program exec own env client s₀ V) (hlogs : Logs exec own env log)
    (h₀ : log s₀ = []) {n : Nat} {c : Call S ε} (hc : (n, c) ∈ log V.executor.pool.shared) :
    ∃ s s', exec n c.op s c.answer s' := by
  have hall : ∀ e ∈ log V.executor.pool.shared, ∃ s s', exec e.1 e.2.op s e.2.answer s' := by
    refine h.world (I := fun s => ∀ e ∈ log s, ∃ s s', exec e.1 e.2.op s e.2.answer s') ?_ ?_ ?_ ?_
    · rw [h₀]
      exact nofun
    · intro n o s r s' hex ih e he
      rw [hlogs.exec n o s r s' hex] at he
      rcases List.mem_append.mp he with he | he
      · exact ih e he
      · rw [List.mem_singleton.mp he]
        exact ⟨s, s', hex⟩
    · intro o s r s' hcall ih
      rw [hlogs.own o s r s' hcall]
      exact ih
    · intro s s' hs ih
      rw [hlogs.env s s' hs]
      exact ih
  exact hall (n, c) hc

/-- An answer that the call of an item may have. -/
def Answers (exec : Nat → (o : S.Op) → σ → Except ε (S.Ret o) → σ → Prop) (n : Nat) (c : Call S ε) : Prop :=
  ∃ s s', exec n c.op s c.answer s'

/-- **A result is that of the item's own program**, among the answers that its calls had. -/
theorem Reachable.result (h : Reachable program exec own env client s₀ V) (hlogs : Logs exec own env log)
    (h₀ : log s₀ = []) {n : Nat} {x : Except ε β} (hx : V.executor.pool.threads n = some (.ofExcept x)) :
    ∃ w, V.executor.items[n]? = some w ∧
      (program w).Trace (ownEvents n (log V.executor.pool.shared)) (.ofExcept x) ∧
      ∀ c ∈ ownEvents n (log V.executor.pool.shared), Answers exec n c := by
  obtain ⟨p₀, ⟨w, hw, rfl⟩, htrace⟩ := (h.traced hlogs h₀).of_some hx
  exact ⟨w, hw, htrace, fun c hc => h.answered hlogs h₀ (mem_ownEvents_iff.mp hc)⟩

/-! ## The client's side -/

/-- A monitor that keeps the client's account, allows no more than the account does, and reckons with every answer
that a call of the client may have. -/
structure Keeps (program : ω → Prog S ε β) (exec : Nat → (o : S.Op) → σ → Except ε (S.Ret o) → σ → Prop)
    (own : (o : C.Op) → σ → Except ε (C.Ret o) → σ → Prop) (M : Monitor (clientSig C ω β) ε Q)
    (account : Q → Account ω ε β) : Prop where
  next : ∀ q o r, account (M.next q o r) = (account q).next o r
  allows : ∀ q o, M.allows q o → (account q).allows o
  own : ∀ o s r s', own o s r s' → M.possible (.own o) r
  create : ∀ workers, M.possible (.create workers) (.ok ())
  submit : ∀ w, M.possible (.submit w) (.ok ())
  shutdown : M.possible .shutdown (.ok ())
  result : ∀ n w cs x, (program w).Trace cs (.ofExcept x) → (∀ c ∈ cs, Answers exec n c) → M.possible .next x

variable {M : Monitor (clientSig C ω β) ε Q} {account : Q → Account ω ε β} {F : Q → Except ε γ → Prop} {q₀ : Q}

/-- The monitor reckons with every answer on every run. -/
theorem Reachable.reckoned (h : Reachable program exec own env client s₀ V) (hlogs : Logs exec own env log)
    (h₀ : log s₀ = []) (hkeeps : Keeps program exec own M account) :
    ∀ c ∈ V.calls, M.possible c.op c.answer := by
  induction h with
  | initial => exact nofun
  | @move V V' hreach hmove ih =>
    cases hmove with
    | @serve o k r E' _ hserve =>
      intro c hc
      rcases List.mem_append.mp hc with hc | hc
      · exact ih c hc
      rw [List.mem_singleton.mp hc]
      cases hserve with
      | own hcall => exact hkeeps.own _ _ _ _ hcall
      | create workers _ _ _ => exact hkeeps.create workers
      | submit w => exact hkeeps.submit w
      | next _ hended =>
        obtain ⟨w, -, htrace, hanswers⟩ := hreach.result hlogs h₀ hended
        exact hkeeps.result _ w _ _ htrace hanswers
      | shutdown _ _ => exact hkeeps.shutdown
    | work _ => exact ih
  | change _ hchange ih =>
    cases hchange with
    | env _ => exact ih

/-- **A client that obeys does so on every run, and its account agrees with the executor.** -/
theorem Reachable.follows (h : Reachable program exec own env client s₀ V) (hlogs : Logs exec own env log)
    (h₀ : log s₀ = []) (hkeeps : Keeps program exec own M account) (hobeys : client.Obeys M F q₀) :
    M.Lawful q₀ V.calls ∧ V.client.Obeys M F (M.after q₀ V.calls) :=
  hobeys.trace (h.reckoned hlogs h₀ hkeeps) h.client_trace

theorem Reachable.agrees (h : Reachable program exec own env client s₀ V) (hkeeps : Keeps program exec own M account)
    (hq₀ : account q₀ = {}) : (account (M.after q₀ V.calls)).Agrees V.executor := by
  induction h with
  | initial =>
    show (account q₀).Agrees _
    rw [hq₀]
    exact ⟨rfl, rfl, rfl, .nil⟩
  | @move V V' hreach hmove ih =>
    cases hmove with
    | @serve o k r E' _ hserve =>
      show (account (M.after q₀ (V.calls ++ [⟨o, r⟩]))).Agrees E'
      rw [M.after_concat, hkeeps.next]
      exact ih.serve hreach.sound hserve
    | work hwork => exact ih.work hreach.sound hwork
  | change _ hchange ih =>
    cases hchange with
    | env _ => exact ih.of_threads rfl rfl rfl rfl fun _ _ hn => hn

/-- No executor has more workers than the monitor allows one to be created with. -/
theorem Reachable.workers_le {N : Nat} (h : Reachable program exec own env client s₀ V) (hlogs : Logs exec own env log)
    (h₀ : log s₀ = []) (hkeeps : Keeps program exec own M account) (hobeys : client.Obeys M F q₀)
    (hN : ∀ q workers, M.allows q (.create workers) → workers ≤ N) : V.executor.workers ≤ N := by
  induction h with
  | initial => exact Nat.zero_le N
  | @move V V' hreach hmove ih =>
    cases hmove with
    | serve hclient hserve =>
      cases hserve with
      | create workers _ _ _ =>
        have hobeys' := (hreach.follows hlogs h₀ hkeeps hobeys).2
        rw [hclient] at hobeys'
        exact hN _ workers hobeys'.1
      | own | submit | next | shutdown => exact ih
    | work hwork => cases hwork <;> exact ih
  | change _ hchange ih =>
    cases hchange with
    | env _ => exact ih

/-! ## Progress -/

/-- Every call is answered, and no item's program is out of fuel. -/
structure Live (program : ω → Prog S ε β) (exec : Nat → (o : S.Op) → σ → Except ε (S.Ret o) → σ → Prop)
    (own : (o : C.Op) → σ → Except ε (C.Ret o) → σ → Prop) : Prop where
  program : ∀ w, (program w).Finishes fun _ => True
  exec : ∀ n o s, ∃ r s', exec n o s r s'
  own : ∀ o s, ∃ r s', own o s r s'

theorem finishes_trace {A : S.Op → Prop} {p p' : Prog S ε β} {cs : List (Call S ε)} (h : p.Finishes A)
    (ht : p.Trace cs p') : p'.Finishes A := by
  induction ht with
  | nil => exact h
  | concat r _ ih => exact ih.2 r

/-- The workers have something to do while anything is queued or run. -/
theorem Reachable.can_work (h : Reachable program exec own env client s₀ V) (hlogs : Logs exec own env log)
    (h₀ : log s₀ = []) (hlive : Live program exec own) (hworkers : 0 < V.executor.workers)
    (hopen : V.executor.begun < V.executor.items.length ∨ V.executor.running ≠ []) :
    ∃ E', Executor.Work program exec V.executor E' := by
  by_cases hrunning : V.executor.running = []
  · have hqueue := hopen.resolve_right fun hne => hne hrunning
    refine ⟨_, .start (List.getElem?_eq_getElem hqueue) ?_⟩
    rwa [hrunning]
  · obtain ⟨n, hn⟩ := List.exists_mem_of_ne_nil _ hrunning
    obtain ⟨p, hp⟩ := h.sound.started n hn
    obtain ⟨p₀, ⟨w, -, rfl⟩, htrace⟩ := (h.traced hlogs h₀).of_some hp
    have hfinishes := finishes_trace (hlive.program w) htrace
    cases p with
    | ret b => exact ⟨_, .finish (x := .ok b) hn hp⟩
    | raise e => exact ⟨_, .finish (x := .error e) hn hp⟩
    | hang => exact hfinishes.elim
    | call o k =>
      obtain ⟨r, s', hex⟩ := hlive.exec n o V.executor.pool.shared
      exact ⟨_, .call hn (.call hp hex)⟩

/-- **A client that keeps to its side is never stuck at a call.** -/
theorem Reachable.can_move (h : Reachable program exec own env client s₀ V) (hlogs : Logs exec own env log)
    (h₀ : log s₀ = []) (hkeeps : Keeps program exec own M account) (hobeys : client.Obeys M F q₀)
    (hq₀ : account q₀ = {}) (hlive : Live program exec own) {o : ClientOp C ω}
    {k : Except ε (o.Ret β) → Prog (clientSig C ω β) ε γ} (hclient : V.client = .call o k) :
    ∃ V', Move program exec own V V' := by
  have hagrees := h.agrees hkeeps hq₀
  have hobeys' := (h.follows hlogs h₀ hkeeps hobeys).2
  rw [hclient] at hobeys'
  have hallowed := hkeeps.allows _ _ hobeys'.1
  have hsound := h.sound
  have hplaces := hsound.places.length_eq
  simp only [List.length_append, List.length_range'] at hplaces
  have hyielded := hagrees.length_taken
  have hsubmitted := hagrees.length_submitted
  have hbase := hsound.base_le
  have hbegun := hsound.begun_le
  cases o with
  | own o =>
    obtain ⟨r, s', hcall⟩ := hlive.own o V.executor.pool.shared
    exact ⟨_, .serve hclient (.own hcall)⟩
  | create workers =>
    have hlength : (account (M.after q₀ V.calls)).taken.length = _ := hallowed.2
    obtain ⟨hqueue, hrunning, hcompleted⟩ := hsound.all_yielded (by omega)
    exact ⟨_, .serve hclient (.create workers hqueue hrunning hcompleted)⟩
  | submit w => exact ⟨_, .serve hclient (.submit w)⟩
  | next =>
    have hworkers : 0 < V.executor.workers := hagrees.workers ▸ hallowed.1
    have hlength : (account (M.after q₀ V.calls)).taken.length < _ := hallowed.2
    by_cases hcompleted : V.executor.completed = []
    · have hopen : V.executor.begun < V.executor.items.length ∨ V.executor.running ≠ [] := by
        by_contra hnot
        obtain ⟨hqueue, hrunning⟩ := not_or.mp hnot
        rw [not_not.mp hrunning, hcompleted] at hplaces
        simp only [List.length_nil] at hplaces
        omega
      obtain ⟨E', hwork⟩ := h.can_work hlogs h₀ hlive hworkers hopen
      exact ⟨_, .work hwork⟩
    · obtain ⟨n, hn⟩ := List.exists_mem_of_ne_nil _ hcompleted
      obtain ⟨x, hx⟩ := hsound.ended n (List.mem_append_left _ hn)
      exact ⟨_, .serve hclient (.next hn hx)⟩
  | shutdown =>
    have hworkers : 0 < V.executor.workers := hagrees.workers ▸ hallowed
    by_cases hopen : V.executor.begun < V.executor.items.length ∨ V.executor.running ≠ []
    · obtain ⟨E', hwork⟩ := h.can_work hlogs h₀ hlive hworkers hopen
      exact ⟨_, .work hwork⟩
    · obtain ⟨hqueue, hrunning⟩ := not_or.mp hopen
      exact ⟨_, .serve hclient (.shutdown (by omega) (not_not.mp hrunning))⟩

/-! ## The end -/

/-- What is left to do: the client's calls, what is queued, and the calls of the programs that are run. -/
def left (V : Serving C S ω ε β γ σ) :
    Prog (clientSig C ω β) ε γ × Nat × Multiset (Prog S ε β) :=
  (V.client, V.executor.items.length - V.executor.begun,
    (V.executor.running : Multiset Nat).map fun n => (V.executor.pool.threads n).getD .hang)

/-- One of them gets less. -/
def Less : Prog (clientSig C ω β) ε γ × Nat × Multiset (Prog S ε β) →
    Prog (clientSig C ω β) ε γ × Nat × Multiset (Prog S ε β) → Prop :=
  Prod.Lex Prog.Child (Prod.Lex (· < ·) (Relation.CutExpand Prog.Child))

theorem less_wellFounded : WellFounded (Less (C := C) (S := S) (ω := ω) (ε := ε) (β := β) (γ := γ)) :=
  Prog.child_wellFounded.prod_lex (Nat.lt_wfRel.wf.prod_lex Prog.child_wellFounded.cutExpand)

/-- **Every move leaves less to do.** -/
theorem Move.less (hsound : V.executor.Sound) (hmove : Move program exec own V V') : Less V'.left V.left := by
  cases hmove with
  | serve hclient _ =>
    apply Prod.Lex.left
    rw [hclient]
    exact Prog.child_call _
  | work hwork =>
    apply Prod.Lex.right
    cases hwork with
    | start hitem _ =>
      apply Prod.Lex.left
      have hqueue := (List.getElem?_eq_some_iff.mp hitem).1
      show V.executor.items.length - (V.executor.begun + 1) < V.executor.items.length - V.executor.begun
      omega
    | @call n P' hrunning hcall =>
      apply Prod.Lex.right
      cases hcall with
      | @call o k r s' hn _ =>
        have hnodup : V.executor.running.Nodup := hsound.nodup.of_append_left.of_append_left
        have hsplit : (V.executor.running : Multiset Nat) = n ::ₘ (V.executor.running.erase n : Multiset Nat) :=
          Multiset.coe_eq_coe.mpr (List.perm_cons_erase hrunning)
        refine ⟨{k r}, .call o k, fun p hp => ?_, ?_⟩
        · rw [Multiset.mem_singleton.mp hp]
          exact Prog.child_call r
        -- the other programs stay as they are
        have hothers : ∀ m ∈ (V.executor.running.erase n : Multiset Nat),
            (Function.update V.executor.pool.threads n (some (k r)) m).getD .hang =
              (V.executor.pool.threads m).getD .hang := by
          intro m hm
          have hne : m ≠ n := (hnodup.mem_erase_iff.mp (Multiset.mem_coe.mp hm)).1
          rw [Function.update_of_ne hne]
        show Multiset.map (fun m => (Function.update V.executor.pool.threads n (some (k r)) m).getD .hang)
            (V.executor.running : Multiset Nat) + {Prog.call o k} =
          Multiset.map (fun m => (V.executor.pool.threads m).getD .hang) (V.executor.running : Multiset Nat) + {k r}
        rw [hsplit, Multiset.map_cons, Multiset.map_cons, Multiset.map_congr rfl hothers, Function.update_self, hn]
        simp only [Option.getD_some, ← Multiset.singleton_add]
        ac_rfl
    | @finish n x hrunning hended =>
      apply Prod.Lex.right
      have hsplit : (V.executor.running : Multiset Nat) = n ::ₘ (V.executor.running.erase n : Multiset Nat) :=
        Multiset.coe_eq_coe.mpr (List.perm_cons_erase hrunning)
      refine ⟨0, .ofExcept x, by simp, ?_⟩
      show Multiset.map _ (V.executor.running.erase n : Multiset Nat) + {Prog.ofExcept x} =
        Multiset.map _ (V.executor.running : Multiset Nat) + 0
      rw [hsplit, Multiset.map_cons, hended, add_zero, Option.getD_some, ← Multiset.singleton_add]
      exact add_comm _ _

/-- **A client that keeps to its side comes to its end**, as long as it is not out of fuel. -/
theorem inevitable_end (hlogs : Logs exec own env log) (h₀ : log s₀ = [])
    (hkeeps : Keeps program exec own M account) (hobeys : client.Obeys M F q₀) (hq₀ : account q₀ = {})
    (hlive : Live program exec own) {I : Serving C S ω ε β γ σ → Prop}
    (hI : ∀ V, I V → Reachable program exec own env client s₀ V ∧ V.client ≠ .hang)
    (hmove : ∀ V V', I V → Move program exec own V V' → I V') (hchange : ∀ V V', I V → Change env V V' → I V')
    (hV : I V) : Inevitable (Move program exec own) (Change env) (fun V => V.client.Ended) V := by
  refine inevitable_of_measure less_wellFounded left ?_ ?_ ?_ ?_ hV
  · intro V V' h hstep
    exact ⟨hmove V V' h hstep, hstep.less (hI V h).1.sound⟩
  · intro V V' h hstep
    refine ⟨hchange V V' h hstep, ?_⟩
    cases hstep with
    | env _ => rfl
  · intro V V' hstep hended
    cases hstep with
    | env _ => exact hended
  · intro V h hnot
    obtain ⟨hreach, hfuel⟩ := hI V h
    cases hclient : V.client with
    | ret a => exact absurd (hclient ▸ trivial) hnot
    | raise e => exact absurd (hclient ▸ trivial) hnot
    | hang => exact absurd hclient hfuel
    | call o k => exact hreach.can_move hlogs h₀ hkeeps hobeys hq₀ hlive hclient

end Serving

end CertWatch.Lib
