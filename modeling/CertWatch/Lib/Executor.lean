/-
# `CertWatch.Lib.Executor` — a client, its executor, and the workers that run what it submits.

A client submits items to an executor, whose workers take them in the order of their submission, at most a fixed
number at a time, and run each item's program call by call among the others; the client takes the results in any
order in which they are complete.  The items are numbered by their submission.  The books of an executor say where
every number is; with them, every result that the client takes is that of the item's own program, and the client,
if it keeps to its side, is always served in the end.
-/
import CertWatch.Lib.Inevitable
import CertWatch.Lib.Monitor
import Mathlib.Data.List.Nodup
import Mathlib.Data.List.Range
import Mathlib.Logic.Hydra
import Mathlib.Order.WellFounded

namespace CertWatch.Lib

open scoped List

/-! ## Executors -/

/-- The workers, what was submitted, and where it is.  `base` is how much had been submitted when the executor was
created, `begun` how much the workers have taken; the rest is queued. -/
structure Executor (ω : Type) (S : Sig) (ε β σ : Type) where
  workers : Nat := 0
  items : List ω := []
  base : Nat := 0
  begun : Nat := 0
  running : List Nat := []
  completed : List Nat := []
  yielded : List Nat := []
  pool : Pool Nat S ε β σ

/-- What a client asks of its executor, next to operations of its own. -/
inductive ClientOp (C : Sig) (ω : Type) where
  | own (o : C.Op)
  | create (workers : Nat)
  | submit (w : ω)
  /-- The result of the next future that is complete. -/
  | next
  /-- Wait until the workers have nothing left to do. -/
  | shutdown

/-- What each call returns; `next` raises what the item's program has raised. -/
abbrev ClientOp.Ret {C : Sig} {ω : Type} (β : Type) : ClientOp C ω → Type
  | .own o => C.Ret o
  | .next => β
  | _ => Unit

abbrev clientSig (C : Sig) (ω β : Type) : Sig := ⟨ClientOp C ω, ClientOp.Ret β⟩

variable {C S : Sig} {ω ε β γ σ Q : Type}

namespace Executor

section Steps

variable (program : ω → Prog S ε β) (exec : Nat → (o : S.Op) → σ → Except ε (S.Ret o) → σ → Prop)
  (own : (o : C.Op) → σ → Except ε (C.Ret o) → σ → Prop)

/-- What the workers do: take the oldest item that is queued, make a call of an item's program, complete a future. -/
inductive Work : Executor ω S ε β σ → Executor ω S ε β σ → Prop where
  | start {E : Executor ω S ε β σ} {w : ω} (hitem : E.items[E.begun]? = some w)
      (hidle : E.running.length < E.workers) : Work E { E with
        begun := E.begun + 1
        running := E.running ++ [E.begun]
        pool := E.pool.spawn E.begun (program w) }
  | call {E : Executor ω S ε β σ} {n : Nat} {P' : Pool Nat S ε β σ} (hrunning : n ∈ E.running)
      (hcall : Pool.Step exec n E.pool P') : Work E { E with pool := P' }
  | finish {E : Executor ω S ε β σ} {n : Nat} {x : Except ε β} (hrunning : n ∈ E.running)
      (hended : E.pool.threads n = some (.ofExcept x)) : Work E { E with
        running := E.running.erase n
        completed := E.completed ++ [n] }

/-- How the client's calls are served. -/
inductive Serve : (o : ClientOp C ω) → Executor ω S ε β σ → Except ε (o.Ret β) → Executor ω S ε β σ → Prop where
  | own {E : Executor ω S ε β σ} {o : C.Op} {r : Except ε (C.Ret o)} {s' : σ} (hown : own o E.pool.shared r s') :
      Serve (.own o) E r { E with pool := { E.pool with shared := s' } }
  | create {E : Executor ω S ε β σ} (workers : Nat) (hqueue : E.begun = E.items.length)
      (hrunning : E.running = []) (hcompleted : E.completed = []) : Serve (.create workers) E (.ok ()) { E with
        workers
        base := E.items.length
        yielded := [] }
  | submit {E : Executor ω S ε β σ} (w : ω) : Serve (.submit w) E (.ok ()) { E with items := E.items ++ [w] }
  | next {E : Executor ω S ε β σ} {n : Nat} {x : Except ε β} (hcompleted : n ∈ E.completed)
      (hended : E.pool.threads n = some (.ofExcept x)) : Serve .next E x { E with
        completed := E.completed.erase n
        yielded := E.yielded ++ [n] }
  | shutdown {E : Executor ω S ε β σ} (hqueue : E.begun = E.items.length) (hrunning : E.running = []) :
      Serve .shutdown E (.ok ()) E

end Steps

/-! ## The books -/

/-- The books are in order. -/
structure Sound (E : Executor ω S ε β σ) : Prop where
  base_le : E.base ≤ E.begun
  begun_le : E.begun ≤ E.items.length
  /-- Whatever was taken since the executor was created is run, complete or yielded, and once. -/
  places : (E.running ++ E.completed ++ E.yielded).Perm (List.range' E.base (E.begun - E.base))
  bounded : E.running.length ≤ E.workers
  unstarted : ∀ n, E.begun ≤ n → E.pool.threads n = none
  started : ∀ n ∈ E.running, ∃ p, E.pool.threads n = some p
  ended : ∀ n ∈ E.completed ++ E.yielded, ∃ x, E.pool.threads n = some (.ofExcept x)

/-- A number that goes from one list to the next is where it was, as far as the two together are concerned. -/
theorem perm_move {xs : List Nat} (ys : List Nat) {n : Nat} (h : n ∈ xs) :
    (xs.erase n ++ (ys ++ [n])).Perm (xs ++ ys) := by
  rw [← List.append_assoc]
  calc
    _ ~ n :: (xs.erase n ++ ys) := List.perm_append_singleton n _
    _ ~ xs ++ ys := (List.perm_cons_erase h).symm.append_right ys

theorem spawn_of_ne {P : Pool Nat S ε β σ} {p : Prog S ε β} {m n : Nat} (h : m ≠ n) :
    (P.spawn n p).threads m = P.threads m := Function.update_of_ne h ..

namespace Sound

variable {program : ω → Prog S ε β} {exec : Nat → (o : S.Op) → σ → Except ε (S.Ret o) → σ → Prop}
  {own : (o : C.Op) → σ → Except ε (C.Ret o) → σ → Prop} {E E' : Executor ω S ε β σ}

theorem empty (s : σ) : Sound ({ pool := ⟨fun _ => none, s⟩ } : Executor ω S ε β σ) where
  base_le := Nat.le_refl 0
  begun_le := Nat.le_refl 0
  places := List.Perm.refl []
  bounded := Nat.le_refl 0
  unstarted _ _ := rfl
  started := nofun
  ended := nofun

/-- What happens to the world leaves the books as they are. -/
theorem shared (h : E.Sound) (s : σ) : Sound { E with pool := { E.pool with shared := s } } :=
  ⟨h.base_le, h.begun_le, h.places, h.bounded, h.unstarted, h.started, h.ended⟩

theorem mem_running_lt (h : E.Sound) {n : Nat} (hn : n ∈ E.running) : n < E.begun := by
  by_contra hnot
  obtain ⟨p, hp⟩ := h.started n hn
  rw [h.unstarted n (Nat.le_of_not_lt hnot)] at hp
  cases hp

theorem mem_ended_lt (h : E.Sound) {n : Nat} (hn : n ∈ E.completed ++ E.yielded) : n < E.begun := by
  by_contra hnot
  obtain ⟨x, hx⟩ := h.ended n hn
  rw [h.unstarted n (Nat.le_of_not_lt hnot)] at hx
  cases hx

theorem nodup (h : E.Sound) : (E.running ++ E.completed ++ E.yielded).Nodup :=
  h.places.nodup_iff.mpr List.nodup_range'

/-- When as many results were taken as there are items, nothing is left of any of them. -/
theorem all_yielded (h : E.Sound) (hlength : E.yielded.length = E.items.length - E.base) :
    E.begun = E.items.length ∧ E.running = [] ∧ E.completed = [] := by
  have hplaces := h.places.length_eq
  simp only [List.length_append, List.length_range'] at hplaces
  have hbase := h.base_le
  have hbegun := h.begun_le
  refine ⟨by omega, List.length_eq_zero_iff.mp (by omega), List.length_eq_zero_iff.mp (by omega)⟩

theorem yielded_perm (h : E.Sound) (hlength : E.yielded.length = E.items.length - E.base) :
    E.yielded.Perm (List.range' E.base (E.items.length - E.base)) := by
  obtain ⟨hbegun, hrunning, hcompleted⟩ := h.all_yielded hlength
  have hplaces := h.places
  rw [hrunning, hcompleted, hbegun] at hplaces
  exact hplaces

/-- A worker takes the oldest item that is queued. -/
theorem start (h : E.Sound) {w : ω} (hitem : E.items[E.begun]? = some w) (hidle : E.running.length < E.workers) :
    Sound { E with
      begun := E.begun + 1
      running := E.running ++ [E.begun]
      pool := E.pool.spawn E.begun (program w) } where
  base_le := Nat.le_succ_of_le h.base_le
  begun_le := (List.getElem?_eq_some_iff.mp hitem).1
  places := by
    have hbase := h.base_le
    have hcount : E.begun + 1 - E.base = E.begun - E.base + 1 := by omega
    have hlast : E.base + (E.begun - E.base) = E.begun := by omega
    rw [hcount, List.range'_1_concat, hlast]
    calc E.running ++ [E.begun] ++ E.completed ++ E.yielded
      _ = E.running ++ E.begun :: (E.completed ++ E.yielded) := by simp
      _ ~ E.begun :: (E.running ++ (E.completed ++ E.yielded)) := List.perm_middle
      _ = E.begun :: (E.running ++ E.completed ++ E.yielded) := by rw [List.append_assoc]
      _ ~ E.begun :: List.range' E.base (E.begun - E.base) := h.places.cons _
      _ ~ List.range' E.base (E.begun - E.base) ++ [E.begun] := (List.perm_append_singleton _ _).symm
  bounded := by
    rw [List.length_append]
    exact hidle
  unstarted n hn := by
    have hlater : E.begun < n := hn
    exact (spawn_of_ne (Nat.ne_of_gt hlater)).trans (h.unstarted n (Nat.le_of_lt hlater))
  started n hn := by
    rcases List.mem_append.mp hn with hn | hn
    · obtain ⟨p, hp⟩ := h.started n hn
      exact ⟨p, (spawn_of_ne (Nat.ne_of_lt (h.mem_running_lt hn))).trans hp⟩
    · rw [List.mem_singleton.mp hn]
      exact ⟨_, Function.update_self ..⟩
  ended n hn := by
    obtain ⟨x, hx⟩ := h.ended n hn
    exact ⟨x, (spawn_of_ne (Nat.ne_of_lt (h.mem_ended_lt hn))).trans hx⟩

/-- A worker makes a call. -/
theorem call (h : E.Sound) {n : Nat} {P' : Pool Nat S ε β σ} (hcall : Pool.Step exec n E.pool P') :
    Sound { E with pool := P' } := by
  cases hcall with
  | @call o k r s' hn hex =>
    refine ⟨h.base_le, h.begun_le, h.places, h.bounded, ?_, ?_, ?_⟩
    · intro m hm
      have hne : m ≠ n := by
        rintro rfl
        rw [h.unstarted m hm] at hn
        cases hn
      exact (Function.update_of_ne hne _ _).trans (h.unstarted m hm)
    · intro m hm
      by_cases hmn : m = n
      · subst hmn
        exact ⟨_, Function.update_self ..⟩
      · obtain ⟨p, hp⟩ := h.started m hm
        exact ⟨p, (Function.update_of_ne hmn _ _).trans hp⟩
    · intro m hm
      obtain ⟨x, hx⟩ := h.ended m hm
      have hne : m ≠ n := by
        rintro rfl
        rw [hx] at hn
        cases x <;> cases hn
      exact ⟨x, (Function.update_of_ne hne _ _).trans hx⟩

/-- A future is complete. -/
theorem finish (h : E.Sound) {n : Nat} {x : Except ε β} (hrunning : n ∈ E.running)
    (hended : E.pool.threads n = some (.ofExcept x)) :
    Sound { E with running := E.running.erase n, completed := E.completed ++ [n] } where
  base_le := h.base_le
  begun_le := h.begun_le
  places := ((perm_move E.completed hrunning).append_right E.yielded).trans h.places
  bounded := (List.length_erase_le).trans h.bounded
  unstarted := h.unstarted
  started m hm := h.started m (List.mem_of_mem_erase hm)
  ended m hm := by
    rcases List.mem_append.mp hm with hm | hm
    · rcases List.mem_append.mp hm with hm | hm
      · exact h.ended m (List.mem_append_left _ hm)
      · rw [List.mem_singleton.mp hm]
        exact ⟨x, hended⟩
    · exact h.ended m (List.mem_append_right _ hm)

/-- **The workers keep the books in order.** -/
theorem work (h : E.Sound) (hwork : Work program exec E E') : E'.Sound := by
  cases hwork with
  | start hitem hidle => exact h.start hitem hidle
  | call _ hcall => exact h.call hcall
  | finish hrunning hended => exact h.finish hrunning hended

/-- **So does every call of the client.** -/
theorem serve (h : E.Sound) {o : ClientOp C ω} {r : Except ε (o.Ret β)} (hserve : Serve own o E r E') :
    E'.Sound := by
  cases hserve with
  | own _ => exact h.shared _
  | create workers hqueue hrunning hcompleted =>
    refine ⟨hqueue.ge, h.begun_le, ?_, ?_, h.unstarted, h.started, ?_⟩
    · simp [hqueue, hrunning, hcompleted]
    · simp [hrunning]
    · simp [hcompleted]
  | submit w =>
    refine ⟨h.base_le, ?_, h.places, h.bounded, h.unstarted, h.started, h.ended⟩
    rw [List.length_append]
    exact h.begun_le.trans (Nat.le_add_right _ _)
  | @next _ n x hcompleted hended =>
    refine ⟨h.base_le, h.begun_le, ?_, h.bounded, h.unstarted, h.started, ?_⟩
    · have hmove := (perm_move E.yielded hcompleted).append_left E.running
      simp only [← List.append_assoc] at hmove ⊢
      exact hmove.trans h.places
    · intro m hm
      apply h.ended m
      rcases List.mem_append.mp hm with hm | hm
      · exact List.mem_append_left _ (List.mem_of_mem_erase hm)
      · rcases List.mem_append.mp hm with hm | hm
        · exact List.mem_append_right _ hm
        · rw [List.mem_singleton.mp hm]
          exact List.mem_append_left _ hcompleted
  | shutdown _ _ => exact h

end Sound

end Executor

/-! ## Accounts -/

/-- What the client knows of its executor: its workers, how much was submitted to earlier ones, what was submitted to
it, and the results that were taken. -/
structure Account (ω ε β : Type) where
  workers : Nat := 0
  base : Nat := 0
  submitted : List ω := []
  taken : List (Except ε β) := []

namespace Account

/-- What a call tells the client. -/
def next (q : Account ω ε β) : (o : ClientOp C ω) → Except ε (o.Ret β) → Account ω ε β
  | .create workers, _ => { workers, base := q.base + q.submitted.length }
  | .submit w, _ => { q with submitted := q.submitted ++ [w] }
  | .next, r => { q with taken := q.taken ++ [r] }
  | .own _, _ | .shutdown, _ => q

/-- The client's side: it has an executor before it submits, takes no more results than it submitted items, and
creates another executor only when it has taken all of them. -/
def allows (q : Account ω ε β) : ClientOp C ω → Prop
  | .create workers => 0 < workers ∧ q.taken.length = q.submitted.length
  | .next => 0 < q.workers ∧ q.taken.length < q.submitted.length
  | .submit _ | .shutdown => 0 < q.workers
  | .own _ => True

/-- The executor has what the client knows of. -/
structure Agrees (q : Account ω ε β) (E : Executor ω S ε β σ) : Prop where
  workers : E.workers = q.workers
  base : E.base = q.base
  submitted : E.items.drop E.base = q.submitted
  taken : List.Forall₂ (fun x n => E.pool.threads n = some (.ofExcept x)) q.taken E.yielded

/-- The answers of an executor to a client that reckons with these answers of its own; no future raises. -/
def Possible (own : (o : C.Op) → Except ε (C.Ret o) → Prop) : (o : ClientOp C ω) → Except ε (o.Ret β) → Prop
  | .own o, r => own o r
  | .next, r => ∃ b, r = .ok b
  | .create _, r | .submit _, r | .shutdown, r => r = .ok ()

variable {q : Account ω ε β} {E E' : Executor ω S ε β σ}

/-- The two count the same. -/
theorem Agrees.length_taken (h : q.Agrees E) : q.taken.length = E.yielded.length := h.taken.length_eq

theorem Agrees.length_submitted (h : q.Agrees E) : q.submitted.length = E.items.length - E.base := by
  rw [← h.submitted, List.length_drop]

/-- A result stays what it is. -/
theorem Agrees.of_threads (h : q.Agrees E) (hworkers : E'.workers = E.workers) (hitems : E'.items = E.items)
    (hbase : E'.base = E.base) (hyielded : E'.yielded = E.yielded)
    (hthreads : ∀ n x, E.pool.threads n = some (.ofExcept x) → E'.pool.threads n = some (.ofExcept x)) :
    q.Agrees E' where
  workers := hworkers.trans h.workers
  base := hbase.trans h.base
  submitted := by
    rw [hitems, hbase]
    exact h.submitted
  taken := by
    rw [hyielded]
    exact h.taken.imp fun x n => hthreads n x

theorem Agrees.work {program : ω → Prog S ε β} {exec : Nat → (o : S.Op) → σ → Except ε (S.Ret o) → σ → Prop}
    (h : q.Agrees E) (hsound : E.Sound) (hwork : Executor.Work program exec E E') : q.Agrees E' := by
  cases hwork with
  | start hitem hidle =>
    refine h.of_threads rfl rfl rfl rfl fun n x hn => ?_
    refine (Executor.spawn_of_ne ?_).trans hn
    rintro rfl
    rw [hsound.unstarted _ (Nat.le_refl _)] at hn
    cases hn
  | call hrunning hcall =>
    cases hcall with
    | @call o k r s' hcaller hex =>
      refine h.of_threads rfl rfl rfl rfl fun n x hn => ?_
      refine (Function.update_of_ne ?_ _ _).trans hn
      rintro rfl
      rw [hcaller] at hn
      cases x <;> cases hn
  | finish hrunning hended => exact h.of_threads rfl rfl rfl rfl fun _ _ hn => hn

theorem Agrees.serve {own : (o : C.Op) → σ → Except ε (C.Ret o) → σ → Prop} (h : q.Agrees E) (hsound : E.Sound)
    {o : ClientOp C ω} {r : Except ε (o.Ret β)} (hserve : Executor.Serve own o E r E') : (q.next o r).Agrees E' := by
  cases hserve with
  | own _ => exact h.of_threads rfl rfl rfl rfl fun _ _ hn => hn
  | create workers _ _ _ =>
    refine ⟨rfl, ?_, List.drop_length, .nil⟩
    have hlength := h.length_submitted
    have hbase := h.base
    have hle := hsound.base_le.trans hsound.begun_le
    show E.items.length = q.base + q.submitted.length
    omega
  | submit w =>
    refine ⟨h.workers, h.base, ?_, h.taken⟩
    show (E.items ++ [w]).drop E.base = q.submitted ++ [w]
    rw [List.drop_append_of_le_length (hsound.base_le.trans hsound.begun_le), h.submitted]
  | next _ hended => exact ⟨h.workers, h.base, h.submitted, List.rel_append h.taken (.cons hended .nil)⟩
  | shutdown _ _ => exact h

end Account

/-! ## Clients -/

section Clients

variable {δ : Type}

/-- `for w in ws: pool.submit(..., w)`. -/
def submitAll : List ω → Prog (clientSig C ω β) ε Unit
  | [] => .ret ()
  | w :: ws => (Prog.perform (S := clientSig C ω β) (.submit w)).bind fun _ => submitAll ws

/-- `for fut in as_completed(futures)`, with so many futures left. -/
def forEachCompleted (body : δ → β → Prog (clientSig C ω β) ε δ) : Nat → δ → Prog (clientSig C ω β) ε δ
  | 0, d => .ret d
  | n + 1, d => (Prog.perform (S := clientSig C ω β) .next).bind fun b =>
    (body d b).bind fun d' => forEachCompleted body n d'

theorem finishes_submitAll (ws : List ω) :
    (submitAll ws : Prog (clientSig C ω β) ε Unit).Finishes fun _ => True := by
  induction ws with
  | nil => trivial
  | cons w ws ih => exact (Prog.finishes_perform trivial).bind fun _ => ih

theorem finishes_forEachCompleted {body : δ → β → Prog (clientSig C ω β) ε δ}
    (hbody : ∀ d b, (body d b).Finishes fun _ => True) (n : Nat) (d : δ) :
    (forEachCompleted body n d).Finishes fun _ => True := by
  induction n generalizing d with
  | zero => trivial
  | succ n ih => exact (Prog.finishes_perform trivial).bind fun b => (hbody d b).bind ih

variable {M : Monitor (clientSig C ω β) ε Q} {q : Q}

/-- Submitting item by item. -/
theorem obeys_submitAll {I : List ω → Q → Prop} (hstep : ∀ w ws q, I (w :: ws) q → M.allows q (.submit w) ∧
      ∀ r, M.possible (.submit w) r → r = .ok () ∧ I ws (M.next q (.submit w) r))
    {ws : List ω} (h : I ws q) :
    (submitAll ws : Prog (clientSig C ω β) ε Unit).Obeys M (fun q' x => x = .ok () ∧ I [] q') q := by
  induction ws generalizing q with
  | nil => exact ⟨rfl, h⟩
  | cons w ws ih =>
    obtain ⟨hallowed, hnext⟩ := hstep w ws q h
    rw [submitAll, Prog.obeys_bind, Prog.obeys_perform]
    refine ⟨hallowed, fun r hr => ?_⟩
    obtain ⟨rfl, hI⟩ := hnext r hr
    exact ih hI

/-- Taking result by result; the body raises nothing. -/
theorem obeys_forEachCompleted {body : δ → β → Prog (clientSig C ω β) ε δ} {I : Nat → Q → δ → Prop}
    (hstep : ∀ n q d, I (n + 1) q d → M.allows q .next ∧ ∀ r, M.possible .next r → ∃ b, r = .ok b ∧
      (body d b).Obeys M (fun q' x => ∃ d', x = .ok d' ∧ I n q' d') (M.next q .next r))
    {n : Nat} {d : δ} (h : I n q d) :
    (forEachCompleted body n d).Obeys M (fun q' x => ∃ d', x = .ok d' ∧ I 0 q' d') q := by
  induction n generalizing q d with
  | zero => exact ⟨d, rfl, h⟩
  | succ n ih =>
    obtain ⟨hallowed, hnext⟩ := hstep n q d h
    rw [forEachCompleted, Prog.obeys_bind, Prog.obeys_perform]
    refine ⟨hallowed, fun r hr => ?_⟩
    obtain ⟨b, rfl, hbody⟩ := hnext r hr
    refine hbody.bind (fun q' d' hd' => ?_) (fun q' e he => ?_)
    · obtain ⟨d'', hd'', hI⟩ := hd'
      obtain rfl := Except.ok.inj hd''
      exact ih hI
    · obtain ⟨d', hd', -⟩ := he
      cases hd'

end Clients

end CertWatch.Lib
