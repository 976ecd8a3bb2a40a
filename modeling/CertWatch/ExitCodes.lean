/-
# `CertWatch.ExitCodes` — what the exit code says about a run.

`run` looks at `auth_error_event` once, as its last call, so its code is 2 exactly when a handler of an
authentication error has set that event before.  Its code is 0 in every other run that started its threads, and the
catch-alls of the three loops set the shutdown event just as a signal does.
-/
import CertWatch.MainThread
import CertWatch.ThreadExits

namespace CertWatch

open CertWatch.Lib

variable {setup : Setup} {main_thread : Bool} {Meets : AgentLabel → AgentPool → Prop} {P : AgentPool}

/-! ## The main thread of a run -/

theorem ReachableBy.main_follows (h : ReachableBy setup main_thread Meets P) {p : Agent (Option Int)}
    (hp : P.threads .main = some p) :
    (mainMonitor (callsAfterStart setup)).Lawful {} (ownEvents .main P.shared.log) ∧
      p.Obeys (mainMonitor (callsAfterStart setup)) MainReturns
        ((mainMonitor (callsAfterStart setup)).after {} (ownEvents .main P.shared.log)) := by
  refine h.follows (fun _ _ => id) ?_ hp
  rintro p₀ (⟨-, rfl⟩ | ⟨thread, hid, -⟩)
  · exact obeys_mainProgram setup
  · cases thread <;> cases hid

section View

variable {total : Nat} {q : MainView} {cs : List AgentCall}

theorem left_next {o : AgentOp} {r : Except PyExc o.Ret} (h : q.left ≠ none) :
    (MainView.next total q o r).left ≠ none := by
  obtain ⟨n, hn⟩ := Option.ne_none_iff_exists'.mp h
  rw [left_next_eq, hn]
  show some (n - 1) ≠ none
  nofun

/-- Once a thread is started, the count is running. -/
theorem left_after {c : AgentCall} (hc : c ∈ cs) {thread : ThreadSpec} (hstart : c.op = .start thread) :
    ((mainMonitor total).after q cs).left ≠ none := by
  induction cs using List.reverseRecOn with
  | nil => cases hc
  | append_singleton cs d ih =>
    rw [(mainMonitor total).after_concat]
    rcases List.mem_append.mp hc with hc | hc
    · exact left_next (ih hc)
    · obtain rfl := List.mem_singleton.mp hc
      obtain ⟨o, r⟩ := c
      obtain rfl : o = .start thread := hstart
      show MainView.leftAfter total _ (.start thread) ≠ none
      cases ((mainMonitor total).after q cs).left <;> nofun

/-- The look at the flag is the last call, and tells the flag. -/
theorem after_read {r : Except PyExc Bool} {post : List AgentCall}
    (h : (mainMonitor total).Lawful q (cs ++ ⟨.isSet .authError, r⟩ :: post)) :
    post = [] ∧ ∃ b, r = .ok b ∧ ((mainMonitor total).after q (cs ++ [⟨.isSet .authError, r⟩])).read = some b := by
  obtain ⟨-, -, ⟨s, hr⟩, hpost⟩ := (mainMonitor total).lawful_at.mp h
  obtain rfl : r = .ok s.auth_error := hr
  have hread : ((mainMonitor total).after q (cs ++ [⟨.isSet .authError, .ok s.auth_error⟩])).read =
      some s.auth_error := by
    rw [(mainMonitor total).after_concat]
    rfl
  refine ⟨?_, s.auth_error, rfl, hread⟩
  cases post with
  | nil => rfl
  | cons c post =>
    have hallowed := hpost.1.1
    rw [hread] at hallowed
    cases hallowed

/-- What is found unread before a call is read by that call. -/
theorem read_next {o : AgentOp} {r : Except PyExc o.Ret} {b : Bool} (hread : (MainView.next total q o r).read = some b)
    (hnone : q.read = none) : o = .isSet .authError ∧ r ≍ (.ok b : Except PyExc Bool) ∧
      (MainView.next total q o r).woken = q.woken := by
  unfold MainView.next at hread ⊢
  split at hread
  · exact absurd (hnone.symm.trans hread) nofun
  · exact absurd (hnone.symm.trans hread) nofun
  · obtain rfl := Option.some.inj hread
    exact ⟨rfl, .rfl, rfl⟩
  · exact absurd (hnone.symm.trans hread) nofun

/-- A flag that was read was read by the last call. -/
theorem exists_read {b : Bool} (h : (mainMonitor total).Lawful {} cs)
    (hread : ((mainMonitor total).after {} cs).read = some b) :
    ∃ cs', cs = cs' ++ [⟨.isSet .authError, .ok b⟩] ∧
      ((mainMonitor total).after {} cs').woken = ((mainMonitor total).after {} cs).woken := by
  induction cs using List.reverseRecOn with
  | nil => cases hread
  | append_singleton cs c ih =>
    obtain ⟨o, r⟩ := c
    have hallowed := ((mainMonitor total).lawful_concat.mp h).2.1.1
    rw [(mainMonitor total).after_concat] at hread ⊢
    obtain ⟨rfl, hr, hwoken⟩ := read_next hread hallowed
    obtain rfl := eq_of_heq hr
    exact ⟨cs, rfl, hwoken.symm⟩

/-- Having woken is having seen the shutdown event set. -/
theorem exists_saw (h : ((mainMonitor total).after {} cs).woken = true) :
    ∃ c ∈ cs, sawShutdown c.op c.answer = true := by
  induction cs using List.reverseRecOn with
  | nil => cases h
  | append_singleton cs c ih =>
    rw [(mainMonitor total).after_concat] at h
    have hor : ((mainMonitor total).after {} cs).woken = true ∨ sawShutdown c.op c.answer = true := by
      obtain ⟨o, r⟩ := c
      change (MainView.next total _ o r).woken = true at h
      unfold MainView.next at h
      split at h
      · exact Bool.or_eq_true_iff.mp h
      · exact Bool.or_eq_true_iff.mp h
      · exact Or.inl h
      · exact Or.inl h
    rcases hor with hor | hor
    · obtain ⟨d, hd, hsaw⟩ := ih hor
      exact ⟨d, List.mem_append_left _ hd, hsaw⟩
    · exact ⟨c, List.mem_append_right _ (List.mem_singleton_self c), hor⟩

end View

/-! ## The other threads of a run -/

theorem ReachableBy.auth_follows (h : ReachableBy setup main_thread Meets P) {i : ThreadId} (hi : i ≠ .main)
    {p : Agent (Option Int)} (hp : P.threads i = some p) :
    authMonitor.Lawful .calm (ownEvents i P.shared.log) ∧
      p.Obeys authMonitor Settled (authMonitor.after .calm (ownEvents i P.shared.log)) := by
  refine h.follows (fun _ _ => id) ?_ hp
  rintro p₀ (⟨rfl, -⟩ | ⟨thread, rfl, rfl⟩)
  · exact absurd rfl hi
  · exact settled_agentProgram setup thread

section Phases

variable {cs : List AgentCall}

theorem next_eq_alarmed {q : AuthPhase} {o : AgentOp} {r : Except PyExc o.Ret}
    (h : authMonitor.next q o r = .alarmed) : isAuthAnswer o r = true := by
  cases q with
  | calm =>
    change calmNext o r = .alarmed at h
    unfold calmNext at h
    split_ifs at h with hanswer
    · exact hanswer
    · split at h <;> cases h
  | _ => cases h

/-- A thread is alarmed by the answer it just had. -/
theorem exists_of_alarmed (h : authMonitor.after .calm cs = .alarmed) :
    ∃ cs' c, cs = cs' ++ [c] ∧ isAuthAnswer c.op c.answer = true := by
  induction cs using List.reverseRecOn with
  | nil => cases h
  | append_singleton cs c ih =>
    rw [authMonitor.after_concat] at h
    exact ⟨cs, c, rfl, next_eq_alarmed h⟩

/-- One flag is set right after an answer of 401. -/
theorem exists_of_flagged (hlawful : authMonitor.Lawful .calm cs) (h : authMonitor.after .calm cs = .flagged) :
    ∃ cs' c r, cs = cs' ++ [c, ⟨.set .authError, r⟩] ∧ isAuthAnswer c.op c.answer = true := by
  induction cs using List.reverseRecOn with
  | nil => cases h
  | append_singleton cs d ih =>
    obtain ⟨hcs, hallowed, -⟩ := authMonitor.lawful_concat.mp hlawful
    rw [authMonitor.after_concat] at h
    cases hphase : authMonitor.after .calm cs with
    | alarmed =>
      rw [hphase] at hallowed
      obtain ⟨cs', c, rfl, hc⟩ := exists_of_alarmed hphase
      obtain ⟨o, r⟩ := d
      obtain rfl : o = .set .authError := hallowed
      exact ⟨cs', c, r, by simp, hc⟩
    | calm =>
      rw [hphase] at h
      change calmNext d.op d.answer = .flagged at h
      unfold calmNext at h
      split_ifs at h
      split at h <;> cases h
    | flagged => rw [hphase] at h; cases h
    | crashed => rw [hphase] at h; cases h

/-- The catch-all is entered by its log record. -/
theorem exists_of_crashed (h : authMonitor.after .calm cs = .crashed) :
    ∃ cs' event r, cs = cs' ++ [⟨.unhandledException event, r⟩] := by
  induction cs using List.reverseRecOn with
  | nil => cases h
  | append_singleton cs d ih =>
    rw [authMonitor.after_concat] at h
    cases hphase : authMonitor.after .calm cs with
    | calm =>
      rw [hphase] at h
      change calmNext d.op d.answer = .crashed at h
      obtain ⟨o, r⟩ := d
      unfold calmNext at h
      split_ifs at h
      split at h
      · rename_i event _ heq _
        obtain rfl : o = .unhandledException event := heq
        exact ⟨cs, event, r, rfl⟩
      · cases h
    | alarmed => rw [hphase] at h; cases h
    | flagged => rw [hphase] at h; cases h
    | crashed => rw [hphase] at h; cases h

end Phases

/-! ## The code and the flag -/

/-- The run has started a thread. -/
def StartedThreads (log : List (ThreadId × AgentCall)) : Prop := ∃ thread r, (.main, ⟨.start thread, r⟩) ∈ log

/-- A call of the thread was answered 401, and its next call has set `auth_error_event`. -/
def FlaggedAuth (i : ThreadId) (log : List (ThreadId × AgentCall)) : Prop :=
  ∃ c r, isAuthAnswer c.op c.answer = true ∧ [c, ⟨.set .authError, r⟩] <:+: ownEvents i log

/-- The handler has run to its end: both events are set. -/
def FinishedAuth (i : ThreadId) (log : List (ThreadId × AgentCall)) : Prop :=
  ∃ c r r', isAuthAnswer c.op c.answer = true ∧
    [c, ⟨.set .authError, r⟩, ⟨.set .shutdown, r'⟩] <:+: ownEvents i log

/-- Since a call of its was answered 401, the thread has not come to its catch-all. -/
def HandlesAuth (cs : List AgentCall) : Prop :=
  ∃ cs₁ c cs₂, cs = cs₁ ++ c :: cs₂ ∧ isAuthAnswer c.op c.answer = true ∧
    ∀ d ∈ cs₂, ∀ event, d.op ≠ .unhandledException event

theorem FinishedAuth.flagged {i : ThreadId} {log : List (ThreadId × AgentCall)} (h : FinishedAuth i log) :
    FlaggedAuth i log := by
  obtain ⟨c, r, r', hc, hsub⟩ := h
  exact ⟨c, r, hc, List.IsInfix.trans ⟨[], [⟨.set .shutdown, r'⟩], rfl⟩ hsub⟩

theorem FlaggedAuth.mem {i : ThreadId} {log : List (ThreadId × AgentCall)} (h : FlaggedAuth i log) :
    ∃ r, (i, ⟨.set .authError, r⟩) ∈ log := by
  obtain ⟨c, r, -, hsub⟩ := h
  exact ⟨r, mem_ownEvents_iff.mp (hsub.subset (List.mem_cons_of_mem c (List.mem_singleton_self _)))⟩

/-- Whoever sets `auth_error_event` was answered 401 right before. -/
theorem ReachableBy.flagged_of_set (h : ReachableBy setup main_thread Meets P) {i : ThreadId} {r : Except PyExc Unit}
    (hset : (i, ⟨.set .authError, r⟩) ∈ P.shared.log) : FlaggedAuth i P.shared.log := by
  have hi : i ≠ .main := by
    rintro rfl
    cases h.calledBy hset
  obtain ⟨cs, cs', hown⟩ := List.append_of_mem (mem_ownEvents_iff.mpr hset)
  cases hp : P.threads i with
  | none =>
    rw [h.traced.of_none hp] at hown
    cases cs <;> cases hown
  | some p =>
    have hlawful := (h.auth_follows hi hp).1
    rw [hown] at hlawful
    obtain ⟨-, hallowed, -⟩ := authMonitor.lawful_at.mp hlawful
    have halarmed : authMonitor.after .calm cs = .alarmed := by
      cases hphase : authMonitor.after .calm cs with
      | alarmed => rfl
      | calm => rw [hphase] at hallowed; cases hallowed
      | flagged => rw [hphase] at hallowed; cases hallowed
      | crashed => rw [hphase] at hallowed; cases hallowed
    obtain ⟨cs₀, c, rfl, hc⟩ := exists_of_alarmed halarmed
    exact ⟨c, r, hc, cs₀, cs', by rw [hown]; simp⟩

/-- **The flag is set exactly when some thread has begun to handle an authentication error.** -/
theorem ReachableBy.auth_error_iff (h : ReachableBy setup main_thread Meets P) :
    P.shared.auth_error = true ↔ ∃ i, FlaggedAuth i P.shared.log := by
  rw [show P.shared.auth_error = P.shared.isSet .authError from rfl, h.isSet_iff .authError]
  constructor
  · rintro (⟨i, r, hset⟩ | ⟨he, -⟩)
    · exact ⟨i, h.flagged_of_set hset⟩
    · cases he
  · rintro ⟨i, hi⟩
    obtain ⟨r, hset⟩ := hi.mem
    exact Or.inl ⟨i, r, hset⟩

/-- A look at the flag tells whether some thread had begun to handle an authentication error. -/
theorem ReachableBy.read_iff (h : ReachableBy setup main_thread Meets P) {i : ThreadId} {b : Bool}
    {pre post : List (ThreadId × AgentCall)} (hlog : P.shared.log = pre ++ (i, ⟨.isSet .authError, .ok b⟩) :: post) :
    b = true ↔ ∃ j, FlaggedAuth j pre := by
  obtain ⟨P₀, -, hP₀, rfl, -, -, hanswer, -⟩ := h.before hlog
  rw [← hP₀.auth_error_iff, show b = P₀.shared.auth_error from Except.ok.inj hanswer]

/-- How a run that started its threads ends. -/
theorem ReachableBy.returned (h : ReachableBy setup main_thread Meets P) {code : Int}
    (hreturned : P.threads .main = some (.ret (some code))) (hstarted : StartedThreads P.shared.log)
    {r : Except PyExc Bool} {pre post : List (ThreadId × AgentCall)}
    (hlog : P.shared.log = pre ++ (.main, ⟨.isSet .authError, r⟩) :: post) : ∃ b, r = .ok b ∧ code = exitCode b := by
  obtain ⟨hlawful, hends⟩ := h.main_follows hreturned
  obtain ⟨thread, r', hstart⟩ := hstarted
  have hleft := @left_after (callsAfterStart setup) {} _ _ (mem_ownEvents_iff.mpr hstart) _ rfl
  rw [hlog, ownEvents_append, ownEvents_cons_self] at hlawful hends hleft
  obtain ⟨hlast, b, hr, hread⟩ := after_read hlawful
  rw [hlast] at hends hleft
  obtain ⟨y, hy, hcode⟩ := hends
  cases y with
  | error e => cases hcode
  | ok code' =>
    obtain rfl : code = code' := Option.some.inj (Except.ok.inj hcode)
    obtain ⟨b', hread', hcode'⟩ := hy.1 hleft
    rw [hread] at hread'
    obtain rfl := Option.some.inj hread'
    exact ⟨b, hr, hcode'⟩

/-- It has looked at the flag. -/
theorem ReachableBy.has_read (h : ReachableBy setup main_thread Meets P) {code : Int}
    (hreturned : P.threads .main = some (.ret (some code))) (hstarted : StartedThreads P.shared.log) :
    ∃ r pre post, P.shared.log = pre ++ (.main, ⟨.isSet .authError, r⟩) :: post := by
  obtain ⟨hlawful, y, hy, hcode⟩ := h.main_follows hreturned
  obtain ⟨thread, r', hstart⟩ := hstarted
  have hleft := @left_after (callsAfterStart setup) {} _ _ (mem_ownEvents_iff.mpr hstart) _ rfl
  cases y with
  | error e => exact absurd hy hleft
  | ok code' =>
    obtain ⟨b, hread, -⟩ := hy.1 hleft
    obtain ⟨cs, hcs, -⟩ := exists_read hlawful hread
    obtain ⟨pre, post, hlog, -⟩ := split_of_ownEvents hcs
    exact ⟨_, pre, post, hlog⟩

theorem exitCode_eq_auth_iff (b : Bool) : exitCode b = exitAuthError ↔ b = true := by
  cases b <;> decide

/-- What the exit code and the two events say about authentication errors. -/
structure AuthExit (P : AgentPool) : Prop where
  /-- A run that started its threads looks at the flag before it returns. -/
  decided : ∀ code, P.threads .main = some (.ret (some code)) → StartedThreads P.shared.log →
    ∃ r pre post, P.shared.log = pre ++ (.main, ⟨.isSet .authError, r⟩) :: post
  /-- It returns 2 exactly when a handler has set the flag before that look, and 0 otherwise. -/
  code : ∀ code r pre post, P.threads .main = some (.ret (some code)) → StartedThreads P.shared.log →
    P.shared.log = pre ++ (.main, ⟨.isSet .authError, r⟩) :: post →
      (code = exitAuthError ↔ ∃ i, FlaggedAuth i pre) ∧ (code = exitClean ∨ code = exitAuthError)
  /-- So it returns 2 when a handler has run to its end before. -/
  finished : ∀ code r pre post, P.threads .main = some (.ret (some code)) → StartedThreads P.shared.log →
    P.shared.log = pre ++ (.main, ⟨.isSet .authError, r⟩) :: post → (∃ i, FinishedAuth i pre) → code = exitAuthError
  /-- A handler sets the shutdown event with the flag set. -/
  flag_first : ∀ i r pre post, P.shared.log = pre ++ (i, ⟨.set .shutdown, r⟩) :: post →
    HandlesAuth (ownEvents i pre) → (∃ j, FlaggedAuth j pre) ∧ P.shared.auth_error = true
  /-- A thread that was answered 401 sets the flag next, and the shutdown event after it. -/
  handled : ∀ i p c cs, i ≠ .main → P.threads i = some p → isAuthAnswer c.op c.answer = true →
    (ownEvents i P.shared.log = cs ++ [c] → ∃ k, p = .call (.set .authError) k) ∧
    (∀ r, ownEvents i P.shared.log = cs ++ [c, ⟨.set .authError, r⟩] → ∃ k, p = .call (.set .shutdown) k)

/-- An answer of 401 alarms the thread that had it. -/
theorem after_of_isAuthAnswer {cs : List AgentCall} {c : AgentCall} (hlawful : authMonitor.Lawful .calm (cs ++ [c]))
    (hc : isAuthAnswer c.op c.answer = true) : authMonitor.after .calm (cs ++ [c]) = .alarmed := by
  obtain ⟨-, hallowed, -⟩ := authMonitor.lawful_concat.mp hlawful
  rw [authMonitor.after_concat]
  obtain ⟨o, r⟩ := c
  cases hphase : authMonitor.after .calm cs with
  | calm => exact if_pos hc
  | alarmed =>
    rw [hphase] at hallowed
    obtain rfl : o = .set .authError := hallowed
    cases hc
  | flagged =>
    rw [hphase] at hallowed
    obtain rfl : o = .set .shutdown := hallowed
    cases hc
  | crashed =>
    rw [hphase] at hallowed
    obtain rfl : o = .set .shutdown := hallowed
    cases hc

/-- A thread that is alarmed, or has set one flag, is about to make the one call that is allowed. -/
theorem next_call {p : Agent (Option Int)} {q : AuthPhase} (h : p.Obeys authMonitor Settled q) (hq : q ≠ .calm) :
    ∃ o k, p = .call o k ∧ authMonitor.allows q o := by
  cases p with
  | ret a => exact absurd h hq
  | raise e => exact absurd h hq
  | hang => exact absurd h hq
  | call o k => exact ⟨o, k, rfl, h.1⟩

/-- Only a handler or a catch-all sets the shutdown event. -/
theorem phase_of_set_shutdown {q : AuthPhase} (h : authMonitor.allows q (.set .shutdown)) :
    q = .flagged ∨ q = .crashed := by
  cases q with
  | calm => cases h
  | alarmed => cases h
  | flagged => exact Or.inl rfl
  | crashed => exact Or.inr rfl

theorem ReachableBy.phase_at_set (h : ReachableBy setup main_thread Meets P) {i : ThreadId} {r : Except PyExc Unit}
    {pre post : List (ThreadId × AgentCall)} (hlog : P.shared.log = pre ++ (i, ⟨.set .shutdown, r⟩) :: post) :
    authMonitor.Lawful .calm (ownEvents i pre) ∧ (authMonitor.after .calm (ownEvents i pre) = .flagged ∨
      authMonitor.after .calm (ownEvents i pre) = .crashed) := by
  have hset : (i, ⟨.set .shutdown, r⟩) ∈ P.shared.log := by
    rw [hlog]
    exact List.mem_append_right _ List.mem_cons_self
  have hi : i ≠ .main := by
    rintro rfl
    cases h.calledBy hset
  cases hp : P.threads i with
  | none =>
    have hown := mem_ownEvents_iff.mpr hset
    rw [h.traced.of_none hp] at hown
    cases hown
  | some p =>
    have hlawful := (h.auth_follows hi hp).1
    rw [hlog, ownEvents_append, ownEvents_cons_self] at hlawful
    obtain ⟨hpre, hallowed, -⟩ := authMonitor.lawful_at.mp hlawful
    exact ⟨hpre, phase_of_set_shutdown hallowed⟩

/-- A thread in its catch-all is not handling an authentication error. -/
theorem not_handlesAuth {cs : List AgentCall} {event : String} {r : Except PyExc Unit}
    (h : HandlesAuth (cs ++ [⟨.unhandledException event, r⟩])) : False := by
  obtain ⟨cs₁, c, cs₂, hcs, hc, hno⟩ := h
  rcases List.eq_nil_or_concat cs₂ with rfl | ⟨cs₂, d, rfl⟩
  · obtain rfl := List.singleton_inj.mp (List.append_inj' hcs rfl).2
    cases hc
  · have hsplit : cs ++ [⟨.unhandledException event, r⟩] = (cs₁ ++ c :: cs₂) ++ [d] := hcs.trans (by simp)
    obtain rfl := List.singleton_inj.mp (List.append_inj' hsplit rfl).2
    exact hno ⟨.unhandledException event, r⟩ (by simp) event rfl

/-- **The exit code tells the authentication errors of a run**, in every interleaving. -/
theorem ReachableBy.authExit (h : ReachableBy setup main_thread Meets P) : AuthExit P where
  decided _ hreturned hstarted := h.has_read hreturned hstarted
  code _ _ _ _ hreturned hstarted hlog := by
    obtain ⟨b, rfl, rfl⟩ := h.returned hreturned hstarted hlog
    refine ⟨(exitCode_eq_auth_iff b).trans (h.read_iff hlog), ?_⟩
    cases b <;> simp [exitCode]
  finished _ _ _ _ hreturned hstarted hlog hfinished := by
    obtain ⟨b, rfl, rfl⟩ := h.returned hreturned hstarted hlog
    obtain ⟨i, hi⟩ := hfinished
    exact (exitCode_eq_auth_iff b).mpr ((h.read_iff hlog).mpr ⟨i, hi.flagged⟩)
  flag_first i r pre post hlog hhandles := by
    obtain ⟨hlawful, hphase | hphase⟩ := h.phase_at_set hlog
    · obtain ⟨cs, c, r', hcs, hc⟩ := exists_of_flagged hlawful hphase
      have hflagged : FlaggedAuth i pre := ⟨c, r', hc, cs, [], by rw [hcs, List.append_nil]⟩
      obtain ⟨r'', hmem⟩ := hflagged.mem
      have hset : (i, ⟨.set .authError, r''⟩) ∈ P.shared.log := by
        rw [hlog]
        exact List.mem_append_left _ hmem
      exact ⟨⟨i, hflagged⟩, h.isSet_of_set hset⟩
    · obtain ⟨cs, event, r', hcs⟩ := exists_of_crashed hphase
      rw [hcs] at hhandles
      exact (not_handlesAuth hhandles).elim
  handled i p c cs hi hp hc := by
    obtain ⟨hlawful, hobeys⟩ := h.auth_follows hi hp
    refine ⟨fun hown => ?_, fun r hown => ?_⟩
    · rw [hown] at hlawful hobeys
      rw [after_of_isAuthAnswer hlawful hc] at hobeys
      obtain ⟨o, k, rfl, hallowed⟩ := next_call hobeys nofun
      obtain rfl : o = .set .authError := hallowed
      exact ⟨k, rfl⟩
    · rw [hown, show cs ++ [c, ⟨.set .authError, r⟩] = (cs ++ [c]) ++ [⟨.set .authError, r⟩] by simp] at hlawful hobeys
      have halarmed := after_of_isAuthAnswer (authMonitor.lawful_concat.mp hlawful).1 hc
      rw [authMonitor.after_concat, halarmed] at hobeys
      obtain ⟨o, k, rfl, hallowed⟩ := next_call hobeys nofun
      obtain rfl : o = .set .shutdown := hallowed
      exact ⟨k, rfl⟩

/-- A registered agent whose secret is revoked while it runs. -/
def revoked : Scene := { credentials := registered, heartbeat := some ⟨401, .notJson⟩ }

/-- SIGTERM arrives while the heartbeat thread's handler has set only the first of its two events, and the main
thread's joins run into their timeouts. -/
def overtakenHandler : AgentPool :=
  (AgentPool.initial smallSetup true).moves smallSetup revoked
    [.calls .main 13, .begins 0, .calls .heartbeat 7, .signal .sigterm, .calls .main 7]

theorem authExit_overtakenHandler : AuthExit overtakenHandler := (alive_initial.moves _).reachable.authExit

/-- The call sets the shutdown event. -/
def AgentOp.isSetShutdown : AgentOp → Bool
  | .set .shutdown => true
  | _ => false

/-- The run returns 2 although no handler has run to its end. -/
theorem overtakenHandler_exits : ¬ ∀ setup P, Reachable setup true P → ∀ code r pre post,
    P.threads .main = some (.ret (some code)) → StartedThreads P.shared.log →
    P.shared.log = pre ++ (.main, ⟨.isSet .authError, r⟩) :: post →
      (code = exitAuthError ↔ ∃ i, FinishedAuth i pre) := by
  intro h
  have hreachable : Reachable smallSetup true overtakenHandler := (alive_initial.moves _).reachable
  have hreturned : overtakenHandler.threads .main = some (.ret (some exitAuthError)) := rfl
  have hlast : ∃ thread r, overtakenHandler.shared.log[10]? = some (.main, ⟨.start thread, r⟩) := ⟨_, _, rfl⟩
  obtain ⟨thread, r, hstart⟩ := hlast
  have hstarted : StartedThreads overtakenHandler.shared.log := ⟨thread, r, List.mem_of_getElem? hstart⟩
  obtain ⟨r', pre, post, hlog⟩ := hreachable.has_read hreturned hstarted
  obtain ⟨i, c, r₁, r₂, -, hsub⟩ := (h _ _ hreachable _ _ _ _ hreturned hstarted hlog).mp rfl
  have hmem : (i, ⟨.set .shutdown, r₂⟩) ∈ overtakenHandler.shared.log := by
    rw [hlog]
    exact List.mem_append_left _ (mem_ownEvents_iff.mp (hsub.subset (by simp)))
  have hnone : overtakenHandler.shared.log.all (fun e => !e.2.op.isSetShutdown) = true := rfl
  have hset := List.all_eq_true.mp hnone _ hmem
  cases hset

/-! ## A clean exit -/

/-- A loop comes to its catch-all only after shutdown was asked for, or with `auth_error_event` set. -/
def CatchAllsCaused (label : AgentLabel) (P : AgentPool) : Prop :=
  ∀ i event k, label = .call i → P.threads i = some (.call (.unhandledException event) k) →
    P.shared.AskedToStop ∨ P.shared.auth_error = true

/-- Then every shutdown has one of the two causes. -/
theorem ReachableBy.shutdown_cause (h : ReachableBy setup main_thread CatchAllsCaused P)
    (hset : P.shared.shutdown = true) : P.shared.AskedToStop ∨ P.shared.auth_error = true := by
  rcases (h.isSet_iff .shutdown).mp hset with ⟨i, r, hmem⟩ | ⟨-, hasked⟩
  · obtain ⟨pre, post, hlog⟩ := List.append_of_mem hmem
    obtain ⟨hlawful, hphase | hphase⟩ := h.phase_at_set hlog
    · obtain ⟨cs, c, r', hcs, -⟩ := exists_of_flagged hlawful hphase
      have hauth : (i, ⟨.set .authError, r'⟩) ∈ P.shared.log := by
        rw [hlog]
        refine List.mem_append_left _ (mem_ownEvents_iff.mp ?_)
        rw [hcs]
        simp
      exact Or.inr (h.isSet_of_set hauth)
    · obtain ⟨cs, event, r', hcs⟩ := exists_of_crashed hphase
      obtain ⟨pre₁, post₁, rfl, -, -⟩ := split_of_ownEvents hcs
      have hlog' : P.shared.log = pre₁ ++ (i, ⟨.unhandledException event, r'⟩) ::
          (post₁ ++ (i, ⟨.set .shutdown, r⟩) :: post) := by
        rw [hlog]
        simp
      obtain ⟨P₀, k, hP₀, -, hmeets, hi, -, hcont⟩ := h.before hlog'
      have hext : Extends P₀.shared P.shared := (extends_afterCall _ _ _ _).trans hcont.extends
      exact (hmeets i event k rfl hi).imp hext.asked (hext.isSet .authError)
  · exact Or.inl hasked

/-- **Exit 0 means a requested shutdown**, in every run whose loops come to their catch-alls only after one. -/
theorem ReachableBy.exit_clean (h : ReachableBy setup main_thread CatchAllsCaused P)
    (hreturned : P.threads .main = some (.ret (some exitClean))) : P.shared.AskedToStop := by
  obtain ⟨hlawful, y, hy, hcode⟩ := h.main_follows hreturned
  cases y with
  | error e => cases hcode
  | ok code =>
    obtain rfl : exitClean = code := Option.some.inj (Except.ok.inj hcode)
    obtain ⟨hwoken, hread⟩ := hy.2 rfl
    obtain ⟨cs, hcs, hwoken'⟩ := exists_read hlawful hread
    obtain ⟨pre, post, hlog, rfl, -⟩ := split_of_ownEvents hcs
    -- when the flag was read it was unset, and the shutdown event was set
    obtain ⟨P₀, k, hP₀, rfl, -, -, hanswer, hcont⟩ := h.before hlog
    obtain ⟨c, hc, hsaw⟩ := exists_saw (hwoken'.trans hwoken)
    have hset := hP₀.shutdown_of_saw (mem_ownEvents_iff.mp hc) hsaw
    rcases hP₀.shutdown_cause hset with hasked | hauth
    · exact ((extends_afterCall _ _ _ _).trans hcont.extends).asked hasked
    · have hunset : P₀.shared.auth_error = false := (Except.ok.inj hanswer).symm
      rw [hunset] at hauth
      cases hauth

/-- A run in which no loop has come to its catch-all. -/
theorem ReachableBy.catchAllsCaused (h : ReachableBy setup main_thread Meets P)
    (hnone : ∀ i event r, (i, ⟨.unhandledException event, r⟩) ∉ P.shared.log) :
    ReachableBy setup main_thread CatchAllsCaused P := by
  induction h with
  | initial => exact .initial
  | @step label P P' _ _ hstep ih =>
    have hbefore := ih fun i event r hmem => hnone i event r (hstep.extends.log.subset hmem)
    refine .step hbefore (fun i event k hlabel hi => ?_) hstep
    subst hlabel
    cases hstep with
    | call hcall =>
      cases hcall with
      | @call o k' r s' hi' hex =>
        obtain rfl : o = .unhandledException event := (Prog.call.inj (Option.some.inj (hi'.symm.trans hi))).1
        refine absurd ?_ (hnone i event r)
        show _ ∈ s'.log
        rw [log_agentExec _ _ _ _ _ hex]
        exact List.mem_append_right _ (List.mem_singleton_self _)

/-- The call is the log record of a catch-all. -/
def AgentOp.isCatchAll : AgentOp → Bool
  | .unhandledException _ => true
  | _ => false

/-- SIGTERM arrives once the threads are started. -/
def terminated : AgentPool :=
  (AgentPool.initial smallSetup true).moves smallSetup offline [.calls .main 13, .signal .sigterm, .calls .main 7]

theorem exit_clean_terminated : terminated.shared.AskedToStop := by
  have hreachable : Reachable smallSetup true terminated := (alive_initial.moves _).reachable
  have hreturned : terminated.threads .main = some (.ret (some exitClean)) := rfl
  have hnone : terminated.shared.log.all (fun e => !e.2.op.isCatchAll) = true := rfl
  refine (hreachable.catchAllsCaused fun i event r hmem => ?_).exit_clean hreturned
  cases List.all_eq_true.mp hnone _ hmem

/-- The heartbeat thread fails on it, and everything is brought down. -/
def crashed : AgentPool :=
  (AgentPool.initial smallSetup true).moves smallSetup emptyConfig
    [.calls .main 13, .begins 0, .calls .heartbeat 7, .calls .main 7]

/-- Nobody has asked for shutdown, and the run returns 0. -/
theorem crashed_exits_clean : ¬ ∀ setup P, Reachable setup true P →
    P.threads .main = some (.ret (some exitClean)) → P.shared.AskedToStop := by
  intro h
  have hreturned : crashed.threads .main = some (.ret (some exitClean)) := rfl
  have hsignaled : crashed.shared.signaled = false := rfl
  have hrequested : crashed.shared.requested = false := rfl
  rcases h _ _ (alive_initial.moves _).reachable hreturned with hasked | hasked
  · exact absurd (hsignaled.symm.trans hasked) nofun
  · exact absurd (hrequested.symm.trans hasked) nofun

end CertWatch
