/-
# `CertWatch.NetBoxFilter` — what of `NETBOX_FILTER` reaches NetBox.

The filter is cut at `&` by `parse_qs`, which drops what it does not understand, and whatever is left becomes the
query.  The specification keeps every segment; the two agree exactly on the filters in which `parse_qs` finds nothing
to drop.  Percent-decoding is a parameter, since the agreement does not depend on it.
-/
import CertWatch.NetBoxClient
import CertWatch.Lib.Grouped
import CertWatch.Lib.Labels
import CertWatch.Lib.Monitor

namespace CertWatch

open CertWatch.Lib

/-! ## `parse_qs` -/

/-- The segments of a filter. -/
def segments (expr : String) : List (List Char) := expr.toList.splitOn '&'

section

variable (unquote : List Char → String)

/-- The key of a segment: what stands before its first `=`, decoded. -/
def segmentKey (segment : List Char) : String := unquote (segment.takeWhile (· != '='))

/-- The value of a segment: what stands after its first `=`, decoded. -/
def segmentValue (segment : List Char) : String := unquote (afterFirst '=' segment)

/-- `parse_qsl(expr, keep_blank_values=False)`: segments without `=` or with an empty value are dropped. -/
def parseQsl (expr : String) : List (String × String) :=
  ((segments expr).filter fun segment => '=' ∈ segment ∧ afterFirst '=' segment ≠ []).map fun segment =>
    (segmentKey unquote segment, segmentValue unquote segment)

/-- `parse_qs(expr, keep_blank_values=False)`. -/
def parseQs (expr : String) : List (String × List String) := grouped (parseQsl unquote expr)

/-! ## Keeping every segment -/

/-- The values of an argument. -/
def FilterValue.values : FilterValue → List String
  | .one v => [v]
  | .many vs => vs

/-- The values that the arguments have under a key. -/
def argumentValues (kwargs : List (String × FilterValue)) (k : String) : List String :=
  valuesUnder (kwargs.map fun kv => (kv.1, kv.2.values)) k

/-- The values that the segments that are not empty have under a key, in order. -/
def filterValues (expr : String) (k : String) : List String :=
  ((segments expr).filter fun segment => segment ≠ [] ∧ segmentKey unquote segment = k).map (segmentValue unquote)

/-- Every segment contributes its value under its key, and the query does not match every device. -/
def KeepsFilter (expr : String) (kwargs : List (String × FilterValue)) : Prop :=
  (∀ k, argumentValues kwargs k = filterValues unquote expr k) ∧ kwargs ≠ []

/-- There is a segment, and each one that is not empty has something after an `=`. -/
def WellFormedFilter (expr : String) : Prop :=
  (∃ segment ∈ segments expr, segment ≠ []) ∧
    ∀ segment ∈ segments expr, segment ≠ [] → '=' ∈ segment ∧ afterFirst '=' segment ≠ []

instance (expr : String) : Decidable (WellFormedFilter expr) := inferInstanceAs (Decidable (_ ∧ _))

/-- The arguments that `_parse_filter_expr` makes of the parsed filter: one value stands by itself. -/
def argumentsOf (parsed : List (String × List String)) : List (String × FilterValue) :=
  parsed.map fun (k, vs) => (k, match vs with
    | [v] => .one v
    | vs => .many vs)

theorem argumentValues_argumentsOf (parsed : List (String × List String)) (k : String) :
    argumentValues (argumentsOf parsed) k = valuesUnder parsed k := by
  unfold argumentValues argumentsOf
  rw [List.map_map]
  refine congrArg (valuesUnder · k) ((List.map_congr_left fun kv _ => ?_).trans (List.map_id parsed))
  obtain ⟨k', vs⟩ := kv
  rcases vs with _ | ⟨v, _ | ⟨v', vs⟩⟩ <;> rfl

variable {unquote} {expr : String}

/-- A segment that `parse_qs` keeps. -/
def Kept (segment : List Char) : Prop := '=' ∈ segment ∧ afterFirst '=' segment ≠ []

instance (segment : List Char) : Decidable (Kept segment) := inferInstanceAs (Decidable (_ ∧ _))

theorem Kept.ne_nil {segment : List Char} (h : Kept segment) : segment ≠ [] := by
  rintro rfl
  cases h.1

/-- The values under a key are those of the segments that are kept. -/
theorem valuesUnder_parseQs (k : String) : valuesUnder (parseQs unquote expr) k =
    ((segments expr).filter fun segment => Kept segment ∧ segmentKey unquote segment = k).map
      (segmentValue unquote) := by
  rw [parseQs, valuesUnder_grouped, parseQsl, List.filter_map, List.map_map, List.filter_filter]
  refine congrArg (List.map (segmentValue unquote)) (List.filter_congr fun segment _ => ?_)
  simp [Kept, and_comm]

/-- The values under each key are all there exactly when every segment is kept. -/
theorem values_kept_iff : (∀ k, valuesUnder (parseQs unquote expr) k = filterValues unquote expr k) ↔
    ∀ segment ∈ segments expr, segment ≠ [] → Kept segment := by
  constructor
  · intro h segment hmem hne
    -- under its key no segment is missing, so that both lists are one
    have hlength := congrArg List.length (h (segmentKey unquote segment))
    rw [valuesUnder_parseQs, filterValues, List.length_map, List.length_map] at hlength
    have hsub : ((segments expr).filter fun s => Kept s ∧ segmentKey unquote s = segmentKey unquote segment).Sublist
        ((segments expr).filter fun s => s ≠ [] ∧ segmentKey unquote s = segmentKey unquote segment) := by
      refine List.monotone_filter_right _ fun s hs => ?_
      simp only [decide_eq_true_eq] at hs ⊢
      exact ⟨hs.1.ne_nil, hs.2⟩
    have hin : segment ∈ (segments expr).filter fun s =>
        s ≠ [] ∧ segmentKey unquote s = segmentKey unquote segment := List.mem_filter.mpr ⟨hmem, by simpa using hne⟩
    rw [← hsub.eq_of_length hlength] at hin
    have hkept := (List.mem_filter.mp hin).2
    simp only [decide_eq_true_eq] at hkept
    exact hkept.1
  · intro h k
    rw [valuesUnder_parseQs, filterValues]
    refine congrArg (List.map (segmentValue unquote)) (List.filter_congr fun segment hmem => ?_)
    simp only [decide_eq_decide]
    exact and_congr_left fun _ => ⟨Kept.ne_nil, h segment hmem⟩

/-- **A filter is kept exactly when `parse_qs` has nothing to drop**, whatever the segments decode to. -/
theorem keepsFilter_iff : KeepsFilter unquote expr (argumentsOf (parseQs unquote expr)) ↔ WellFormedFilter expr := by
  have hnil : argumentsOf (parseQs unquote expr) ≠ [] ↔ ∃ segment ∈ segments expr, Kept segment := by
    unfold argumentsOf parseQs
    rw [ne_eq, List.map_eq_nil_iff, grouped_eq_nil_iff, parseQsl, List.map_eq_nil_iff, List.filter_eq_nil_iff]
    simp [Kept]
  unfold KeepsFilter
  simp only [argumentValues_argumentsOf]
  rw [values_kept_iff, hnil]
  constructor
  · rintro ⟨hall, segment, hmem, hkept⟩
    exact ⟨⟨segment, hmem, hkept.ne_nil⟩, hall⟩
  · rintro ⟨⟨segment, hmem, hne⟩, hall⟩
    exact ⟨hall, segment, hmem, hall segment hmem hne⟩

/-! ## Runs of `fetch_hosts` -/

/-- The answers of a run: `parse_qs` is the standard library's, and entering `fetch_hosts` does nothing. -/
def FilterAnswers (unquote : List Char → String) (o : SyncOp) (r : Except PyExc o.Ret) : Prop :=
  match o, r with
  | .parseQs expr, r => r = .ok (parseQs unquote expr)
  | .fetchBegins, r => r = .ok ()
  | _, _ => True

/-- A run queries NetBox with the whole filter or, if it ends without a query, with `NetBoxSyncError`. -/
def QueriesWhole (unquote : List Char → String) (expr : String) (cs : List (Call syncSig PyExc))
    (p : Sync (List DiscoveredHost)) : Prop :=
  (∀ kwargs r, ⟨.devicesFilter kwargs, r⟩ ∈ cs → KeepsFilter unquote expr kwargs) ∧
    (p.Ended → (∃ kwargs r, ⟨.devicesFilter kwargs, r⟩ ∈ cs) ∨ ∃ e, p = .raise (.netBoxSync e))

/-- The query is made with what `_parse_filter_expr` returns. -/
def filterMonitor (unquote : List Char → String) (expr : String) : Monitor syncSig PyExc (List (Call syncSig PyExc)) :=
  .history (FilterAnswers unquote) fun _ o => match o with
    | .devicesFilter kwargs => kwargs = argumentsOf (parseQs unquote expr)
    | _ => True

/-- NetBox has been queried. -/
def Queried (cs : List (Call syncSig PyExc)) : Prop := ∃ kwargs r, ⟨.devicesFilter kwargs, r⟩ ∈ cs

theorem Queried.concat {cs : List (Call syncSig PyExc)} (h : Queried cs) (c : Call syncSig PyExc) :
    Queried (cs ++ [c]) := by
  obtain ⟨kwargs, r, hmem⟩ := h
  exact ⟨kwargs, r, List.mem_append_left _ hmem⟩

theorem parseFilterExpr_eq (hblank : strip expr ≠ "") :
    parseFilterExpr expr = (syncCall (.parseQs expr)).bind fun parsed => .ret (argumentsOf parsed) := by
  unfold parseFilterExpr
  rw [if_neg hblank]
  rfl

/-- A call that asks NetBox for nothing more than the query did. -/
def Fetches (o : SyncOp) : Prop := o = .nextDevice ∨ ∃ hosts, o = .fetchReturns hosts

theorem listDevices_fetches (fuel : Nat) : (listDevices fuel).Only Fetches := by
  induction fuel with
  | zero => trivial
  | succ fuel ih =>
    refine (Prog.only_perform (S := syncSig) (.inl rfl)).bind fun d => ?_
    cases d with
    | none => trivial
    | some d => exact ih.bind fun ds => trivial

/-- Once NetBox has been queried it is not queried again. -/
theorem obeys_of_fetches {α : Type} {p : Sync α} (h : p.Only Fetches) {cs : List (Call syncSig PyExc)}
    (hcs : Queried cs) : p.Obeys (filterMonitor unquote expr) (fun cs' _ => Queried cs') cs := by
  refine h.obeys_history (fun cs o r hqueried _ => hqueried.concat _) (fun cs o _ ho => ?_) hcs
  rcases ho with rfl | ⟨hosts, rfl⟩ <;> trivial

/-- **One query at most**, with the arguments made of the whole parsed filter. -/
theorem fetchHosts_obeys {client : NetBoxClient} (hblank : strip client.filter_expr ≠ "") (fuel : Nat) :
    (client.fetchHosts fuel).Obeys (filterMonitor unquote client.filter_expr)
      (fun cs x => Queried cs ∨ ∃ e, x = .error (.netBoxSync e)) [] := by
  unfold NetBoxClient.fetchHosts wrapNetBoxError
  rw [parseFilterExpr_eq hblank]
  refine Prog.obeys_bind.mpr (Prog.obeys_perform.mpr ⟨trivial, fun r hr => ?_⟩)
  obtain rfl : r = .ok () := hr
  refine Prog.obeys_bind.mpr (Prog.obeys_tryCatch.mpr (Prog.obeys_bind.mpr
    (Prog.obeys_perform.mpr ⟨trivial, fun r hr => ?_⟩)))
  obtain rfl : r = .ok (parseQs unquote client.filter_expr) := hr
  have hquery : ((syncCall (.devicesFilter (argumentsOf (parseQs unquote client.filter_expr)))).bind fun _ =>
      listDevices fuel).Obeys (filterMonitor unquote client.filter_expr) (fun cs _ => Queried cs)
        [⟨.fetchBegins, .ok ()⟩,
          ⟨.parseQs client.filter_expr, .ok (parseQs unquote client.filter_expr)⟩] := by
    refine Prog.obeys_bind.mpr (Prog.obeys_perform.mpr ⟨rfl, fun r _ => ?_⟩)
    have hqueried : Queried [⟨.fetchBegins, .ok ()⟩,
        ⟨.parseQs client.filter_expr, .ok (parseQs unquote client.filter_expr)⟩,
        ⟨.devicesFilter (argumentsOf (parseQs unquote client.filter_expr)), r⟩] := ⟨_, r, by simp⟩
    cases r with
    | ok _ => exact obeys_of_fetches (listDevices_fetches fuel) hqueried
    | error e => exact hqueried
  refine Prog.obeys_bind.mpr (Prog.obeys_tryCatch.mpr (hquery.mono fun cs x hqueried => ?_))
  cases x with
  | error e => exact .inr ⟨e, rfl⟩
  | ok devices =>
    refine Prog.obeys_ofExcept_bind (fun hosts _ => ?_) fun e _ => .inl hqueried
    have hreturns : ((syncCall (.fetchReturns hosts)).bind fun _ => (.ret hosts : Sync _)).Only Fetches :=
      (Prog.only_perform (S := syncSig) (.inr ⟨hosts, rfl⟩)).bind fun _ => trivial
    exact (obeys_of_fetches hreturns hqueried).mono fun cs x h => .inl h

/-- A run that gets as far as the query. -/
theorem fetchHosts_queries (client : NetBoxClient) (hblank : strip client.filter_expr ≠ "") :
    ∃ cs p, (client.fetchHosts 0).Trace cs p ∧ (∀ c ∈ cs, FilterAnswers unquote c.op c.answer) ∧
      ⟨.devicesFilter (argumentsOf (parseQs unquote client.filter_expr)), .ok ()⟩ ∈ cs := by
  unfold NetBoxClient.fetchHosts
  rw [parseFilterExpr_eq hblank]
  refine ⟨_, _, Prog.Trace.cons (S := syncSig) (o := .fetchBegins) (.ok ())
    (Prog.Trace.cons (S := syncSig) (o := .parseQs _) (.ok (parseQs unquote client.filter_expr))
      (Prog.Trace.cons (S := syncSig) (o := .devicesFilter _) (.ok ()) (.nil _))), ?_, by simp⟩
  intro c hc
  simp only [List.mem_cons, List.not_mem_nil, or_false] at hc
  rcases hc with rfl | rfl | rfl
  · rfl
  · rfl
  · trivial

/-- **When the filter is not widened**: in every run, exactly if it has a segment and every segment that is not empty
has something after an `=`. -/
theorem filter_kept_iff {client : NetBoxClient} (hblank : strip client.filter_expr ≠ "") :
    (∀ fuel cs p, (client.fetchHosts fuel).Trace cs p → (∀ c ∈ cs, FilterAnswers unquote c.op c.answer) →
      QueriesWhole unquote client.filter_expr cs p) ↔ WellFormedFilter client.filter_expr := by
  constructor
  · intro h
    obtain ⟨cs, p, hrun, hanswered, hquery⟩ := @fetchHosts_queries unquote client hblank
    exact keepsFilter_iff.mp ((h 0 cs p hrun hanswered).1 _ _ hquery)
  · intro hkept fuel cs p htrace hanswered
    obtain ⟨hlawful, hobeys⟩ := (@fetchHosts_obeys unquote client hblank fuel).trace hanswered htrace
    constructor
    · intro kwargs r hmem
      obtain ⟨pre, post, rfl⟩ := List.append_of_mem hmem
      obtain rfl : kwargs = argumentsOf (parseQs unquote client.filter_expr) := hlawful.allowed
      exact keepsFilter_iff.mpr hkept
    · intro hended
      rw [filterMonitor, Monitor.after_history, List.nil_append] at hobeys
      cases p with
      | ret hosts => exact .inl (hobeys.resolve_right (by rintro ⟨e, he⟩; cases he))
      | raise e =>
        refine hobeys.imp id ?_
        rintro ⟨e', he⟩
        exact ⟨e', congrArg Prog.raise (Except.error.inj he)⟩
      | hang => cases hended
      | call => cases hended

end

/-- Two values under one key are both asked for. -/
theorem filter_kept_twoTags : WellFormedFilter "tag=a&tag=b" ∧ ∀ fuel cs p,
    ((⟨"https://netbox", "tag=a&tag=b"⟩ : NetBoxClient).fetchHosts fuel).Trace cs p →
      (∀ c ∈ cs, FilterAnswers String.ofList c.op c.answer) → QueriesWhole String.ofList "tag=a&tag=b" cs p := by
  have hkept : WellFormedFilter "tag=a&tag=b" := by decide
  exact ⟨hkept, (@filter_kept_iff String.ofList ⟨"https://netbox", "tag=a&tag=b"⟩ (by decide)).mpr hkept⟩

/-- A filter without an `=` is dropped, and the query matches every device. -/
theorem filter_dropped_bareWord : strip "monitor-cert" ≠ "" ∧
    ∃ cs p, ((⟨"https://netbox", "monitor-cert"⟩ : NetBoxClient).fetchHosts 0).Trace cs p ∧
      (∀ c ∈ cs, FilterAnswers String.ofList c.op c.answer) ∧ ⟨.devicesFilter [], .ok ()⟩ ∈ cs ∧
      ¬ QueriesWhole String.ofList "monitor-cert" cs p := by
  have hblank : strip "monitor-cert" ≠ "" := by decide
  have hempty : argumentsOf (parseQs String.ofList "monitor-cert") = [] := by decide
  obtain ⟨cs, p, hrun, hanswered, hquery⟩ := @fetchHosts_queries String.ofList ⟨"https://netbox", "monitor-cert"⟩ hblank
  rw [hempty] at hquery
  exact ⟨hblank, cs, p, hrun, hanswered, hquery, fun h => (h.1 [] (.ok ()) hquery).2 rfl⟩

end CertWatch
