/-
# `CertWatch.ReportTexts` — the queue and the credentials on disk, as texts.

Here a file is the text in it, what `json.dump` writes is the encoder's text and what `json.load` answers is the
decoder's.  A call may fail and the process may be killed in any call.
-/
import CertWatch.AtomicWrites
import CertWatch.JsonRoundTrip

namespace CertWatch

open CertWatch.Lib CertWatch.Lib.Scanner

/-! ## The calls on texts -/

/-- What `json.dump(payload, f, indent=2, sort_keys=True)` writes where it returns. -/
def fileText (F : FloatFormat) (payload : Dict) : List Char :=
  valueText F fileStyle 0 ((Json.obj payload).inStyle fileStyle)

/-- What `open` and `json.load` may answer; a missing file cannot be opened. -/
def AnswersRead (F : FloatFormat) (file : Option (List Char)) (r : Except PyExc Json) : Prop :=
  (∃ e, r = .error (.os e)) ∨ ∃ t, file = some t ∧
    match loads F t with
    | .error e => r = .error e
    | .ok (some v) => r = .ok v
    | .ok none => ∃ v, r = .ok v

/-- What `json.dump` may answer: it does not return where a number cannot be written. -/
def AnswersDump (F : FloatFormat) (payload : Dict) (r : Except PyExc Unit) : Prop :=
  r = .ok () → dumps F fileStyle (.obj payload) = .ok (fileText F payload)

/-- The queue's calls, on the texts of its directory. -/
def queueTexts (F : FloatFormat) : Effects queueSig PyExc (String → Option (List Char)) where
  completes
    | .read _ name, d, r, d' => d' = d ∧ AnswersRead F (d name) r
    | .dump tmp payload, d, r, d' =>
      (queueEffects (fileText F) []).completes (.dump tmp payload) d r d' ∧ AnswersDump F payload r
    | o, d, r, d' => (queueEffects (fileText F) []).completes o d r d'
  interrupted := (queueEffects (fileText F) []).interrupted

/-- The calls on the credentials, on the texts of the two files. -/
def credsTexts (F : FloatFormat) : Effects credsSig PyExc (CredsFile → Option (List Char)) where
  completes
    | .pathExists, d, r, d' => d' = d ∧ r = .ok (d .agentJson).isSome
    | .read, d, r, d' => d' = d ∧ AnswersRead F (d .agentJson) r
    | .dump payload, d, r, d' =>
      (credsEffects (fileText F) []).completes (.dump payload) d r d' ∧ AnswersDump F payload r
    | o, d, r, d' => (credsEffects (fileText F) []).completes o d r d'
  interrupted := (credsEffects (fileText F) []).interrupted

variable {F : FloatFormat}

/-! ## A text cut short -/

/-- What comes before a brace that opens a document is white space. -/
theorem next_of_append {t t' r : List Char} {c c' : Char} {r' : List Char}
    (h : (next isJsonSpace : JsonScanner Char) t = .ok (c, r))
    (h' : (next isJsonSpace : JsonScanner Char) (t ++ t') = .ok (c', r')) : c' = c ∧ r' = r ++ t' := by
  have hsteady := steady_next t c r h trivial t'
  obtain ⟨hc, hr⟩ := Prod.mk.inj (Except.ok.inj (h'.symm.trans hsteady))
  exact ⟨hc, hr⟩

/-- **A dict that is cut short is no document**: where more than white space is missing, the decoder raises what it
raises on a text that is none. -/
theorem loads_cut {t t' r : List Char} {v : Option Json} {x : Option Json × List Char}
    (hopen : (next isJsonSpace : JsonScanner Char) (t ++ t') = .ok ('{', r))
    (hstrict : scan (strictNumber F) .value (t ++ t') = .ok x) (hwhole : loads F (t ++ t') = .ok v)
    (hcut : ∃ c ∈ t', isJsonSpace c = false) : loads F t = .error .jsonDecode := by
  unfold loads
  cases hscan : scan (pythonNumber F) .value t with
  | error raised => cases raised with
    | none => rfl
    | some e => exact absurd hscan (scan_cut_raises_nothing hstrict e)
  | ok y =>
    obtain ⟨v', rest⟩ := y
    -- the part that is left begins with the same brace, and what was taken is taken from the whole
    rw [scan_value] at hscan
    obtain ⟨c, r', hnext, hvalue⟩ := bind_eq_ok.mp hscan
    obtain ⟨rfl, rfl⟩ := next_of_append hnext hopen
    rw [if_neg (by decide), if_neg (by decide), if_pos rfl] at hvalue
    have hsteady := ((steady_unlessClosed (steady_scan (pythonNumber F) .members)).map _) r' v' rest hvalue trivial t'
    have hscan' : scan (pythonNumber F) .value (t ++ t') = .ok (v', rest ++ t') := by
      rw [scan_value, scanValue, bind_of_ok hopen]
      exact hsteady
    rw [loads, hscan'] at hwhole
    dsimp only at hwhole
    split_ifs at hwhole with hspace
    obtain ⟨c, hc, hnot⟩ := hcut
    exact absurd (List.all_eq_true.mp hspace c (List.mem_append_right _ hc)) (by simp [hnot])

/-- A dict as a file holds it: a document between braces. -/
structure DictDocument (F : FloatFormat) where
  dict : Dict
  sound : (Json.obj dict).Each (IsNode F)

/-- The document of a dict. -/
def DictDocument.document (p : DictDocument F) : Document F := ⟨.obj p.dict, p.sound⟩

/-- The members of a dict as they stand in its file. -/
def onDisk (d : Dict) : Dict := sortedItems (Json.orderedMembers d)

theorem dumps_dict (p : DictDocument F) : dumps F fileStyle (.obj p.dict) = .ok (fileText F p.dict) :=
  dumps_document fileStyle p.document

theorem loads_fileText (p : DictDocument F) : loads F (fileText F p.dict) = .ok (some (.obj (onDisk p.dict))) :=
  loads_text fileStyle p.document

/-- The strict decoder takes what is written, as no float has that many digits. -/
theorem scan_strict_fileText (p : DictDocument F) :
    ∃ x, scan (strictNumber F) .value (fileText F p.dict) = .ok x := by
  have htext : IsTextOf (strictNumber F) (fileText F p.dict) ((Json.obj p.dict).inStyle fileStyle) :=
    isTextOf_valueText (converts_strictNumber F) fileStyle _ (p.document.inStyle fileStyle).sound 0
  have hscan := htext.1 [] fun c hc => by cases hc
  rw [List.append_nil] at hscan
  exact ⟨_, hscan⟩

theorem get?_onDisk (p : DictDocument F) (k : String) : (onDisk p.dict).get? k = (p.dict.get? k).map Json.ordered := by
  obtain ⟨hkeys, -⟩ := Json.each_obj.mp p.sound
  have hkeys' : ((Json.orderedMembers p.dict).map Prod.fst).Nodup := keys_orderedMembers p.dict ▸ hkeys
  rw [onDisk, ← Dict.get?_of_perm (sortedItems_perm _).symm hkeys', get?_orderedMembers]

/-- The text of a dict starts with a brace and ends with one. -/
theorem fileText_braces (d : Dict) : ∃ body, fileText F d = '{' :: (body ++ ['}']) := by
  have h : fileText F d = fileStyle.bracketed 0 '{' '}' (memberTexts F fileStyle 1 (onDisk d)) := rfl
  rw [h]
  cases memberTexts F fileStyle 1 (onDisk d) with
  | nil => exact ⟨[], rfl⟩
  | cons t ts =>
    refine ⟨fileStyle.newlineIndent 1 ++ (t ++ (ts.flatMap (fun t => fileStyle.itemSeparator ++
      fileStyle.newlineIndent 1 ++ t) ++ fileStyle.newlineIndent 0)), ?_⟩
    simp only [JsonStyle.bracketed, JsonStyle.moreItems, List.append_assoc]

/-- What is left of a file that was cut short is no document. -/
theorem loads_cut_fileText (p : DictDocument F) {t t' : List Char} (h : fileText F p.dict = t ++ t') (ht' : t' ≠ []) :
    loads F t = .error .jsonDecode := by
  obtain ⟨body, hbody⟩ := fileText_braces (F := F) p.dict
  have hopen : (next isJsonSpace : JsonScanner Char) (t ++ t') = .ok ('{', body ++ ['}']) := by
    rw [← h, hbody]
    rfl
  obtain ⟨x, hstrict⟩ := scan_strict_fileText p
  refine loads_cut hopen (h ▸ hstrict) (h ▸ loads_fileText p) ⟨'}', ?_, rfl⟩
  have hlast : (t ++ t').getLast? = some '}' := by
    rw [← h, hbody, ← List.cons_append, List.getLast?_append]
    rfl
  rw [List.getLast?_append_of_ne_nil t ht'] at hlast
  exact List.mem_of_getLast? hlast

/-! ## Loading -/

/-- The `except` clauses of `load_pending_report`, around `open` and `json.load`. -/
def reportFault : PyExc → PyExc
  | .jsonDecode => .pendingReportCorrupt .notJson
  | .os e => .pendingReportCorrupt (.unreadable e)
  | e => e

/-- What `load_pending_report` may come to on a file. -/
def LoadsReport (F : FloatFormat) (file : Option (List Char)) (y : Except PyExc Dict) : Prop :=
  (∃ e, y = .error (.pendingReportCorrupt (.unreadable e))) ∨ ∃ t, file = some t ∧
    match loads F t with
    | .error e => y = .error (reportFault e)
    | .ok (some (.obj d)) => y = .ok d
    | .ok (some _) => y = .error (.pendingReportCorrupt .notObject)
    | .ok none => True

section

variable {path : String} {d d' : String → Option (List Char)} {cs : List (Call queueSig PyExc)}

/-- **Loading changes nothing**, and answers what the text is. -/
theorem loadPendingReport_runs {site : ReadSite} {x : Ending PyExc Dict}
    (h : (loadPendingReport site path).Runs (queueTexts F) d cs x d') :
    d' = d ∧ ∀ y, x = .finished y → LoadsReport F (d path) y := by
  cases h with
  | killed => exact ⟨rfl, by rintro y ⟨⟩⟩
  | interrupted h => exact ⟨h, by rintro y ⟨⟩⟩
  | @call _ _ _ d₁ _ r cs _ h hk =>
    obtain ⟨rfl, hr⟩ := h
    have hend : ∀ y, LoadsReport F (d₁ path) y → (Prog.ofExcept y : Queue Dict).Runs (queueTexts F) d₁ cs x d' →
        d' = d₁ ∧ ∀ y, x = .finished y → LoadsReport F (d₁ path) y := by
      intro y hy hruns
      obtain ⟨rfl, rfl | rfl⟩ := Prog.runs_ofExcept hruns
      · exact ⟨rfl, by rintro y ⟨⟩; exact hy⟩
      · exact ⟨rfl, by rintro y ⟨⟩⟩
    obtain ⟨e, rfl⟩ | ⟨t, ht, hloads⟩ := hr
    · exact hend (.error _) (.inl ⟨e, rfl⟩) hk
    · cases hcase : loads F t with
      | error e =>
        rw [hcase] at hloads
        obtain rfl := hloads
        have hfault : LoadsReport F (d₁ path) (.error (reportFault e)) := .inr ⟨t, ht, by rw [hcase]⟩
        cases e <;> exact hend _ hfault hk
      | ok v =>
        rw [hcase] at hloads
        cases v with
        | none =>
          obtain ⟨v, rfl⟩ := hloads
          cases v with
          | obj data => exact hend (.ok data) (.inr ⟨t, ht, by rw [hcase]; trivial⟩) hk
          | _ => exact hend (.error _) (.inr ⟨t, ht, by rw [hcase]; trivial⟩) hk
        | some v =>
          obtain rfl := hloads
          cases v with
          | obj data => exact hend (.ok data) (.inr ⟨t, ht, by rw [hcase]⟩) hk
          | _ => exact hend (.error _) (.inr ⟨t, ht, by rw [hcase]⟩) hk

/-! ## Writing -/

/-- The file holds what `json.dump` writes of the payload. -/
def Written (F : FloatFormat) (payload : Dict) (file : Option (List Char)) : Prop :=
  dumps F fileStyle (.obj payload) = .ok (fileText F payload) ∧ file = some (fileText F payload)

/-- The writer makes no read, so that its run on texts is one on bytes, whatever the bytes of the payloads that are
not written. -/
theorem atomicWriteJson_bytes {payload : Dict} {x : Ending PyExc Unit} (rest : List Char)
    (h : (atomicWriteJson path payload).Runs (queueTexts F) d cs x d') :
    (atomicWriteJson path payload).Runs
      (queueEffects (fun p => if (Json.obj p).withinDigits then fileText F p else rest) []) d cs x d' := by
  refine h.weaken (W := queueTexts F) (Prog.only_true _) (fun o _ d r d' ho => ?_) fun o _ d d' ho => ho
  cases o with
  | read site name => exact ho.1
  | dump tmp p =>
    obtain ⟨hfails | ⟨hok, hd'⟩, hanswer⟩ := ho
    · exact .inl hfails
    · have hwithin : (Json.obj p).withinDigits = true := withinDigits_of_dumps (hanswer hok)
      exact .inr ⟨hok, hd'.trans (congrArg (fun t => Function.update d tmp (some t)) (if_pos hwithin).symm)⟩
  | _ => exact ho

theorem atomicWriteJson_runs {payload : Dict} {x : Ending PyExc Unit}
    (h : (atomicWriteJson path payload).Runs (queueTexts F) d cs x d') :
    (d' path = d path ∨ Written F payload (d' path)) ∧ (x = .finished (.ok ()) → Written F payload (d' path)) := by
  have hleft (rest : List Char) := by
    have hbytes := atomicWriteJson_bytes rest h
    rw [atomicWriteJson_eq] at hbytes
    exact And.intro hbytes (replaceFile_embed_runs (ne_tmpFile path) (fun o o' _ _ => queueFiles_injective o o')
      (fun o _ => queueEffects_completes o) (fun o _ => queueEffects_interrupted o) hbytes)
  -- were the payload not written, the file that replaces the old one would hold any bytes
  have hwritten (hmem : Call.embed queueFiles ⟨.replace (tmpFile path) path, .ok ()⟩ ∈ cs) :
      Written F payload (d' path) := by
    have hnew := (hleft []).2.1 hmem
    have hnew' := (hleft ['a']).2.1 hmem
    by_cases hwithin : (Json.obj payload).withinDigits = true
    · rw [if_pos hwithin] at hnew
      exact ⟨if_pos hwithin, hnew⟩
    · rw [if_neg hwithin] at hnew hnew'
      cases hnew.symm.trans hnew'
  constructor
  · by_cases hmem : Call.embed queueFiles ⟨.replace (tmpFile path) path, .ok ()⟩ ∈ cs
    · exact .inr (hwritten hmem)
    · exact .inl ((hleft []).2.2.1 hmem)
  · rintro rfl
    obtain ⟨cs₀, hruns, hcs⟩ := Prog.runs_embed (hleft []).1
    exact hwritten (hcs ▸ List.mem_map_of_mem (replaceFile_ok hruns))

/-- The text of a report with this record. -/
def HoldsDict (F : FloatFormat) (file : Option (List Char)) (data : Dict) : Prop :=
  ∃ t, file = some t ∧ loads F t = .ok (some (.obj data))

theorem HoldsDict.fileText (p : DictDocument F) : HoldsDict F (some (fileText F p.dict)) (onDisk p.dict) :=
  ⟨_, rfl, loads_fileText p⟩

/-- A file with a record loads as that record, or cannot be read. -/
theorem HoldsDict.loads {file : Option (List Char)} {data : Dict} (h : HoldsDict F file data)
    {y : Except PyExc Dict} (hy : LoadsReport F file y) :
    y = .ok data ∨ ∃ e, y = .error (.pendingReportCorrupt (.unreadable e)) := by
  obtain ⟨t, rfl, hloads⟩ := h
  obtain ⟨e, rfl⟩ | ⟨t', ht', hcase⟩ := hy
  · exact .inr ⟨e, rfl⟩
  · obtain rfl := Option.some.inj ht'
    rw [hloads] at hcase
    exact .inl hcase

/-- **One increment**: the file stays as it is, or holds the record with its counter one higher; the latter where
the increment returns. -/
theorem incrementAttempts_runs {data : Dict} {n : Int} {x : Ending PyExc Int} (hdata : HoldsDict F (d path) data)
    (hn : data.get? "_attempts" = some (.int n)) (h : (incrementAttempts path).Runs (queueTexts F) d cs x d') :
    (d' path = d path ∨ Written F (data.set "_attempts" (.int (n + 1))) (d' path)) ∧
      ∀ m, x = .finished (.ok m) → m = n + 1 ∧ Written F (data.set "_attempts" (.int (n + 1))) (d' path) := by
  obtain ⟨rfl, hload⟩ | ⟨e, rfl, hload⟩ | ⟨data', d₁, cs₁, cs₂, hload, hwrite, -⟩ := Prog.runs_bind h
  · obtain ⟨rfl, -⟩ := loadPendingReport_runs hload
    exact ⟨.inl rfl, by rintro m ⟨⟩⟩
  · obtain ⟨rfl, -⟩ := loadPendingReport_runs hload
    exact ⟨.inl rfl, by rintro m ⟨⟩⟩
  · obtain ⟨rfl, hy⟩ := loadPendingReport_runs hload
    obtain hok | ⟨e, he⟩ := hdata.loads (hy _ rfl)
    · obtain rfl := Except.ok.inj hok
      have hold : (Dict.getD data' "_attempts" (.int 0)).toInt = .ok n := by
        rw [Dict.getD, hn]
        rfl
      rw [hold] at hwrite
      change ((atomicWriteJson path (data'.set "_attempts" (.int (n + 1)))).bind fun _ => .ret (n + 1)).Runs _ _ _ _ _
        at hwrite
      obtain ⟨rfl, hrun⟩ | ⟨e, rfl, hrun⟩ | ⟨u, d₂, cs₃, cs₄, hrun, hret, -⟩ := Prog.runs_bind hwrite
      · exact ⟨(atomicWriteJson_runs hrun).1, by rintro m ⟨⟩⟩
      · exact ⟨(atomicWriteJson_runs hrun).1, by rintro m ⟨⟩⟩
      · have hwritten := (atomicWriteJson_runs hrun).2 rfl
        cases hret with
        | ret => exact ⟨.inr hwritten, by rintro m ⟨⟩; exact ⟨rfl, hwritten⟩⟩
        | killed => exact ⟨.inr hwritten, by rintro m ⟨⟩⟩
    · cases he

/-! ## The life of a report -/

/-- The run has come to its end and has returned. -/
def HasReturned {α : Type} : Ending PyExc α → Bool
  | .finished (.ok _) => true
  | _ => false

/-- What happens to a report's file from a directory on, with the number of increments that were begun and the number
of those that returned: an increment that ends in any way, or anything that leaves the file alone. -/
inductive ReportLife (F : FloatFormat) (path : String) (d₀ : String → Option (List Char)) :
    Nat → Nat → (String → Option (List Char)) → Prop
  | start : ReportLife F path d₀ 0 0 d₀
  | elsewhere {begun returned : Nat} {d d' : String → Option (List Char)} (life : ReportLife F path d₀ begun returned d)
    (h : d' path = d path) : ReportLife F path d₀ begun returned d'
  | increment {begun returned : Nat} {d d' : String → Option (List Char)} {cs : List (Call queueSig PyExc)}
    {x : Ending PyExc Int} (life : ReportLife F path d₀ begun returned d)
    (h : (incrementAttempts path).Runs (queueTexts F) d cs x d') :
    ReportLife F path d₀ (begun + 1) (returned + (HasReturned x).toNat) d'

/-- The file loads as the record but for the counter, which is a number. -/
structure Keeps (F : FloatFormat) (record : Dict) (file : Option (List Char)) (n : Int) : Prop where
  holds : ∃ data, HoldsDict F file data ∧ data.get? "_attempts" = some (.int n) ∧
    ∀ k, k ≠ "_attempts" → data.get? k = (record.get? k).map Json.ordered

/-- A rewritten record keeps all but its counter. -/
theorem keeps_rewritten {record data : Dict} {file file' : Option (List Char)} {n : Int} (hdata : HoldsDict F file data)
    (hother : ∀ k, k ≠ "_attempts" → data.get? k = (record.get? k).map Json.ordered)
    (hwritten : Written F (data.set "_attempts" (.int n)) file') : Keeps F record file' n := by
  obtain ⟨t, -, hloads⟩ := hdata
  obtain ⟨hkeys, hmembers⟩ := Json.each_obj.mp (document_of_loads hloads)
  obtain ⟨hdumps, rfl⟩ := hwritten
  have hcounter : ("_attempts", Json.int n) ∈ data.set "_attempts" (.int n) :=
    (Dict.get?_eq_some_iff (Dict.keys_set_nodup hkeys _ _).1).mp (Dict.get?_set_self _ _ _)
  -- the new counter was written, so it is not too long
  have hwithin : (Json.int n).withinDigits = true :=
    withinDigitsFields_iff.mp (withinDigits_of_dumps hdumps) _ hcounter
  have hsound : (Json.obj (data.set "_attempts" (.int n))).Each (IsNode F) := by
    refine Json.each_obj.mpr ⟨(Dict.keys_set_nodup hkeys _ _).1, fun kv hkv => ?_⟩
    rcases Dict.mem_set hkv with hv | hmem
    · rw [hv]
      exact of_decide_eq_true (p := digitCount n ≤ maxStrDigits) hwithin
    · exact hmembers kv hmem
  let p : DictDocument F := ⟨_, hsound⟩
  refine ⟨_, .fileText p, ?_, fun k hk => ?_⟩
  · rw [get?_onDisk p, Dict.get?_set_self]
    rfl
  · rw [get?_onDisk p, Dict.get?_set_ne _ _ hk, hother k hk, Option.map_map]
    exact congrArg (Option.map · (record.get? k)) (funext ordered_ordered)

/-- What was saved stays, whatever increments are begun, fail or are killed. -/
theorem keeps_life {record : Dict} {d₀ : String → Option (List Char)} {begun returned : Nat}
    (hsaved : Keeps F record (d₀ path) 0) (life : ReportLife F path d₀ begun returned d) :
    ∃ n : Nat, returned ≤ n ∧ n ≤ begun ∧ Keeps F record (d path) n := by
  induction life with
  | start => exact ⟨0, Nat.le_refl _, Nat.le_refl _, hsaved⟩
  | elsewhere _ h ih => rwa [h]
  | @increment begun returned d₁ d₂ cs x _ h ih =>
    obtain ⟨n, hreturned, hbegun, ⟨data, hdata, hn, hother⟩⟩ := ih
    have hkeep : Keeps F record (d₁ path) n := ⟨data, hdata, hn, hother⟩
    obtain ⟨hfile, hok⟩ := incrementAttempts_runs hdata hn h
    cases hx : HasReturned x with
    | true =>
      have hwritten : Written F (data.set "_attempts" (.int (n + 1))) (d₂ path) := by
        cases x with
        | killed => cases hx
        | finished y => cases y with
          | error e => cases hx
          | ok m => exact (hok m rfl).2
      exact ⟨n + 1, Nat.succ_le_succ hreturned, Nat.succ_le_succ hbegun, keeps_rewritten hdata hother hwritten⟩
    | false =>
      rcases hfile with hsame | hwritten
      · exact ⟨n, hreturned, Nat.le_succ_of_le hbegun, hsame ▸ hkeep⟩
      · exact ⟨n + 1, Nat.le_succ_of_le hreturned, Nat.succ_le_succ hbegun,
          keeps_rewritten hdata hother hwritten⟩

/-- A report that is saved is in its file, with a counter of zero. -/
theorem savePendingReport_runs {p : DictDocument F} {report_id name : String}
    (h : (savePendingReport report_id p.dict).Runs (queueTexts F) d cs (.finished (.ok name)) d') :
    ∃ stamp, Keeps F (persistedRecord p.dict stamp) (d' name) 0 := by
  obtain ⟨hx, -⟩ | ⟨e, hx, -⟩ | ⟨stamp, d₁, cs₁, cs₂, -, hrest, -⟩ := Prog.runs_bind h
  · cases hx
  · cases hx
  · obtain ⟨hx, -⟩ | ⟨e, hx, -⟩ | ⟨u, d₂, cs₃, cs₄, -, hrest', -⟩ := Prog.runs_bind hrest
    · cases hx
    · cases hx
    · obtain ⟨hx, -⟩ | ⟨e, hx, -⟩ | ⟨u', d₃, cs₅, cs₆, hwrite, hret, -⟩ := Prog.runs_bind hrest'
      · cases hx
      · cases hx
      · cases hret
        rw [((atomicWriteJson_runs hwrite).2 rfl).2]
        obtain ⟨hkeys, hmembers⟩ := Json.each_obj.mp p.sound
        have hsound : (Json.obj (persistedRecord p.dict stamp)).Each (IsNode F) := by
          refine Json.each_obj.mpr ⟨(Dict.keys_set_nodup (Dict.keys_set_nodup hkeys _ _).1 _ _).1, fun kv hkv => ?_⟩
          rcases Dict.mem_set hkv with hv | hkv
          · exact hv ▸ (by decide : digitCount 0 ≤ maxStrDigits)
          · rcases Dict.mem_set hkv with hv | hkv
            · exact hv ▸ trivial
            · exact hmembers kv hkv
        let q : DictDocument F := ⟨_, hsound⟩
        refine ⟨stamp, ⟨_, .fileText q, ?_, fun k _ => get?_onDisk q k⟩⟩
        rw [get?_onDisk q]
        show ((Dict.set _ _ _).get? _).map _ = _
        rw [Dict.get?_set_self]
        rfl

/-- **A saved report survives**: the save stamps the report once, and whatever increments are begun, fail or are killed
after it, its file loads as what was saved, with that stamp, and the counter lies between the increments that returned
and those that were begun. -/
theorem saved_report_survives (p : DictDocument F) {report_id name : String} {d₀ : String → Option (List Char)}
    (hsave : (savePendingReport report_id p.dict).Runs (queueTexts F) d cs (.finished (.ok name)) d₀) :
    ∃ stamp : String, ∀ {begun returned : Nat} {d' : String → Option (List Char)},
      ReportLife F name d₀ begun returned d' →
        ∃ n : Nat, returned ≤ n ∧ n ≤ begun ∧ Keeps F (persistedRecord p.dict stamp) (d' name) n := by
  obtain ⟨stamp, hsaved⟩ := savePendingReport_runs hsave
  exact ⟨stamp, fun life => keeps_life hsaved life⟩

end

/-! ### A save, and an increment that is killed -/

/-- A report without checks. -/
def emptyReport : DictDocument halfFormat where
  dict := [("report_id", .str "r1"), ("checks", .arr [])]
  sound := Json.each_obj.mpr ⟨(by decide : ["report_id", "checks"].Nodup), by simp [Json.Each, Json.EachItem, IsNode]⟩

/-- The record that is saved. -/
def emptyRecord : DictDocument halfFormat where
  dict := persistedRecord emptyReport.dict "2026-01-01T00:00:00Z"
  sound := Json.each_obj.mpr ⟨(by decide : ["report_id", "checks", "_persisted_at", "_attempts"].Nodup), by
    simp [persistedRecord, emptyReport, Dict.set, Json.Each, Json.EachItem, IsNode,
      (by decide : digitCount 0 ≤ maxStrDigits)]⟩

/-- The directory before the save, with the temporary file empty and then written, and after it. -/
def noFiles : String → Option (List Char) := fun _ => none

def tmpCreated : String → Option (List Char) := Function.update noFiles (tmpFile "r1.json") (some [])

def tmpWritten : String → Option (List Char) :=
  Function.update tmpCreated (tmpFile "r1.json") (some (fileText halfFormat emptyRecord.dict))

def reportSaved : String → Option (List Char) :=
  Function.update (Function.update tmpWritten (tmpFile "r1.json") none) "r1.json"
    (some (fileText halfFormat emptyRecord.dict))

theorem save_run : (savePendingReport "r1" emptyReport.dict).Runs (queueTexts halfFormat) noFiles
    [⟨.utcNowIso, .ok "2026-01-01T00:00:00Z"⟩, ⟨.mkdir, .ok ()⟩, ⟨.mkdir, .ok ()⟩,
      ⟨.openTmp (tmpFile "r1.json"), .ok ()⟩, ⟨.dump (tmpFile "r1.json") emptyRecord.dict, .ok ()⟩,
      ⟨.fsync (tmpFile "r1.json"), .ok ()⟩, ⟨.replace (tmpFile "r1.json") "r1.json", .ok ()⟩,
      ⟨.chmod "r1.json", .ok ()⟩] (.finished (.ok "r1.json")) reportSaved := by
  have hopen : (queueTexts halfFormat).completes (.openTmp (tmpFile "r1.json")) noFiles (.ok ()) tmpCreated :=
    .inr ⟨rfl, rfl⟩
  have hdump : (queueTexts halfFormat).completes (.dump (tmpFile "r1.json") emptyRecord.dict) tmpCreated (.ok ())
      tmpWritten := ⟨.inr ⟨rfl, rfl⟩, fun _ => dumps_dict emptyRecord⟩
  have hreplace : (queueTexts halfFormat).completes (.replace (tmpFile "r1.json") "r1.json") tmpWritten (.ok ())
      reportSaved := .inr ⟨rfl, _, Function.update_self _ _ _, rfl⟩
  exact .call rfl (.call rfl (.call rfl (.call hopen (.call hdump (.call rfl (.call hreplace
    (.call rfl (.ret _ _))))))))

/-- The new counter, written half-way. -/
def counterTorn : String → Option (List Char) :=
  Function.update (Function.update reportSaved (tmpFile "r1.json") (some [])) (tmpFile "r1.json") (some ['\x7b'])

/-- The process dies in the middle of writing the new counter. -/
theorem increment_run : (incrementAttempts "r1.json").Runs (queueTexts halfFormat) reportSaved
    [⟨.read .increment "r1.json", .ok (.obj (onDisk emptyRecord.dict))⟩, ⟨.mkdir, .ok ()⟩,
      ⟨.openTmp (tmpFile "r1.json"), .ok ()⟩] .killed counterTorn := by
  have hfile : reportSaved "r1.json" = some (fileText halfFormat emptyRecord.dict) := Function.update_self _ _ _
  have hread : (queueTexts halfFormat).completes (.read .increment "r1.json") reportSaved
      (.ok (.obj (onDisk emptyRecord.dict))) reportSaved :=
    ⟨rfl, .inr ⟨_, hfile, by rw [loads_fileText emptyRecord]⟩⟩
  have hold : (Dict.getD (onDisk emptyRecord.dict) "_attempts" (.int 0)).toInt = .ok 0 := by
    rw [Dict.getD, get?_onDisk emptyRecord]
    rfl
  have hopen : (queueTexts halfFormat).completes (.openTmp (tmpFile "r1.json")) reportSaved (.ok ())
      (Function.update reportSaved (tmpFile "r1.json") (some [])) := .inr ⟨rfl, rfl⟩
  refine .call hread ?_
  change ((Prog.ofExcept (Dict.getD (onDisk emptyRecord.dict) "_attempts" (.int 0)).toInt).bind fun old =>
    (atomicWriteJson "r1.json" ((onDisk emptyRecord.dict).set "_attempts" (.int (old + 1)))).bind fun _ =>
      .ret (old + 1)).Runs _ _ _ _ _
  rw [hold]
  exact .call rfl (.call hopen (.interrupted ⟨_, rfl⟩))

/-- The report is still there with the stamp of its save, its counter at zero or one. -/
theorem saved_report_survives_kill : ∃ stamp : String,
    (∃ n : Nat, n ≤ 0 ∧ Keeps halfFormat (persistedRecord emptyReport.dict stamp) (reportSaved "r1.json") n) ∧
    ∃ n : Nat, n ≤ 1 ∧ Keeps halfFormat (persistedRecord emptyReport.dict stamp) (counterTorn "r1.json") n := by
  obtain ⟨stamp, hsurvives⟩ := saved_report_survives emptyReport save_run
  obtain ⟨n, -, hn, hkept⟩ := hsurvives .start
  obtain ⟨m, -, hm, hkept'⟩ := hsurvives (.increment .start increment_run)
  exact ⟨stamp, ⟨n, hn, hkept⟩, m, hm, hkept'⟩

/-! ## Files cut short -/

/-- The `except` clause of `load_credentials`, around `open` and `json.load`. -/
def credentialsFault : PyExc → PyExc
  | .jsonDecode => credentialsCorrupt
  | .os _ => credentialsCorrupt
  | e => e

/-- What `load_credentials` comes to on a file that is there. -/
def LoadsCredentials (F : FloatFormat) (t : List Char) (y : Except PyExc (Option Dict)) : Prop :=
  y = .error credentialsCorrupt ∨
    match loads F t with
    | .ok (some (.obj data)) => y = .ok (some data)
    | .ok none => True
    | .ok _ => False
    | .error e => y = .error (credentialsFault e)

theorem loadCredentials_runs {d d' : CredsFile → Option (List Char)} {cs : List (Call credsSig PyExc)}
    {y : Except PyExc (Option Dict)} {t : List Char} (ht : d .agentJson = some t)
    (h : loadCredentials.Runs (credsTexts F) d cs (.finished y) d') : LoadsCredentials F t y := by
  cases h with
  | @call _ _ _ d₁ _ r cs _ h hk =>
    obtain ⟨rfl, rfl⟩ := h
    rw [ht] at hk
    cases hk with
    | @call _ _ _ d₂ _ r cs _ h hk =>
      have hend : ∀ y', LoadsCredentials F t y' →
          (Prog.ofExcept y' : Creds (Option Dict)).Runs (credsTexts F) d₂ cs (.finished y) d' →
          LoadsCredentials F t y := by
        intro y' hy hruns
        obtain ⟨-, hx | hx⟩ := Prog.runs_ofExcept hruns
        · exact Ending.finished.inj hx ▸ hy
        · cases hx
      obtain ⟨-, ⟨e, rfl⟩ | ⟨t', ht', hloads⟩⟩ := h
      · exact hend (.error credentialsCorrupt) (.inl rfl) hk
      · obtain rfl := Option.some.inj (ht.symm.trans ht')
        cases hcase : loads F t with
        | error e =>
          rw [hcase] at hloads
          obtain rfl := hloads
          have hfault : LoadsCredentials F t (.error (credentialsFault e)) := .inr (by rw [hcase])
          cases e <;> exact hend _ hfault hk
        | ok v =>
          rw [hcase] at hloads
          cases v with
          | none => exact .inr (by rw [hcase]; trivial)
          | some v =>
            obtain rfl := hloads
            cases v with
            | obj data => exact hend (.ok (some data)) (.inr (by rw [hcase])) hk
            | _ => exact hend (.error credentialsCorrupt) (.inl rfl) hk

/-- **A file cut short is corrupt, never another document**: from a prefix of what the agent wrote, the queue and the
credentials load the whole document or nothing, and nothing only where the prefix is shorter or cannot be read. -/
theorem cut_files_are_corrupt (p : DictDocument F) {t t' : List Char}
    (hcut : dumps F fileStyle (.obj p.dict) = .ok (t ++ t')) :
    (∀ site path d cs y d', d path = some t →
      (loadPendingReport site path).Runs (queueTexts F) d cs (.finished y) d' →
      (∃ e, y = .error (.pendingReportCorrupt (.unreadable e))) ∨
        y = if t' = [] then .ok (onDisk p.dict) else .error (.pendingReportCorrupt .notJson)) ∧
    ∀ d cs y d', d .agentJson = some t → loadCredentials.Runs (credsTexts F) d cs (.finished y) d' →
      y = .error credentialsCorrupt ∨ t' = [] ∧ y = .ok (some (onDisk p.dict)) := by
  have htext : fileText F p.dict = t ++ t' := Except.ok.inj ((dumps_dict p).symm.trans hcut)
  have hloads : loads F t = if t' = [] then .ok (some (.obj (onDisk p.dict))) else .error .jsonDecode := by
    split_ifs with hnil
    · rw [hnil, List.append_nil] at htext
      exact htext ▸ loads_fileText p
    · exact loads_cut_fileText p htext hnil
  constructor
  · intro site path d cs y d' ht h
    obtain ⟨e, he⟩ | ⟨t'', ht'', hcase⟩ := (loadPendingReport_runs h).2 y rfl
    · exact .inl ⟨e, he⟩
    · obtain rfl := Option.some.inj (ht.symm.trans ht'')
      rw [hloads] at hcase
      refine .inr ?_
      split_ifs at hcase ⊢
      exacts [hcase, hcase]
  · intro d cs y d' ht h
    obtain hcorrupt | hcase := loadCredentials_runs ht h
    · exact .inl hcorrupt
    · rw [hloads] at hcase
      split_ifs at hcase with hnil
      · exact .inr ⟨hnil, hcase⟩
      · exact .inl hcase

/-- A first `agent.json`. -/
def firstDocument : DictDocument halfFormat where
  dict := firstCredentials
  sound := Json.each_obj.mpr ⟨(by decide : ["agent_id", "agent_secret", "dashboard_url", "registered_at"].Nodup), by
    simp [firstCredentials, credentialsPayload, Json.Each, IsNode]⟩

/-- The saved report and the first `agent.json`, each without its last brace. -/
theorem cut_files_are_corrupt_brace : ∃ report credentials : List Char,
    dumps halfFormat fileStyle (.obj emptyRecord.dict) = .ok (report ++ ['\x7d']) ∧
    dumps halfFormat fileStyle (.obj firstCredentials) = .ok (credentials ++ ['\x7d']) ∧
    (∀ site d cs y d', d "r1.json" = some report →
      (loadPendingReport site "r1.json").Runs (queueTexts halfFormat) d cs (.finished y) d' →
      (∃ e, y = .error (.pendingReportCorrupt (.unreadable e))) ∨ y = .error (.pendingReportCorrupt .notJson)) ∧
    ∀ d cs y d', d .agentJson = some credentials →
      loadCredentials.Runs (credsTexts halfFormat) d cs (.finished y) d' → y = .error credentialsCorrupt := by
  have htext (p : DictDocument halfFormat) :
      ∃ text, dumps halfFormat fileStyle (.obj p.dict) = .ok (text ++ ['\x7d']) := by
    obtain ⟨body, hbody⟩ := fileText_braces (F := halfFormat) p.dict
    exact ⟨'\x7b' :: body, (dumps_dict p).trans (congrArg Except.ok hbody)⟩
  obtain ⟨report, hreport⟩ := htext emptyRecord
  obtain ⟨credentials, hcredentials⟩ := htext firstDocument
  refine ⟨report, credentials, hreport, hcredentials, fun site d cs y d' hd h => ?_, fun d cs y d' hd h => ?_⟩
  · have hcorrupt := (cut_files_are_corrupt emptyRecord hreport).1 site "r1.json" d cs y d' hd h
    rwa [if_neg (List.cons_ne_nil _ _)] at hcorrupt
  · refine ((cut_files_are_corrupt firstDocument hcredentials).2 d cs y d' hd h).resolve_right ?_
    rintro ⟨⟨⟩, -⟩

end CertWatch
