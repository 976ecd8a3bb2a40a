/-
# `CertWatch.LoggingSetup` — one JSON object per line.

`JsonFormatter` makes a dict of a log record and writes it with `json.dumps(payload, default=str)`; the handler adds
a line feed.  The time, and the text of a message with its arguments, are inputs.
-/
import CertWatch.JsonRoundTrip
import CertWatch.Lib.Labels

namespace CertWatch

open CertWatch.Lib CertWatch.Lib.Scanner

/-! ## The formatter -/

/-- A value of a logged dict: a document, or an object that `json` has no text for, with its `str()`. -/
inductive LogValue where
  | document (v : Json)
  | object (text : String)

/-- `default=str`. -/
def LogValue.toJson : LogValue → Json
  | .document v => v
  | .object text => .str text

/-- `record.msg`: a dict, or anything else with `record.getMessage()`. -/
inductive LogMessage where
  | dict (payload : List (String × LogValue))
  | text (message : String)

/-- What the formatter reads of a `logging.LogRecord`; `exc_info` is the formatted traceback, where there is one. -/
structure LogRecord where
  msg : LogMessage
  levelname : String
  name : String
  exc_info : Option String

/-- `payload.setdefault(k, v)`. -/
def Dict.setDefault (d : Dict) (k : String) (v : Json) : Dict := if (d.get? k).isSome then d else d.set k v

/-- `dict(record.msg)`, or the message under a key. -/
def LogMessage.payload : LogMessage → Dict
  | .dict payload => payload.map fun kv => (kv.1, kv.2.toJson)
  | .text message => [("message", .str message)]

/-- The payload of `JsonFormatter.format`. -/
def logPayload (now : String) (record : LogRecord) : Dict :=
  let payload := record.msg.payload.setDefault "ts" (.str now)
  let payload := payload.setDefault "level" (.str record.levelname)
  let payload := payload.setDefault "logger" (.str record.name)
  match record.exc_info with
  | some text => payload.set "exc_info" (.str text)
  | none => payload

/-- `JsonFormatter.format`. -/
def format (F : FloatFormat) (now : String) (record : LogRecord) : Except PyExc (List Char) :=
  dumps F lineStyle (.obj (logPayload now record))

/-- `StreamHandler.emit`: a record that cannot be formatted goes to `handleError`, and nothing of it to the stream. -/
def emit (F : FloatFormat) (now : String) (record : LogRecord) : List Char :=
  match format F now record with
  | .ok line => line ++ ['\n']
  | .error _ => []

/-- What the handler writes for a series of records, each at its time. -/
def logStream (F : FloatFormat) (records : List (String × LogRecord)) : List Char :=
  records.flatMap fun r => emit F r.1 r.2

/-! ## Every line is text of one line -/

/-- A character that a line keeps as it is. -/
def isPrintable (c : Char) : Bool := ' ' ≤ c && c ≤ '~'

theorem printable_escapeChar (c : Char) : (escapeChar c).all isPrintable = true := by
  have hhex : ∀ d < 16, isPrintable (Nat.digitChar d) = true := by decide
  have hmod : ∀ n, isPrintable (Nat.digitChar (n % 16)) = true := fun n => hhex _ (Nat.mod_lt n (by decide))
  unfold escapeChar
  cases hletter : escapeLetters.lookup c with
  | some letter =>
    have hmem := mem_escapeLetters hletter
    have hall : ∀ e ∈ escapeLetters, isPrintable e.2 = true := by decide
    simp only [List.all_cons, hall _ hmem]
    rfl
  | none =>
    dsimp only
    split_ifs with hplain
    · simp [isPrintable, hplain.1, hplain.2]
    · refine List.all_eq_true.mpr fun c hc => ?_
      obtain ⟨u, -, hu⟩ := List.mem_flatMap.mp hc
      simp only [hex4, List.mem_cons, List.not_mem_nil, or_false] at hu
      rcases hu with rfl | rfl | rfl | rfl | rfl | rfl
      exacts [rfl, rfl, hmod _, hmod _, hmod _, hmod _]

theorem printable_stringText (s : String) : (stringText s).all isPrintable = true := by
  have hchars : (s.toList.flatMap escapeChar).all isPrintable = true := by
    rw [List.all_flatMap]
    exact List.all_eq_true.mpr fun c _ => printable_escapeChar c
  rw [stringText, List.all_cons, List.all_append, hchars]
  rfl

theorem printable_of_isDigit {c : Char} (h : c.isDigit = true) : isPrintable c = true := by
  simp only [Char.isDigit, Bool.and_eq_true, decide_eq_true_eq] at h
  simp only [isPrintable, Bool.and_eq_true, decide_eq_true_eq]
  exact ⟨UInt32.le_trans (by decide : ' '.val ≤ 48) h.1, UInt32.le_trans h.2 (by decide : 57 ≤ '~'.val)⟩

theorem printable_digits {ds : List Char} (h : ds.all Char.isDigit = true) : ds.all isPrintable = true :=
  List.all_eq_true.mpr fun c hc => printable_of_isDigit (List.all_eq_true.mp h c hc)

theorem printable_number (t : NumberText) : t.text.all isPrintable = true := by
  have hsign : t.sign.all isPrintable = true := by
    rcases t.sign_eq with h | h <;> rw [h] <;> rfl
  have hwhole : t.whole.all isPrintable = true := by
    rcases t.whole_eq with h | ⟨d, ds, h, -, hdigits⟩ <;> rw [h]
    exacts [rfl, printable_digits hdigits]
  have hfrac : t.frac.all isPrintable = true := by
    rcases t.frac_eq with h | ⟨d, ds, h, hdigits⟩ <;> rw [h]
    · rfl
    · rw [List.all_cons, printable_digits hdigits]
      rfl
  have hexp : t.exp.all isPrintable = true := by
    rcases t.exp_eq with h | ⟨sign, d, ds, h, rfl | rfl, hdigits⟩ <;> rw [h]
    · rfl
    · rw [List.all_cons, List.all_cons, printable_digits hdigits]
      rfl
    · rw [List.all_cons, List.all_cons, printable_digits hdigits]
      rfl
  rw [NumberText.text, List.all_append, List.all_append, List.all_append, hsign, hwhole, hfrac, hexp]
  rfl

theorem printable_bracketed {level : Nat} {opening closing : Char} {ts : List (List Char)}
    (hopening : isPrintable opening = true) (hclosing : isPrintable closing = true)
    (hts : ∀ t ∈ ts, t.all isPrintable = true) :
    (lineStyle.bracketed level opening closing ts).all isPrintable = true := by
  cases ts with
  | nil => simp [JsonStyle.bracketed, hopening, hclosing]
  | cons t ts =>
    have hnewline : ∀ level, lineStyle.newlineIndent level = [] := fun _ => rfl
    have hmore : (ts.flatMap fun t => lineStyle.itemSeparator ++ lineStyle.newlineIndent (level + 1) ++ t).all
        isPrintable = true := by
      rw [List.all_flatMap]
      refine List.all_eq_true.mpr fun t ht => ?_
      rw [hnewline, List.append_nil, List.all_append, hts t (List.mem_cons_of_mem _ ht)]
      rfl
    rw [JsonStyle.bracketed, JsonStyle.moreItems, List.all_cons, List.all_append, List.all_append, List.all_append,
      List.all_append, hmore, hnewline, hnewline, hopening, hts t List.mem_cons_self, List.all_cons, hclosing]
    rfl

variable {F : FloatFormat}

/-- A value on one line is text that the line keeps. -/
theorem printable_valueText (v : Json) : ∀ level, (valueText F lineStyle level v).all isPrintable = true := by
  induction v using Json.induction with
  | leaf v harr hobj =>
    intro level
    cases v with
    | null => rfl
    | bool b => cases b <;> rfl
    | int n =>
      rw [valueText, ← intNumber_text]
      exact printable_number (intNumber n)
    | float x => cases x with
      | finite q => exact printable_number (F.repr q).toNumberText
      | _ => rfl
    | str s => exact printable_stringText s
    | arr xs => cases harr
    | obj kvs => cases hobj
  | arr xs ih =>
    intro level
    rw [valueText, itemTexts_eq]
    refine printable_bracketed rfl rfl fun t ht => ?_
    obtain ⟨x, hx, rfl⟩ := List.mem_map.mp ht
    exact ih x hx _
  | obj kvs ih =>
    intro level
    rw [valueText, memberTexts_eq]
    refine printable_bracketed rfl rfl fun t ht => ?_
    obtain ⟨kv, hkv, rfl⟩ := List.mem_map.mp ht
    rw [List.all_append, List.all_cons, List.all_cons, printable_stringText, ih kv hkv]
    rfl

/-- The line of a record. -/
def lineText (F : FloatFormat) (now : String) (record : LogRecord) : List Char :=
  valueText F lineStyle 0 (.obj (logPayload now record))

/-- A line is of printable ASCII characters. -/
theorem printable_lineText (now : String) (record : LogRecord) : ∀ c ∈ lineText F now record, ' ' ≤ c ∧ c ≤ '~' := by
  intro c hc
  have hprintable := List.all_eq_true.mp (printable_valueText (F := F) (.obj (logPayload now record)) 0) c hc
  simpa [isPrintable] using hprintable

theorem lineFeed_not_mem_lineText (now : String) (record : LogRecord) : '\n' ∉ lineText F now record := fun hmem =>
  absurd (printable_lineText now record '\n' hmem).1 (by decide)

/-! ## Every line is the record's payload -/

/-- The values of a logged dict are documents, each under a key of its own. -/
def LogMessage.Sound (F : FloatFormat) : LogMessage → Prop
  | .dict payload => (payload.map Prod.fst).Nodup ∧ ∀ kv ∈ payload, kv.2.toJson.Each (IsNode F)
  | .text _ => True

/-- A dict of documents, each under a key of its own. -/
def SoundDict (F : FloatFormat) (d : Dict) : Prop := (d.map Prod.fst).Nodup ∧ ∀ kv ∈ d, kv.2.Each (IsNode F)

theorem SoundDict.set_str {d : Dict} (h : SoundDict F d) (k text : String) : SoundDict F (d.set k (.str text)) := by
  refine ⟨(Dict.keys_set_nodup h.1 _ _).1, fun kv hkv => ?_⟩
  rcases Dict.mem_set hkv with hv | hmem
  · exact hv ▸ trivial
  · exact h.2 kv hmem

theorem SoundDict.setDefault_str {d : Dict} (h : SoundDict F d) (k text : String) :
    SoundDict F (d.setDefault k (.str text)) := by
  unfold Dict.setDefault
  split_ifs
  exacts [h, h.set_str k text]

theorem soundDict_logPayload (now : String) {record : LogRecord} (h : record.msg.Sound F) :
    SoundDict F (logPayload now record) := by
  obtain ⟨msg, levelname, name, exc_info⟩ := record
  have hmsg : SoundDict F msg.payload := by
    cases msg with
    | dict payload =>
      refine ⟨?_, fun kv hkv => ?_⟩
      · rw [LogMessage.payload, List.map_map]
        exact h.1
      · obtain ⟨kv, hmem, rfl⟩ := List.mem_map.mp hkv
        exact h.2 kv hmem
    | text message => simp [SoundDict, LogMessage.payload, Json.Each, IsNode]
  have hdefaults := ((hmsg.setDefault_str "ts" now).setDefault_str "level" levelname).setDefault_str "logger" name
  cases exc_info with
  | none => exact hdefaults
  | some text => exact hdefaults.set_str "exc_info" text

/-- The payload of a record, as a document. -/
def logDocument (now : String) {record : LogRecord} (h : record.msg.Sound F) : Document F where
  value := .obj (logPayload now record)
  sound := Json.each_obj.mpr (soundDict_logPayload now h)

/-- A record of documents is formatted. -/
theorem emit_eq (now : String) {record : LogRecord} (h : record.msg.Sound F) :
    emit F now record = lineText F now record ++ ['\n'] := by
  have hformat : format F now record = .ok (lineText F now record) := dumps_document lineStyle (logDocument now h)
  rw [emit, hformat]

/-- A line loads as the payload it was made of. -/
theorem loads_lineText (now : String) {record : LogRecord} (h : record.msg.Sound F) :
    loads F (lineText F now record) = .ok (some (.obj (logPayload now record))) :=
  loads_text lineStyle (logDocument now h)

/-- The lines of a stream are those of its records, and the empty text behind the last line feed. -/
theorem labels_logStream {records : List (String × LogRecord)} (h : ∀ r ∈ records, r.2.msg.Sound F) :
    labels '\n' (logStream F records) = records.map (fun r => lineText F r.1 r.2) ++ [[]] := by
  induction records with
  | nil => rfl
  | cons r records ih =>
    rw [List.forall_mem_cons] at h
    have hcons : logStream F (r :: records) = lineText F r.1 r.2 ++ '\n' :: logStream F records := by
      simp [logStream, emit_eq r.1 h.1]
    rw [hcons, labels_append '\n' (lineFeed_not_mem_lineText r.1 r.2), ih h.2]
    rfl

theorem Dict.get?_setDefault (d : Dict) (k j : String) (v : Json) :
    (d.setDefault k v).get? j = if j = k then some ((d.get? k).getD v) else d.get? j := by
  unfold Dict.setDefault
  cases hk : d.get? k with
  | some w =>
    rw [Option.isSome_some, if_pos rfl]
    split_ifs with hj
    · rw [hj, hk]
      rfl
    · rfl
  | none =>
    rw [Option.isSome_none, if_neg Bool.false_ne_true]
    split_ifs with hj
    · rw [hj, Dict.get?_set_self]
      rfl
    · exact Dict.get?_set_ne d v hj

/-- What the formatter adds: `ts`, `level` and `logger` where the caller has not set them, and `exc_info`. -/
def addedByFormatter (now : String) (record : LogRecord) (k : String) : Option Json :=
  if k = "exc_info" ∧ record.exc_info.isSome then record.exc_info.map .str
  else if k = "ts" then some ((record.msg.payload.get? "ts").getD (.str now))
  else if k = "level" then some ((record.msg.payload.get? "level").getD (.str record.levelname))
  else if k = "logger" then some ((record.msg.payload.get? "logger").getD (.str record.name))
  else record.msg.payload.get? k

theorem get?_logPayload (now : String) (record : LogRecord) (k : String) :
    (logPayload now record).get? k = addedByFormatter now record k := by
  obtain ⟨msg, levelname, name, exc_info⟩ := record
  have hdefaults : (((msg.payload.setDefault "ts" (.str now)).setDefault "level" (.str levelname)).setDefault "logger"
      (.str name)).get? k = if k = "ts" then some ((msg.payload.get? "ts").getD (.str now))
        else if k = "level" then some ((msg.payload.get? "level").getD (.str levelname))
        else if k = "logger" then some ((msg.payload.get? "logger").getD (.str name))
        else msg.payload.get? k := by
    simp only [Dict.get?_setDefault]
    by_cases hts : k = "ts"
    · simp [hts]
    · by_cases hlevel : k = "level"
      · simp [hlevel]
      · simp [hts, hlevel]
  unfold addedByFormatter
  cases exc_info with
  | none =>
    rw [if_neg (by simp)]
    exact hdefaults
  | some text =>
    by_cases hk : k = "exc_info"
    · rw [if_pos ⟨hk, rfl⟩, hk]
      exact Dict.get?_set_self _ _ _
    · rw [if_neg (by simp [hk]), ← hdefaults]
      exact Dict.get?_set_ne _ _ hk

/-- **One JSON object per line**: cut at its line feeds, the output is one line for each record, in order, and every
line is of printable ASCII characters and loads as a dict with the record's own keys and those that the formatter
adds. -/
theorem one_object_per_line (records : List (String × LogRecord)) (h : ∀ r ∈ records, r.2.msg.Sound F) :
    ∃ lines, labels '\n' (logStream F records) = lines ++ [[]] ∧
      List.Forall₂ (fun line r => (∀ c ∈ line, ' ' ≤ c ∧ c ≤ '~') ∧ ∃ d, loads F line = .ok (some (.obj d)) ∧
        ∀ k, Dict.get? d k = addedByFormatter r.1 r.2 k) lines records := by
  refine ⟨_, labels_logStream h, ?_⟩
  rw [List.forall₂_map_left_iff, List.forall₂_same]
  exact fun r hr => ⟨printable_lineText r.1 r.2, _, loads_lineText r.1 (h r hr), get?_logPayload r.1 r.2⟩

/-- A warning with a text over two lines, and an event. -/
def twoRecords : List (String × LogRecord) :=
  [("2026-01-01T00:00:00Z", ⟨.text "first\nsecond", "WARNING", "certwatch", none⟩),
    ("2026-01-01T00:00:01Z", ⟨.dict [("event", .document (.str "cycle_start")), ("path", .object "/data")], "INFO",
      "certwatch.check_loop", some "Traceback"⟩)]

theorem one_object_per_line_two :
    ∃ lines, labels '\n' (logStream halfFormat twoRecords) = lines ++ [[]] ∧
      List.Forall₂ (fun line r => (∀ c ∈ line, ' ' ≤ c ∧ c ≤ '~') ∧ ∃ d, loads halfFormat line = .ok (some (.obj d)) ∧
        ∀ k, Dict.get? d k = addedByFormatter r.1 r.2 k) lines twoRecords := by
  refine one_object_per_line twoRecords fun r hr => ?_
  rcases List.mem_cons.mp hr with rfl | hr
  · trivial
  · rw [List.mem_singleton.mp hr]
    refine ⟨(by decide : ["event", "path"].Nodup), fun kv hkv => ?_⟩
    rcases List.mem_cons.mp hkv with rfl | hkv
    · trivial
    · rw [List.mem_singleton.mp hkv]
      trivial

end CertWatch
