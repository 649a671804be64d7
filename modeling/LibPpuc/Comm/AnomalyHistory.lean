import LibPpuc.Comm.Anomaly
import LibPpuc.Framework.OverwriteRing
import Mathlib.Data.List.Chain

/-! # What the Anomaly Log Keeps

  The ring of all kinds and the rate limiter of each kind, over any sequence
  of reports.  `recordOf` is what one report writes to the ring, and with it
  the repeats that are folded into the entry; `records` collects these.

  The invariant `Keeps` relates the log to the reports and to the records so
  far: the ring holds the end of the records, every kind begins with a
  record, and what a kind has counted is recorded, folded or pending.
-/

namespace LibPpuc

/-- The kinds, in the order of the enumeration. -/
def Anomaly.all : List Anomaly :=
  [.serialWrite, .frameCrc, .configAck, .switchChainMiss, .epochMismatch, .boardStatus,
    .queueOverflow, .sessionResync]

/-- One call of `ReportAnomaly`, with the readings of both clocks. -/
structure Report where
  kind : Anomaly
  message : String
  now : Nat
  wallMs : Int
  deriving DecidableEq, Repr

/-- An entry that was written to the ring: the report it stems from and the
    repeats that were folded into it. -/
structure Record where
  report : Report
  folded : UInt32
  deriving DecidableEq, Repr

/-- The entry of a record. -/
def Record.entry (record : Record) : AnomalyLogEntry where
  text := AnomalyLog.entryText record.folded record.report.message
  wallMs := record.report.wallMs

namespace AnomalyLog

/-! ### Reading the Log -/

/-- One line of the result, for an entry of the ring. -/
def entryLine (e : AnomalyLogEntry) : String :=
  toString e.wallMs ++ " " ++ e.text

/-- One line of the result, for the pending repeats of a kind. -/
def pendingLine (pending : UInt32) (kind : Anomaly) : String :=
  "(" ++ toString pending ++ " further " ++ kind.name ++
    " occurrence(s) not recorded individually)"

/-- The lines for the kinds that have repeats pending. -/
def pendingLines (log : AnomalyLog) : List String :=
  Anomaly.all.filterMap fun kind =>
    let pending := (log.anomalies kind).suppressed
    if pending = 0 then none else some (pendingLine pending kind)

/-- `GetRecentAnomalies`. -/
def getRecentAnomalies (log : AnomalyLog) : List String :=
  -- once the ring has wrapped, the oldest entry is the one written next
  let start := if log.anomalyLogCount = kAnomalyLogSize then log.anomalyLogHead else 0
  (List.range log.anomalyLogCount).map (fun i =>
      entryLine (log.anomalyLog[(start + i) % kAnomalyLogSize]?.getD {})) ++
    log.pendingLines

/-! ### Reports and Records -/

/-- The log after a report. -/
def report (log : AnomalyLog) (r : Report) : AnomalyLog :=
  log.reportAnomaly r.kind r.message r.now r.wallMs

/-- What a report records: an entry is written if the next slot of the ring
    is another one afterwards. -/
def recordOf (log : AnomalyLog) (r : Report) : List Record :=
  if (log.report r).anomalyLogHead = log.anomalyLogHead then []
  else [⟨r, (log.anomalies r.kind).suppressed⟩]

/-- The log after a sequence of reports. -/
def reportAll (log : AnomalyLog) (reports : List Report) : AnomalyLog :=
  reports.foldl report log

/-- What a sequence of reports records, oldest first. -/
def records (log : AnomalyLog) : List Report → List Record
  | [] => []
  | r :: reports => log.recordOf r ++ (log.report r).records reports

/-- The ring of the log. -/
def ring (log : AnomalyLog) : OverwriteRing AnomalyLogEntry kAnomalyLogSize where
  slots := log.anomalyLog
  head := log.anomalyLogHead
  count := log.anomalyLogCount

/-- The rate limiter of the report's kind holds the report back. -/
def limits (log : AnomalyLog) (r : Report) : Prop :=
  (log.anomalies r.kind).everRecorded = true ∧
    r.now - (log.anomalies r.kind).lastRecord < kRepeatInterval

instance (log : AnomalyLog) (r : Report) : Decidable (log.limits r) :=
  inferInstanceAs (Decidable (_ ∧ _))

/-- A report that is held back is only counted. -/
theorem report_limited {log : AnomalyLog} {r : Report} (h : log.limits r) :
    log.report r =
      { log with
        anomalies := Function.update log.anomalies r.kind
          { log.anomalies r.kind with
            total := (log.anomalies r.kind).total + 1
            suppressed := (log.anomalies r.kind).suppressed + 1 } } := by
  obtain ⟨hever, hsoon⟩ := h
  unfold report reportAnomaly
  simp [hever, hsoon]

/-- Any other report takes the pending repeats along. -/
theorem report_recorded {log : AnomalyLog} {r : Report} (h : ¬ log.limits r) :
    (log.report r).anomalies = Function.update log.anomalies r.kind
        { total := (log.anomalies r.kind).total + 1, suppressed := 0, lastRecord := r.now,
          everRecorded := true } ∧
      (log.report r).ring =
        log.ring.push (Record.entry ⟨r, (log.anomalies r.kind).suppressed⟩) := by
  have hcond : ¬ ((log.anomalies r.kind).everRecorded &&
      decide (r.now - (log.anomalies r.kind).lastRecord < kRepeatInterval)) = true := by
    intro hboth
    apply h
    simpa [limits] using hboth
  unfold ring report reportAnomaly
  rw [if_neg hcond]
  constructor <;> rfl

theorem recordOf_limited {log : AnomalyLog} {r : Report} (h : log.limits r) :
    log.recordOf r = [] := by
  unfold recordOf
  rw [report_limited h, if_pos rfl]

theorem recordOf_recorded {log : AnomalyLog} {r : Report} (h : ¬ log.limits r) :
    log.recordOf r = [⟨r, (log.anomalies r.kind).suppressed⟩] := by
  have hhead : (log.report r).anomalyLogHead = (log.anomalyLogHead + 1) % kAnomalyLogSize :=
    congrArg OverwriteRing.head (report_recorded h).2
  -- the ring has more than one slot
  have hmoved : (log.report r).anomalyLogHead ≠ log.anomalyLogHead := by
    rw [hhead, kAnomalyLogSize]
    omega
  unfold recordOf
  rw [if_neg hmoved]

/-! ### One Kind -/

/-- What is kept of the reports of one kind, where `recorded` are the records
    of this kind. -/
structure KindKeeps (state : AnomalyState) (reports : List Report) (recorded : List Record) :
    Prop where
  /-- The first report is recorded. -/
  first : recorded.head?.map Record.report = reports.head?
  ever : state.everRecorded = true ↔ recorded ≠ []
  last : ∀ record ∈ recorded.getLast?, state.lastRecord = record.report.now
  /-- Records in a row are as far apart as the limiter demands. -/
  apart : recorded.IsChain fun a b => a.report.now + kRepeatInterval ≤ b.report.now
  /-- What was counted is recorded, folded or pending. -/
  total : state.total.toNat = (recorded.length +
    (recorded.map fun record => record.folded.toNat).sum + state.suppressed.toNat) % 2 ^ 32

theorem kindKeeps_nil : KindKeeps {} [] [] where
  first := rfl
  ever := by simp
  last := by simp
  apart := .nil
  total := rfl

/-- A report is counted and held back. -/
theorem KindKeeps.limited {state : AnomalyState} {reports : List Report}
    {recorded : List Record} (h : KindKeeps state reports recorded) (r : Report)
    (hever : state.everRecorded = true) :
    KindKeeps { state with total := state.total + 1, suppressed := state.suppressed + 1 }
      (reports ++ [r]) recorded where
  first := by
    have hsome : recorded ≠ [] := h.ever.mp hever
    obtain ⟨record, more, rfl⟩ := List.exists_cons_of_ne_nil hsome
    have hfirst := h.first
    -- there were reports before this one
    cases reports with
    | nil => simp at hfirst
    | cons r' reports => simpa using hfirst
  ever := h.ever
  last := h.last
  apart := h.apart
  total := by
    have htotal := h.total
    simp only [UInt32.toNat_add, UInt32.toNat_one]
    omega

/-- A report is recorded, with the pending repeats. -/
theorem KindKeeps.recorded {state : AnomalyState} {reports : List Report}
    {recorded : List Record} (h : KindKeeps state reports recorded) (r : Report)
    (hfar : state.everRecorded = true → state.lastRecord + kRepeatInterval ≤ r.now) :
    KindKeeps { total := state.total + 1, suppressed := 0, lastRecord := r.now,
                everRecorded := true }
      (reports ++ [r]) (recorded ++ [⟨r, state.suppressed⟩]) where
  first := by
    have hfirst := h.first
    cases recorded with
    | nil =>
      cases reports with
      | nil => rfl
      | cons r' reports => simp at hfirst
    | cons record more =>
      cases reports with
      | nil => simp at hfirst
      | cons r' reports => simpa using hfirst
  ever := by simp
  last := by simp
  apart := by
    apply List.isChain_append.mpr
    refine ⟨h.apart, by simp, ?_⟩
    intro record hrecord next hnext
    have hsome : recorded ≠ [] := by
      rintro rfl
      simp at hrecord
    obtain rfl : _ = next := by simpa using hnext
    rw [← h.last record hrecord]
    exact hfar (h.ever.mpr hsome)
  total := by
    have htotal := h.total
    simp only [UInt32.toNat_add, UInt32.toNat_one, List.map_append, List.sum_append,
      List.length_append, List.map_cons, List.map_nil, List.sum_cons, List.sum_nil,
      List.length_cons, List.length_nil, UInt32.toNat_zero]
    omega

/-! ### All Kinds -/

/-- What the log keeps of `reports`, where `recorded` is what was written to
    the ring. -/
structure Keeps (log : AnomalyLog) (reports : List Report) (recorded : List Record) : Prop where
  ring : log.ring.Holds (recorded.map Record.entry)
  kinds : ∀ kind, KindKeeps (log.anomalies kind) (reports.filter (·.kind = kind))
    (recorded.filter (·.report.kind = kind))

theorem keeps_nil : Keeps {} [] [] where
  ring := OverwriteRing.holds_nil _
  kinds _ := kindKeeps_nil

/-- **One report** extends what is kept. -/
theorem Keeps.report {log : AnomalyLog} {reports : List Report} {recorded : List Record}
    (h : Keeps log reports recorded) (r : Report) :
    Keeps (log.report r) (reports ++ [r]) (recorded ++ log.recordOf r) := by
  have hown : (reports ++ [r]).filter (·.kind = r.kind) =
      reports.filter (·.kind = r.kind) ++ [r] := by simp
  have hother : ∀ kind, kind ≠ r.kind →
      (reports ++ [r]).filter (·.kind = kind) = reports.filter (·.kind = kind) := by
    intro kind hkind
    simp [Ne.symm hkind]
  -- a report within the interval is counted, but not recorded
  by_cases hlimits : log.limits r
  · rw [recordOf_limited hlimits, report_limited hlimits, List.append_nil]
    refine ⟨h.ring, ?_⟩
    intro kind
    by_cases hkind : kind = r.kind
    · subst hkind
      rw [hown]
      dsimp only
      rw [Function.update_self]
      exact (h.kinds r.kind).limited r hlimits.1
    · rw [hother kind hkind]
      dsimp only
      rw [Function.update_of_ne hkind]
      exact h.kinds kind
  · obtain ⟨hanomalies, hring⟩ := report_recorded hlimits
    rw [recordOf_recorded hlimits]
    constructor
    · rw [hring, List.map_append]
      exact h.ring.push (by decide) _
    · intro kind
      rw [hanomalies]
      by_cases hkind : kind = r.kind
      · subst hkind
        rw [hown, Function.update_self, List.filter_append,
          List.filter_cons_of_pos (by simp), List.filter_nil]
        apply (h.kinds r.kind).recorded r
        -- a kind that was recorded before is recorded again only after the interval
        intro hever
        have hfar : ¬ r.now - (log.anomalies r.kind).lastRecord < kRepeatInterval :=
          fun hsoon => hlimits ⟨hever, hsoon⟩
        have hpositive : 0 < kRepeatInterval := by decide
        omega
      · rw [hother kind hkind, Function.update_of_ne hkind]
        simpa [Ne.symm hkind] using h.kinds kind

/-- **Any sequence of reports** extends what is kept. -/
theorem Keeps.reportAll {log : AnomalyLog} {reports : List Report} {recorded : List Record}
    (h : Keeps log reports recorded) (more : List Report) :
    Keeps (log.reportAll more) (reports ++ more) (recorded ++ log.records more) := by
  induction more generalizing log reports recorded with
  | nil => simpa [AnomalyLog.reportAll, records] using h
  | cons r more ih =>
    have hnext := ih (h.report r)
    rw [List.append_assoc, List.append_assoc] at hnext
    exact hnext

/-! ### The Lines of the Log -/

/-- The lines of the ring are those of the last records. -/
theorem Keeps.getRecentAnomalies {log : AnomalyLog} {reports : List Report}
    {recorded : List Record} (h : Keeps log reports recorded) :
    log.getRecentAnomalies =
      (recorded.drop (recorded.length - kAnomalyLogSize)).map
        (fun record => entryLine record.entry) ++ log.pendingLines := by
  have hentries := h.ring.toList_eq {}
  rw [List.length_map] at hentries
  have hlines := congrArg (List.map entryLine) hentries
  rw [OverwriteRing.toList, List.map_map, ← List.map_drop, List.map_map] at hlines
  unfold AnomalyLog.getRecentAnomalies
  exact congrArg (· ++ log.pendingLines) hlines

/-- The line of a record, written out: its time, the message, the repeats that
    were folded into it, all within the buffers of `ReportAnomaly`. -/
theorem entryLine_entry (record : Record) :
    entryLine record.entry = toString record.report.wallMs ++ " " ++
      String.ofList ((String.ofList (record.report.message.toList.take 1023) ++
        if record.folded = 0 then ""
        else " (+" ++ toString record.folded ++ " more in the last 5s)").toList.take 175) := by
  unfold entryLine Record.entry entryText
  by_cases hnone : record.folded = 0
  · simp [hnone]
  · have hsome : 0 < record.folded := UInt32.pos_iff_ne_zero.mpr hnone
    have hseconds : " more in the last 5s)" = " more in the last " ++
        (toString (kRepeatInterval / 1000) ++ "s)") := by decide
    rw [if_neg hnone, hseconds]
    simp only [if_pos hsome, String.append_assoc, toString]

/-- The pending lines, written out: one for each kind with repeats pending, in
    the order of the enumeration. -/
theorem pendingLines_eq (log : AnomalyLog) :
    log.pendingLines =
      (([(.serialWrite, "serial write"), (.frameCrc, "frame CRC"), (.configAck, "config ack"),
          (.switchChainMiss, "switch chain miss"), (.epochMismatch, "epoch mismatch"),
          (.boardStatus, "board status"), (.queueOverflow, "output queue overflow"),
          (.sessionResync, "session resync")] : List (Anomaly × String)).filter
        fun named => (log.anomalies named.1).suppressed ≠ 0).map fun named =>
          "(" ++ toString (log.anomalies named.1).suppressed ++ " further " ++ named.2 ++
            " occurrence(s) not recorded individually)" := by
  show _ = ((Anomaly.all.map fun kind => (kind, kind.name)).filter _).map _
  unfold pendingLines
  rw [← List.filterMap_eq_map, List.filterMap_filter, List.filterMap_map]
  congr 1
  funext kind
  by_cases hnone : (log.anomalies kind).suppressed = 0
  · simp [hnone]
  · simp [hnone, pendingLine]

/-- **The anomaly log keeps what it promises**, after any sequence of reports.
    It lists the last `kAnomalyLogSize` of the entries recorded, oldest first,
    each with its time, its message and the repeats that were folded into it,
    and then one line for each kind that has repeats pending, with the name of
    the kind and their number; the first report of a kind is always recorded;
    entries of one kind in a row are at least the repeat interval apart; and
    what a kind has counted is recorded, folded into an entry, or pending. -/
theorem anomalyLog_keeps (reports : List Report) :
    (AnomalyLog.reportAll {} reports).getRecentAnomalies =
        ((records {} reports).drop ((records {} reports).length - kAnomalyLogSize)).map
          (fun record => toString record.report.wallMs ++ " " ++
            String.ofList ((String.ofList (record.report.message.toList.take 1023) ++
              if record.folded = 0 then ""
              else " (+" ++ toString record.folded ++ " more in the last 5s)").toList.take 175)) ++
        (([(.serialWrite, "serial write"), (.frameCrc, "frame CRC"), (.configAck, "config ack"),
            (.switchChainMiss, "switch chain miss"), (.epochMismatch, "epoch mismatch"),
            (.boardStatus, "board status"), (.queueOverflow, "output queue overflow"),
            (.sessionResync, "session resync")] : List (Anomaly × String)).filter
          fun named => ((AnomalyLog.reportAll {} reports).anomalies named.1).suppressed ≠ 0).map
            (fun named =>
              "(" ++ toString ((AnomalyLog.reportAll {} reports).anomalies named.1).suppressed ++
                " further " ++ named.2 ++ " occurrence(s) not recorded individually)") ∧
      ∀ kind,
        (((records {} reports).filter (·.report.kind = kind)).head?.map Record.report =
          (reports.filter (·.kind = kind)).head?) ∧
        (((records {} reports).filter (·.report.kind = kind)).IsChain fun a b =>
          a.report.now + kRepeatInterval ≤ b.report.now) ∧
        ((AnomalyLog.reportAll {} reports).anomalies kind).total.toNat =
          (((records {} reports).filter (·.report.kind = kind)).length +
            (((records {} reports).filter (·.report.kind = kind)).map
              fun record => record.folded.toNat).sum +
            ((AnomalyLog.reportAll {} reports).anomalies kind).suppressed.toNat) % 2 ^ 32 := by
  have hkeeps : Keeps (AnomalyLog.reportAll {} reports) reports (records {} reports) := by
    simpa using keeps_nil.reportAll reports
  constructor
  · rw [hkeeps.getRecentAnomalies, pendingLines_eq]
    simp only [entryLine_entry]
  · intro kind
    have hkind := hkeeps.kinds kind
    exact ⟨hkind.first, hkind.apart, hkind.total⟩

end AnomalyLog

end LibPpuc
