import Blocksnoop.Reporter.FanOut
import Blocksnoop.Support.ExactArithmetic
import Blocksnoop.Support.Ranking
import Mathlib.Data.Prod.Lex
import Mathlib.Tactic.Abel

/-!
# The summary and the stream

What the session summary states can be computed again from the event records of
the JSON stream.  Every report adds one row to the stream and to the running
totals; the aggregates are the totals of the classes of rows with one fingerprint.
-/

namespace Blocksnoop

open Blocksnoop.Support

variable {F : Type} [PyRuntime F]

/-- What an event line of the stream says about its event. -/
structure EventRow (F : Type) where
  eventNumber : ℕ
  durationMs : F
  level : Option String
  fingerprint : Option String

def eventRow (host : ReporterHost) (line : StreamLine F) : Option (EventRow F) :=
  match line.record with
  | .blockingEvent _ eventNumber _ durationMs _ _ pythonStacks =>
      some {
        eventNumber := eventNumber
        durationMs := durationMs
        level := line.level
        fingerprint :=
          (signatureForStacks host pythonStacks).toOption.map Signature.fingerprint }
  | _ => none

/-- The totals that a summary states. -/
structure SummaryTotals (F : Type) where
  eventCount : ℕ
  errorEventCount : ℕ
  totalBlockedMs : F
  maxBlockedMs : F
  topSignatures : List (Aggregate F)

def Record.totals : Record F → Option (SummaryTotals F)
  | .sessionSummary _ _ _ _ eventCount errorEventCount totalBlockedMs maxBlockedMs _ _
      topSignatures =>
      some { eventCount, errorEventCount, totalBlockedMs, maxBlockedMs, topSignatures }
  | _ => none

def EventRow.isError (row : EventRow F) : Bool :=
  row.level = some "error"

/-- The rows of one call site. -/
def rowsOf (rows : List (EventRow F)) (fingerprint : String) : List (EventRow F) :=
  rows.filter fun row => row.fingerprint = some fingerprint

section

variable [AddCommMonoid F] [LinearOrder F]

/-- The greatest entry of a list; zero if there is none. -/
def IsMaximum (entries : List F) (maximum : F) : Prop :=
  if entries = [] then maximum = 0
  else maximum ∈ entries ∧ ∀ entry ∈ entries, entry ≤ maximum

def Aggregate.rank (a : Aggregate F) : F ×ₗ F :=
  toLex (a.totalBlockedMs, a.maxBlockedMs)

/-- The aggregates partition the rows. -/
structure Partitions (rows : List (EventRow F)) (aggregates : List (Aggregate F)) : Prop where
  distinct : (aggregates.map fun a => a.fingerprint).Nodup
  covers : ∀ row ∈ rows, ∃ a ∈ aggregates, row.fingerprint = some a.fingerprint
  inhabited : ∀ a ∈ aggregates, rowsOf rows a.fingerprint ≠ []
  counts : ∀ a ∈ aggregates, a.count = (rowsOf rows a.fingerprint).length
  totals : ∀ a ∈ aggregates, a.totalBlockedMs =
    ((rowsOf rows a.fingerprint).map EventRow.durationMs).sum
  maxima : ∀ a ∈ aggregates,
    IsMaximum ((rowsOf rows a.fingerprint).map EventRow.durationMs) a.maxBlockedMs

/-- The summary states what the rows of the stream come to. -/
structure Recomputes (rows : List (EventRow F)) (aggregates : List (Aggregate F))
    (totals : SummaryTotals F) : Prop where
  numbered : rows.map EventRow.eventNumber = List.range' 1 rows.length
  eventCount : totals.eventCount = rows.length
  totalBlockedMs : totals.totalBlockedMs = (rows.map EventRow.durationMs).sum
  maxBlockedMs : IsMaximum (rows.map EventRow.durationMs) totals.maxBlockedMs
  errorEventCount : totals.errorEventCount = (rows.filter EventRow.isError).length
  partition : Partitions rows aggregates
  sumOfCounts : (aggregates.map Aggregate.count).sum = totals.eventCount
  sumOfTotals : (aggregates.map Aggregate.totalBlockedMs).sum = totals.totalBlockedMs
  maximumOfMaxima : IsMaximum (aggregates.map Aggregate.maxBlockedMs) totals.maxBlockedMs
  top : IsTop Aggregate.rank 5 aggregates totals.topSignatures

/-- The stream of a session, after the lines that were there before it: one line
for each event, then the summary, which states what these lines come to. -/
def SummaryRecomputable (host : ReporterHost) (before : List (StreamLine F))
    (s : Reporting F (JsonStreamSink F)) : Prop :=
  ∃ sink lines summary rows totals, s.sinks = [sink] ∧
    sink.written = before ++ lines ++ [summary] ∧
    lines.map (eventRow host) = rows.map some ∧
    summary.record.totals = some totals ∧
    Recomputes rows s.reporter.signatures.values totals

end

/-! ## Sums and maxima -/

section

variable [AddCommMonoid F] [LinearOrder F]

theorem maxFloat_eq_max [ExactArithmetic F] (x y : F) : Reporter.maxFloat x y = max x y := by
  unfold Reporter.maxFloat
  by_cases h : x < y
  · rw [if_pos ((ExactArithmetic.lt_iff x y).mpr h), max_eq_right h.le]
  · rw [if_neg (mt (ExactArithmetic.lt_iff x y).mp h), max_eq_left (not_lt.mp h)]

omit [PyRuntime F] in
theorem foldr_max_append (entries more : List F) (x : F) :
    (entries ++ x :: more).foldr max 0 = max ((entries ++ more).foldr max 0) x := by
  induction entries with
  | nil => exact max_comm _ _
  | cons entry entries ih =>
      rw [List.cons_append, List.foldr_cons, ih, List.cons_append, List.foldr_cons, max_assoc]

omit [PyRuntime F] in
theorem foldr_max_nonneg (entries : List F) : 0 ≤ entries.foldr max 0 := by
  induction entries with
  | nil => exact le_refl _
  | cons entry entries ih => exact ih.trans (le_max_right _ _)

omit [PyRuntime F] in
theorem isMaximum_foldr_max {entries : List F} (h : ∀ entry ∈ entries, 0 ≤ entry) :
    IsMaximum entries (entries.foldr max 0) := by
  unfold IsMaximum
  induction entries with
  | nil => simp
  | cons entry entries ih =>
      rw [if_neg (by simp), List.foldr_cons]
      have hentry := h entry List.mem_cons_self
      have hrest := ih fun other hother => h other (List.mem_cons_of_mem _ hother)
      by_cases hnil : entries = []
      · subst hnil
        simp [hentry]
      · rw [if_neg hnil] at hrest
        constructor
        · rcases max_choice entry (entries.foldr max 0) with hmax | hmax
          · rw [hmax]
            exact List.mem_cons_self
          · rw [hmax]
            exact List.mem_cons_of_mem _ hrest.1
        · intro other hother
          rcases List.mem_cons.mp hother with rfl | hother
          · exact le_max_left _ _
          · exact (hrest.2 other hother).trans (le_max_right _ _)

end

/-! ## The aggregates -/

section

variable [AddCommMonoid F] [LinearOrder F]

/-- The aggregate of a class of rows. -/
structure Tallied (rows : List (EventRow F)) (a : Aggregate F) : Prop where
  count : a.count = rows.length
  total : a.totalBlockedMs = (rows.map EventRow.durationMs).sum
  maximum : a.maxBlockedMs = (rows.map EventRow.durationMs).foldr max 0

structure Classified (rows : List (EventRow F)) (signatures : Dict String (Aggregate F)) :
    Prop where
  keyed : ∀ entry ∈ signatures, entry.2.fingerprint = entry.1
  distinct : (signatures.map Prod.fst).Nodup
  covers : ∀ row ∈ rows, ∃ entry ∈ signatures, row.fingerprint = some entry.1
  inhabited : ∀ entry ∈ signatures, rowsOf rows entry.1 ≠ []
  tallied : ∀ entry ∈ signatures, Tallied (rowsOf rows entry.1) entry.2
  counts : (signatures.values.map Aggregate.count).sum = rows.length
  totals : (signatures.values.map Aggregate.totalBlockedMs).sum =
    (rows.map EventRow.durationMs).sum
  maxima : (signatures.values.map Aggregate.maxBlockedMs).foldr max 0 =
    (rows.map EventRow.durationMs).foldr max 0

omit [PyRuntime F] [AddCommMonoid F] [LinearOrder F] in
theorem rowsOf_append_of_eq (rows : List (EventRow F)) {row : EventRow F}
    {fingerprint : String} (h : row.fingerprint = some fingerprint) :
    rowsOf (rows ++ [row]) fingerprint = rowsOf rows fingerprint ++ [row] := by
  simp [rowsOf, h]

omit [PyRuntime F] [AddCommMonoid F] [LinearOrder F] in
theorem rowsOf_append_of_ne (rows : List (EventRow F)) {row : EventRow F}
    {fingerprint : String} (h : row.fingerprint ≠ some fingerprint) :
    rowsOf (rows ++ [row]) fingerprint = rowsOf rows fingerprint := by
  simp [rowsOf, h]

theorem tallied_updateAggregate [ExactArithmetic F] {rows : List (EventRow F)}
    {a : Aggregate F} (h : Tallied rows a) (row : EventRow F) :
    Tallied (rows ++ [row]) (Reporter.updateAggregate a row.durationMs) where
  count := by
    rw [List.length_append, ← h.count]
    rfl
  total := by
    rw [List.map_append, List.sum_append, ← h.total]
    simp [Reporter.updateAggregate, ExactArithmetic.add_eq]
  maximum := by
    rw [List.map_append, List.map_singleton, foldr_max_append, List.append_nil, ← h.maximum]
    exact maxFloat_eq_max _ _

omit [PyRuntime F] [AddCommMonoid F] [LinearOrder F] in
theorem rowsOf_eq_nil {rows : List (EventRow F)} {signatures : Dict String (Aggregate F)}
    (hcovers : ∀ row ∈ rows, ∃ entry ∈ signatures, row.fingerprint = some entry.1)
    {fingerprint : String} (hfresh : ∀ entry ∈ signatures, entry.1 ≠ fingerprint) :
    rowsOf rows fingerprint = [] := by
  unfold rowsOf
  rw [List.filter_eq_nil_iff]
  intro row hrow
  obtain ⟨entry, hentry, hfingerprint⟩ := hcovers row hrow
  simpa [hfingerprint] using hfresh entry hentry

/-- An entry has the aggregate of the rows of its call site. -/
structure EntryOf (rows : List (EventRow F)) (entry : String × Aggregate F) : Prop where
  keyed : entry.2.fingerprint = entry.1
  inhabited : rowsOf rows entry.1 ≠ []
  tallied : Tallied (rowsOf rows entry.1) entry.2

omit [PyRuntime F] in
/-- A row of another call site leaves an entry as it is. -/
theorem Classified.entryOf_append {rows : List (EventRow F)}
    {signatures : Dict String (Aggregate F)} (h : Classified rows signatures)
    {row : EventRow F} {signature : Signature}
    (hrow : row.fingerprint = some signature.fingerprint)
    {entry : String × Aggregate F} (hentry : entry ∈ signatures)
    (hother : entry.1 ≠ signature.fingerprint) : EntryOf (rows ++ [row]) entry := by
  have hold : rowsOf (rows ++ [row]) entry.1 = rowsOf rows entry.1 := by
    apply rowsOf_append_of_ne
    rw [hrow]
    exact fun heq => hother (Option.some.inj heq).symm
  constructor
  · exact h.keyed entry hentry
  · rw [hold]
    exact h.inhabited entry hentry
  · rw [hold]
    exact h.tallied entry hentry

/-- The first row of a call site opens an aggregate. -/
theorem Classified.fresh [ExactArithmetic F] {rows : List (EventRow F)}
    {signatures : Dict String (Aggregate F)} (h : Classified rows signatures)
    {row : EventRow F} {signature : Signature}
    (hrow : row.fingerprint = some signature.fingerprint)
    (hfresh : ∀ entry ∈ signatures, entry.1 ≠ signature.fingerprint)
    {a : Aggregate F} (hkey : a.fingerprint = signature.fingerprint) (ha : Tallied [row] a) :
    Classified (rows ++ [row]) (signatures ++ [(signature.fingerprint, a)]) := by
  have hnew : rowsOf (rows ++ [row]) signature.fingerprint = [row] := by
    rw [rowsOf_append_of_eq rows hrow, rowsOf_eq_nil h.covers hfresh, List.nil_append]
  have hentries : ∀ entry ∈ signatures ++ [(signature.fingerprint, a)],
      EntryOf (rows ++ [row]) entry := by
    intro entry hentry
    rcases List.mem_append.mp hentry with hentry | hentry
    · exact h.entryOf_append hrow hentry (hfresh entry hentry)
    · rw [List.mem_singleton.mp hentry]
      exact { keyed := hkey, inhabited := by rw [hnew]; simp, tallied := by rw [hnew]; exact ha }
  constructor
  · exact fun entry hentry => (hentries entry hentry).keyed
  · rw [List.map_append, List.map_singleton, List.nodup_append]
    refine ⟨h.distinct, by simp, ?_⟩
    intro key hmem other hother
    rw [List.mem_singleton.mp hother]
    obtain ⟨entry, hentry, rfl⟩ := List.mem_map.mp hmem
    exact hfresh entry hentry
  · intro other hother
    rcases List.mem_append.mp hother with hother | hother
    · obtain ⟨entry, hentry, hfingerprint⟩ := h.covers other hother
      exact ⟨entry, List.mem_append_left _ hentry, hfingerprint⟩
    · rw [List.mem_singleton.mp hother]
      exact ⟨_, List.mem_append_right _ (List.mem_singleton_self _), hrow⟩
  · exact fun entry hentry => (hentries entry hentry).inhabited
  · exact fun entry hentry => (hentries entry hentry).tallied
  · have hcount := h.counts
    have hone := ha.count
    simp_all [Dict.values]
  · have htotal := h.totals
    have hone := ha.total
    simp_all [Dict.values]
  · have hmaximum := h.maxima
    have hone : a.maxBlockedMs = max row.durationMs 0 := ha.maximum
    simp only [Dict.values, List.map_append, List.map_cons, List.map_nil] at hmaximum ⊢
    rw [foldr_max_append, List.append_nil, hmaximum, hone, foldr_max_append, List.append_nil,
      max_comm row.durationMs, ← max_assoc, max_eq_left (foldr_max_nonneg _)]

/-- A further row of a call site adds to its aggregate. -/
theorem Classified.further [ExactArithmetic F] {rows : List (EventRow F)}
    {before after : Dict String (Aggregate F)} {old : Aggregate F} {row : EventRow F}
    {signature : Signature}
    (h : Classified rows (before ++ (signature.fingerprint, old) :: after))
    (hrow : row.fingerprint = some signature.fingerprint) :
    Classified (rows ++ [row]) (before ++
      (signature.fingerprint, Reporter.updateAggregate old row.durationMs) :: after) := by
  have hkeys : (before ++ (signature.fingerprint,
      Reporter.updateAggregate old row.durationMs) :: after).map Prod.fst =
        (before ++ (signature.fingerprint, old) :: after).map Prod.fst := by
    simp
  have hother : ∀ entry ∈ before ++ after, entry.1 ≠ signature.fingerprint := by
    have hdistinct := h.distinct
    rw [List.map_append, List.map_cons, List.nodup_middle, List.nodup_cons] at hdistinct
    intro entry hentry heq
    refine hdistinct.1 ?_
    rw [← List.map_append]
    exact List.mem_map.mpr ⟨entry, hentry, heq⟩
  have hmiddle : (signature.fingerprint, old) ∈
      before ++ (signature.fingerprint, old) :: after := by simp
  have hnew := rowsOf_append_of_eq rows hrow
  have hentries : ∀ entry ∈ before ++ (signature.fingerprint,
      Reporter.updateAggregate old row.durationMs) :: after, EntryOf (rows ++ [row]) entry := by
    intro entry hentry
    rcases List.mem_append.mp hentry with hentry | hentry
    · exact h.entryOf_append hrow (List.mem_append_left _ hentry)
        (hother entry (List.mem_append_left _ hentry))
    · rcases List.mem_cons.mp hentry with rfl | hentry
      · have hkey : old.fingerprint = signature.fingerprint := h.keyed _ hmiddle
        refine { keyed := hkey, inhabited := by rw [hnew]; simp, tallied := ?_ }
        rw [hnew]
        exact tallied_updateAggregate (h.tallied _ hmiddle) row
      · exact h.entryOf_append hrow (List.mem_append_right _ (List.mem_cons_of_mem _ hentry))
          (hother entry (List.mem_append_right _ hentry))
  constructor
  · exact fun entry hentry => (hentries entry hentry).keyed
  · rw [hkeys]
    exact h.distinct
  · intro other hother
    have hfound : ∃ key ∈ (before ++ (signature.fingerprint, old) :: after).map Prod.fst,
        other.fingerprint = some key := by
      rcases List.mem_append.mp hother with hother | hother
      · obtain ⟨entry, hentry, hfingerprint⟩ := h.covers other hother
        exact ⟨entry.1, List.mem_map_of_mem hentry, hfingerprint⟩
      · rw [List.mem_singleton.mp hother]
        exact ⟨signature.fingerprint, List.mem_map_of_mem hmiddle, hrow⟩
    obtain ⟨key, hkey, hfingerprint⟩ := hfound
    rw [← hkeys] at hkey
    obtain ⟨entry, hentry, rfl⟩ := List.mem_map.mp hkey
    exact ⟨entry, hentry, hfingerprint⟩
  · exact fun entry hentry => (hentries entry hentry).inhabited
  · exact fun entry hentry => (hentries entry hentry).tallied
  · have hcount := h.counts
    simp only [Dict.values, List.map_append, List.map_cons, List.sum_append, List.sum_cons,
      List.length_append, List.length_cons, List.length_nil, Reporter.updateAggregate]
      at hcount ⊢
    omega
  · have htotal := h.totals
    simp only [Dict.values, List.map_append, List.map_cons, List.sum_append, List.sum_cons,
      Reporter.updateAggregate, ExactArithmetic.add_eq, List.map_nil, List.sum_nil,
      add_zero] at htotal ⊢
    rw [← htotal]
    abel
  · have hmaximum := h.maxima
    simp only [Dict.values, List.map_append, List.map_cons, Reporter.updateAggregate,
      maxFloat_eq_max, List.map_nil] at hmaximum ⊢
    rw [foldr_max_append] at hmaximum ⊢
    rw [← max_assoc, hmaximum, foldr_max_append, List.append_nil]

/-- A report keeps the aggregates of its call site up to date. -/
theorem Classified.addSignature [ExactArithmetic F] {rows : List (EventRow F)}
    {r : Reporter F} (h : Classified rows r.signatures) {row : EventRow F}
    {signature : Signature} (hrow : row.fingerprint = some signature.fingerprint) :
    Classified (rows ++ [row]) (r.addSignature signature row.durationMs).signatures := by
  have hsignatures : (r.addSignature signature row.durationMs).signatures =
      r.signatures.set signature.fingerprint
        (Reporter.updateAggregate (r.aggregateFor signature) row.durationMs) := rfl
  cases hget : r.signatures.get signature.fingerprint with
  | none =>
      have hfresh : ∀ entry ∈ r.signatures, entry.1 ≠ signature.fingerprint := by
        intro entry hentry
        have hne := List.lookup_eq_none_iff.mp hget entry hentry
        exact (bne_iff_ne.mp hne).symm
      have hnone : r.aggregateFor signature =
          { fingerprint := signature.fingerprint, location := signature.location, count := 0
            totalBlockedMs := PyRuntime.zero, maxBlockedMs := PyRuntime.zero } := by
        rw [Reporter.aggregateFor, hget, Option.getD_none]
      have hempty : Tallied [] (r.aggregateFor signature) := by
        rw [hnone]
        exact ⟨rfl, ExactArithmetic.zero_eq, ExactArithmetic.zero_eq⟩
      have hkey : (r.aggregateFor signature).fingerprint = signature.fingerprint := by
        rw [hnone]
      rw [hsignatures, Dict.set_of_get_none _ hget]
      exact h.fresh hrow hfresh hkey (tallied_updateAggregate hempty row)
  | some old =>
      have hsome : r.aggregateFor signature = old := by
        rw [Reporter.aggregateFor, hget, Option.getD_some]
      obtain ⟨before, after, hd, hset⟩ := Dict.exists_set_of_get_some
        (Reporter.updateAggregate old row.durationMs) hget
      rw [hd] at h
      rw [hsignatures, hsome, hset]
      exact h.further hrow

/-! ## A run of reports -/

/-- The reporter has counted the rows of its stream. -/
structure Tally (rows : List (EventRow F)) (r : Reporter F) : Prop where
  numbered : rows.map EventRow.eventNumber = List.range' 1 rows.length
  eventCount : r.eventCount = rows.length
  total : r.totalBlockedMs = (rows.map EventRow.durationMs).sum
  maximum : r.maxBlockedMs = (rows.map EventRow.durationMs).foldr max 0
  errors : r.errorEventCount = (rows.filter EventRow.isError).length
  rounded : ∀ row ∈ rows, PyRuntime.round row.durationMs 3 = row.durationMs
  nonneg : ∀ row ∈ rows, 0 ≤ row.durationMs
  classified : Classified rows r.signatures

/-- The row that a report adds to the stream. -/
def reportRow (r : Reporter F) (signature : Signature) (durationMs : F) : EventRow F where
  eventNumber := r.eventCount + 1
  durationMs := durationMs
  level := some (levelForDuration durationMs r.errorThresholdMs)
  fingerprint := some signature.fingerprint

omit [AddCommMonoid F] [LinearOrder F] in
theorem isError_reportRow (r : Reporter F) (signature : Signature) (durationMs : F) :
    (reportRow r signature durationMs).isError = PyRuntime.le r.errorThresholdMs durationMs := by
  cases h : PyRuntime.le r.errorThresholdMs durationMs with
  | true => simp [EventRow.isError, reportRow, levelForDuration, h]
  | false => simp [EventRow.isError, reportRow, levelForDuration, h]

theorem Tally.report [ExactArithmetic F] {rows : List (EventRow F)} {r : Reporter F}
    (h : Tally rows r) (signature : Signature) {durationMs : F}
    (hrounded : PyRuntime.round durationMs 3 = durationMs) (hnonneg : 0 ≤ durationMs) :
    Tally (rows ++ [reportRow r signature durationMs])
      ((r.countEvent.addDuration durationMs).addSignature signature durationMs) where
  numbered := by
    rw [List.map_append, h.numbered, List.length_append, List.length_singleton,
      List.range'_concat]
    simp [reportRow, h.eventCount, Nat.add_comm]
  eventCount := by
    rw [List.length_append, ← h.eventCount]
    rfl
  total := by
    rw [List.map_append, List.sum_append, ← h.total]
    simp [Reporter.addSignature, Reporter.addDuration, Reporter.countEvent,
      ExactArithmetic.add_eq, reportRow]
  maximum := by
    rw [List.map_append, List.map_singleton, foldr_max_append, List.append_nil, ← h.maximum]
    exact maxFloat_eq_max _ _
  errors := by
    rw [List.filter_append, List.length_append, ← h.errors, List.filter_singleton,
      isError_reportRow]
    cases hle : PyRuntime.le r.errorThresholdMs durationMs with
    | true =>
        simp [Reporter.addSignature, Reporter.addDuration, Reporter.countEvent, hle]
    | false =>
        simp [Reporter.addSignature, Reporter.addDuration, Reporter.countEvent, hle]
  rounded := List.forall_mem_append.mpr ⟨h.rounded, List.forall_mem_singleton.mpr hrounded⟩
  nonneg := List.forall_mem_append.mpr ⟨h.nonneg, List.forall_mem_singleton.mpr hnonneg⟩
  classified := by
    have hclassified : Classified rows (r.countEvent.addDuration durationMs).signatures :=
      h.classified
    have hrow : (reportRow r signature durationMs).fingerprint =
        some signature.fingerprint := rfl
    exact hclassified.addSignature hrow

/-- An event whose report makes a record: it does not end before it starts, and
its first stack, if it has stacks, has frames. -/
structure Recordable (event : BlockingEvent) : Prop where
  ordered : event.startNs ≤ event.endNs
  frames : ∀ stack ∈ event.pythonStacks.head?, stack.frames ≠ []

theorem exists_roundedDuration [ExactArithmetic F] {event : BlockingEvent}
    (h : Recordable event) :
    ∃ durationMs : F, Reporter.roundedDuration event = .ok durationMs ∧
      PyRuntime.round durationMs 3 = durationMs ∧ 0 ≤ durationMs := by
  obtain ⟨exact, hexact, hnonneg⟩ := ExactArithmetic.exists_divInt (F := F)
    (Int.sub_nonneg.mpr h.ordered) (show (0 : ℤ) < 1000000 by decide)
  refine ⟨PyRuntime.round exact 3, ?_, ExactArithmetic.round_round exact 3,
    ExactArithmetic.round_nonneg hnonneg 3⟩
  unfold Reporter.roundedDuration
  rw [hexact]
  rfl

/-- Every recordable event adds its row to the stream. -/
theorem exists_rows [ExactArithmetic F] (host : ReporterHost) (sink : JsonStreamSink F)
    {reports : List (ClockReading F × BlockingEvent)} {r : Reporter F}
    {rows : List (EventRow F)} (hr : Tally rows r) (hsummaryOnly : r.summaryOnly = false)
    (hthreshold : sink.errorThresholdMs = r.errorThresholdMs)
    (hreports : ∀ report ∈ reports, Recordable report.2) :
    ∃ newRows : List (EventRow F),
      (r.reportAll host reports).2.map (fun record => eventRow host (sink.line record)) =
        newRows.map some ∧
      Tally (rows ++ newRows) (r.reportAll host reports).1 := by
  induction reports generalizing r rows with
  | nil => exact ⟨[], rfl, by rw [List.append_nil]; exact hr⟩
  | cons report reports ih =>
      obtain ⟨clock, event⟩ := report
      have hevent := hreports _ List.mem_cons_self
      obtain ⟨durationMs, hduration, hrounded, hnonneg⟩ :=
        exists_roundedDuration (F := F) hevent
      obtain ⟨signature, hsignature⟩ := exists_signatureForStacks_eq_ok host hevent.frames
      have hreport := r.countEvent.reportCounted_eq_ok host clock hduration hsignature
      have hoff : r.countEvent.summaryOnly = false := hsummaryOnly
      have htally := hr.report signature hrounded hnonneg
      obtain ⟨newRows, hrows, hlast⟩ := ih htally hsummaryOnly hthreshold
        fun report hmem => hreports report (List.mem_cons_of_mem _ hmem)
      refine ⟨reportRow r signature durationMs :: newRows, ?_, ?_⟩
      · have hrow : eventRow host
            (sink.line (r.countEvent.eventRecord host clock event durationMs)) =
              some (reportRow r signature durationMs) := by
          simp [eventRow, JsonStreamSink.line, Reporter.eventRecord, Record.durationMs,
            hsignature, hthreshold, reportRow, Reporter.countEvent, Except.toOption]
        rw [Reporter.reportAll_cons, hreport, hoff]
        simp only [emitted, Bool.false_eq_true, if_false, List.map_append, List.map_cons,
          List.map_nil]
        rw [hrow, hrows]
        rfl
      · rw [Reporter.reportAll_cons, hreport]
        simpa using hlast

omit [AddCommMonoid F] [LinearOrder F] in
/-- The totals of a summary record. -/
theorem totals_summaryRecord (ending : SessionEnd F) (r : Reporter F) :
    (r.summaryRecord ending).totals =
      some {
        eventCount := r.eventCount
        errorEventCount := r.errorEventCount
        totalBlockedMs := PyRuntime.round r.totalBlockedMs 3
        maxBlockedMs := PyRuntime.round r.maxBlockedMs 3
        topSignatures := r.topSignatures } :=
  rfl

/-! ## The summary of a run -/

theorem round_sum [ExactArithmetic F] {entries : List F}
    (h : ∀ entry ∈ entries, PyRuntime.round entry 3 = entry) :
    PyRuntime.round entries.sum 3 = entries.sum := by
  induction entries with
  | nil => exact ExactArithmetic.round_zero 3
  | cons entry entries ih =>
      rw [List.sum_cons]
      exact ExactArithmetic.round_add (h entry List.mem_cons_self)
        (ih fun other hother => h other (List.mem_cons_of_mem _ hother))

theorem round_foldr_max [ExactArithmetic F] {entries : List F}
    (h : ∀ entry ∈ entries, PyRuntime.round entry 3 = entry) :
    PyRuntime.round (entries.foldr max 0) 3 = entries.foldr max 0 := by
  induction entries with
  | nil => exact ExactArithmetic.round_zero 3
  | cons entry entries ih =>
      have hrest := ih fun other hother => h other (List.mem_cons_of_mem _ hother)
      rw [List.foldr_cons]
      rcases max_choice entry (entries.foldr max 0) with hmax | hmax
      · rw [hmax]
        exact h entry List.mem_cons_self
      · rw [hmax]
        exact hrest

omit [AddCommMonoid F] [LinearOrder F] in
/-- The comparison of `sorted`, by total and then by maximum. -/
def outranks (a b : Aggregate F) : Bool :=
  PyRuntime.lt b.totalBlockedMs a.totalBlockedMs ||
    (!PyRuntime.lt a.totalBlockedMs b.totalBlockedMs &&
      PyRuntime.lt b.maxBlockedMs a.maxBlockedMs)

omit [AddCommMonoid F] [LinearOrder F] in
theorem insertRanked_eq_insertBy (a : Aggregate F) (ranked : List (Aggregate F)) :
    Reporter.insertRanked a ranked = insertBy outranks a ranked := by
  induction ranked with
  | nil => rfl
  | cons b rest ih =>
      rw [Reporter.insertRanked, insertBy, ih]
      rfl

theorem outranks_iff [ExactArithmetic F] (a b : Aggregate F) :
    outranks a b = true ↔ b.rank < a.rank := by
  rw [Aggregate.rank, Aggregate.rank, Prod.Lex.toLex_lt_toLex]
  have hlt := ExactArithmetic.lt_iff (F := F)
  simp only [outranks, Bool.or_eq_true, Bool.and_eq_true, Bool.not_eq_true', ← Bool.not_eq_true,
    hlt, not_lt]
  constructor
  · rintro (h | ⟨hle, hmax⟩)
    · exact Or.inl h
    · rcases hle.lt_or_eq with h | h
      · exact Or.inl h
      · exact Or.inr ⟨h, hmax⟩
  · rintro (h | ⟨heq, hmax⟩)
    · exact Or.inl h
    · exact Or.inr ⟨heq.le, hmax⟩

section

variable [ExactArithmetic F] {rows : List (EventRow F)} {r : Reporter F}

omit [ExactArithmetic F] in
theorem Tally.rounded_durations (h : Tally rows r) {members : List (EventRow F)}
    (hmembers : ∀ row ∈ members, row ∈ rows) :
    ∀ durationMs ∈ members.map EventRow.durationMs,
      PyRuntime.round durationMs 3 = durationMs := by
  intro durationMs hmem
  obtain ⟨row, hrow, rfl⟩ := List.mem_map.mp hmem
  exact h.rounded row (hmembers row hrow)

omit [ExactArithmetic F] in
theorem Tally.nonneg_durations (h : Tally rows r) {members : List (EventRow F)}
    (hmembers : ∀ row ∈ members, row ∈ rows) :
    ∀ durationMs ∈ members.map EventRow.durationMs, 0 ≤ durationMs := by
  intro durationMs hmem
  obtain ⟨row, hrow, rfl⟩ := List.mem_map.mp hmem
  exact h.nonneg row (hmembers row hrow)

/-- The aggregates are sums and maxima of rounded durations. -/
theorem Tally.rounded_aggregate (h : Tally rows r) {a : Aggregate F}
    (ha : a ∈ r.signatures.values) :
    { a with
      totalBlockedMs := PyRuntime.round a.totalBlockedMs 3
      maxBlockedMs := PyRuntime.round a.maxBlockedMs 3 } = a := by
  obtain ⟨entry, hentry, rfl⟩ := List.mem_map.mp ha
  have htallied := h.classified.tallied entry hentry
  have hmembers : ∀ row ∈ rowsOf rows entry.1, row ∈ rows := fun _ => List.mem_of_mem_filter
  rw [htallied.total, htallied.maximum, round_sum (h.rounded_durations hmembers),
    round_foldr_max (h.rounded_durations hmembers), ← htallied.total, ← htallied.maximum]

theorem Tally.topSignatures_eq (h : Tally rows r) :
    r.topSignatures = (rankBy outranks r.signatures.values).take 5 := by
  have hranked : r.signatures.values.foldl (fun ranked a => Reporter.insertRanked a ranked) [] =
      rankBy outranks r.signatures.values := by
    simp only [insertRanked_eq_insertBy]
    rfl
  unfold Reporter.topSignatures
  dsimp only
  rw [hranked]
  refine (List.map_congr_left ?_).trans (List.map_id _)
  intro a ha
  have hmem : a ∈ r.signatures.values :=
    (rankBy_perm outranks _).subset (List.mem_of_mem_take ha)
  exact h.rounded_aggregate hmem

omit [ExactArithmetic F] in
theorem Tally.partitions (h : Tally rows r) : Partitions rows r.signatures.values where
  distinct := by
    have hkeys : r.signatures.values.map (fun a => a.fingerprint) =
        r.signatures.map Prod.fst := by
      rw [Dict.values, List.map_map]
      exact List.map_congr_left h.classified.keyed
    rw [hkeys]
    exact h.classified.distinct
  covers := by
    intro row hrow
    obtain ⟨entry, hentry, hfingerprint⟩ := h.classified.covers row hrow
    refine ⟨entry.2, List.mem_map_of_mem hentry, ?_⟩
    rw [h.classified.keyed entry hentry]
    exact hfingerprint
  inhabited := by
    intro a ha
    obtain ⟨entry, hentry, rfl⟩ := List.mem_map.mp ha
    rw [h.classified.keyed entry hentry]
    exact h.classified.inhabited entry hentry
  counts := by
    intro a ha
    obtain ⟨entry, hentry, rfl⟩ := List.mem_map.mp ha
    rw [h.classified.keyed entry hentry]
    exact (h.classified.tallied entry hentry).count
  totals := by
    intro a ha
    obtain ⟨entry, hentry, rfl⟩ := List.mem_map.mp ha
    rw [h.classified.keyed entry hentry]
    exact (h.classified.tallied entry hentry).total
  maxima := by
    intro a ha
    obtain ⟨entry, hentry, rfl⟩ := List.mem_map.mp ha
    rw [h.classified.keyed entry hentry, (h.classified.tallied entry hentry).maximum]
    exact isMaximum_foldr_max (h.nonneg_durations fun _ => List.mem_of_mem_filter)

theorem Tally.recomputes (h : Tally rows r) :
    Recomputes rows r.signatures.values
      { eventCount := r.eventCount
        errorEventCount := r.errorEventCount
        totalBlockedMs := PyRuntime.round r.totalBlockedMs 3
        maxBlockedMs := PyRuntime.round r.maxBlockedMs 3
        topSignatures := r.topSignatures } where
  numbered := h.numbered
  eventCount := h.eventCount
  totalBlockedMs := by
    rw [h.total, round_sum (h.rounded_durations fun _ => id)]
  maxBlockedMs := by
    rw [h.maximum, round_foldr_max (h.rounded_durations fun _ => id)]
    exact isMaximum_foldr_max (h.nonneg_durations fun _ => id)
  errorEventCount := h.errors
  partition := h.partitions
  sumOfCounts := h.classified.counts.trans h.eventCount.symm
  sumOfTotals := by
    rw [h.total, round_sum (h.rounded_durations fun _ => id)]
    exact h.classified.totals
  maximumOfMaxima := by
    rw [h.maximum, round_foldr_max (h.rounded_durations fun _ => id), ← h.classified.maxima]
    refine isMaximum_foldr_max ?_
    intro maximum hmem
    obtain ⟨a, ha, rfl⟩ := List.mem_map.mp hmem
    obtain ⟨entry, hentry, rfl⟩ := List.mem_map.mp ha
    rw [(h.classified.tallied entry hentry).maximum]
    exact foldr_max_nonneg _
  top := by
    rw [h.topSignatures_eq]
    exact isTop_take_rankBy outranks_iff 5 _

/-! ## The session -/

omit [AddCommMonoid F] [LinearOrder F] [ExactArithmetic F] in
theorem receiveAll_emit (records : List (Record F)) (sink : JsonStreamSink F) :
    receiveAll JsonStreamSink.call (records.map .emit) sink =
      { sink with written := sink.written ++ records.map sink.line } := by
  induction records generalizing sink with
  | nil => simp [receiveAll]
  | cons record records ih =>
      have hstep : receiveAll JsonStreamSink.call ((record :: records).map .emit) sink =
          receiveAll JsonStreamSink.call (records.map .emit) (sink.write (sink.line record)) :=
        rfl
      have hline : (sink.write (sink.line record)).line = sink.line := rfl
      rw [hstep, ih, hline, List.map_cons]
      simp [JsonStreamSink.write]

omit [AddCommMonoid F] [LinearOrder F] [ExactArithmetic F] in
theorem session_signatures {σ : Type} (call : SinkCall F → σ → σ × Bool)
    (host : ReporterHost) (reports : List (ClockReading F × BlockingEvent))
    (ending : SessionEnd F) (s : Reporting F σ) :
    (s.session call host reports ending).reporter.signatures =
      (s.reporter.reportAll host reports).1.signatures := by
  unfold Reporting.session
  rw [Reporting.reportAll_eq]
  unfold Reporting.onExit
  dsimp only
  split
  · rfl
  · rfl

omit [AddCommMonoid F] [LinearOrder F] [ExactArithmetic F] in
/-- A stream that does not raise has a line for every record, and the summary. -/
theorem jsonStream_session (host : ReporterHost)
    (reports : List (ClockReading F × BlockingEvent)) (ending : SessionEnd F)
    (r : Reporter F) (sink : JsonStreamSink F) :
    (({ reporter := r, sinks := [sink] } : Reporting F (JsonStreamSink F)).session
        JsonStreamSink.call host reports ending).sinks =
      [{ sink with
        written := sink.written ++ (r.reportAll host reports).2.map sink.line ++
          [{ record := (r.reportAll host reports).1.summaryRecord ending }] }] := by
  rw [Reporting.session_sinks]
  dsimp only
  have hreturns (sinks : List (JsonStreamSink F)) (summary : Record F) :
      sinks.any (fun sink => (JsonStreamSink.call (.emitSummary summary) sink).2) = false := by
    simp [JsonStreamSink.call]
  rw [hreturns, if_neg (by simp), fanOuts_eq_map (by simp), List.map_singleton,
    Reporter.sinkCalls]
  unfold receiveAll
  rw [List.foldl_append]
  change [receiveAll JsonStreamSink.call [_, _]
    (receiveAll JsonStreamSink.call ((r.reportAll host reports).2.map .emit) sink)] = _
  rw [receiveAll_emit]
  rfl

theorem tally_new (startTime : F) (sessionId : String) (backend : Option String)
    (thresholdMs : Option F) (targetPid targetTid : Option ℤ) (errorThresholdMs : F)
    (summaryOnly : Bool) :
    Tally [] (Reporter.new startTime sessionId backend thresholdMs targetPid targetTid
      errorThresholdMs summaryOnly) where
  numbered := rfl
  eventCount := rfl
  total := ExactArithmetic.zero_eq
  maximum := ExactArithmetic.zero_eq
  errors := rfl
  rounded := by simp
  nonneg := by simp
  classified := by
    constructor <;> simp [Reporter.new, Dict.values]

end

/-- For every sequence of recordable events, the summary states what the event
lines of the stream come to. -/
theorem summaryRecomputable_session [ExactArithmetic F] (host : ReporterHost)
    (reports : List (ClockReading F × BlockingEvent)) (ending : SessionEnd F)
    (before : List (StreamLine F)) (startTime : F) (sessionId : String)
    (backend : Option String) (thresholdMs : Option F) (targetPid targetTid : Option ℤ)
    (errorThresholdMs : F) (hreports : ∀ report ∈ reports, Recordable report.2) :
    SummaryRecomputable host before
      (({ reporter := Reporter.new startTime sessionId backend thresholdMs targetPid targetTid
            errorThresholdMs false
          sinks := [{ errorThresholdMs := errorThresholdMs, written := before }] } :
        Reporting F (JsonStreamSink F)).session JsonStreamSink.call host reports ending) := by
  have htally := tally_new startTime sessionId backend thresholdMs targetPid targetTid
    errorThresholdMs false
  obtain ⟨rows, hrows, hlast⟩ := exists_rows host
    { errorThresholdMs := errorThresholdMs, written := before } htally rfl rfl hreports
  refine ⟨_, _, _, rows, _, jsonStream_session _ _ _ _ _, rfl, ?_,
    totals_summaryRecord _ _, ?_⟩
  · rw [List.map_map]
    exact hrows
  · rw [session_signatures]
    exact hlast.recomputes

end

/-! ## Two sample sessions -/

/-- Two events of one call site and one without a stack. -/
def sampleReports : List (ClockReading ℚ × BlockingEvent) :=
  [({ monotonic := 1, observedAt := "" },
      { startNs := 0, endNs := 150000000, pid := 7, tid := 7, pythonStacks := [handlerStack] }),
    ({ monotonic := 2, observedAt := "" }, { startNs := 5, endNs := 5, pid := 7, tid := 7 }),
    ({ monotonic := 3, observedAt := "" },
      { startNs := 9, endNs := 700000000, pid := 7, tid := 7, pythonStacks := [handlerStack] })]

def sampleHost : ReporterHost :=
  { hexdigest := id, getline := fun _ _ => "" }

theorem summaryRecomputable_sample :
    SummaryRecomputable sampleHost []
      (({ reporter := Reporter.new 0 "" (some "core") (some 100) (some 7) (some 7) 500 false
          sinks := [{ errorThresholdMs := 500 }] } :
        Reporting ℚ (JsonStreamSink ℚ)).session JsonStreamSink.call sampleHost sampleReports
          sampleEnd) := by
  apply summaryRecomputable_session
  intro report hreport
  simp only [sampleReports, List.mem_cons, List.not_mem_nil, or_false] at hreport
  rcases hreport with rfl | rfl | rfl
  · exact ⟨by decide, by decide⟩
  · exact ⟨by decide, by decide⟩
  · exact ⟨by decide, by decide⟩

/-- An event whose stack has no frames. -/
def framelessReport : ClockReading ℚ × BlockingEvent :=
  ({ monotonic := 1, observedAt := "" },
    { startNs := 0, endNs := 150000000, pid := 7, tid := 7
      pythonStacks := [{ threadId := 7, threadName := "main", frames := [] }] })

/-- An event whose first stack has no frames is counted, and its report raises
before it is emitted. -/
theorem exists_not_summaryRecomputable :
    ∃ (host : ReporterHost) (reports : List (ClockReading ℚ × BlockingEvent))
      (ending : SessionEnd ℚ),
      (∀ report ∈ reports, report.2.startNs ≤ report.2.endNs) ∧
      ¬ SummaryRecomputable host []
        (({ reporter := Reporter.new 0 "" (some "core") (some 100) (some 7) (some 7) 500 false
            sinks := [{ errorThresholdMs := 500 }] } :
          Reporting ℚ (JsonStreamSink ℚ)).session JsonStreamSink.call host reports ending) := by
  refine ⟨sampleHost, [framelessReport], sampleEnd, by decide, ?_⟩
  rintro ⟨sink, lines, summary, rows, totals, hsinks, hwritten, hrows, htotals, hrecomputes⟩
  rw [jsonStream_session] at hsinks
  obtain rfl := (List.cons.inj hsinks).1.symm
  obtain ⟨hlines, hsummary⟩ := List.append_inj' hwritten rfl
  have hrow : rows.length = 0 := by
    have hlength := congrArg List.length hrows
    rw [List.length_map, List.length_map, ← List.nil_append lines, ← hlines] at hlength
    exact hlength.symm
  obtain rfl := (List.cons.inj hsummary).1.symm
  obtain rfl := Option.some.inj htotals
  have hcount := hrecomputes.eventCount
  rw [hrow] at hcount
  exact absurd hcount (by decide)

end Blocksnoop
