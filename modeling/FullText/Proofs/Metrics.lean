import FullText.Metrics
import FullText.Proofs.OrderedMap

/-!
Measurements and their readings. Two measurements share a series only if they are of one kind and
carry the same labels, so that the reading of a counter is the number of its measurements, and the
readings of the batch sizes are the sizes in order.
-/

namespace FullText

/-! ### Names of series -/

/-- Texts in front of their first separators. -/
private theorem append_separator_inj {α : Type} {separator : α} {front other rest more : List α}
    (hfront : separator ∉ front) (hother : separator ∉ other) :
    front ++ separator :: rest = other ++ separator :: more ↔ front = other ∧ rest = more := by
  induction front generalizing other with
  | nil =>
      cases other with
      | nil => simp
      | cons first other =>
          have hne : separator ≠ first := fun h => hother (h ▸ List.mem_cons_self)
          simp [hne]
  | cons first front ih =>
      obtain ⟨hfirst, hfront⟩ := not_or.mp (mt List.mem_cons.mpr hfront)
      cases other with
      | nil => simp [Ne.symm hfirst]
      | cons last other =>
          obtain ⟨-, hother⟩ := not_or.mp (mt List.mem_cons.mpr hother)
          simp [ih hfront hother, and_assoc]

/-- Texts behind their last separators. -/
private theorem separator_append_inj {α : Type} {separator : α} {back other rest more : List α}
    (hback : separator ∉ back) (hother : separator ∉ other) :
    rest ++ separator :: back = more ++ separator :: other ↔ rest = more ∧ back = other := by
  have hreversed : back.reverse ++ separator :: rest.reverse =
      other.reverse ++ separator :: more.reverse ↔ _ :=
    append_separator_inj (mt List.mem_reverse.mp hback) (mt List.mem_reverse.mp hother)
  rw [List.reverse_inj, List.reverse_inj] at hreversed
  rw [← List.reverse_inj, and_comm, ← hreversed]
  simp

theorem Status.name_inj {status other : Status} : status.name = other.name ↔ status = other := by
  cases status <;> cases other <;> decide

theorem FaultKind.name_inj {kind other : FaultKind} : kind.name = other.name ↔ kind = other := by
  cases kind <;> cases other <;> decide

namespace Metric

/-- The name of a series without its labels. -/
def family : Metric → String
  | .roundTrip _ _ => "ftquery_commands_total"
  | .timing _ => "ftquery_command_seconds"
  | .fault _ => "ftquery_faults_total"
  | .batchSize _ => "ftquery_pipeline_size"
  | .searchResults _ => "ftquery_search_results"
  | .registeredSchemas _ => "ftquery_registered_schemas"

/-- The labels of a series as they stand in its name. -/
def labelText : Metric → String
  | .roundTrip command status =>
    "command" ++ "=" ++ command ++ "," ++ ("status" ++ "=" ++ status.name)
  | .timing command => "command" ++ "=" ++ command
  | .fault kind => "kind" ++ "=" ++ kind.name
  | .batchSize _ | .searchResults _ | .registeredSchemas _ => ""

theorem series_eq (metric : Metric) :
    metric.series = metric.family ++ "\x7b" ++ metric.labelText ++ "\x7d" := by
  cases metric <;> rfl

theorem brace_not_mem_family (metric : Metric) : '\x7b' ∉ metric.family.toList := by
  cases metric <;> simp [family]

/-- A series tells its family and its labels. -/
theorem series_eq_iff {metric other : Metric} : metric.series = other.series ↔
    metric.family = other.family ∧ metric.labelText = other.labelText := by
  have hlists : ∀ metric : Metric, metric.series.toList =
      metric.family.toList ++ '\x7b' :: (metric.labelText.toList ++ ['\x7d']) := by
    intro metric
    rw [series_eq]
    simp
  rw [← String.toList_inj, hlists, hlists,
    append_separator_inj metric.brace_not_mem_family other.brace_not_mem_family,
    List.append_left_inj, String.toList_inj, String.toList_inj]

/-- The label of the status has no comma, so the last one stands behind the command. -/
private theorem labelText_roundTrip_inj {command other : String} {status ended : Status} :
    (roundTrip command status).labelText = (roundTrip other ended).labelText ↔
      command = other ∧ status = ended := by
  have hlists : ∀ command status, (roundTrip command status).labelText.toList =
      ("command=".toList ++ command.toList) ++
        ',' :: ("status=".toList ++ status.name.toList) := by
    intro command status
    simp [labelText]
  have hcomma : ∀ status : Status, ',' ∉ "status=".toList ++ status.name.toList := by
    intro status
    cases status <;> simp [Status.name]
  rw [← String.toList_inj, hlists, hlists, separator_append_inj (hcomma status) (hcomma ended),
    List.append_right_inj, List.append_right_inj, String.toList_inj, String.toList_inj,
    Status.name_inj]

/-- Whether every measurement of a series counts as one. -/
def countsOne : Metric → Bool
  | .roundTrip _ _ | .timing _ | .fault _ => true
  | .batchSize _ | .searchResults _ | .registeredSchemas _ => false

theorem series_eq_iff_of_countsOne {metric other : Metric} (hcounts : other.countsOne = true) :
    metric.series = other.series ↔ metric = other := by
  refine ⟨fun hseries => ?_, congrArg series⟩
  obtain ⟨hfamily, hlabels⟩ := series_eq_iff.mp hseries
  cases other with
  | roundTrip command status =>
      cases metric with
      | roundTrip =>
          obtain ⟨rfl, rfl⟩ := labelText_roundTrip_inj.mp hlabels
          rfl
      | _ => simp [family] at hfamily
  | timing command =>
      cases metric with
      | timing => simpa [labelText] using hlabels
      | _ => simp [family] at hfamily
  | fault kind =>
      cases metric with
      | fault => simpa [labelText, FaultKind.name_inj] using hlabels
      | _ => simp [family] at hfamily
  | batchSize | searchResults | registeredSchemas => cases hcounts

/-- The size of a batch, if that is what is measured. -/
def batchSize? : Metric → Option Nat
  | .batchSize commands => some commands
  | _ => none

theorem series_eq_batchSize_iff {metric : Metric} {commands : Nat} :
    metric.series = (batchSize commands).series ↔ metric.batchSize?.isSome := by
  rw [series_eq_iff]
  cases metric <;> simp [family, labelText, batchSize?]

end Metric

/-! ### Readings -/

namespace Metrics

/-- The reading of a series, if anything was measured in it. -/
def reading? (metrics : List Metric) (series : String) : Option Reading :=
  (readings metrics).get? series

theorem reading?_concat (metrics : List Metric) (metric : Metric) (series : String) :
    reading? (metrics ++ [metric]) series =
      if metric.series = series then some (metric.addTo (reading? metrics series))
      else reading? metrics series := by
  rw [reading?, readings, List.foldl_append]
  change ((readings metrics).put metric.series _).get? series = _
  rw [OrderedMap.get?_put]
  by_cases hseries : metric.series = series
  · rw [if_pos hseries, if_pos hseries, hseries]
    rfl
  · rw [if_neg hseries, if_neg hseries]
    rfl

/-- How many measurements a counter or a timer has counted in the series of a measurement. -/
def total (metrics : List Metric) (metric : Metric) : Nat :=
  match reading? metrics metric.series with
  | some (.counter n) | some (.timings n) => n
  | _ => 0

/-- The sizes of the batches that were measured. -/
def batchSizes (metrics : List Metric) : List Nat :=
  match reading? metrics (Metric.batchSize 0).series with
  | some (.samples values) => values
  | _ => []

/-- What is read after so many measurements that count as one. -/
private def tally? (metric : Metric) : Nat → Option Reading
  | 0 => none
  | n + 1 => match metric with
    | .timing _ => some (.timings (n + 1))
    | _ => some (.counter (n + 1))

private theorem addTo_tally? {metric : Metric} (hcounts : metric.countsOne = true) (n : Nat) :
    some (metric.addTo (tally? metric n)) = tally? metric (n + 1) := by
  cases metric with
  | roundTrip | timing | fault => cases n <;> rfl
  | batchSize | searchResults | registeredSchemas => cases hcounts

private theorem reading?_eq_tally? {metric : Metric} (hcounts : metric.countsOne = true)
    (metrics : List Metric) :
    reading? metrics metric.series = tally? metric (metrics.count metric) := by
  induction metrics using List.reverseRecOn with
  | nil => rfl
  | append_singleton metrics last ih =>
      rw [reading?_concat, ih, List.count_append, List.count_singleton]
      by_cases hlast : last = metric
      · subst hlast
        rw [if_pos rfl, addTo_tally? hcounts, if_pos (beq_self_eq_true last)]
      · rw [if_neg (mt (Metric.series_eq_iff_of_countsOne hcounts).mp hlast),
          if_neg (mt eq_of_beq hlast), Nat.add_zero]

/-- A counter reads as many as there were measurements. -/
theorem total_eq_count {metric : Metric} (hcounts : metric.countsOne = true)
    (metrics : List Metric) : total metrics metric = metrics.count metric := by
  rw [total, reading?_eq_tally? hcounts]
  cases metrics.count metric with
  | zero => rfl
  | succ n =>
      cases metric with
      | roundTrip | timing | fault => rfl
      | batchSize | searchResults | registeredSchemas => cases hcounts

/-- Every size is a sample of its own. -/
theorem batchSizes_eq (metrics : List Metric) :
    batchSizes metrics = metrics.filterMap Metric.batchSize? := by
  have hreading : reading? metrics (Metric.batchSize 0).series =
      if metrics.filterMap Metric.batchSize? = [] then none
      else some (.samples (metrics.filterMap Metric.batchSize?)) := by
    induction metrics using List.reverseRecOn with
    | nil => rfl
    | append_singleton metrics last ih =>
        rw [reading?_concat, ih, List.filterMap_append]
        cases hsize : last.batchSize? with
        | none =>
            have hnone : [last].filterMap Metric.batchSize? = [] := by simp [hsize]
            rw [if_neg (by simp [Metric.series_eq_batchSize_iff, hsize]), hnone, List.append_nil]
        | some commands =>
            obtain rfl : last = .batchSize commands := by
              cases last <;> cases hsize
              rfl
            rw [if_pos (Metric.series_eq_batchSize_iff.mpr rfl)]
            cases metrics.filterMap Metric.batchSize? with
            | nil => rfl
            | cons size sizes => rfl
  rw [batchSizes, hreading]
  cases metrics.filterMap Metric.batchSize? with
  | nil => rfl
  | cons size sizes => rfl

end Metrics

end FullText
