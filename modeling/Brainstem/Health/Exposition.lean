import Brainstem.Health.Metrics
import Brainstem.Lib.Exposition

/-!
# What the metrics text shows

The string builders of `prometheusText` write one fixed list of families, whose values are all
that depends on the snapshot:

    snap.prometheusText = render snap.families                            (prometheusText_eq)

No family takes the detail of a fatal error, the identity of the checkpoint or a reason that
is not one of the recoverable ones, so none of these can be told from the text.
-/

namespace Brainstem.Health

open Exposition

/-! ## The families -/

def gauge (name help value : String) : Family := ⟨name, help, "gauge", [⟨none, value⟩]⟩

def optionalValue : Option ℕ → String
  | some v => toString v
  | none => "NaN"

namespace HealthSnapshot

def probeFamilies (snap : HealthSnapshot) : List Family :=
  [gauge "brainstem_live" "1 if the process health reporter is running." (toString snap.live.toNat),
    gauge "brainstem_ready" "1 if initialized, checkpoint-valid, not draining, not fatal."
      (toString snap.ready.toNat)]

def phaseFamily (snap : HealthSnapshot) : Family where
  name := "brainstem_phase"
  help := "1 for the current health phase."
  kind := "gauge"
  samples := HealthPhase.ALL.map fun phase =>
    ⟨some ("phase", phase.asStr), toString (decide (snap.phase = phase)).toNat⟩

def degradedFamily (snap : HealthSnapshot) : Family where
  name := "brainstem_degraded"
  help := "Recoverable degradation by stable reason code."
  kind := "gauge"
  samples := ReasonCode.RECOVERABLE.map fun reason =>
    ⟨some ("reason", reason.asStr), toString (decide (reason ∈ snap.reasons)).toNat⟩

def runtimeFamilies (snap : HealthSnapshot) : List Family :=
  [gauge "brainstem_fatal" "1 if this process has entered a sticky fatal state."
      (toString snap.fatal.isSome.toNat),
    gauge "brainstem_last_successful_tick_ms"
      "Milliseconds from process start until the last successful tick (not tick age); NaN if none yet."
      (optionalValue snap.lastSuccessfulTickMs),
    gauge "brainstem_tick_age_ms" "Milliseconds since the last successful tick; NaN if none yet."
      (optionalValue snap.tickAgeMs),
    gauge "brainstem_input_age_ms"
      "Age of last ingress (or checkpoint, if none) in milliseconds; NaN if none yet."
      (optionalValue snap.inputFreshness.ageMs),
    gauge "brainstem_queue_depth" "Ingress queue depth." (toString snap.queuePressure.depth),
    gauge "brainstem_queue_capacity" "Ingress queue capacity."
      (toString snap.queuePressure.capacity)]

def counterFamilies (snap : HealthSnapshot) : List Family :=
  snap.counters.metrics.map fun (name, help, value) =>
    ⟨name, help, "counter", [⟨none, toString value⟩]⟩

def families (snap : HealthSnapshot) : List Family :=
  snap.probeFamilies ++ ([snap.phaseFamily, snap.degradedFamily] ++
    (snap.runtimeFamilies ++ snap.counterFamilies))

end HealthSnapshot

/-- The samples of all families, each with the name of its metric. -/
def allSamples (families : List Family) : List (String × Sample) :=
  families.flatMap fun f => f.samples.map fun s => (f.name, s)

/-- Field by field, the counters as they are to be named. -/
def counterFields : List (String × (RuntimeCounters → ℕ)) :=
  [("ticks", (·.ticks)), ("accepted_batches", (·.acceptedBatches)),
    ("rejected_batches", (·.rejectedBatches)), ("receive_errors", (·.receiveErrors)),
    ("emit_errors", (·.emitErrors)), ("dropped_spikes", (·.droppedSpikes)),
    ("diagnostic_emissions", (·.diagnosticEmissions)),
    ("suppressed_diagnostics", (·.suppressedDiagnostics))]

/-! ## The builders write the families -/

/-- A header and the one sample under it. -/
theorem pushMetric_eq (out name help kind value : String) :
    pushSample (pushMetricHeader out name help kind) name value =
      out ++ render [⟨name, help, kind, [⟨none, value⟩]⟩] := by
  unfold pushSample pushMetricHeader render
  simp only [-String.reduceAppend, List.flatMap_cons, List.flatMap_nil, List.append_nil, Family.lines,
    Family.helpLine, Family.typeLine, List.map_cons, List.map_nil, Sample.line, text,
    String.append_assoc, String.append_empty]

theorem pushGauge_eq (out name help value : String) :
    pushGauge out name help value = out ++ render [gauge name help value] :=
  pushMetric_eq out name help "gauge" value

theorem pushOptionalGauge_eq (out name help : String) (value : Option ℕ) :
    pushOptionalGauge out name help value = out ++ render [gauge name help (optionalValue value)] := by
  cases value with
  | none => exact pushGauge_eq out name help "NaN"
  | some v => exact pushGauge_eq out name help (toString v)

theorem writeProbeGauges_eq (out : String) (snap : HealthSnapshot) :
    writeProbeGauges out snap = out ++ render snap.probeFamilies := by
  unfold writeProbeGauges HealthSnapshot.probeFamilies
  dsimp only
  rw [pushGauge_eq, pushGauge_eq, String.append_assoc, ← render_append]
  rfl

theorem writePhaseGauges_eq (out : String) (snap : HealthSnapshot) :
    writePhaseGauges out snap.phase =
      out ++ text (snap.phaseFamily.samples.map (Sample.line "brainstem_phase")) := by
  have hopen : "brainstem_phase" ++ "\x7b" ++ "phase" ++ "=\"" = "brainstem_phase\x7bphase=\"" := rfl
  unfold writePhaseGauges HealthSnapshot.phaseFamily
  dsimp only
  rw [List.map_map]
  apply foldl_text
  intro out phase
  rw [← hopen]
  simp only [-String.reduceAppend, Function.comp, Sample.line, String.append_assoc]

theorem writeDegradedGauges_eq (out : String) (snap : HealthSnapshot) :
    writeDegradedGauges out snap.reasons =
      out ++ text (snap.degradedFamily.samples.map (Sample.line "brainstem_degraded")) := by
  have hopen : "brainstem_degraded" ++ "\x7b" ++ "reason" ++ "=\"" =
    "brainstem_degraded\x7breason=\"" := rfl
  unfold writeDegradedGauges HealthSnapshot.degradedFamily
  dsimp only
  rw [List.map_map]
  apply foldl_text
  intro out reason
  rw [← hopen]
  simp only [-String.reduceAppend, Function.comp, Sample.line, String.append_assoc]

theorem writeLabeledGauges_eq (out : String) (snap : HealthSnapshot) :
    writeLabeledGauges out snap = out ++ render [snap.phaseFamily, snap.degradedFamily] := by
  have hphaseHelp : snap.phaseFamily.helpLine ++ "\n" =
    "# HELP brainstem_phase 1 for the current health phase.\n" := rfl
  have hphaseType : snap.phaseFamily.typeLine ++ "\n" = "# TYPE brainstem_phase gauge\n" := rfl
  have hdegradedHelp : snap.degradedFamily.helpLine ++ "\n" =
    "# HELP brainstem_degraded Recoverable degradation by stable reason code.\n" := rfl
  have hdegradedType : snap.degradedFamily.typeLine ++ "\n" =
    "# TYPE brainstem_degraded gauge\n" := rfl
  have hlines : ∀ f : Family, text f.lines =
      f.helpLine ++ "\n" ++ (f.typeLine ++ "\n" ++ text (f.samples.map (Sample.line f.name))) :=
    fun _ => rfl
  unfold writeLabeledGauges
  dsimp only
  rw [writeDegradedGauges_eq, writePhaseGauges_eq, render_cons, render_cons, hlines, hlines,
    hphaseHelp, hphaseType, hdegradedHelp, hdegradedType]
  simp only [-String.reduceAppend, render, List.flatMap_nil, text, String.append_assoc,
    String.append_empty]
  rfl

theorem writeRuntimeGauges_eq (out : String) (snap : HealthSnapshot) :
    writeRuntimeGauges out snap = out ++ render snap.runtimeFamilies := by
  unfold writeRuntimeGauges HealthSnapshot.runtimeFamilies
  dsimp only
  simp only [pushGauge_eq, pushOptionalGauge_eq, String.append_assoc, ← render_append]
  rfl

theorem writeRuntimeCounters_eq (out : String) (snap : HealthSnapshot) :
    writeRuntimeCounters out snap.counters = out ++ render snap.counterFamilies := by
  unfold writeRuntimeCounters HealthSnapshot.counterFamilies
  generalize snap.counters.metrics = metrics
  induction metrics generalizing out with
  | nil => exact String.append_empty.symm
  | cons metric metrics ih =>
    obtain ⟨name, help, value⟩ := metric
    rw [List.foldl_cons, ih]
    dsimp only
    rw [pushMetric_eq, String.append_assoc, ← render_append]
    rfl

/-- The text is the families, whatever the snapshot. -/
theorem prometheusText_eq (snap : HealthSnapshot) :
    snap.prometheusText = render snap.families := by
  unfold HealthSnapshot.prometheusText HealthSnapshot.families
  dsimp only
  rw [writeRuntimeCounters_eq, writeRuntimeGauges_eq, writeLabeledGauges_eq, writeProbeGauges_eq,
    String.empty_append, render_append, render_append, render_append]
  simp only [String.append_assoc]

/-! ## The families are well formed -/

theorem wellFormed_single {name help kind : List Char} {value : String}
    (hname : name.all isNameChar = true) (hhelp : '\n' ∉ help) (hkind : '\n' ∉ kind)
    (hvalue : Plain value) :
    Family.WellFormed ⟨.ofList name, .ofList help, .ofList kind, [⟨none, value⟩]⟩ where
  name := .ofList hname
  help := .ofList hhelp
  kind := .ofList hkind
  samples s hs := by
    rw [List.mem_singleton.1 hs]
    exact ⟨nofun, hvalue⟩

theorem plain_optionalValue (v : Option ℕ) : Plain (optionalValue v) := by
  cases v with
  | none => exact .ofList (by decide)
  | some v => exact plain_toString v

theorem plain_phase (phase : HealthPhase) : Plain phase.asStr := by
  cases phase <;> exact .ofList (by decide)

theorem plain_reason (reason : ReasonCode) : Plain reason.asStr := by
  cases reason <;> exact .ofList (by decide)

/-- One sample for each of the codes, labelled with it. -/
theorem wellFormed_labelled {α : Type} {name help key : List Char} {code value : α → String}
    {items : List α} (hname : name.all isNameChar = true) (hhelp : '\n' ∉ help)
    (hkey : '\n' ∉ key) (hcode : ∀ a, Plain (code a)) (hvalue : ∀ a, Plain (value a)) :
    Family.WellFormed ⟨.ofList name, .ofList help, "gauge",
      items.map fun a => ⟨some (.ofList key, code a), value a⟩⟩ where
  name := .ofList hname
  help := .ofList hhelp
  kind := .ofList (by decide)
  samples s hs := by
    obtain ⟨a, -, rfl⟩ := List.mem_map.1 hs
    refine ⟨fun key' code' h => ?_, hvalue a⟩
    cases h
    exact ⟨.ofList hkey, hcode a⟩

namespace HealthSnapshot

theorem wellFormed_probeFamilies (snap : HealthSnapshot) :
    ∀ f ∈ snap.probeFamilies, f.WellFormed := by
  unfold probeFamilies gauge
  rw [List.forall_mem_cons, List.forall_mem_singleton]
  exact ⟨wellFormed_single (by decide) (by decide) (by decide) (plain_toString _),
    wellFormed_single (by decide) (by decide) (by decide) (plain_toString _)⟩

theorem wellFormed_runtimeFamilies (snap : HealthSnapshot) :
    ∀ f ∈ snap.runtimeFamilies, f.WellFormed := by
  unfold runtimeFamilies gauge
  simp only [List.forall_mem_cons]
  exact ⟨wellFormed_single (by decide) (by decide) (by decide) (plain_toString _),
    wellFormed_single (by decide) (by decide) (by decide) (plain_optionalValue _),
    wellFormed_single (by decide) (by decide) (by decide) (plain_optionalValue _),
    wellFormed_single (by decide) (by decide) (by decide) (plain_optionalValue _),
    wellFormed_single (by decide) (by decide) (by decide) (plain_toString _),
    wellFormed_single (by decide) (by decide) (by decide) (plain_toString _), List.forall_mem_nil _⟩

theorem wellFormed_counterFamilies (snap : HealthSnapshot) :
    ∀ f ∈ snap.counterFamilies, f.WellFormed := by
  unfold counterFamilies RuntimeCounters.metrics
  simp only [List.map_cons, List.map_nil, List.forall_mem_cons]
  refine ⟨?_, ?_, ?_, ?_, ?_, ?_, ?_, ?_, List.forall_mem_nil _⟩ <;>
    exact wellFormed_single (by decide) (by decide) (by decide) (plain_toString _)

theorem wellFormed_families (snap : HealthSnapshot) : ∀ f ∈ snap.families, f.WellFormed := by
  unfold families
  rw [List.forall_mem_append, List.forall_mem_append, List.forall_mem_append]
  refine ⟨snap.wellFormed_probeFamilies, ?_, snap.wellFormed_runtimeFamilies,
    snap.wellFormed_counterFamilies⟩
  rw [List.forall_mem_cons, List.forall_mem_singleton]
  exact ⟨wellFormed_labelled (by decide) (by decide) (by decide) plain_phase
      fun _ => plain_toString _,
    wellFormed_labelled (by decide) (by decide) (by decide) plain_reason
      fun _ => plain_toString _⟩

theorem nodup_names (snap : HealthSnapshot) : (snap.families.map Family.name).Nodup := by
  have hnames : snap.families.map Family.name =
      ["brainstem_live", "brainstem_ready", "brainstem_phase", "brainstem_degraded",
        "brainstem_fatal", "brainstem_last_successful_tick_ms", "brainstem_tick_age_ms",
        "brainstem_input_age_ms", "brainstem_queue_depth", "brainstem_queue_capacity",
        "brainstem_ticks_total", "brainstem_accepted_batches_total",
        "brainstem_rejected_batches_total", "brainstem_receive_errors_total",
        "brainstem_emit_errors_total", "brainstem_dropped_spikes_total",
        "brainstem_diagnostic_emissions_total", "brainstem_suppressed_diagnostics_total"] := rfl
  rw [hnames]
  decide

/-! ## The samples -/

/-- One phase has the value one, the phase of the snapshot. -/
theorem phase_samples (snap : HealthSnapshot) :
    (allSamples snap.families).filter (fun p => p.1 = "brainstem_phase" ∧ p.2.value = "1") =
      [("brainstem_phase", ⟨some ("phase", snap.phase.asStr), "1"⟩)] := by
  have hothers : ∀ fs : List Family, (∀ f ∈ fs, f.name ≠ "brainstem_phase") →
      (allSamples fs).filter (fun p => p.1 = "brainstem_phase" ∧ p.2.value = "1") = [] := by
    intro fs hfs
    rw [List.filter_eq_nil_iff]
    intro p hp
    obtain ⟨f, hf, hp⟩ := List.mem_flatMap.1 hp
    obtain ⟨s, -, rfl⟩ := List.mem_map.1 hp
    simp [hfs f hf]
  have hphase : (allSamples [snap.phaseFamily]).filter
      (fun p => p.1 = "brainstem_phase" ∧ p.2.value = "1") =
        [("brainstem_phase", ⟨some ("phase", snap.phase.asStr), "1"⟩)] := by
    unfold phaseFamily
    cases snap.phase <;> decide
  have hsplit : allSamples snap.families = allSamples snap.probeFamilies ++
      (allSamples [snap.phaseFamily] ++ allSamples (snap.degradedFamily ::
        (snap.runtimeFamilies ++ snap.counterFamilies))) := by
    unfold families allSamples
    simp only [List.flatMap_append, List.flatMap_cons, List.flatMap_nil, List.append_nil,
      List.append_assoc]
  rw [hsplit, List.filter_append, List.filter_append, hphase, hothers, hothers]
  · rfl
  · simp [degradedFamily, runtimeFamilies, counterFamilies, RuntimeCounters.metrics, gauge]
  · simp [probeFamilies, gauge]

/-- Only phases and recoverable reasons are labels. -/
theorem labels (snap : HealthSnapshot) : ∀ p ∈ allSamples snap.families, ∀ key value,
    p.2.label = some (key, value) →
      (key = "phase" ∧ value ∈ HealthPhase.ALL.map HealthPhase.asStr) ∨
      (key = "reason" ∧ value ∈ ReasonCode.RECOVERABLE.map ReasonCode.asStr) := by
  have hplain : ∀ f ∈ snap.probeFamilies ++ (snap.runtimeFamilies ++ snap.counterFamilies),
      ∀ s ∈ f.samples, s.label = none := by
    simp [probeFamilies, runtimeFamilies, counterFamilies, RuntimeCounters.metrics, gauge]
  intro p hp key value hlabel
  obtain ⟨f, hf, hp⟩ := List.mem_flatMap.1 hp
  obtain ⟨s, hs, rfl⟩ := List.mem_map.1 hp
  dsimp only at hlabel
  have hcases : f ∈ snap.probeFamilies ++ (snap.runtimeFamilies ++ snap.counterFamilies) ∨
      f = snap.phaseFamily ∨ f = snap.degradedFamily := by
    unfold families at hf
    simp only [List.mem_append, List.mem_cons, List.not_mem_nil, or_false] at hf ⊢
    tauto
  rcases hcases with hf | rfl | rfl
  · rw [hplain f hf s hs] at hlabel
    cases hlabel
  · obtain ⟨phase, hphase, rfl⟩ := List.mem_map.1 hs
    cases hlabel
    exact .inl ⟨rfl, List.mem_map_of_mem hphase⟩
  · obtain ⟨reason, hreason, rfl⟩ := List.mem_map.1 hs
    cases hlabel
    exact .inr ⟨rfl, List.mem_map_of_mem hreason⟩

/-- The counters are the families of their kind, each with the value of its own field. -/
theorem counter_families (snap : HealthSnapshot) :
    (snap.families.filter (·.kind = "counter")).map (fun f => (f.name, f.samples)) =
      counterFields.map fun (field, value) =>
        ("brainstem_" ++ field ++ "_total", [⟨none, toString (value snap.counters)⟩]) := by
  simp [families, probeFamilies, phaseFamily, degradedFamily, runtimeFamilies, counterFamilies,
    RuntimeCounters.metrics, gauge, counterFields]

/-! ## What does not show -/

/-- The same but for the detail of a fatal error, the checkpoint, and reasons that are not
recoverable. -/
structure Alike (a b : HealthSnapshot) : Prop where
  live : a.live = b.live
  ready : a.ready = b.ready
  phase : a.phase = b.phase
  reasons : ∀ reason ∈ ReasonCode.RECOVERABLE, (reason ∈ a.reasons ↔ reason ∈ b.reasons)
  lastSuccessfulTickMs : a.lastSuccessfulTickMs = b.lastSuccessfulTickMs
  tickAgeMs : a.tickAgeMs = b.tickAgeMs
  inputFreshness : a.inputFreshness = b.inputFreshness
  queuePressure : a.queuePressure = b.queuePressure
  fatal : a.fatal.map FatalState.code = b.fatal.map FatalState.code
  counters : a.counters = b.counters
  observedAtMs : a.observedAtMs = b.observedAtMs

theorem Alike.families_eq {a b : HealthSnapshot} (h : Alike a b) : a.families = b.families := by
  have hfatal : a.fatal.isSome = b.fatal.isSome := by
    have hmap := congrArg Option.isSome h.fatal
    rwa [Option.isSome_map, Option.isSome_map] at hmap
  have hdegraded : a.degradedFamily = b.degradedFamily := by
    unfold degradedFamily
    congr 1
    apply List.map_congr_left
    intro reason hreason
    simp only [h.reasons reason hreason]
  unfold families probeFamilies phaseFamily runtimeFamilies counterFamilies
  rw [hdegraded, hfatal, h.live, h.ready, h.phase, h.lastSuccessfulTickMs, h.tickAgeMs,
    h.inputFreshness, h.queuePressure, h.counters]

end HealthSnapshot

open HealthSnapshot

/-- **The exposition is well formed and leaks nothing.**  The text of any snapshot is made of
terminated lines: for each family, none of them twice, one HELP line, one TYPE line and then its
samples.  The one phase with the value one is the snapshot's, labels are codes of phases and
recoverable reasons, each counter has the value of its own field, and a snapshot that differs
in nothing else than the fatal detail, the checkpoint or other reasons has the same text. -/
theorem metrics_exposition (snap : HealthSnapshot) :
    snap.prometheusText = render snap.families ∧
    snap.prometheusText.toList.splitOn '\n' =
      (snap.families.flatMap Family.lines).map String.toList ++ [[]] ∧
    (snap.families.flatMap Family.lines).map (fun line => classify line.toList) =
      snap.families.flatMap Family.shape ∧
    (snap.families.map Family.name).Nodup ∧
    (allSamples snap.families).filter (fun p => p.1 = "brainstem_phase" ∧ p.2.value = "1") =
      [("brainstem_phase", ⟨some ("phase", snap.phase.asStr), "1"⟩)] ∧
    (∀ p ∈ allSamples snap.families, ∀ key value, p.2.label = some (key, value) →
      (key = "phase" ∧ value ∈ HealthPhase.ALL.map HealthPhase.asStr) ∨
      (key = "reason" ∧ value ∈ ReasonCode.RECOVERABLE.map ReasonCode.asStr)) ∧
    (snap.families.filter (·.kind = "counter")).map (fun f => (f.name, f.samples)) =
      counterFields.map (fun (field, value) =>
        ("brainstem_" ++ field ++ "_total", [⟨none, toString (value snap.counters)⟩])) ∧
    ∀ other, Alike snap other → other.prometheusText = snap.prometheusText := by
  have htext := prometheusText_eq snap
  refine ⟨htext, ?_, ?_, snap.nodup_names, snap.phase_samples, snap.labels,
    snap.counter_families, ?_⟩
  · rw [htext]
    exact splitOn_render snap.wellFormed_families
  · exact classify_lines fun f hf => (snap.wellFormed_families f hf).name
  · intro other halike
    rw [htext, prometheusText_eq, halike.families_eq]

/-- A detail that is not for everybody, a checkpoint, another reason: the same text. -/
theorem metrics_exposition_secret :
    let snap : HealthSnapshot :=
      { live := true, ready := false, phase := .fatal, reasons := [.overload, .fatal]
        lastSuccessfulTickMs := none, tickAgeMs := none
        checkpoint := some ⟨"spikenaut-snn:lineage", some "e3b0c442"⟩
        inputFreshness := ⟨some 7, false⟩, queuePressure := ⟨3, 8, none, true⟩
        fatal := some ⟨.initializationFailed, "secret token"⟩
        counters := .default, observedAtMs := 12 }
    let other : HealthSnapshot :=
      { snap with
        reasons := [.overload], checkpoint := none, fatal := some ⟨.initializationFailed, ""⟩ }
    other.prometheusText = snap.prometheusText := by
  intro snap other
  refine (metrics_exposition snap).2.2.2.2.2.2.2 other ⟨rfl, rfl, rfl, ?_, rfl, rfl, rfl, rfl, rfl, rfl, rfl⟩
  decide

end Brainstem.Health
