import ScreenFlow.Proofs.Findings

namespace ScreenFlow

/-! The warnings of a report over time. A warning is put behind those that are there, unless it is
one of them. An analysis warns once of each thing it finds: what its warnings say begins
differently, so that no ids and keys make two of them the same. -/

/-! ## Messages -/

namespace Report

def fresh (warnings messages : List Value) : List Value :=
  (messages.filter fun message => !warnings.any message.same).eraseDupsBy Value.same

def Unlike (values : List Value) : Prop :=
  values.Pairwise fun earlier later => later.same earlier = false

variable {report : Report} {message : Value} {warnings messages : List Value}

theorem unlike_concat_iff :
    Unlike (warnings ++ [message]) ↔ Unlike warnings ∧ warnings.any message.same = false := by
  rw [Unlike, List.pairwise_append]
  simp [Unlike]

theorem nodup_of_unlike (unlike : Unlike warnings)
    (texts : ∀ warning ∈ warnings, ∃ content, warning = .text content) : warnings.Nodup := by
  refine List.Pairwise.imp_of_mem (fun _ later apart same => ?_) unlike
  rcases texts _ later with ⟨content, rfl⟩
  rw [same, Value.same_text, beq_self_eq_true] at apart
  cases apart

theorem unlike_texts {texts : List Text} (distinct : texts.Nodup) :
    Unlike (texts.map Value.text) := by
  rw [Unlike, List.pairwise_map]
  exact distinct.imp fun apart => by
    rw [Value.same_text, beq_eq_false_iff_ne]
    exact apart.symm

theorem fresh_cons (warnings messages : List Value) (message : Value) :
    fresh warnings (message :: messages) =
      if warnings.any message.same then fresh warnings messages
      else message :: fresh (warnings ++ [message]) messages := by
  rw [fresh, List.filter_cons]
  cases warnings.any message.same with
  | true => rfl
  | false =>
      -- What repeats the first message is left out either way, now or as a repetition.
      rw [Bool.not_false, if_pos rfl, if_neg Bool.false_ne_true, List.eraseDupsBy_cons,
        List.filter_filter, fresh]
      simp [Bool.and_comm]

theorem fresh_of_unlike (unlike : Unlike (warnings ++ messages)) :
    fresh warnings messages = messages := by
  induction messages generalizing warnings with
  | nil => rfl
  | cons message messages induction =>
      rw [← List.singleton_append, ← List.append_assoc] at unlike
      have first := (List.pairwise_append.mp unlike).1
      rw [fresh_cons, (unlike_concat_iff.mp first).2, induction unlike, if_neg Bool.false_ne_true]

/-! ## One warning -/

theorem warnings_addWarning (report : Report) (message : Value) :
    (report.addWarning message).warnings =
      if report.warnings.any message.same then report.warnings
      else report.warnings ++ [message] := by
  rw [addWarning]
  split <;> rfl

theorem prefix_addWarning (report : Report) (message : Value) :
    report.warnings <+: (report.addWarning message).warnings := by
  rw [warnings_addWarning]
  split
  · exact List.prefix_rfl
  · exact List.prefix_append _ _

theorem unlike_addWarning (unlike : Unlike report.warnings) :
    Unlike (report.addWarning message).warnings := by
  rw [warnings_addWarning]
  split
  · exact unlike
  · next new => exact unlike_concat_iff.mpr ⟨unlike, Bool.not_eq_true _ ▸ new⟩

theorem forall_mem_addWarning {property : Value → Prop}
    (before : ∀ warning ∈ report.warnings, property warning) (added : property message) :
    ∀ warning ∈ (report.addWarning message).warnings, property warning := by
  rw [warnings_addWarning]
  split
  · exact before
  · rw [List.forall_mem_append, List.forall_mem_singleton]
    exact ⟨before, added⟩

/-! ## Any number of warnings -/

theorem warnings_foldl (report : Report) (messages : List Value) :
    (messages.foldl addWarning report).warnings =
      report.warnings ++ fresh report.warnings messages := by
  induction messages generalizing report with
  | nil => exact (List.append_nil _).symm
  | cons message messages induction =>
      rw [List.foldl_cons, induction, warnings_addWarning, fresh_cons]
      split
      · rfl
      · rw [List.append_assoc, List.singleton_append]

theorem unlike_foldl (unlike : Unlike report.warnings) (messages : List Value) :
    Unlike (messages.foldl addWarning report).warnings := by
  induction messages generalizing report with
  | nil => exact unlike
  | cons message messages induction => exact induction (unlike_addWarning unlike)

theorem forall_mem_foldl {property : Value → Prop}
    (before : ∀ warning ∈ report.warnings, property warning)
    (added : ∀ message ∈ messages, property message) :
    ∀ warning ∈ (messages.foldl addWarning report).warnings, property warning := by
  induction messages generalizing report with
  | nil => exact before
  | cons message messages induction =>
      rw [List.forall_mem_cons] at added
      exact induction (forall_mem_addWarning before added.1) added.2

/-- Whatever else a report is to warn of, its warnings only grow and never repeat. -/
structure Grows (initial : Report) : Prop where
  kept (messages : List Value) (message : Value) :
    (messages.foldl addWarning initial).warnings <+:
      ((messages ++ [message]).foldl addWarning initial).warnings
  /-- Behind the initial warnings are the messages that are not among them, each where it first
  comes. -/
  ordered (messages : List Value) :
    (messages.foldl addWarning initial).warnings =
      initial.warnings ++ fresh initial.warnings messages
  unlike (messages : List Value) : Unlike (messages.foldl addWarning initial).warnings
  distinct (contents : List Text) :
    ((contents.map Value.text).foldl addWarning initial).warnings.Nodup
  unchanged (messages : List Value) :
    { messages.foldl addWarning initial with warnings := initial.warnings } = initial

theorem grows_of_texts {initial : Report} {texts : List Text}
    (worded : initial.warnings = texts.map .text) (distinct : texts.Nodup) : initial.Grows := by
  have unlike : Unlike initial.warnings := worded ▸ unlike_texts distinct
  -- That warnings have different contents makes them different only if they are texts, so this is
  -- carried along with it.
  have textual (contents : List Text) :
      ∀ warning ∈ contents.map Value.text, ∃ content, warning = .text content :=
    List.forall_mem_map.mpr fun content _ => ⟨content, rfl⟩
  constructor
  case kept =>
    intro messages message
    rw [List.foldl_concat]
    exact prefix_addWarning _ _
  case ordered => exact warnings_foldl initial
  case unlike => exact unlike_foldl unlike
  case distinct =>
    intro contents
    refine nodup_of_unlike (unlike_foldl unlike _) (forall_mem_foldl ?_ (textual contents))
    rw [worded]
    exact textual texts
  case unchanged =>
    intro messages
    rw [foldl_addWarning_eq]

end Report

/-! ## Findings -/

/-- What an analysis warns of, in the order of the warnings. -/
inductive Finding where
  | noScreens
  | tooManyScreens
  | oversizedScreens
  | duplicateIds
  | longLabels
  | choicesWithoutOptions
  | emptyScreens
  deriving DecidableEq, Repr

namespace Finding

def all : List Finding :=
  [.noScreens, .tooManyScreens, .oversizedScreens, .duplicateIds, .longLabels,
    .choicesWithoutOptions, .emptyScreens]

def Holds (schema : Schema) : Finding → Prop
  | .noScreens => schema.screens = []
  | .tooManyScreens => maxScreens < schema.screens.length
  | .oversizedScreens => ∃ screen ∈ schema.screens, maxComponents < screen.components.length
  | .duplicateIds => ¬ (schema.screens.map Screen.id).Nodup
  | .longLabels => ∃ placed ∈ schema.placed, placed.longKey?.isSome = true
  | .choicesWithoutOptions => ∃ placed ∈ schema.placed, placed.bareKey?.isSome = true
  | .emptyScreens => ∃ screen ∈ schema.screens, screen.components = []

def isReported (report : Report) : Finding → Bool
  | .noScreens => report.totalScreens = 0
  | .tooManyScreens => report.totalScreens > maxScreens
  | .oversizedScreens => !report.oversizedScreens.isEmpty
  | .duplicateIds => !report.duplicateIds.isEmpty
  | .longLabels => !report.truncatedLabels.isEmpty
  | .choicesWithoutOptions => !report.choicesWithoutOptions.isEmpty
  | .emptyScreens => !report.emptyScreens.isEmpty

def lead : Finding → Text
  | .noScreens => "Schema has no screens"
  | .tooManyScreens => "Too many screens: "
  | .oversizedScreens => s!"Screens over {maxComponents} components"
  | .duplicateIds => "Duplicate screen ids"
  | .longLabels => s!"Labels longer than {Naming.maxLabelLength} characters"
  | .choicesWithoutOptions => "Choice fields without options"
  | .emptyScreens => "Empty screens"

def detail (report : Report) : Finding → Text
  | .noScreens => ""
  | .tooManyScreens => s!"{report.totalScreens} (maximum {maxScreens})"
  | .oversizedScreens => ": " ++ Text.intercalate ", " report.oversizedScreens
  | .duplicateIds => ": " ++ Text.intercalate ", " report.duplicateIds
  | .longLabels => ": " ++ Text.intercalate ", " report.truncatedLabels
  | .choicesWithoutOptions => ": " ++ Text.intercalate ", " report.choicesWithoutOptions
  | .emptyScreens => ": " ++ Text.intercalate ", " report.emptyScreens

def wording (report : Report) (finding : Finding) : Text :=
  finding.lead ++ finding.detail report

theorem eq_of_take_lead {first second : Finding}
    (same : first.lead.toList.take 3 = second.lead.toList.take 3) : first = second := by
  revert same
  cases first <;> cases second <;> decide

theorem take_wording (report : Report) (finding : Finding) :
    (finding.wording report).toList.take 3 = finding.lead.toList.take 3 := by
  have long : 3 ≤ finding.lead.toList.length := by
    cases finding <;> decide
  rw [wording, Text.toList_append, List.take_append_of_le_length long]

theorem wording_injective (report : Report) : Function.Injective (wording report) := by
  intro first second same
  apply eq_of_take_lead
  rw [← take_wording report, ← take_wording report, same]

end Finding

namespace Report

/-- The findings in a report, in their order. -/
def findings (report : Report) : List Finding := Finding.all.filter (Finding.isReported report)

theorem nodup_findings (report : Report) : report.findings.Nodup :=
  List.Nodup.filter _ (by decide)

theorem listing_eq (subject : Text) (found : List Text) :
    listing subject found =
      if !found.isEmpty then [.text (subject ++ (": " ++ Text.intercalate ", " found))]
      else [] := by
  rw [listing, Text.append_assoc]
  cases found.isEmpty <;> rfl

theorem wording_tooManyScreens (report : Report) :
    Finding.tooManyScreens.wording report =
      s!"Too many screens: {report.totalScreens} (maximum {maxScreens})" := by
  rw [Finding.wording, Finding.detail, Finding.lead, ← Text.ofString_append,
    ← String.append_assoc, ← String.append_assoc, ← String.append_assoc]
  rfl

theorem calledFor_eq (report : Report) :
    report.calledFor = (report.findings.map (Finding.wording report)).map .text := by
  -- Warnings are put together piece by piece, so the list of findings is taken apart likewise.
  have step (finding : Finding) (rest : List Finding) :
      (((finding :: rest).filter (Finding.isReported report)).map (Finding.wording report)).map
          Value.text =
        (if finding.isReported report then [.text (finding.wording report)] else []) ++
          ((rest.filter (Finding.isReported report)).map (Finding.wording report)).map
            Value.text := by
    rw [List.filter_cons]
    split <;> rfl
  have none : Finding.noScreens.wording report = "Schema has no screens" := Text.append_empty _
  simp only [findings, Finding.all, step, calledFor, listing_eq, wording_tooManyScreens, none,
    Finding.isReported, decide_eq_true_eq, List.filter_nil, List.map_nil, List.append_nil,
    List.append_assoc]
  rfl

theorem findings_foldl (report : Report) (messages : List Value) :
    (messages.foldl addWarning report).findings = report.findings := by
  rw [foldl_addWarning_eq]
  rfl

theorem calledFor_foldl (report : Report) (messages : List Value) :
    (messages.foldl addWarning report).calledFor = report.calledFor := by
  rw [foldl_addWarning_eq]
  rfl

theorem nodup_wordings (report : Report) :
    (report.findings.map (Finding.wording report)).Nodup :=
  report.nodup_findings.map (Finding.wording_injective report)

theorem warnings_foldl_calledFor {report : Report} (silent : report.warnings = []) :
    (report.calledFor.foldl addWarning report).warnings = report.calledFor := by
  have unlike : Unlike ([] ++ report.calledFor) := by
    rw [List.nil_append, calledFor_eq]
    exact unlike_texts report.nodup_wordings
  rw [warnings_foldl, silent, fresh_of_unlike unlike, List.nil_append]

end Report

namespace Finding

variable {schema : Schema} {finding : Finding}

theorem mem_all (finding : Finding) : finding ∈ all := by
  cases finding <;> decide

theorem isReported_survey_iff : finding.isReported schema.survey = true ↔ finding.Holds schema := by
  have listed (found : List Text) : (!found.isEmpty) = true ↔ found ≠ [] := by
    rw [Bool.not_eq_true', ← Bool.not_eq_true, List.isEmpty_iff]
  cases finding with
  | noScreens => simp [isReported, Holds, Schema.survey]
  | tooManyScreens => simp [isReported, Holds, Schema.survey]
  | oversizedScreens => simp [isReported, Holds, Schema.survey]
  | duplicateIds =>
      rw [isReported, listed, Holds, not_iff_not]
      exact Schema.duplicateIds_eq_nil_iff
  | longLabels => simp [isReported, Holds, Schema.survey, Option.isSome_iff_ne_none]
  | choicesWithoutOptions => simp [isReported, Holds, Schema.survey, Option.isSome_iff_ne_none]
  | emptyScreens => simp [isReported, Holds, Schema.survey]

end Finding

namespace Schema

variable {schema : Schema} {report : Report}

theorem findings_of_analyze (analyzed : schema.analyze = .ok report) :
    report.findings = schema.survey.findings := by
  rcases analyze_eq_ok_iff.mp analyzed with ⟨-, rfl⟩
  exact Report.findings_foldl _ _

theorem warnings_of_analyze (analyzed : schema.analyze = .ok report) :
    report.warnings = (report.findings.map (Finding.wording report)).map .text := by
  rw [← Report.calledFor_eq]
  rcases analyze_eq_ok_iff.mp analyzed with ⟨-, rfl⟩
  have silent : schema.survey.warnings = [] := rfl
  rw [Report.warnings_foldl_calledFor silent, Report.calledFor_foldl]

/-- An analysis warns once of each finding on a form, in the order of the findings. From then on,
as from an empty report on, warnings only grow and never repeat. -/
theorem warnings_grow :
    (∀ {schema : Schema} {report : Report}, schema.analyze = .ok report →
      report.warnings = (report.findings.map (Finding.wording report)).map .text ∧
        (∀ finding, finding ∈ report.findings ↔ finding.Holds schema) ∧ report.Grows) ∧
      Report.empty.Grows := by
  constructor
  · intro schema report analyzed
    have worded := warnings_of_analyze analyzed
    refine ⟨worded, fun finding => ?_, Report.grows_of_texts worded report.nodup_wordings⟩
    rw [findings_of_analyze analyzed, Report.findings, List.mem_filter,
      and_iff_right finding.mem_all, Finding.isReported_survey_iff]
  · have silent : Report.empty.warnings = ([] : List Text).map .text := rfl
    exact Report.grows_of_texts silent List.nodup_nil

def lookalike : Schema :=
  let choice : Component := .choice .radio (.text "size") .null (.bool false) (.list [])
  ⟨[⟨"Empty screens: a", .text "", []⟩, ⟨"Empty screens: a", .text "", [choice]⟩]⟩

theorem lookalike_warnings_grow :
    ∃ report, lookalike.analyze = .ok report ∧
      report.findings = [.duplicateIds, .choicesWithoutOptions, .emptyScreens] ∧
        report.warnings = (report.findings.map (Finding.wording report)).map .text ∧
        (∀ finding, finding ∈ report.findings ↔ finding.Holds lookalike) ∧ report.Grows := by
  have found : lookalike.analyze.map Report.findings =
      .ok [.duplicateIds, .choicesWithoutOptions, .emptyScreens] := by decide +kernel
  rcases Outcome.map_eq_ok.mp found with ⟨report, analyzed, findings⟩
  exact ⟨report, analyzed, findings, warnings_grow.1 analyzed⟩

end Schema

end ScreenFlow
