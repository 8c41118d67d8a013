/-
Purpose: The CSV export of a dashboard response, and what parsing the file gives back.
-/
import Mathlib.Data.List.Forall2
import Mathlib.Data.Nat.Digits.Defs
import WhatsappCrm.Lib.Csv

namespace WhatsappCrm.Reporting

open Utf16 (toWellFormed)

abbrev Text := List UInt16

structure DurationStats where
  count : Nat
  averageSeconds : Option Nat
  medianSeconds : Option Nat
  p90Seconds : Option Nat

structure TicketVolume where
  created : Nat
  resolved : Nat
  closedWithoutResolution : Nat

structure ReportMetrics where
  volume : TicketVolume
  firstResponse : DurationStats
  resolution : DurationStats

structure AgentReportRow where
  userId : Option Text
  name : Option Text
  isActive : Bool
  ticketsResolved : Nat
  firstResponse : DurationStats
  resolution : DurationStats

structure DailyPoint where
  date : Text
  created : Nat
  resolved : Nat
  firstResponseMedianSeconds : Option Nat

/-- `range.from`, `range.to` and `range.timezone`, beside the rest. -/
structure DashboardMetricsResponse where
  rangeFrom : Text
  rangeTo : Text
  timezone : Text
  scope : Text
  summary : ReportMetrics
  agents : List AgentReportRow
  series : List DailyPoint

inductive ReportExportSection where
  | summary | agents | series

def literal (s : String) : Text := s.toList.flatMap Utf16.units

def byteOrderMark : UInt16 := 0xFEFF

def apostrophe : UInt16 := 0x27

/-- `=`, `+`, `-`, `@`, tab and carriage return. -/
def formulaLeadCharacters : List UInt16 := [0x3D, 0x2B, 0x2D, 0x40, 0x09, 0x0D]

def decimal (n : Nat) : Text := if n = 0 then [0x30] else (Nat.digits 10 n).reverse.map fun d => UInt16.ofNat (0x30 + d)

def count (value : Option Nat) : Text := value.elim [] decimal

def flag (value : Option Bool) : Text := value.elim [] fun b => if b then literal "true" else literal "false"

def neutraliseFormula (value : Text) : Text :=
  if value.head?.any formulaLeadCharacters.contains then apostrophe :: value else value

def quote (value : Text) : Text :=
  if value.contains Csv.comma || value.contains Csv.dquote || value.contains Csv.cr || value.contains Csv.lf ||
      Utf16.trim value ≠ value then Csv.dquote :: (Csv.double value ++ [Csv.dquote])
  else value

def text (value : Option Text) : Text := value.elim [] fun v => quote (neutraliseFormula v)

def durationHeader (label : String) : List Text :=
  [literal (label ++ "_count"), literal (label ++ "_average_seconds"), literal (label ++ "_median_seconds"),
    literal (label ++ "_p90_seconds")]

def summaryHeader : List Text :=
  ["from", "to", "timezone", "scope", "tickets_created", "tickets_resolved", "tickets_closed_without_resolution"].map
    literal ++ durationHeader "first_response" ++ durationHeader "resolution"

def agentsHeader : List Text :=
  ["row", "user_id", "name", "is_active", "tickets_resolved"].map literal ++ durationHeader "first_response" ++
    durationHeader "resolution"

def seriesHeader : List Text := ["date", "created", "resolved", "first_response_median_seconds"].map literal

def durationCells (stats : DurationStats) : List Text :=
  [count (some stats.count), count stats.averageSeconds, count stats.medianSeconds, count stats.p90Seconds]

def summaryRow (metrics : DashboardMetricsResponse) : List Text :=
  [text (some metrics.rangeFrom), text (some metrics.rangeTo), text (some metrics.timezone), text (some metrics.scope),
    count (some metrics.summary.volume.created), count (some metrics.summary.volume.resolved),
    count (some metrics.summary.volume.closedWithoutResolution)] ++ durationCells metrics.summary.firstResponse ++
    durationCells metrics.summary.resolution

def AgentReportRow.kind (agent : AgentReportRow) : Text :=
  if agent.userId = none then literal "unattributed" else literal "agent"

def agentRow (agent : AgentReportRow) : List Text :=
  [text (some agent.kind), text agent.userId, text agent.name, flag (some agent.isActive),
    count (some agent.ticketsResolved)] ++ durationCells agent.firstResponse ++ durationCells agent.resolution

def totalRow (metrics : DashboardMetricsResponse) : List Text :=
  [text (some (literal "total")), text none, text none, flag none, count (some metrics.summary.volume.resolved)] ++
    durationCells metrics.summary.firstResponse ++ durationCells metrics.summary.resolution

def seriesRow (point : DailyPoint) : List Text :=
  [text (some point.date), count (some point.created), count (some point.resolved),
    count point.firstResponseMedianSeconds]

def sectionRows (metrics : DashboardMetricsResponse) : ReportExportSection → List (List Text)
  | .summary => [summaryHeader, summaryRow metrics]
  | .agents => agentsHeader :: (metrics.agents.map agentRow ++ [totalRow metrics])
  | .series => seriesHeader :: metrics.series.map seriesRow

/-- The rows with a line ending between them and one behind the last, after the mark, in UTF-8. -/
def serialiseDashboardCsv (metrics : DashboardMetricsResponse) (part : ReportExportSection) : List UInt8 :=
  let body := List.intercalate [Csv.cr, Csv.lf] ((sectionRows metrics part).map (List.intercalate [Csv.comma]))
  Utf8.encode (Utf16.characters (byteOrderMark :: (body ++ [Csv.cr, Csv.lf])))

inductive Cell where
  | text (value : Option Text)
  | count (value : Option Nat)
  | flag (value : Option Bool)

def DurationStats.cells (stats : DurationStats) : List Cell :=
  [.count (some stats.count), .count stats.averageSeconds, .count stats.medianSeconds, .count stats.p90Seconds]

def ReportExportSection.header : ReportExportSection → List Text
  | .summary => summaryHeader
  | .agents => agentsHeader
  | .series => seriesHeader

/-- One row of values for each record, in the order of the header's columns. -/
def sectionCells (metrics : DashboardMetricsResponse) : ReportExportSection → List (List Cell)
  | .summary =>
    [[.text (some metrics.rangeFrom), .text (some metrics.rangeTo), .text (some metrics.timezone),
      .text (some metrics.scope), .count (some metrics.summary.volume.created),
      .count (some metrics.summary.volume.resolved), .count (some metrics.summary.volume.closedWithoutResolution)] ++
      metrics.summary.firstResponse.cells ++ metrics.summary.resolution.cells]
  | .agents =>
    metrics.agents.map (fun agent => [.text (some agent.kind), .text agent.userId, .text agent.name,
      .flag (some agent.isActive), .count (some agent.ticketsResolved)] ++ agent.firstResponse.cells ++
      agent.resolution.cells) ++
    [[.text (some (literal "total")), .text none, .text none, .flag none,
      .count (some metrics.summary.volume.resolved)] ++ metrics.summary.firstResponse.cells ++
      metrics.summary.resolution.cells]
  | .series =>
    metrics.series.map fun point => [.text (some point.date), .count (some point.created), .count (some point.resolved),
      .count point.firstResponseMedianSeconds]

def countOf (field : Text) : Option Nat :=
  if field = [] then none else some (Nat.ofDigits 10 (field.reverse.map fun u => u.toNat - 0x30))

def flagOf (field : Text) : Option Bool :=
  if field = literal "true" then some true else if field = literal "false" then some false else none

/-- A field gives its value back. A text comes back as `carried` has it, bare or behind the neutralising quote, and does
not begin like a formula. -/
def Cell.RecoveredFrom (carried : Text → Text) (field : Text) : Cell → Prop
  | .text none => field = []
  | .text (some value) => (field = carried value ∨ field = apostrophe :: carried value) ∧
      ∀ u ∈ field.head?, u ∉ formulaLeadCharacters
  | .count value => countOf field = value
  | .flag value => flagOf field = value

def parseExport (bytes : List UInt8) : Option (List (List Text)) :=
  match (Utf8.decode bytes).flatMap Utf16.units with
  | [] => none
  | u :: rest => if u = byteOrderMark then Csv.parse rest else none

/-- The header comes first and then the values of each row, a field for each column. -/
def ParsesBack (carried : Text → Text) (metrics : DashboardMetricsResponse) (part : ReportExportSection) : Prop :=
  ∃ records, parseExport (serialiseDashboardCsv metrics part) = some (part.header :: records) ∧
    List.Forall₂ (List.Forall₂ fun cell field => cell.RecoveredFrom carried field) (sectionCells metrics part) records ∧
    ∀ record ∈ records, record.length = part.header.length

def cellValue : Cell → Text
  | .text value => value.elim [] neutraliseFormula
  | .count value => count value
  | .flag value => flag value

def cellField : Cell → Text
  | .text value => text value
  | .count value => count value
  | .flag value => flag value

theorem quote_spells (value : Text) : Csv.Spells (quote value) value := by
  unfold quote
  split
  · exact .quoted value
  · rename_i h
    apply Csv.Spells.plain
    intro u hu
    simp only [Bool.or_eq_true, decide_eq_true_eq, List.contains_iff_mem, not_or] at h
    simp only [Csv.isSpecial, Bool.or_eq_false_iff, decide_eq_false_iff_not]
    refine ⟨⟨⟨?_, ?_⟩, ?_⟩, ?_⟩
    · exact fun heq => h.1.1.1.1 (heq ▸ hu)
    · exact fun heq => h.1.1.1.2 (heq ▸ hu)
    · exact fun heq => h.1.1.2 (heq ▸ hu)
    · exact fun heq => h.1.2 (heq ▸ hu)

theorem decimal_plain (hu : u ∈ decimal n) : Csv.isSpecial u = false ∧ Utf16.isSurrogate u = false := by
  have hdigits : ∀ d < 10, Csv.isSpecial (UInt16.ofNat (0x30 + d)) = false ∧
      Utf16.isSurrogate (UInt16.ofNat (0x30 + d)) = false := by decide
  unfold decimal at hu
  split at hu
  · rw [List.mem_singleton.mp hu]
    decide
  · obtain ⟨d, hd, rfl⟩ := List.mem_map.mp hu
    exact hdigits d (Nat.digits_lt_base (by decide) (List.mem_reverse.mp hd))

theorem countOf_decimal (n : Nat) : countOf (decimal n) = some n := by
  unfold decimal countOf
  split
  · rename_i hzero
    subst hzero
    rfl
  · rename_i hne
    have hnil : (Nat.digits 10 n).reverse.map (fun d => UInt16.ofNat (0x30 + d)) ≠ [] := by
      simpa [Nat.digits_ne_nil_iff_ne_zero] using hne
    have hback : ((Nat.digits 10 n).map fun d => (UInt16.ofNat (0x30 + d)).toNat - 0x30) = Nat.digits 10 n := by
      conv_rhs => rw [← List.map_id (Nat.digits 10 n)]
      apply List.map_congr_left
      intro d hd
      have hlt := Nat.digits_lt_base (by decide) hd
      rw [UInt16.toNat_ofNat', Nat.mod_eq_of_lt (by omega)]
      exact Nat.add_sub_cancel_left _ _
    rw [if_neg hnil, ← List.map_reverse, List.reverse_reverse, List.map_map]
    exact congrArg some ((congrArg (Nat.ofDigits 10) hback).trans (Nat.ofDigits_digits 10 n))

theorem cell_spells (c : Cell) : Csv.Spells (cellField c) (cellValue c) := by
  cases c with
  | text value =>
    cases value with
    | none => exact .plain nofun
    | some => exact quote_spells _
  | count value =>
    cases value with
    | none => exact .plain nofun
    | some => exact .plain fun u hu => (decimal_plain hu).1
  | flag value =>
    have hflag : ∀ u ∈ flag value, Csv.isSpecial u = false := by
      cases value with
      | none => exact nofun
      | some b => cases b <;> exact List.all_iff_forall_prop.mp (by decide +kernel)
    exact .plain hflag

theorem cell_recovered (c : Cell) : c.RecoveredFrom toWellFormed (toWellFormed (cellValue c)) := by
  cases c with
  | text value =>
    cases value with
    | none => rfl
    | some v =>
      have hvalue : cellValue (.text (some v)) = neutraliseFormula v := rfl
      rw [hvalue, neutraliseFormula]
      split
      · rw [Csv.toWellFormed_cons (by decide)]
        refine ⟨.inr rfl, fun u hu => ?_⟩
        cases hu
        decide
      · rename_i hlead
        refine ⟨.inl rfl, fun u hu hmem => ?_⟩
        rcases Utf16.head?_toWellFormed hu with rfl | hhead
        · exact absurd hmem (by decide)
        · rw [hhead] at hlead
          exact hlead (List.contains_iff_mem.mpr hmem)
  | count value =>
    cases value with
    | none => rfl
    | some n =>
      have hplain : toWellFormed (decimal n) = decimal n := Utf16.toWellFormed_of_plain fun u hu => (decimal_plain hu).2
      exact hplain ▸ countOf_decimal n
  | flag value =>
    cases value with
    | none => rfl
    | some b =>
      cases b with
      | false => exact (by decide +kernel : flagOf (toWellFormed (flag (some false))) = some false)
      | true => exact (by decide +kernel : flagOf (toWellFormed (flag (some true))) = some true)

theorem sectionRows_eq (metrics : DashboardMetricsResponse) (part : ReportExportSection) :
    sectionRows metrics part = part.header :: (sectionCells metrics part).map (List.map cellField) := by
  cases part with
  | summary => rfl
  | agents =>
    rw [sectionRows, sectionCells, List.map_append, List.map_map]
    rfl
  | series =>
    rw [sectionRows, sectionCells, List.map_map]
    rfl

theorem length_of_mem_sectionCells (h : cells ∈ sectionCells metrics part) : cells.length = part.header.length := by
  cases part with
  | summary =>
    rw [List.mem_singleton.mp h]
    rfl
  | agents =>
    rcases List.mem_append.mp h with h | h
    · obtain ⟨agent, -, rfl⟩ := List.mem_map.mp h
      rfl
    · rw [List.mem_singleton.mp h]
      rfl
  | series =>
    obtain ⟨point, -, rfl⟩ := List.mem_map.mp h
    rfl

theorem header_plain (part : ReportExportSection) :
    part.header ≠ [] ∧ ∀ field ∈ part.header, ∀ u ∈ field, Csv.isSpecial u = false ∧ Utf16.isSurrogate u = false := by
  have hplain : part.header.all (·.all fun u => !Csv.isSpecial u && !Utf16.isSurrogate u) = true := by
    cases part <;> decide +kernel
  refine ⟨by cases part <;> exact List.cons_ne_nil _ _, fun field hfield u hu => ?_⟩
  simpa using List.all_eq_true.mp (List.all_eq_true.mp hplain field hfield) u hu

/-- Lines with an ending between them and one at the end are lines that each have theirs. -/
theorem intercalate_lines (hne : rows ≠ []) :
    List.intercalate [Csv.cr, Csv.lf] (rows.map (List.intercalate [Csv.comma])) ++ [Csv.cr, Csv.lf] = Csv.render rows := by
  induction rows with
  | nil => exact absurd rfl hne
  | cons fields rows ih =>
    cases rows with
    | nil => simp [Csv.render, Csv.line]
    | cons =>
      have hrest := ih (List.cons_ne_nil _ _)
      simp only [List.map_cons, Csv.render, List.flatMap_cons, Csv.line] at hrest ⊢
      rw [← hrest]
      simp [List.intercalate]

theorem parseExport_serialise (metrics : DashboardMetricsResponse) (part : ReportExportSection) :
    parseExport (serialiseDashboardCsv metrics part) =
      Csv.parse (Csv.render ((sectionRows metrics part).map (List.map toWellFormed))) := by
  have hne : sectionRows metrics part ≠ [] := by
    rw [sectionRows_eq]
    exact List.cons_ne_nil _ _
  have hfile : (Utf8.decode (serialiseDashboardCsv metrics part)).flatMap Utf16.units =
      byteOrderMark :: Csv.render ((sectionRows metrics part).map (List.map toWellFormed)) := by
    rw [serialiseDashboardCsv, Utf8.decode_encode, Utf16.flatMap_units_characters, intercalate_lines hne,
      Csv.toWellFormed_cons (by decide), Csv.toWellFormed_render]
  rw [parseExport, hfile]
  exact if_pos rfl

/-- Every export parses back, with U+FFFD for what UTF-8 cannot carry. -/
theorem dashboard_csv_parses_back (metrics : DashboardMetricsResponse) (part : ReportExportSection) :
    ParsesBack toWellFormed metrics part := by
  have hheader : List.Forall₂ Csv.Spells (part.header.map toWellFormed) part.header := by
    rw [List.forall₂_map_left_iff, List.forall₂_same]
    intro field hfield
    have hplain := (header_plain part).2 field hfield
    rw [Utf16.toWellFormed_of_plain fun u hu => (hplain u hu).2]
    exact .plain fun u hu => (hplain u hu).1
  have hcells : List.Forall₂ (List.Forall₂ Csv.Spells)
      (((sectionCells metrics part).map (List.map cellField)).map (List.map toWellFormed))
      ((sectionCells metrics part).map (List.map fun c => toWellFormed (cellValue c))) := by
    rw [List.map_map, List.forall₂_map_left_iff, List.forall₂_map_right_iff, List.forall₂_same]
    intro cells _
    rw [Function.comp_apply, List.map_map, List.forall₂_map_left_iff, List.forall₂_map_right_iff, List.forall₂_same]
    exact fun c _ => (cell_spells c).toWellFormed
  refine ⟨(sectionCells metrics part).map (List.map fun c => toWellFormed (cellValue c)), ?_, ?_, ?_⟩
  · rw [parseExport_serialise, sectionRows_eq, List.map_cons]
    apply Csv.parse_render (.cons hheader hcells) (List.cons_ne_nil _ _)
    intro fields hfields hnil
    have hlength : 0 < part.header.length := List.length_pos_of_ne_nil (header_plain part).1
    rcases List.mem_cons.mp hfields with rfl | hfields
    · exact (header_plain part).1 (List.map_eq_nil_iff.mp hnil)
    · obtain ⟨row, hrow, rfl⟩ := List.mem_map.mp hfields
      obtain ⟨cells, hcells, rfl⟩ := List.mem_map.mp hrow
      rw [List.map_eq_nil_iff, List.map_eq_nil_iff] at hnil
      rw [← length_of_mem_sectionCells hcells, hnil] at hlength
      exact absurd hlength (Nat.lt_irrefl 0)
  · rw [List.forall₂_map_right_iff, List.forall₂_same]
    intro cells _
    rw [List.forall₂_map_right_iff, List.forall₂_same]
    exact fun c _ => cell_recovered c
  · intro record hrecord
    obtain ⟨cells, hcells, rfl⟩ := List.mem_map.mp hrecord
    rw [List.length_map, length_of_mem_sectionCells hcells]

def noDurations : DurationStats := { count := 0, averageSeconds := none, medianSeconds := none, p90Seconds := none }

/-- One agent, whose name is half of a pair of surrogates. -/
def halfNamed : DashboardMetricsResponse where
  rangeFrom := []
  rangeTo := []
  timezone := []
  scope := []
  summary := { volume := { created := 0, resolved := 0, closedWithoutResolution := 0 }, firstResponse := noDurations, resolution := noDurations }
  agents := [{ userId := none, name := some [0xD800], isActive := true, ticketsResolved := 0, firstResponse := noDurations, resolution := noDurations }]
  series := []

/-- Its bytes cannot say the name. -/
theorem dashboard_csv_loses_lone_surrogate : ¬ ∀ metrics part, ParsesBack id metrics part := by
  intro hclaim
  obtain ⟨records, hparse, hcells, -⟩ := hclaim halfNamed .agents
  have hnames : (parseExport (serialiseDashboardCsv halfNamed .agents)).map (fun rows => rows.map (·[2]?)) =
      some [some (literal "name"), some [0xFFFD], some []] := by
    decide +kernel
  rw [hparse] at hnames
  cases hcells with
  | cons hagent _ =>
    rcases hagent with _ | ⟨-, hrest⟩
    rcases hrest with _ | ⟨-, hrest⟩
    rcases hrest with _ | ⟨hname, -⟩
    simp only [Option.map_some, List.map_cons, Option.some.injEq, List.cons.injEq] at hnames
    cases hnames.2.1
    exact absurd hname.1 (by decide)

end WhatsappCrm.Reporting
