/-
The table of candidates. Every selection that has samples comes to an
outcome, whatever its collaborators answer: loops and scorings that fail are
rows of the table, not failures of the selection. There is one row for each
strategy and it says one of four things; the winner's row is one of those that
say a program was measured.
-/
import RemapSynth.Proofs.Selection.Ranking
import RemapSynth.Proofs.Selection.Scoring
import RemapSynth.Proofs.Selection.Serial

namespace RemapSynth.Selection

open Chat Dialogue

variable {Cost : Type}

/-! ## Rows -/

section
variable {cs measured : List (Candidate Cost)} {c' : Candidate Cost}

theorem exists_scoring (h : List.Forall₂ Scoring cs measured) (hc : c' ∈ measured) :
    ∃ c ∈ cs, Scoring c c' := by
  induction h with
  | nil => cases hc
  | @cons c _ cs _ h _ ih =>
    rcases List.mem_cons.1 hc with rfl | hc
    · exact ⟨c, by simp, h⟩
    · obtain ⟨c, hmem, hscoring⟩ := ih hc
      exact ⟨c, by simp [hmem], hscoring⟩

variable [Zero Cost]

theorem has_scored_iff (h : List.Forall₂ Scoring cs measured) (hfresh : ∀ c ∈ cs, c.Fresh)
    (hc' : c' ∈ measured) : c'.row.Has .scored ↔ c'.standing?.isSome = true := by
  obtain ⟨c, hc, hscoring⟩ := exists_scoring h hc'
  exact hscoring.has_scored_iff (hfresh c hc)

variable [LT Cost] [DecidableLT Cost] {goal : Settings.Goal} {cost : Cost}

theorem existsUnique_shape (h : List.Forall₂ Scoring cs measured) (hfresh : ∀ c ∈ cs, c.Fresh)
    {row : Row Cost} (hrow : row ∈ (outcome goal measured cost).rows) :
    ∃! shape, row.Has shape := by
  obtain ⟨c', hc', rfl⟩ := List.mem_map.1 hrow
  obtain ⟨c, hc, hscoring⟩ := exists_scoring h hc'
  obtain ⟨shape, hshape⟩ := hscoring.exists_shape (hfresh c hc)
  exact ⟨shape, hshape, fun _ h => h.unique hshape⟩

theorem winner_eq_none_iff_rows (h : List.Forall₂ Scoring cs measured)
    (hfresh : ∀ c ∈ cs, c.Fresh) :
    (outcome goal measured cost).winner = none ↔
      ∀ row ∈ (outcome goal measured cost).rows, ¬ row.Has .scored := by
  rw [winner_eq_none_iff, outcome, List.forall_mem_map]
  refine forall₂_congr fun c' hc' => ?_
  rw [has_scored_iff h hfresh hc', Option.not_isSome_iff_eq_none]

theorem winner_row (h : List.Forall₂ Scoring cs measured) (hfresh : ∀ c ∈ cs, c.Fresh)
    (hwinner : (outcome goal measured cost).winner = some c') :
    c'.row ∈ (outcome goal measured cost).rows ∧ c'.row.Has .scored := by
  obtain ⟨hmem, hstanding⟩ := mem_of_winner_eq_some hwinner
  exact ⟨List.mem_map_of_mem hmem, (has_scored_iff h hfresh hmem).2 hstanding⟩

end

/-! ## The table -/

variable [Add Cost] [Zero Cost] [LT Cost] [DecidableLT Cost]

/-- **Selections with samples come to a table.** Whichever loop goes on at any moment, and whatever
is answered, a selection comes to an outcome, with a row for each strategy in order. Every row says
one of four things, and is of a valid program if the strategy's loop has succeeded. There is a
winner as soon as one row is of a measured program, and it is the candidate of such a row. Just the
final programs of the loops that have succeeded are scored, each once. All this is what the loops
come to one after another. Without samples a selection fails before anything is asked. -/
theorem selection_table (a : Assignment) (workers : Nat) (before : Ledger Cost) :
    (a.samples = [] → ∀ events s, Run a (.opening a workers before) events s →
      events = [] ∧
        s.result? = some (.error (.configuration "no samples to generate from"))) ∧
    (a.samples ≠ [] →
      ComesTo a (fun result => ∃ outcome, result = .ok outcome) (.opening a workers before) ∧
      ∀ events s outcome, Run a (.opening a workers before) events s →
        s.result? = some (.ok outcome) →
        outcome.rows.map (·.strategy) = a.strategies.map (·.name) ∧
        outcome.rows.map (·.valid) = s.jobs.map (·.program?.isSome) ∧
        (∀ row ∈ outcome.rows, ∃! shape, row.Has shape) ∧
        (outcome.winner = none ↔ ∀ row ∈ outcome.rows, ¬ row.Has .scored) ∧
        (∀ winner, outcome.winner = some winner →
          winner.row ∈ outcome.rows ∧ winner.row.Has .scored) ∧
        questions events =
          ((s.jobs.filterMap Job.program?).map fun code => .score code a.samples) ++ [.spent] ∧
        History (run a)
          (serial (loopCalls events) (List.range a.strategies.length) ++ answers events)
          (.ok outcome)) := by
  refine ⟨fun hnil events s hrun => ?_, fun hsamples => ⟨comesTo_outcome hsamples, ?_⟩⟩
  · have hfault := fault?_of_samples_eq_nil hnil
    obtain ⟨rfl, rfl⟩ := hrun.eq_opening hfault
    exact ⟨rfl, result?_opening hfault⟩
  · intro events s outcome hrun hresult
    have hfault := fault?_eq_none hsamples
    obtain ⟨results, hconcludes⟩ := hrun.concludes hfault hresult
    have hserial := hconcludes.history_run hfault
    have hnames := hconcludes.map_strategy_rows
    have hvalid := hconcludes.map_valid_rows
    obtain ⟨measured, hscoring, houtcome, hquestions⟩ := hconcludes.outcome
    cases houtcome
    exact ⟨hnames, hvalid, fun _ => existsUnique_shape hscoring fun _ => hconcludes.fresh,
      winner_eq_none_iff_rows hscoring fun _ => hconcludes.fresh,
      fun _ => winner_row hscoring fun _ => hconcludes.fresh, hquestions, hserial⟩

theorem selection_table_quartet :
    quartet.samples ≠ [] ∧
    ComesTo quartet (fun result => ∃ outcome, result = .ok outcome)
      (.opening quartet 2 quartetLedger) ∧
    Run quartet (.opening quartet 2 quartetLedger) quartetEvents quartetEnd ∧
    quartetEnd.result? = some (.ok quartetOutcome) ∧
    quartetOutcome.rows.map (·.strategy) = ["scored", "unmeasured", "failed", "aborted"] ∧
    quartetOutcome.rows.map (·.valid) = [true, true, false, false] ∧
    (∀ row ∈ quartetOutcome.rows, ∃! shape, row.Has shape) ∧
    (∃ winner, quartetOutcome.winner = some winner ∧ winner.row.Has .scored) ∧
    questions quartetEvents =
      [.score "scored" quartet.samples, .score "unmeasured" quartet.samples, .spent] ∧
    (State.opening { quartet with samples := [] } 2 quartetLedger).result? =
      some (.error (.configuration "no samples to generate from")) := by
  obtain ⟨hends, htable⟩ := (selection_table quartet 2 quartetLedger).2 nofun
  obtain ⟨-, hfails⟩ :=
    (selection_table { quartet with samples := [] } 2 quartetLedger).1 rfl _ _ .nil
  obtain ⟨hnames, hvalid, hshapes, -, hwinner, hquestions, -⟩ := htable _ _ _ run_quartet rfl
  exact ⟨nofun, hends, run_quartet, rfl, hnames, hvalid, hshapes,
    ⟨_, rfl, (hwinner _ rfl).2⟩, hquestions, hfails⟩

end RemapSynth.Selection
