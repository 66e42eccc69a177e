/-
What scoring makes of candidates, and what can be read off their rows. A
candidate comes out of its repair loop as valid, as failed or as unavailable
(`Candidate.Fresh`), and only a valid one is scored (`Scoring`). That leaves
four shapes that a row can have; `Scoring.shape` finds the one.
-/
import Mathlib.Data.List.Forall2
import RemapSynth.Proofs.Repair.Flow
import RemapSynth.Proofs.Selection.Ending

namespace RemapSynth.Selection

open Chat Dialogue

variable {Cost : Type}

/-! ## What is asked -/

/-- What scoring makes of a candidate. -/
inductive Scoring (c : Candidate Cost) : Candidate Cost → Prop
  | scored (hvalid : c.isValid = true) (result : Except Failure Score.Measurement) :
    Scoring c (c.scored result)
  | skipped (hvalid : c.isValid = false) : Scoring c c

/-- Just the valid candidates are given to the scorer, each once and in order. -/
theorem history_scoreValid {samples : List Sample} {cs measured : List (Candidate Cost)}
    {calls : List (Call Cost)}
    (h : History (scoreValid samples cs) calls measured) :
    List.Forall₂ Scoring cs measured ∧
      calls.map (·.1) = (cs.filter (·.isValid)).map fun c => .score c.code samples := by
  induction cs generalizing calls measured with
  | nil =>
    obtain ⟨rfl, rfl⟩ := history_done.1 h
    exact ⟨.nil, rfl⟩
  | cons c cs ih =>
    rw [scoreValid] at h
    split at h
    next hvalid =>
      obtain ⟨reply, rest, rfl, hrest⟩ := history_ask.1 h
      obtain ⟨more, hmore, rfl⟩ := history_map.1 hrest
      obtain ⟨hscoring, hcalls⟩ := ih hmore
      refine ⟨.cons (.scored hvalid reply) hscoring, ?_⟩
      rw [List.map_cons, hcalls, List.filter_cons_of_pos hvalid, List.map_cons]
    next hvalid =>
      obtain ⟨more, hmore, rfl⟩ := history_map.1 h
      obtain ⟨hscoring, hcalls⟩ := ih hmore
      exact ⟨.cons (.skipped (by simpa using hvalid)) hscoring,
        by rw [hcalls, List.filter_cons_of_neg hvalid]⟩

/-- The conclusion asks for the scores of the valid candidates, then for the cost of everything. -/
theorem history_conclude [LT Cost] [DecidableLT Cost] {a : Assignment} {cs : List (Candidate Cost)}
    {calls : List (Call Cost)} {result : Except Failure (Outcome Cost)}
    (h : History (conclude a cs) calls result) :
    ∃ measured cost, List.Forall₂ Scoring cs measured ∧
      calls.map (·.1) =
        ((cs.filter (·.isValid)).map fun c => .score c.code a.samples) ++ [.spent] ∧
      ⟨.spent, cost⟩ ∈ calls ∧ result = .ok (outcome a.goal measured cost) := by
  obtain ⟨measured, scores, rest, rfl, hscores, hrest⟩ := history_bind.1 h
  obtain ⟨hscoring, hcalls⟩ := history_scoreValid hscores
  obtain ⟨cost, _, rfl, hdone⟩ := history_ask.1 hrest
  obtain ⟨rfl, rfl⟩ := history_done.1 hdone
  exact ⟨measured, cost, hscoring, by rw [List.map_append, hcalls]; rfl, by simp, rfl⟩

/-! ## Candidates before and after -/

theorem Scoring.keeps {c c' : Candidate Cost} (h : Scoring c c') :
    c'.row.strategy = c.row.strategy ∧ c'.row.valid = c.row.valid ∧ c'.row.cost = c.row.cost := by
  cases h with
  | scored hvalid result => cases result <;> exact ⟨rfl, rfl, rfl⟩
  | skipped hvalid => exact ⟨rfl, rfl, rfl⟩

/-- A part of the rows that scoring leaves as it is. -/
theorem map_rows [LT Cost] [DecidableLT Cost] {α : Type} {f : Row Cost → α} {goal : Settings.Goal}
    {cost : Cost} {cs measured : List (Candidate Cost)} (h : List.Forall₂ Scoring cs measured)
    (hkeeps : ∀ c c', Scoring c c' → f c'.row = f c.row) :
    (outcome goal measured cost).rows.map f = cs.map fun c => f c.row := by
  rw [outcome, List.map_map]
  induction h with
  | nil => rfl
  | cons h _ ih => rw [List.map_cons, List.map_cons, ih, Function.comp_apply, hkeeps _ _ h]

/-- A part of the candidates that only depends on what their loops came to. -/
theorem map_ofResult [Zero Cost] {α : Type} {f : Candidate Cost → α} {g : Job Cost → α}
    {strategies : List Strategy} {results : List (Except Failure (Repair.Report Cost))}
    (hf : ∀ strategy r, f (.ofResult strategy r) = g (.ended r))
    (hlength : results.length = strategies.length) :
    (List.zipWith Candidate.ofResult strategies results).map f =
      (results.map Job.ended).map g := by
  induction strategies generalizing results with
  | nil =>
    obtain rfl := List.eq_nil_of_length_eq_zero hlength
    rfl
  | cons strategy strategies ih =>
    match results, hlength with
    | r :: results, hlength =>
      rw [List.zipWith_cons_cons, List.map_cons, List.map_cons, List.map_cons, hf,
        ih (Nat.succ.inj hlength)]

theorem map_name_ofResult [Zero Cost] {strategies : List Strategy}
    {results : List (Except Failure (Repair.Report Cost))}
    (hlength : results.length = strategies.length) :
    ((List.zipWith Candidate.ofResult strategies results).map fun c => c.row.strategy) =
      strategies.map (·.name) := by
  induction strategies generalizing results with
  | nil => rfl
  | cons strategy strategies ih =>
    match results, hlength with
    | r :: results, hlength =>
      have hname : (Candidate.ofResult strategy r).row.strategy = strategy.name := by
        cases r <;> rfl
      rw [List.zipWith_cons_cons, List.map_cons, List.map_cons, hname, ih (Nat.succ.inj hlength)]

/-- A candidate that comes out of its repair loop. -/
structure Candidate.Fresh [Zero Cost] (c : Candidate Cost) : Prop where
  measurement : c.measurement = none
  valid : c.isValid = true → c.unavailable = false
  failed : c.isValid = false → c.lastError.isSome = true
  unavailable : c.unavailable = true → c.iterations = 0 ∧ c.totalCost = 0

theorem fresh_ofResult [Add Cost] [Zero Cost] {a : Repair.Assignment} {strategy : Strategy}
    {calls : List (Repair.Call Cost)}
    {result : Except Failure (Repair.Report Cost)} (h : History (Repair.run a) calls result) :
    (Candidate.ofResult strategy result).Fresh := by
  cases result with
  | error failure => exact ⟨rfl, nofun, fun _ => rfl, fun _ => ⟨rfl, rfl⟩⟩
  | ok report => exact ⟨rfl, fun _ => rfl, Repair.isSome_lastError h, nofun⟩

/-- What the row of a job says that it has cost; an aborted loop is said to have cost nothing. -/
def Job.cost [Zero Cost] : Job Cost → Cost
  | ended (.ok report) => report.totalCost
  | _ => 0

theorem cost_ofResult [Zero Cost] (strategy : Strategy)
    (result : Except Failure (Repair.Report Cost)) :
    (Candidate.ofResult strategy result).row.cost = (Job.ended result).cost := by
  cases result <;> rfl

/-- The final program of a candidate whose loop has succeeded. -/
def Candidate.program? (c : Candidate Cost) : Option String :=
  if c.isValid then some c.code else none

/-- The final program of a loop that has succeeded. -/
def Job.program? : Job Cost → Option String
  | ended (.ok report) => if report.success then some report.code else none
  | _ => none

theorem program?_ofResult [Zero Cost] (strategy : Strategy)
    (result : Except Failure (Repair.Report Cost)) :
    (Candidate.ofResult strategy result).program? = (Job.ended result).program? := by
  cases result <;> rfl

theorem isValid_ofResult [Zero Cost] (strategy : Strategy)
    (result : Except Failure (Repair.Report Cost)) :
    (Candidate.ofResult strategy result).isValid = (Job.ended result).program?.isSome := by
  cases result with
  | error failure => rfl
  | ok report => cases hsuccess : report.success <;> simp [Candidate.ofResult, Candidate.ofReport,
      Job.program?, hsuccess]

theorem map_code_filter_isValid (cs : List (Candidate Cost)) :
    (cs.filter (·.isValid)).map (·.code) = (cs.map (·.program?)).filterMap id := by
  induction cs with
  | nil => rfl
  | cons c cs ih =>
    cases hvalid : c.isValid <;> simp_all [Candidate.program?]

/-- The programs that are scored are the final ones of the loops that have succeeded. -/
theorem map_code_ofResult [Zero Cost] {strategies : List Strategy}
    {results : List (Except Failure (Repair.Report Cost))}
    (hlength : results.length = strategies.length) :
    ((List.zipWith Candidate.ofResult strategies results).filter (·.isValid)).map (·.code) =
      (results.map Job.ended).filterMap Job.program? := by
  rw [map_code_filter_isValid, map_ofResult program?_ofResult hlength, List.filterMap_map]
  rfl

/-! ## The shapes of rows -/

/-- What a row can say. -/
inductive Shape
  /-- The program is valid and was measured. -/
  | scored
  /-- No valid program was found. -/
  | failed
  /-- The repair loop itself failed. -/
  | loopUnavailable
  /-- The program is valid, and measuring it failed. -/
  | unmeasured
  deriving Repr, DecidableEq

/-- Whether a row says just that. -/
def Row.Has [Zero Cost] (r : Row Cost) : Shape → Prop
  | .scored =>
    r.valid = true ∧ r.unavailable = false ∧ r.index.isSome = true ∧ r.failureReason = none
  | .failed =>
    r.valid = false ∧ r.unavailable = false ∧ r.index = none ∧ r.failureReason.isSome = true
  | .loopUnavailable =>
    r.valid = false ∧ r.unavailable = true ∧ r.index = none ∧ r.iterations = 0 ∧ r.cost = 0 ∧
      r.failureReason.isSome = true
  | .unmeasured =>
    r.valid = true ∧ r.unavailable = true ∧ r.index = none ∧ r.failureReason.isSome = true

section
variable [Zero Cost]

theorem Row.Has.unique {r : Row Cost} {shape shape' : Shape} (h : r.Has shape)
    (h' : r.Has shape') : shape = shape' := by
  cases shape <;> cases shape' <;> simp_all [Row.Has]

theorem Scoring.exists_shape {c c' : Candidate Cost} (h : Scoring c c') (hfresh : c.Fresh) :
    ∃ shape, c'.row.Has shape := by
  obtain ⟨hmeasurement, hvalid, hfailed, hunavailable⟩ := hfresh
  cases h with
  | scored hv result =>
    cases result with
    | ok measurement =>
      exact ⟨.scored, by simp [Row.Has, Candidate.row, Candidate.scored, hv, hvalid hv]⟩
    | error failure => exact ⟨.unmeasured, by simp [Row.Has, Candidate.row, Candidate.scored, hv]⟩
  | skipped hv =>
    cases hu : c.unavailable with
    | false =>
      exact ⟨.failed, by simp [Row.Has, Candidate.row, hv, hu, hmeasurement, hfailed hv]⟩
    | true =>
      exact ⟨.loopUnavailable, by
        simp [Row.Has, Candidate.row, hv, hu, hmeasurement, hfailed hv, hunavailable hu]⟩

/-- A row is a scored one just when its candidate has a standing. -/
theorem Scoring.has_scored_iff {c c' : Candidate Cost} (h : Scoring c c') (hfresh : c.Fresh) :
    c'.row.Has .scored ↔ c'.standing?.isSome = true := by
  obtain ⟨hmeasurement, hvalid, -, -⟩ := hfresh
  cases h with
  | scored hv result =>
    cases result <;>
      simp [Row.Has, Candidate.row, Candidate.scored, Candidate.standing?, hv, hvalid hv]
  | skipped hv => simp [Row.Has, Candidate.row, Candidate.standing?, hv]

end

/-! ## Selections that have come to an end -/

section
variable [Add Cost] [Zero Cost] [LT Cost] [DecidableLT Cost] {a : Assignment}
  {events : List (Event Cost)} {s : State Cost}
  {results : List (Except Failure (Repair.Report Cost))}
  {result : Except Failure (Outcome Cost)} {c : Candidate Cost}

theorem Concludes.fresh (h : Concludes a events s results result)
    (hc : c ∈ List.zipWith .ofResult a.strategies results) : c.Fresh := by
  obtain ⟨place, hplace⟩ := List.getElem?_of_mem hc
  obtain ⟨strategy, r, hs, hr, rfl⟩ := List.getElem?_zipWith_eq_some.1 hplace
  exact fresh_ofResult (h.loops place strategy r hs hr)

/-- What a selection comes to, told from what its loops have come to. -/
theorem Concludes.outcome (h : Concludes a events s results result) :
    ∃ measured, List.Forall₂ Scoring (List.zipWith .ofResult a.strategies results) measured ∧
      result = .ok (outcome a.goal measured s.ledger.totalCost) ∧
      questions events =
        ((s.jobs.filterMap Job.program?).map fun code => .score code a.samples) ++ [.spent] := by
  obtain ⟨measured, cost, hscoring, hasked, hspent, rfl⟩ := history_conclude h.conclusion
  have hcost : cost = s.ledger.totalCost := h.isTrue _ hspent
  refine ⟨measured, hscoring, by rw [hcost], ?_⟩
  rw [h.asked, hasked, h.jobs, ← map_code_ofResult h.length, List.map_map]
  rfl

/-- With samples every selection comes to an outcome. -/
theorem comesTo_outcome {workers : Nat} {before : Ledger Cost} (hsamples : a.samples ≠ []) :
    ComesTo a (fun result => ∃ outcome, result = .ok outcome) (.opening a workers before) := by
  refine comesTo_opening fun events s result hrun hresult => ?_
  obtain ⟨results, hconcludes⟩ := hrun.concludes (fault?_eq_none hsamples) hresult
  obtain ⟨measured, -, rfl, -⟩ := hconcludes.outcome
  exact ⟨_, rfl⟩

variable {o : Outcome Cost}

theorem Concludes.map_strategy_rows (h : Concludes a events s results (.ok o)) :
    o.rows.map (·.strategy) = a.strategies.map (·.name) := by
  obtain ⟨measured, hscoring, ho, -⟩ := h.outcome
  cases ho
  rw [map_rows hscoring fun _ _ h => h.keeps.1]
  exact map_name_ofResult h.length

theorem Concludes.map_valid_rows (h : Concludes a events s results (.ok o)) :
    o.rows.map (·.valid) = s.jobs.map (·.program?.isSome) := by
  obtain ⟨measured, hscoring, ho, -⟩ := h.outcome
  cases ho
  rw [map_rows hscoring fun _ _ h => h.keeps.2.1, h.jobs]
  exact map_ofResult isValid_ofResult h.length

theorem Concludes.map_cost_rows (h : Concludes a events s results (.ok o)) :
    o.rows.map (·.cost) = s.jobs.map (·.cost) := by
  obtain ⟨measured, hscoring, ho, -⟩ := h.outcome
  cases ho
  rw [map_rows hscoring fun _ _ h => h.keeps.2.2, h.jobs]
  exact map_ofResult cost_ofResult h.length

end
end RemapSynth.Selection
