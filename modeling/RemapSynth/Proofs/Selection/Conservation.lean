/-
No cost is lost or counted twice when loops share a ledger. Each loop on its
own pays for what it was delivered, also when it is aborted; the calls of all
loops are the calls of each, in another order (`perm_callsAt`); and a sum of
exact amounts does not depend on the order. So the ledger ends up with the
sum of everything delivered, whichever loop went on at any moment.
-/
import RemapSynth.Proofs.Selection.Scoring

namespace RemapSynth.Selection

open Chat Dialogue

variable {Cost : Type}

/-! ## Calls by place -/

theorem filter_lt_succ_perm (calls : List (LoopCall Cost)) (n : Nat) :
    (calls.filter (·.1 < n) ++ calls.filter (·.1 = n)).Perm (calls.filter (·.1 < n + 1)) := by
  have hsplit := List.filter_append_perm (fun c : LoopCall Cost => decide (c.1 < n))
    (calls.filter (·.1 < n + 1))
  rw [List.filter_filter, List.filter_filter] at hsplit
  have hbelow : ∀ c ∈ calls,
      (decide (c.1 < n) && decide (c.1 < n + 1)) = decide (c.1 < n) := fun c _ => by
    rw [Bool.eq_iff_iff, Bool.and_eq_true, decide_eq_true_eq, decide_eq_true_eq]
    omega
  have hthere : ∀ c ∈ calls,
      (!decide (c.1 < n) && decide (c.1 < n + 1)) = decide (c.1 = n) := fun c _ => by
    rw [Bool.eq_iff_iff, Bool.and_eq_true, Bool.not_eq_true', decide_eq_false_iff_not,
      decide_eq_true_eq, decide_eq_true_eq]
    omega
  rwa [List.filter_congr hbelow, List.filter_congr hthere] at hsplit

/-- The calls at all places are all calls. -/
theorem perm_callsAt {calls : List (LoopCall Cost)} {n : Nat} (h : ∀ c ∈ calls, c.1 < n) :
    ((List.range n).flatMap (callsAt calls)).Perm (calls.map (·.2)) := by
  suffices hfilter : ((List.range n).flatMap (callsAt calls)).Perm
      ((calls.filter (·.1 < n)).map (·.2)) by
    rwa [List.filter_eq_self.2 (by simpa using h)] at hfilter
  clear h
  induction n with
  | zero => simp
  | succ n ih =>
    rw [List.range_succ, List.flatMap_append, List.flatMap_singleton]
    refine (ih.append_right _).trans ?_
    rw [callsAt, ← List.map_append]
    exact (filter_lt_succ_perm calls n).map _

/-- Calls that are the same at every place are the same calls in another order. -/
theorem perm_of_callsAt_eq {calls calls' : List (LoopCall Cost)} {n : Nat}
    (h : ∀ c ∈ calls, c.1 < n) (h' : ∀ c ∈ calls', c.1 < n)
    (hsame : ∀ place, callsAt calls' place = callsAt calls place) :
    (calls'.map (·.2)).Perm (calls.map (·.2)) := by
  have hperm := perm_callsAt h'
  rw [funext hsame] at hperm
  exact hperm.symm.trans (perm_callsAt h)

/-! ## What loops have spent together -/

section
variable [Add Cost] {a : Assignment} {before : Ledger Cost} {calls : List (LoopCall Cost)}
  {s : State Cost} {place : Nat} {strategy : Strategy}

/-- At the end of all loops, each has made the calls at its place and no other ones. -/
theorem Tracks.history (ht : Tracks a before calls s) (hended : ∀ job ∈ s.jobs, job.isEnded)
    (hplace : place < a.strategies.length) :
    ∃ strategy result, a.strategies[place]? = some strategy ∧
      History (Repair.run (a.loop strategy)) (callsAt calls place) result := by
  have hlt : place < s.jobs.length := ht.length ▸ hplace
  have hfollows := ht.follow place _ _ (List.getElem?_eq_getElem hplace)
    (List.getElem?_eq_getElem hlt)
  have hend := hended _ (List.getElem_mem hlt)
  cases hjob : s.jobs[place] with
  | waiting strategy => simp [hjob, Job.isEnded] at hend
  | running course => simp [hjob, Job.isEnded] at hend
  | ended result =>
    rw [hjob] at hfollows
    cases hfollows with
    | ended h => exact ⟨_, result, List.getElem?_eq_getElem hplace, h⟩

/-- What was recorded is what was delivered, in another order. -/
theorem Tracks.recorded_perm (ht : Tracks a before calls s) (hended : ∀ job ∈ s.jobs, job.isEnded) :
    (Repair.recorded (calls.map (·.2))).Perm (Repair.delivered (calls.map (·.2))) := by
  have hperm := perm_callsAt ht.places
  -- loop by loop the two are equal, and not only in another order
  have hpaid : Repair.recorded ((List.range a.strategies.length).flatMap (callsAt calls)) =
      Repair.delivered ((List.range a.strategies.length).flatMap (callsAt calls)) := by
    rw [Repair.recorded, Repair.delivered, List.filterMap_flatMap, List.filterMap_flatMap]
    refine List.flatMap_congr fun place hplace => ?_
    obtain ⟨strategy, result, -, h⟩ := ht.history hended (List.mem_range.1 hplace)
    exact (Repair.pays_run h).1
  exact (Repair.recorded_perm hperm).symm.trans (hpaid ▸ Repair.delivered_perm hperm)

end

section
variable [AddCommMonoid Cost] [LT Cost] [DecidableLT Cost] {a : Assignment} {workers : Nat}
  {before : Ledger Cost} {events : List (Event Cost)} {s : State Cost}

theorem Run.ledger_total (h : Run a (.opening a workers before) events s)
    (hended : ∀ job ∈ s.jobs, job.isEnded) :
    s.ledger.total = Usage.merge before.total
      (Usage.mergeAll (Repair.delivered ((loopCalls events).map (·.2)))) := by
  have ht := h.tracks_opening
  rw [ht.ledger, Usage.foldl_merge, Usage.mergeAll_perm (ht.recorded_perm hended)]

theorem Run.ledger_eq {workers' : Nat} {events' : List (Event Cost)} {s' : State Cost}
    (h : Run a (.opening a workers before) events s) (hended : ∀ job ∈ s.jobs, job.isEnded)
    (h' : Run a (.opening a workers' before) events' s') (hended' : ∀ job ∈ s'.jobs, job.isEnded)
    (hsame : ∀ place, callsAt (loopCalls events') place = callsAt (loopCalls events) place) :
    s'.ledger = s.ledger := by
  have hperm := perm_of_callsAt_eq h.tracks_opening.places h'.tracks_opening.places hsame
  have htotal : s'.ledger.total = s.ledger.total := by
    rw [h.ledger_total hended, h'.ledger_total hended',
      Usage.mergeAll_perm (Repair.delivered_perm hperm)]
  exact congrArg Ledger.mk htotal

/-- **Cost is conserved.** Once all loops have ended, the ledger has gained the usage of every
program that was delivered to a loop, each once, also those delivered to loops that were aborted.
However the loops take turns, and however many workers there are, it is the same as long as the
calls of each loop are. The total of the outcome is the cost of the ledger; and a loop's report,
as well as the row of its candidate, tells the sum of just what was delivered to that loop. -/
theorem cost_conserved (h : Run a (.opening a workers before) events s)
    (hended : ∀ job ∈ s.jobs, job.isEnded) :
    s.ledger.total = Usage.merge before.total
      (Usage.mergeAll (Repair.delivered ((loopCalls events).map (·.2)))) ∧
    (∀ workers' events' s', Run a (.opening a workers' before) events' s' →
      (∀ job ∈ s'.jobs, job.isEnded) →
      (∀ place, callsAt (loopCalls events') place = callsAt (loopCalls events) place) →
      s'.ledger = s.ledger) ∧
    (∀ outcome, s.result? = some (.ok outcome) → outcome.totalCost = s.ledger.totalCost) ∧
    ∀ (place : Nat) report, s.jobs[place]? = some (.ended (.ok report)) →
      report.usage = Usage.mergeAll (Repair.delivered (callsAt (loopCalls events) place)) ∧
      ∀ outcome, s.result? = some (.ok outcome) →
        ∃ row, outcome.rows[place]? = some row ∧ row.cost = Usage.costOf report.usage := by
  refine ⟨h.ledger_total hended, fun _ _ _ => h.ledger_eq hended, ?_, ?_⟩
  · intro outcome hresult
    obtain ⟨results, hconcludes⟩ := h.concludes (h.fault?_eq_none hresult) hresult
    obtain ⟨measured, -, houtcome, -⟩ := hconcludes.outcome
    cases houtcome
    rfl
  · intro place report hjob
    have ht := h.tracks_opening
    have hplace : place < a.strategies.length :=
      ht.length ▸ (List.getElem?_eq_some_iff.1 hjob).1
    refine ⟨?_, fun outcome hresult => ?_⟩
    · cases ht.follow place _ _ (List.getElem?_eq_getElem hplace) hjob with
      | ended hloop => exact (Repair.pays_run hloop).2 report rfl
    · obtain ⟨results, hconcludes⟩ := h.concludes (h.fault?_eq_none hresult) hresult
      have hcosts : (outcome.rows.map (·.cost))[place]? = (s.jobs.map (·.cost))[place]? :=
        congrArg (·[place]?) hconcludes.map_cost_rows
      rw [List.getElem?_map, List.getElem?_map, hjob] at hcosts
      exact Option.map_eq_some_iff.1 hcosts

end

/-- The loops of `quartet` in a row, which takes one worker only. -/
def quartetInRow : List (Event Nat) :=
  [.begun 0 (named "scored"), delivery 0 "scored" 1, noting 0 1, judgement 0 "scored" (.ok .pass),
    .ended 0, .begun 1 (named "unmeasured"), delivery 1 "unmeasured" 2, noting 1 2,
    judgement 1 "unmeasured" (.ok .pass), .ended 1, .begun 2 (named "failed"),
    delivery 2 "failed" 4, noting 2 4, judgement 2 "failed" (.ok faulty), .ended 2,
    .begun 3 (named "aborted"), delivery 3 "aborted" 8, noting 3 8, judgement 3 "aborted" noEngine,
    .ended 3]

def quartetRowEnd : State Nat := ⟨1, quartetResults.map .ended, ⟨priced 31⟩, .looping⟩

theorem run_quartetInRow :
    Run quartet (.opening quartet 1 quartetLedger) quartetInRow quartetRowEnd := by
  iterate 4
    refine .cons (.begun rfl (by decide)) ?_
    iterate 3 refine .cons (.called _ rfl) ?_
    refine .cons (.ended rfl) ?_
  exact .nil

theorem cost_conserved_quartet :
    Run quartet (.opening quartet 2 quartetLedger) quartetEvents quartetEnd ∧
    (∀ job ∈ quartetEnd.jobs, job.isEnded) ∧
    quartetEnd.ledger.total = Usage.merge (priced 16)
      (Usage.mergeAll [priced 1, priced 2, priced 4, priced 8]) ∧
    quartetRowEnd.ledger = quartetEnd.ledger ∧
    quartetOutcome.totalCost = quartetEnd.ledger.totalCost ∧
    ∃ row, quartetOutcome.rows[2]? = some row ∧ row.cost = 4 := by
  obtain ⟨htotal, hsame, hcost, hreports⟩ :=
    @cost_conserved Nat _ _ _ _ _ _ _ _ run_quartet (by decide)
  refine ⟨run_quartet, by decide, htotal, hsame 1 _ _ run_quartetInRow (by decide) ?_,
    hcost _ rfl, (hreports 2 _ rfl).2 _ rfl⟩
  rintro (_ | _ | _ | _ | place) <;> rfl

end RemapSynth.Selection
