/-
Which program a repair loop validates when, and what its report says of the
last one.

A program comes from exactly one place, and the record before it says from
which (`Supplied`): a change or a repair is of the program that was
validated just before, under the message of that very verdict. The report
never pairs a program with the error of another one, although program,
error and kind are noted apart.
-/
import RemapSynth.Proofs.Repair.Bookkeeping
import RemapSynth.Proofs.Repair.Tracking

namespace RemapSynth.Repair

open Chat Generation Dialogue

variable {Cost : Type}

/-- Where the program comes from that an iteration validates: the iteration is `current`, and
`before` the one before it, if there is one. -/
inductive Supplied (a : Assignment) (calls : List (Call Cost)) :
    (before : Option (Round Cost)) → (current : Round Cost) → String → Prop
  /-- It is the seed, in the first iteration. -/
  | seeded {current} (g : Generated Cost) (rest : List (Call Cost))
      (hg : calls = ⟨.produce a.first, .ok g⟩ :: rest) :
    Supplied a calls none current g.code
  /-- It is what the rules made of the program validated before, told that verdict's message. -/
  | fixed {before current} (hr : before.record.reason = some .localFix) (old new : String)
      (v : Verdict) (hv : validations before.calls = [(old, .ok v)])
      (hf : ⟨.fix old v.message, some new⟩ ∈ before.calls) :
    Supplied a calls (some before) current new
  /-- It is what the model made of the program validated before, told that verdict's message. -/
  | repaired {before current} (hr : before.record.reason = some .modelRepair) (old : String)
      (v : Verdict) (hv : validations before.calls = [(old, .ok v)]) (context : String)
      (g : Generated Cost)
      (hg : ⟨.produce (.repair old v.message (some a.samples) (some context)), .ok g⟩ ∈
        before.calls) :
    Supplied a calls (some before) current g.code
  /-- It is the simpler program that the iteration itself has generated. -/
  | simplified {before current} (hseed : before = none → seedMissed calls)
      (hr : ∀ b, before = some b → b.record.asksSimpler) (g : Generated Cost)
      (hg : ⟨.produce a.simpler, .ok g⟩ ∈ current.calls) :
    Supplied a calls before current g.code

/-! ## From one iteration to the next -/

/-- What an iteration hands to the next. -/
inductive Handed (a : Assignment) (calls : List (Call Cost)) (r : Record) : Pending → Prop
  | fixed (hr : r.reason = some .localFix) (old new : String) (v : Verdict)
      (hv : validations calls = [(old, .ok v)])
      (hf : ⟨.fix old v.message, some new⟩ ∈ calls) : Handed a calls r (.code new)
  | repaired (hr : r.reason = some .modelRepair) (old : String) (v : Verdict)
      (hv : validations calls = [(old, .ok v)]) (context : String) (g : Generated Cost)
      (hg : ⟨.produce (.repair old v.message (some a.samples) (some context)), .ok g⟩ ∈ calls) :
    Handed a calls r (.code g.code)
  | nothing (hr : r.asksSimpler) : Handed a calls r .simplify

/-- Calls made before any validation change nothing in what is handed on. -/
theorem Handed.cons {a : Assignment} {calls : List (Call Cost)} {r : Record} {next : Pending}
    {c : Call Cost} (hc : c.validation? = none) (h : Handed a calls r next) :
    Handed a (c :: calls) r next := by
  have hcons : validations (c :: calls) = validations calls := by simp [validations, hc]
  cases h with
  | fixed hr old new v hv hf =>
    exact .fixed hr old new v (hcons.trans hv) (List.mem_cons_of_mem _ hf)
  | repaired hr old v hv context g hg =>
    exact .repaired hr old v (hcons.trans hv) context g (List.mem_cons_of_mem _ hg)
  | nothing hr => exact .nothing hr

variable [Add Cost] {a : Assignment} {number : Nat} {isLast : Bool} {notes notes' : Notes Cost}
  {pending next : Pending} {calls : List (Call Cost)} {r : Record} {step : Step Cost}
  {report : Report Cost}

theorem Judged.handed {code : String}
    (h : Judged a number isLast code notes calls (some r) (.next next notes')) :
    Handed a calls r next := by
  cases h with
  | cycle v hv hl hf hc => exact .nothing rfl
  | fixed v hv hl hf hc new => exact .fixed rfl code new v rfl (by simp)
  | repaired v hv hl hf hc g =>
    exact .repaired rfl code v rfl (context notes.records notes.failedPatterns) g (by simp)
  | unrepaired v hv hl hf hc failure hn => exact .nothing rfl

theorem Turn.handed (h : Turn a number isLast notes pending calls (some r) (.next next notes')) :
    Handed a calls r next := by
  cases h with
  | given h => exact h.handed
  | simplified g h => exact (h.handed.cons rfl).cons rfl
  | missed failure hn => exact .nothing rfl

/-- The program that an iteration validates is the one handed to it, or a simpler one that it has
generated. -/
theorem Turn.validated {r : Option Record} (h : Turn a number isLast notes pending calls r step)
    {x : String × Except Failure Verdict} (hx : x ∈ validations calls) :
    pending = .code x.1 ∨
      pending = .simplify ∧ ∃ g, ⟨.produce a.simpler, .ok g⟩ ∈ calls ∧ x.1 = g.code := by
  cases h with
  | given h =>
    obtain ⟨answer, hone⟩ := h.validated
    rw [hone, List.mem_singleton] at hx
    exact .inl (by rw [hx])
  | simplified g h =>
    obtain ⟨answer, hone⟩ := h.validated
    have hx : x ∈ [(g.code, answer)] := hone ▸ hx
    rw [List.mem_singleton] at hx
    exact .inr ⟨rfl, g, by simp, by rw [hx]⟩
  | missed failure hn => cases hx
  | aborted failure hn => cases hx

theorem Unfolds.handed {earlier later : List (Round Cost)} {before current : Round Cost}
    (h : Unfolds a calls (earlier ++ before :: current :: later) report) :
    Handed a before.calls before.record current.pending := by
  obtain ⟨_, _, _, _, step, -, -, -, hturn, n, rfl⟩ := h.turn
  exact hturn.handed

/-- The first iteration starts from the seed. -/
theorem Unfolds.seeded {later : List (Round Cost)} {current : Round Cost}
    (h : Unfolds a calls (current :: later) report) :
    (∃ g rest, calls = ⟨.produce a.first, .ok g⟩ :: rest ∧ current.pending = .code g.code) ∨
      seedMissed calls ∧ current.pending = .simplify := by
  have h : Unfolds a calls ([] ++ current :: later) report := h
  obtain ⟨opening, pending, notes, n, step, hs, rfl, hadv, -, -⟩ := h.turn
  cases hadv
  obtain ⟨g, rfl, hpending, -⟩ | ⟨failure, rfl, -, hpending, -⟩ := seed_cases hs
  · exact .inl ⟨g, _, rfl, hpending⟩
  · exact .inr ⟨rfl, hpending⟩

/-- **Where every validated program comes from.** -/
theorem Unfolds.supplied {earlier later : List (Round Cost)} {current : Round Cost}
    (h : Unfolds a calls (earlier ++ current :: later) report)
    {code : String} {answer : Except Failure Verdict}
    (hx : (code, answer) ∈ validations current.calls) :
    Supplied a calls earlier.getLast? current code := by
  have hvalidated : current.pending = .code code ∨ current.pending = .simplify ∧
      ∃ g, ⟨.produce a.simpler, .ok g⟩ ∈ current.calls ∧ code = g.code := by
    obtain ⟨_, _, _, _, _, -, -, -, hturn, -⟩ := h.turn
    exact hturn.validated hx
  rcases List.eq_nil_or_concat earlier with rfl | ⟨rounds, before, rfl⟩
  · obtain ⟨g, rest, hcalls, hpending⟩ | ⟨hmissed, hpending⟩ := h.seeded
    · obtain hcode | ⟨hsimplify, -⟩ := hvalidated
      · rw [hcode, Pending.code.injEq] at hpending
        rw [hpending]
        exact .seeded g rest hcalls
      · simp [hsimplify] at hpending
    · obtain hcode | ⟨-, g, hg, hxg⟩ := hvalidated
      · simp [hcode] at hpending
      · rw [hxg]
        exact .simplified (fun _ => hmissed) (by simp) g hg
  · rw [List.concat_eq_append, List.append_assoc, List.singleton_append] at h
    rw [List.concat_eq_append, List.getLast?_concat]
    have hhanded := h.handed
    obtain hcode | ⟨hsimplify, g, hg, hxg⟩ := hvalidated
    · rw [hcode] at hhanded
      cases hhanded with
      | fixed hr old new v hv hf => exact .fixed hr old _ v hv hf
      | repaired hr old v hv context g hg => exact .repaired hr old v hv context g hg
    · rw [hsimplify] at hhanded
      cases hhanded with
      | nothing hr =>
        rw [hxg]
        refine .simplified (by simp) ?_ g hg
        rintro _ ⟨⟩
        exact hr

/-! ## The report -/

/-- What the last iteration makes of a loop. -/
inductive Outcome (number : Nat) (notes : Notes Cost) (final : Round Cost) (report : Report Cost) :
    Prop
  | valid (v : Verdict) (hv : v.passed = true) (hsuccess : report.success = true)
      (hone : validations final.calls = [(report.code, .ok v)])
      (herror : report.lastError = none) (hdiagnosis : report.lastDiagnosis = none)
      (hr : final.record = ⟨number, none, false, some .validated⟩)
  | rejected (v : Verdict) (hv : v.passed = false) (hsuccess : report.success = false)
      (hone : validations final.calls = [(report.code, .ok v)])
      (herror : report.lastError = some v.message)
      (hdiagnosis : report.lastDiagnosis = final.record.diagnosis)
      (hr : final.record.reason = some .exhausted ∨ final.record.reason = some .fixingDisabled)
  | missed (hsuccess : report.success = false) (hnone : validations final.calls = [])
      (hcode : report.code = notes.lastCode) (herror : report.lastError.isSome = true)
      (hdiagnosis : report.lastDiagnosis = final.record.diagnosis)
      (hr : final.record.reason = some .generationError ∧ final.record.diagnosis = none)

theorem Judged.outcome {code : String} {r : Option Record}
    (h : Judged a number isLast code notes calls r (.stop report)) {final : Round Cost}
    (hcalls : validations final.calls = validations calls) (hr : r = some final.record)
    {n : Notes Cost} : Outcome number n final report := by
  cases h with
  | passed v hv =>
    simp only [Option.some.injEq] at hr
    exact .valid v hv rfl hcalls rfl rfl hr.symm
  | exhausted v hv hl =>
    simp only [Option.some.injEq] at hr
    exact .rejected v hv rfl hcalls rfl (by rw [← hr]; rfl) (by rw [← hr]; exact .inl rfl)
  | disabled v hv hl hf =>
    simp only [Option.some.injEq] at hr
    exact .rejected v hv rfl hcalls rfl (by rw [← hr]; rfl) (by rw [← hr]; exact .inr rfl)

theorem Ends.outcome {final : Round Cost} (h : Ends a number isLast notes final report) :
    Outcome number notes final report := by
  cases h with
  | stopped h hr =>
    cases turn_of_history h (congrArg some hr) with
    | given h => exact h.outcome rfl rfl
    | simplified g h => exact h.outcome rfl rfl
  | spent hl h hr =>
    cases turn_of_history h (congrArg some hr) with
    | given h => cases h <;> simp_all
    | simplified g h => cases h <;> simp_all
    | missed failure hn => exact .missed rfl rfl rfl rfl rfl ⟨rfl, rfl⟩

/-- The outcome of a loop, told from all that was validated before its last iteration. -/
theorem Unfolds.outcome {rounds : List (Round Cost)} (h : Unfolds a calls rounds report) :
    ∃ past notes final, Tracks a past notes ∧
      validations calls = validations past ++ validations final.calls ∧
      report.records.getLast? = some final.record ∧
      Outcome report.iterations notes final report := by
  obtain ⟨hrecords, hiterations, -, -⟩ := h.records
  obtain ⟨opening, pending, notes, going, final, notes', hs, hadv, hend, -, rfl, rfl⟩ := h
  refine ⟨opening ++ callsOf going, notes', final, hadv.tracks (seed_tracks hs), by simp, ?_, ?_⟩
  · rw [hrecords, List.map_append, List.map_singleton, List.getLast?_concat]
  · have hnumber : report.iterations = going.length + 1 := by simpa using hiterations
    exact hnumber ▸ hend.outcome

/-- A loop that fails says why. -/
theorem isSome_lastError (h : History (run a) calls (.ok report))
    (hfailed : report.success = false) : report.lastError.isSome = true := by
  obtain ⟨rounds, hunfolds⟩ := exists_unfolds h
  obtain ⟨_, _, _, -, -, -, houtcome⟩ := hunfolds.outcome
  cases houtcome with
  | valid v hv hsuccess => simp [hsuccess] at hfailed
  | rejected v hv hsuccess hone herror => simp [herror]
  | missed hsuccess hnone hcode herror => exact herror

/-- **What a report says, and where its programs come from.** A loop succeeds with the program that
was validated last and was the first to pass. It fails with the program that was validated last,
with an error, and with the kind of its last record. Every program that is validated is the seed,
or what the iteration before made of the program it had validated, or a simpler one generated on
the spot; the record before tells which. -/
theorem run_report (h : History (run a) calls (.ok report)) :
    (report.success = true →
      ∃ earlier v, validations calls = earlier ++ [(report.code, .ok v)] ∧ v.passed = true ∧
        (∀ x ∈ earlier, IsRejection x) ∧ report.lastError = none ∧ report.lastDiagnosis = none ∧
        report.records.getLast? = some ⟨report.iterations, none, false, some .validated⟩) ∧
    (report.success = false →
      (∀ x ∈ validations calls, IsRejection x) ∧ report.code = lastValidated calls ∧
        report.lastError.isSome = true ∧
        ∃ final, report.records.getLast? = some final ∧ report.lastDiagnosis = final.diagnosis ∧
          (final.reason = some .exhausted ∨ final.reason = some .fixingDisabled ∨
            final.reason = some .generationError ∧ final.diagnosis = none)) ∧
    ∃ rounds, Unfolds a calls rounds report ∧ report.records = rounds.map (·.record) ∧
      ∀ earlier current later, rounds = earlier ++ current :: later →
        ∀ code answer, (code, answer) ∈ validations current.calls →
          Supplied a calls earlier.getLast? current code := by
  obtain ⟨rounds, hunfolds⟩ := exists_unfolds h
  obtain ⟨past, notes, final, htracks, hcalls, hlast, houtcome⟩ := hunfolds.outcome
  refine ⟨?_, ?_, rounds, hunfolds, hunfolds.records.1, ?_⟩
  · intro hsuccess
    cases houtcome with
    | valid v hv _ hone herror hdiagnosis hr =>
      exact ⟨validations past, v, by rw [hcalls, hone], hv, htracks.rejected, herror, hdiagnosis,
        by rw [hlast, hr]⟩
    | rejected v hv hs => simp [hs] at hsuccess
    | missed hs => simp [hs] at hsuccess
  · intro hsuccess
    cases houtcome with
    | valid v hv hs => simp [hs] at hsuccess
    | rejected v hv _ hone herror hdiagnosis hr =>
      rw [hone] at hcalls
      refine ⟨?_, ?_, by rw [herror]; rfl, _, hlast, hdiagnosis, ?_⟩
      · intro x hx
        rw [hcalls, List.mem_append, List.mem_singleton] at hx
        rcases hx with hx | rfl
        · exact htracks.rejected x hx
        · exact ⟨v, rfl, hv⟩
      · rw [lastValidated, hcalls, List.getLast?_concat]
        rfl
      · rcases hr with hr | hr
        · exact .inl hr
        · exact .inr (.inl hr)
    | missed _ hnone hcode herror hdiagnosis hr =>
      rw [hnone, List.append_nil] at hcalls
      refine ⟨?_, ?_, herror, _, hlast, hdiagnosis, .inr (.inr hr)⟩
      · rw [hcalls]
        exact htracks.rejected
      · rw [hcode, htracks.lastCode, lastValidated, lastValidated, hcalls]
  · rintro earlier current later rfl code answer hx
    exact hunfolds.supplied hx

theorem run_report_trial :
    History (run trial) trialCalls (.ok trialReport) ∧
    (∃ earlier v, validations trialCalls = earlier ++ [("d", .ok v)] ∧ v.passed = true ∧
      ∀ x ∈ earlier, IsRejection x) ∧
    ∃ rounds, Unfolds trial trialCalls rounds trialReport ∧
      trialReport.records = rounds.map (·.record) ∧
      ∀ earlier current later, rounds = earlier ++ current :: later →
        ∀ code answer, (code, answer) ∈ validations current.calls →
          Supplied trial trialCalls earlier.getLast? current code := by
  obtain ⟨hsuccess, -, hflow⟩ := run_report trial_history
  obtain ⟨earlier, v, hcalls, hv, hearlier, -⟩ := hsuccess rfl
  exact ⟨trial_history, ⟨earlier, v, hcalls, hv, hearlier⟩, hflow⟩

end RemapSynth.Repair
