/-
Validation as a row of checks. Each check by itself finds a fault or does
not (`finding`), and says of what kind it is; the first fault that is found
decides, and the engine is asked just what the checks before it leave to ask
(`history_validate_iff`). The kind of a fault is read off its message again,
so the names that come to stand in messages must not look like a tag.
-/
import RemapSynth.Proofs.Policy.Message
import RemapSynth.Proofs.Validation.Timeout

namespace RemapSynth

/-- The verdict on a program with a fault of a known kind. -/
def Verdict.refused (message : String) (kind : Diagnosis) : Verdict :=
  ⟨false, some message, some kind⟩

theorem Verdict.fail_eq_refused {message : String} {kind : Diagnosis}
    (h : Diagnosis.ofMessage message = kind) : Verdict.fail message = .refused message kind := by
  rw [Verdict.fail, h]
  rfl

namespace Validator

open Engine Dialogue

/-- The checks of a program. -/
inductive Check
  | conflicts
  | constructs
  | compiling
  | running

/-- The checks in their order. -/
def Check.all : List Check := [.conflicts, .constructs, .compiling, .running]

section
variable (v : Validator) (engine : (q : Ask) → Answer q) (code : String) (samples : List Sample)

/-! ## What each check finds -/

/-- The fault that is found in what a program assigns to. -/
def conflictFinding : Option Verdict :=
  let conflicts := v.policy.findConflicts code
  if v.settings.fieldConflictCheck ∧ conflicts ≠ [] then
    some (.refused (Policy.conflictMessage (conflicts.map Policy.Conflict.message)) .fieldConflict)
  else none

/-- The fault that is found in what a program calls. -/
def constructFinding : Option Verdict :=
  let found := v.policy.findRejected code
  if v.settings.rejectedConstructCheck ∧ found ≠ [] then
    some (.refused (v.policy.rejectionMessage found) .rejectedConstruct)
  else none

/-- The fault that is found in a compilation. A tag in what is reported tells its kind. -/
def compileFinding (c : Compilation) : Option Verdict :=
  let text := c.errorText.getD ""
  if c.ok then none
  else if c.timedOut then
    some (.refused (Diagnosis.timeoutStart ++ " " ++ text)
      (Diagnosis.tagged text.toList .timeout))
  else
    some (.refused (Diagnosis.compileStart ++ " " ++ firstErrorLine text)
      (Diagnosis.tagged (firstErrorLine text).toList .malformed))

/-- The fault that is found in a run: an error of the engine, or that no event came out. -/
def runFinding (o : RunOutput) : Option Verdict :=
  match o.errorText with
  | some text =>
    some (.refused (Diagnosis.runStart ++ " " ++ text)
      (Diagnosis.tagged text.toList (Diagnosis.ofKeywords text.toList)))
  | none =>
    if 0 < o.recordsOut then none
    else if o.timedOut then some (.refused v.timeoutMessage .timeout)
    else some (.refused (Diagnosis.runStart ++ " engine processed 0 events") .unknown)

/-- The first samples, as many as a run is given. -/
def firstSamples : List Sample := samples.take (min (max v.settings.sampleLimit 1) samples.length)

/-- What a check by itself ends validation with; nothing when it is switched off or finds no
fault. -/
def finding : Check → Option (Except Failure Verdict)
  | .conflicts => (v.conflictFinding code).map .ok
  | .constructs => (v.constructFinding code).map .ok
  | .compiling =>
    if v.compiles then
      match engine (.compile code) with
      | .error failure => some (.error failure)
      | .ok compilation => (compileFinding compilation).map .ok
    else none
  | .running =>
    if v.runs samples then
      match engine (.execute code (v.firstSamples samples)) with
      | .error failure => some (.error failure)
      | .ok output => (v.runFinding output).map .ok
    else none

/-- Whether a check by itself lets a program pass. -/
def passes (check : Check) : Bool := (v.finding engine code samples check).isNone

/-- What checks in a row end validation with: the first thing that one of them ends it with, else
a pass. -/
def outcome (checks : List Check) : Except Failure Verdict :=
  (checks.findSome? (v.finding engine code samples)).getD (.ok .pass)

/-- What the engine is asked: to compile when the checks without it let the program pass, and to
run it when compiling does so too. -/
def asked : List Ask :=
  let permitted :=
    v.passes engine code samples .conflicts && v.passes engine code samples .constructs
  (if v.compiles && permitted then [.compile code] else []) ++
    if v.runs samples && permitted && v.passes engine code samples .compiling then
      [.execute code (v.firstSamples samples)]
    else []

end

variable {v : Validator} {engine : (q : Ask) → Answer q} {code : String} {samples : List Sample}
  {calls : List Call} {result : Except Failure Verdict}

/-! ## The verdicts of the checks -/

theorem runSamples_eq : v.runSamples samples = v.firstSamples samples := by
  rw [runSamples, firstSamples, List.take_eq_take_min]

theorem conflictVerdict?_eq (hv : v.policy.NamesUntagged) :
    v.conflictVerdict? code = v.conflictFinding code := by
  have hkind := Verdict.fail_eq_refused (Policy.ofMessage_conflictMessage hv code)
  by_cases hreserved : v.policy.reserved = []
  · simp [conflictVerdict?, conflictFinding, hreserved, findConflicts_of_reserved_eq_nil hreserved]
  · cases hon : v.settings.fieldConflictCheck with
    | false => simp [conflictVerdict?, conflictFinding, hon]
    | true =>
      by_cases hnone : v.policy.findConflicts code = []
      · simp [conflictVerdict?, conflictFinding, hnone]
      · simp [conflictVerdict?, conflictFinding, hon, hreserved, hnone, hkind]

theorem rejectionVerdict?_eq (hv : v.policy.NamesUntagged) :
    v.rejectionVerdict? code = v.constructFinding code := by
  have hkind := Verdict.fail_eq_refused (Policy.ofMessage_rejectionMessage hv code)
  cases hon : v.settings.rejectedConstructCheck with
  | false => simp [rejectionVerdict?, constructFinding, hon]
  | true =>
    by_cases hnone : v.policy.findRejected code = []
    · simp [rejectionVerdict?, constructFinding, hnone]
    · simp [rejectionVerdict?, constructFinding, hon, hnone, hkind]

theorem compileVerdict?_eq (c : Compilation) : compileVerdict? c = compileFinding c := by
  have hlate := Verdict.fail_eq_refused (Diagnosis.ofMessage_timeout (c.errorText.getD ""))
  have hwrong := Verdict.fail_eq_refused
    (Diagnosis.ofMessage_compile (firstErrorLine (c.errorText.getD "")))
  cases hok : c.ok with
  | true => simp [compileVerdict?, compileFinding, hok]
  | false =>
    cases htime : c.timedOut with
    | true => simp [compileVerdict?, compileFinding, hok, htime, hlate]
    | false => simp [compileVerdict?, compileFinding, hok, htime, hwrong]

theorem runVerdict?_eq (o : RunOutput) : v.runVerdict? o = v.runFinding o := by
  cases herror : o.errorText with
  | some text =>
    have hkind := Verdict.fail_eq_refused (Diagnosis.ofMessage_run text)
    simp [runVerdict?, runFinding, herror, hkind]
  | none =>
    cases htime : o.timedOut with
    | true =>
      have hkind := Verdict.fail_eq_refused (ofMessage_timeoutMessage v)
      rw [runVerdict?_of_timedOut herror htime, hkind]
      by_cases hzero : o.recordsOut = 0
      · simp [runFinding, herror, hzero, htime]
      · simp [runFinding, herror, hzero, Nat.pos_of_ne_zero hzero]
    | false =>
      have hkind : Diagnosis.ofMessage (Diagnosis.runStart ++ " engine processed 0 events") =
          .unknown := by decide
      by_cases hzero : o.recordsOut = 0
      · simp [runVerdict?, runFinding, herror, hzero, htime, Verdict.fail_eq_refused hkind]
      · simp [runVerdict?, runFinding, herror, hzero, Nat.pos_of_ne_zero hzero]

/-! ## All checks -/

/-- What is asked is answered as an engine does. -/
def Agrees (engine : (q : Ask) → Answer q) (calls : List Call) : Prop :=
  ∀ call ∈ calls, call.2 = engine call.1

theorem outcome_of_finding {check : Check} {rest : List Check}
    (h : v.finding engine code samples check = some result) :
    v.outcome engine code samples (check :: rest) = result := by
  rw [outcome, List.findSome?_cons, h]
  rfl

theorem outcome_of_passes {check : Check} {rest : List Check}
    (h : v.finding engine code samples check = none) :
    v.outcome engine code samples (check :: rest) = v.outcome engine code samples rest := by
  rw [outcome, outcome, List.findSome?_cons, h]

/-- What is asked to run a program. -/
def runAsked (v : Validator) (code : String) (samples : List Sample) : List Ask :=
  if v.runs samples then [.execute code (v.firstSamples samples)] else []

theorem RunChecked.eq (h : RunChecked v code samples calls result) (ha : Agrees engine calls) :
    calls.map (·.1) = v.runAsked code samples ∧
      result = v.outcome engine code samples [.running] := by
  cases h with
  | skipped h => simp [runAsked, outcome, finding, h]
  | broken h failure =>
    have hanswer := ha _ List.mem_cons_self
    rw [runSamples_eq] at hanswer ⊢
    have hfinding : v.finding engine code samples .running = some (.error failure) := by
      simp [finding, h, ← hanswer]
    exact ⟨by simp [runAsked, h], (outcome_of_finding hfinding).symm⟩
  | ran h output =>
    have hanswer := ha _ List.mem_cons_self
    rw [runSamples_eq] at hanswer ⊢
    have hfinding : v.finding engine code samples .running =
        (v.runFinding output).map .ok := by
      simp [finding, h, ← hanswer]
    refine ⟨by simp [runAsked, h], ?_⟩
    cases hrun : v.runFinding output <;> simp [outcome, hfinding, runVerdict?_eq, hrun]

theorem EngineChecked.eq (h : EngineChecked v code samples calls result)
    (ha : Agrees engine calls) :
    calls.map (·.1) = (if v.compiles then [.compile code] else []) ++
        (if v.passes engine code samples .compiling then v.runAsked code samples else []) ∧
      result = v.outcome engine code samples [.compiling, .running] := by
  cases h with
  | uncompiled h hrun =>
    have hfinding : v.finding engine code samples .compiling = none := by simp [finding, h]
    obtain ⟨hcalls, hresult⟩ := hrun.eq ha
    rw [outcome_of_passes hfinding, hcalls]
    exact ⟨by simp [passes, hfinding, h], hresult⟩
  | broken h failure =>
    have hanswer := ha _ List.mem_cons_self
    have hfinding : v.finding engine code samples .compiling = some (.error failure) := by
      simp [finding, h, ← hanswer]
    exact ⟨by simp [passes, hfinding, h], (outcome_of_finding hfinding).symm⟩
  | refused h c verdict hc =>
    have hanswer := ha _ List.mem_cons_self
    rw [compileVerdict?_eq] at hc
    have hfinding : v.finding engine code samples .compiling = some (.ok verdict) := by
      simp [finding, h, ← hanswer, hc]
    exact ⟨by simp [passes, hfinding, h], (outcome_of_finding hfinding).symm⟩
  | compiled h c hok hrun =>
    have hanswer := ha _ List.mem_cons_self
    have hfinding : v.finding engine code samples .compiling = none := by
      simp [finding, h, ← hanswer, compileFinding, hok]
    obtain ⟨hcalls, hresult⟩ := hrun.eq fun call hcall => ha call (List.mem_cons_of_mem _ hcall)
    rw [outcome_of_passes hfinding, List.map_cons, hcalls]
    exact ⟨by simp [passes, hfinding, h], hresult⟩

theorem Checked.eq (hv : v.policy.NamesUntagged) (h : Checked v code samples calls result)
    (ha : Agrees engine calls) :
    calls.map (·.1) = v.asked engine code samples ∧
      result = v.outcome engine code samples Check.all := by
  cases h with
  | conflicting verdict h =>
    rw [conflictVerdict?_eq hv] at h
    have hfinding : v.finding engine code samples .conflicts = some (.ok verdict) := by
      simp [finding, h]
    exact ⟨by simp [asked, passes, hfinding], (outcome_of_finding hfinding).symm⟩
  | rejected verdict hc h =>
    rw [conflictVerdict?_eq hv] at hc
    rw [rejectionVerdict?_eq hv] at h
    have hnone : v.finding engine code samples .conflicts = none := by simp [finding, hc]
    have hfinding : v.finding engine code samples .constructs = some (.ok verdict) := by
      simp [finding, h]
    rw [Check.all, outcome_of_passes hnone]
    exact ⟨by simp [asked, passes, hfinding], (outcome_of_finding hfinding).symm⟩
  | permitted hc hr h =>
    rw [conflictVerdict?_eq hv] at hc
    rw [rejectionVerdict?_eq hv] at hr
    have hnone : v.finding engine code samples .conflicts = none := by simp [finding, hc]
    have hnone' : v.finding engine code samples .constructs = none := by simp [finding, hr]
    obtain ⟨hcalls, hresult⟩ := h.eq ha
    rw [Check.all, outcome_of_passes hnone, outcome_of_passes hnone', hcalls]
    refine ⟨?_, hresult⟩
    cases hruns : v.runs samples <;> simp [asked, runAsked, passes, hnone, hnone', hruns]

/-! ## Every engine, and nothing else -/

/-- What is asked and answered in a run of a dialogue is answered as the engine does. -/
theorem agrees_run {α : Type} (engine : (q : Ask) → Answer q) (d : Dialogue Ask Answer α) :
    Agrees engine (d.run (fun q (_ : Unit) => (engine q, ())) ()).2.1 := by
  induction d with
  | done a => exact fun _ => nofun
  | ask q next ih => exact List.forall_mem_cons.2 ⟨rfl, ih (engine q)⟩

theorem Agrees.eq_map (ha : Agrees engine calls) :
    calls = (calls.map (·.1)).map fun question => ⟨question, engine question⟩ := by
  have hcall : ∀ call ∈ calls, call = ⟨call.1, engine call.1⟩ := by
    rintro ⟨question, answer⟩ hmem
    rw [show answer = engine question from ha _ hmem]
  rw [List.map_map]
  calc calls = calls.map id := (List.map_id calls).symm
    _ = calls.map _ := List.map_congr_left hcall

/-- An engine that answers every question of a kind alike. -/
def constantly (compilation : Except Failure Compilation) (output : Except Failure RunOutput) :
    (q : Ask) → Answer q
  | .compile _ => compilation
  | .execute _ _ => output
  | .measure _ _ _ => .error (.infrastructure "")

theorem RunChecked.exists_agrees (h : RunChecked v code samples calls result)
    (compilation : Except Failure Compilation) :
    ∃ output, Agrees (constantly compilation output) calls := by
  cases h with
  | skipped => exact ⟨.error (.infrastructure ""), fun _ => nofun⟩
  | broken h failure => exact ⟨.error failure, by simp [Agrees, constantly]⟩
  | ran h output => exact ⟨.ok output, by simp [Agrees, constantly]⟩

theorem EngineChecked.exists_agrees (h : EngineChecked v code samples calls result) :
    ∃ compilation output, Agrees (constantly compilation output) calls := by
  cases h with
  | uncompiled h hrun => exact ⟨.ok .passed, hrun.exists_agrees _⟩
  | broken h failure => exact ⟨.error failure, .error failure, by simp [Agrees, constantly]⟩
  | refused h c => exact ⟨.ok c, .error (.infrastructure ""), by simp [Agrees, constantly]⟩
  | compiled h c hok hrun =>
    obtain ⟨output, ha⟩ := hrun.exists_agrees (.ok c)
    exact ⟨.ok c, output, List.forall_mem_cons.2 ⟨rfl, ha⟩⟩

/-- No question is put twice, so some engine answers all of them as they were answered. -/
theorem Checked.exists_agrees (h : Checked v code samples calls result) :
    ∃ engine, Agrees engine calls := by
  have hsilent : ∃ engine, Agrees engine [] :=
    ⟨constantly (.ok .passed) (.error (.infrastructure "")), fun _ => nofun⟩
  cases h with
  | conflicting | rejected => exact hsilent
  | permitted hc hr h =>
    obtain ⟨compilation, output, ha⟩ := h.exists_agrees
    exact ⟨_, ha⟩

/-- The names that a validator is configured with: functions, and reserved fields with those of a
table. -/
def configuredNames (settings : Settings.Validation)
    (table : Option (Except Policy.ListFault (List String))) : List String :=
  settings.rejectedFunctions ++ settings.preferredFunctions ++
    (settings.reservedFields ++
      match table with
      | some (.ok names) => names
      | some (.error _) | none => [])

/-- **What a validation asks and results in.** Let no tag open in a configured name. Then a
validation is answered as some engine would; and with any engine at all it asks just what the
checks leave to ask, each question once and in this order, and results in what the first check
comes to that finds something, and in a pass when none does. -/
theorem history_validate_iff {settings : Settings.Validation}
    {table : Option (Except Policy.ListFault (List String))} {canCompile canRun : Bool}
    (hnames : ∀ name ∈ configuredNames settings table, Diagnosis.Untagged name.toList)
    (hv : v = make settings table canCompile canRun) (code : String)
    (samples : Option (List Sample)) :
    (∀ calls result, History (v.validate code samples) calls result →
      ∃ engine, Agrees engine calls) ∧
    ∀ engine calls result, History (v.validate code samples) calls result ∧ Agrees engine calls ↔
      calls = (v.asked engine code (samples.getD [])).map
          (fun question => ⟨question, engine question⟩) ∧
        result = v.outcome engine code (samples.getD []) Check.all := by
  have hpolicy : v.policy.NamesUntagged := by
    rw [hv]
    exact Policy.namesUntagged_ofLists hnames
  refine ⟨fun calls result h => (history_validate h).exists_agrees,
    fun engine calls result => ⟨fun ⟨h, ha⟩ => ?_, ?_⟩⟩
  · obtain ⟨hcalls, hresult⟩ := (history_validate h).eq hpolicy ha
    rw [← hcalls]
    exact ⟨ha.eq_map, hresult⟩
  · rintro ⟨rfl, rfl⟩
    -- The engine's own run is a history, and by the other direction the only one.
    have hrun := history_run (fun q (_ : Unit) => (engine q, ())) (v.validate code samples) ()
    have ha := agrees_run engine (v.validate code samples)
    obtain ⟨hcalls, hresult⟩ := (history_validate hrun).eq hpolicy ha
    rw [← hcalls, ← ha.eq_map, ← hresult]
    exact ⟨hrun, ha⟩

/-- Settings with room for one sample. -/
def single : Settings.Validation := { sampleLimit := 1 }

/-- An engine that compiles everything and then stumbles over a fallible call. -/
def stumbling : (q : Ask) → Answer q :=
  constantly (.ok .passed) (.ok ⟨0, some "error[E103]: unhandled", false, .ofSeconds 1⟩)

/-- Of two samples one is given to the engine, and the tag in its error tells the kind. -/
theorem history_validate_stumbling :
    (∀ name ∈ configuredNames single none, Diagnosis.Untagged name.toList) ∧
    History ((make single none true true).validate ".a = 1" (some [.ofMessage "a", .ofMessage "b"]))
      [⟨.compile ".a = 1", .ok .passed⟩,
        ⟨.execute ".a = 1" [.ofMessage "a"],
          .ok ⟨0, some "error[E103]: unhandled", false, .ofSeconds 1⟩⟩]
      (.ok (.refused "PROCESSING: error[E103]: unhandled" .unhandledFallible)) := by
  have hnames : ∀ name ∈ configuredNames single none, Diagnosis.Untagged name.toList := by decide
  have hconflicts : (make single none true true).conflictFinding ".a = 1" = none := by
    decide +kernel
  have hconstructs : (make single none true true).constructFinding ".a = 1" = none := by
    decide +kernel
  obtain ⟨-, hiff⟩ := history_validate_iff hnames (rfl : _ = make single none true true) ".a = 1"
    (some [.ofMessage "a", .ofMessage "b"])
  refine ⟨hnames, ((hiff stumbling _ _).2 ⟨?_, ?_⟩).1⟩
  · simp only [asked, passes, finding, hconflicts, hconstructs]
    rfl
  · simp only [outcome, Check.all, List.findSome?_cons, finding, hconflicts, hconstructs]
    rfl

end Validator
end RemapSynth
