/-
Errors inside a reply that looks like a success. An error is taken for one
when it reads as a record with one message and at most one code, which is a
whole number of 32 bits or null (`Legible`). Any other error is passed over,
and what else the reply holds is taken for the answer, so that a reply with
nothing else in it is an answer without text (`ofReply_error`).
-/
import RemapSynth.Chat.Exchange

namespace RemapSynth

namespace Json.Tree

variable {fields : List (String × Tree)} {name : String} {value : Tree}

/-- The values under a key, in order. -/
def valuesOf (name : String) (fields : List (String × Tree)) : List Tree :=
  (fields.filter fun f => f.1 = name).map (·.2)

/-- What the values under a key come to: none, the one there is, or an error. -/
def sole? : List Tree → Option (Option Tree)
  | [] => some none
  | [value] => some (some value)
  | _ => none

@[simp] theorem sole?_nil : sole? [] = some none := rfl

@[simp] theorem sole?_singleton (value : Tree) : sole? [value] = some (some value) := rfl

@[simp] theorem sole?_cons_cons (value next : Tree) (values : List Tree) :
    sole? (value :: next :: values) = none := rfl

theorem field_eq (fields : List (String × Tree)) (name : String) :
    field fields [name] = sole? (valuesOf name fields) := by
  have hname : ∀ f : String × Tree, [name].contains f.1 = decide (f.1 = name) := by simp
  rw [field, valuesOf]
  simp only [hname]
  generalize fields.filter (fun f => f.1 = name) = found
  rcases found with _ | ⟨_, _ | ⟨_, _⟩⟩ <;> rfl

/-- A key that occurs once has one value. -/
theorem valuesOf_of_mem (hunique : (fields.map (·.1)).Nodup) (h : (name, value) ∈ fields) :
    valuesOf name fields = [value] := by
  induction fields with
  | nil => cases h
  | cons f fields ih =>
    obtain ⟨hfresh, hunique⟩ := List.nodup_cons.1 hunique
    rcases List.mem_cons.1 h with rfl | h
    · have hnone : fields.filter (fun f => f.1 = name) = [] := by
        rw [List.filter_eq_nil_iff]
        intro g hg heq
        exact hfresh (List.mem_map.2 ⟨g, hg, of_decide_eq_true heq⟩)
      simp [valuesOf, hnone]
    · have hne : f.1 ≠ name := by
        rintro rfl
        exact hfresh (List.mem_map.2 ⟨_, h, rfl⟩)
      have hrest := ih hunique h
      simp only [valuesOf] at hrest ⊢
      rw [List.filter_cons_of_neg (by simpa using hne), hrest]

theorem record?_one {pairs : List (List Piece × Tree)} (h : keyed? pairs = some fields)
    (least : Nat) (name : String) :
    (object pairs).record? least [[name]] = (field fields [name]).map ([·]) := by
  simp only [record?, h, Option.bind_some, List.mapM_cons, List.mapM_nil]
  cases field fields [name] <;> rfl

theorem record?_two {pairs : List (List Piece × Tree)} (h : keyed? pairs = some fields)
    (least : Nat) (first second : String) :
    (object pairs).record? least [[first], [second]] =
      (field fields [first]).bind fun x => (field fields [second]).map fun y => [x, y] := by
  simp only [record?, h, Option.bind_some, List.mapM_cons, List.mapM_nil]
  cases field fields [first] <;> cases field fields [second] <;> rfl

end Json.Tree

namespace Chat

open Json (Tree Piece textOf?)
open Json.Tree (field valuesOf keyed?)

/-- A body with one error in it, which is an object with a text as its message. -/
structure ErrorBody where
  text : String
  pairs : List (List Piece × Tree)
  scans : Tree.scan text.toList = .ok (.object pairs)
  /-- The fields of the body. -/
  fields : List (String × Tree)
  keyed : keyed? pairs = some fields
  unique : (fields.map (·.1)).Nodup
  inner : List (List Piece × Tree)
  error : ("error", .object inner) ∈ fields
  /-- The members of the error. -/
  members : List (String × Tree)
  innerKeyed : keyed? inner = some members
  message : List Piece
  hasMessage : ("message", .string message) ∈ members

/-- What the values under a code stand for: no code, or a whole number of 32 bits. -/
inductive CodeOf : List Tree → Option Int → Prop
  | missing : CodeOf [] none
  | null : CodeOf [.null] none
  | whole {n : Json.Numeral} {value : Int} (h : n.toJson? = some (.int value))
    (hlow : -0x80000000 ≤ value) (hhigh : value ≤ 0x7fffffff) : CodeOf [.number n] (some value)

/-- An error that is taken for one: it has one message, and a code that can be read or none. -/
def Legible (members : List (String × Tree)) (message : String) (code : Option Int) : Prop :=
  (∃ pieces, valuesOf "message" members = [.string pieces] ∧ textOf? pieces = some message) ∧
    CodeOf (valuesOf "code" members) code

/-- The code of an error as it is read. -/
def readCode? (members : List (String × Tree)) : Option (Option Int) :=
  (field members ["code"]).bind
    (Tree.orElse none (Tree.nullable? (Tree.intWithin? (-0x80000000) 0x7fffffff)))

/-- The message of an error as it is read. -/
def readMessage? (members : List (String × Tree)) : Option String :=
  (field members ["message"]).bind fun message => message.bind Tree.text?

theorem intWithin?_eq_some_iff {low high value : Int} {tree : Tree} :
    tree.intWithin? low high = some value ↔
      ∃ n, tree = .number n ∧ n.toJson? = some (.int value) ∧ low ≤ value ∧ value ≤ high := by
  cases tree with
  | number n =>
    simp only [Tree.intWithin?, Tree.number.injEq, exists_eq_left']
    split
    · next v hv =>
      simp only [hv, Option.ite_none_right_eq_some, Option.some.injEq, Json.int.injEq]
      constructor
      · rintro ⟨hbounds, rfl⟩
        exact ⟨rfl, hbounds⟩
      · rintro ⟨rfl, hbounds⟩
        exact ⟨hbounds, rfl⟩
    · next hne =>
      refine iff_of_false (by simp) ?_
      rintro ⟨hv, -⟩
      exact hne value hv
  | null | bool _ | string _ | array _ | object _ => simp [Tree.intWithin?]

theorem readCode?_eq_some_iff {members : List (String × Tree)} {code : Option Int} :
    readCode? members = some code ↔ CodeOf (valuesOf "code" members) code := by
  rw [readCode?, Tree.field_eq]
  generalize valuesOf "code" members = values
  constructor
  · intro h
    rcases values with _ | ⟨tree, _ | ⟨_, _⟩⟩
    · simp only [Tree.sole?_nil, Option.bind_some, Tree.orElse, Option.some.injEq] at h
      exact h ▸ .missing
    · by_cases hnull : tree = .null
      · subst hnull
        simp only [Tree.sole?_singleton, Option.bind_some, Tree.orElse, Tree.nullable?,
          Option.some.injEq] at h
        exact h ▸ .null
      · simp only [Tree.sole?_singleton, Option.bind_some, Tree.orElse, Tree.nullable?,
          Option.map_eq_some_iff, intWithin?_eq_some_iff] at h
        obtain ⟨value, ⟨n, rfl, hn, hlow, hhigh⟩, rfl⟩ := h
        exact .whole hn hlow hhigh
    · cases h
  · intro h
    cases h with
    | missing => rfl
    | null => rfl
    | @whole n value hn hlow hhigh =>
      have hwithin : (Tree.number n).intWithin? (-0x80000000) 0x7fffffff = some value :=
        intWithin?_eq_some_iff.2 ⟨n, rfl, hn, hlow, hhigh⟩
      simp [Tree.orElse, Tree.nullable?, hwithin]

theorem readMessage?_eq_some_iff {members : List (String × Tree)} {message : String} :
    readMessage? members = some message ↔
      ∃ pieces, valuesOf "message" members = [.string pieces] ∧ textOf? pieces = some message := by
  rw [readMessage?, Tree.field_eq]
  generalize valuesOf "message" members = values
  rcases values with _ | ⟨tree, _ | ⟨_, _⟩⟩
  · simp
  · cases tree <;> simp [Tree.text?]
  · simp

namespace ErrorBody

variable (b : ErrorBody)

theorem reportedError?_eq :
    reportedError? (.object b.pairs) =
      (readMessage? b.members).bind fun message =>
        (readCode? b.members).map fun code => (message, code) := by
  have herror : (Tree.object b.pairs).record? 1 [["error"]] = some [some (.object b.inner)] := by
    rw [Tree.record?_one b.keyed, Tree.field_eq, Tree.valuesOf_of_mem b.unique b.error]
    rfl
  simp only [reportedError?, herror, Option.bind_eq_bind, Option.bind_some,
    Tree.record?_two b.innerKeyed, readMessage?, readCode?]
  rcases field b.members ["message"] with _ | _ | message
  · rfl
  · cases field b.members ["code"] <;> rfl
  · rcases field b.members ["code"] with _ | code
    · simp
    · simp only [Option.bind_some, Option.map_eq_bind]
      rfl

/-- **Which errors are taken for errors.** -/
theorem reportedError?_eq_some_iff {message : String} {code : Option Int} :
    reportedError? (.object b.pairs) = some (message, code) ↔ Legible b.members message code := by
  simp only [b.reportedError?_eq, Option.bind_eq_some_iff, Option.map_eq_some_iff,
    readMessage?_eq_some_iff, readCode?_eq_some_iff, Prod.mk.injEq, Legible]
  constructor
  · rintro ⟨_, hmessage, _, hcode, rfl, rfl⟩
    exact ⟨hmessage, hcode⟩
  · rintro ⟨hmessage, hcode⟩
    exact ⟨message, hmessage, code, hcode, rfl, rfl⟩

/-- The error is not taken for one. -/
def Obscure : Prop := ∀ message code, ¬ Legible b.members message code

theorem reportedError?_eq_none (h : b.Obscure) : reportedError? (.object b.pairs) = none := by
  cases hreport : reportedError? (.object b.pairs) with
  | none => rfl
  | some report => exact absurd (b.reportedError?_eq_some_iff.1 hreport) (h report.1 report.2)

/-- Without choices and usage a reply has none. -/
theorem choices?_of_absent (h : ∀ f ∈ b.fields, f.1 ≠ "choices" ∧ f.1 ≠ "usage") :
    choices? (.object b.pairs) = some ([], none) := by
  have habsent : ∀ name, name = "choices" ∨ name = "usage" → field b.fields [name] = some none := by
    intro name hname
    have hnone : valuesOf name b.fields = [] := by
      rw [valuesOf, List.map_eq_nil_iff, List.filter_eq_nil_iff]
      intro f hf heq
      obtain ⟨hchoices, husage⟩ := h f hf
      rcases hname with rfl | rfl
      · exact hchoices (of_decide_eq_true heq)
      · exact husage (of_decide_eq_true heq)
    rw [Tree.field_eq, hnone, Tree.sole?_nil]
  simp only [choices?, Tree.record?_two b.keyed, habsent "choices" (.inl rfl),
    habsent "usage" (.inr rfl)]
  rfl

end ErrorBody

variable {status : Nat} {model : String}

/-- The answer in a reply that reports no error. -/
theorem ofTree_eq_ok_iff {tree : Tree} {body : String} {completion : Completion}
    (h : reportedError? tree = none) :
    Completion.ofTree model body tree = .ok completion ↔
      ∃ choices usage, choices? tree = some (choices, usage) ∧
        (∀ choice ∈ choices.head?, choice.refusal = none) ∧
        completion = ⟨(choices.head?.bind Choice.content).getD "", usage, model⟩ := by
  simp only [Completion.ofTree, h]
  cases hchoices : choices? tree with
  | none => simp
  | some answer =>
    obtain ⟨choices, usage⟩ := answer
    simp only [Option.some.injEq, Prod.mk.injEq]
    constructor
    · intro h
      refine ⟨choices, usage, ⟨rfl, rfl⟩, ?_⟩
      rcases choices with _ | ⟨⟨content, _ | refusal⟩, more⟩
      · exact ⟨by simp, (Except.ok.inj h).symm⟩
      · exact ⟨by simp, (Except.ok.inj h).symm⟩
      · cases h
    · rintro ⟨_, _, ⟨rfl, rfl⟩, hrefusal, rfl⟩
      rcases choices with _ | ⟨⟨content, _ | refusal⟩, more⟩
      · rfl
      · rfl
      · simp at hrefusal

theorem ofReply_eq (b : ErrorBody) (hstatus : 200 ≤ status ∧ status ≤ 299) :
    Completion.ofReply model (.answered status b.text) =
      Completion.ofTree model b.text (.object b.pairs) := by
  simp only [Completion.ofReply, if_pos hstatus, Completion.ofBody, b.scans]

/-- **Errors inside a reply that looks like a success.** An error that can be read as one ends the
request with that error. One that cannot, because its code is neither null nor a whole number of 32
bits, or because it has two messages or codes, does not: the request is answered with the first
choice of the reply, if it is no refusal, and without text if there is none, as in a reply that
holds nothing beside its error. -/
theorem ofReply_error (b : ErrorBody) (model : String) (hstatus : 200 ≤ status ∧ status ≤ 299) :
    (∀ message code, Legible b.members message code →
      Completion.ofReply model (.answered status b.text) = .error (.ofReport message code)) ∧
    (b.Obscure →
      (∀ completion, Completion.ofReply model (.answered status b.text) = .ok completion ↔
        ∃ choices usage, choices? (.object b.pairs) = some (choices, usage) ∧
          (∀ choice ∈ choices.head?, choice.refusal = none) ∧
          completion = ⟨(choices.head?.bind Choice.content).getD "", usage, model⟩) ∧
      ((∀ f ∈ b.fields, f.1 ≠ "choices" ∧ f.1 ≠ "usage") →
        Completion.ofReply model (.answered status b.text) = .ok ⟨"", none, model⟩)) := by
  rw [ofReply_eq b hstatus]
  refine ⟨fun message code h => ?_, fun h => ⟨fun completion => ?_, fun habsent => ?_⟩⟩
  · simp only [Completion.ofTree, b.reportedError?_eq_some_iff.2 h]
  · exact ofTree_eq_ok_iff (b.reportedError?_eq_none h)
  · simp only [Completion.ofTree, b.reportedError?_eq_none h, b.choices?_of_absent habsent]

/-- A provider that says in words what its code is. -/
def worded : ErrorBody where
  text := "\x7b\"error\":\x7b\"message\":\"boom\",\"code\":\"rate_limited\"\x7d\x7d"
  inner :=
    [("message".toList.map .char, .string ("boom".toList.map .char)),
      ("code".toList.map .char, .string ("rate_limited".toList.map .char))]
  pairs :=
    [("error".toList.map .char, .object
      [("message".toList.map .char, .string ("boom".toList.map .char)),
        ("code".toList.map .char, .string ("rate_limited".toList.map .char))])]
  scans := by cbv
  fields :=
    [("error", .object
      [("message".toList.map .char, .string ("boom".toList.map .char)),
        ("code".toList.map .char, .string ("rate_limited".toList.map .char))])]
  keyed := by cbv
  unique := by simp
  error := List.mem_cons_self
  members :=
    [("message", .string ("boom".toList.map .char)),
      ("code", .string ("rate_limited".toList.map .char))]
  innerKeyed := by cbv
  message := "boom".toList.map .char
  hasMessage := List.mem_cons_self

theorem ofReply_error_worded :
    worded.Obscure ∧
    Completion.ofReply "m" (.answered 200 worded.text) = .ok ⟨"", none, "m"⟩ := by
  have hobscure : worded.Obscure := by
    intro message code h
    have hcode : valuesOf "code" worded.members = [.string ("rate_limited".toList.map .char)] := by
      simp [valuesOf, worded]
    have := h.2
    rw [hcode] at this
    cases this
  exact ⟨hobscure, ((ofReply_error worded "m" (by decide)).2 hobscure).2 (by simp [worded])⟩

end Chat
end RemapSynth
