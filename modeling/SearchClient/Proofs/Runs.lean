import Mathlib
import SearchClient.CommandLine.Run
import SearchClient.Proofs.Replies
import SearchClient.Proofs.Surfaces

set_option autoImplicit false

/-! # How runs end

A run that gets as far as its command carries out the plan of the command and ends by what came of
it: with a code if that is a value that can be printed, a reported failure or a problem that has a
complaint, and by the problem itself if it is any other (`exists_code_finish_iff`). What a request
comes to is handled exactly if its reply is accepted, or if the connection failed
(`Operation.handled_iff`), and printed unless the text would show half a surrogate pair
(`IsPrinted`). -/

namespace SearchClient

open Failure (Problem)
open Http (Trace Outcome Plan)

/-- A problem that ends a run with a code. -/
def Failure.Problem.Handled (p : Problem) : Prop :=
  (∃ r, p = .reported r) ∨ ∃ s, p.complaint? = some s

/-- A result that ends a run with a code. -/
def IsHandled (result : Except Problem Value) : Prop :=
  ∀ p, result = .error p → p.Handled

theorem isHandled_error_iff {p : Problem} : IsHandled (.error p) ↔ p.Handled :=
  ⟨fun h => h p rfl, fun h _ hp => Except.error.inj hp ▸ h⟩

theorem isHandled_of_exists_ok {result : Except Problem Value} (h : ∃ v, result = .ok v) :
    IsHandled result := by
  obtain ⟨v, rfl⟩ := h
  exact nofun

/-- Of misuses only a pair that is none and an integer that is too long have a complaint. -/
theorem Failure.Problem.handled_misuse_iff {m : Misuse} :
    (Problem.misuse m).Handled ↔ (∃ place length, m = .notPair place length) ∨ m = .tooLong := by
  cases m <;> simp [Handled, complaint?]

/-! ## Outcomes -/

namespace Http

theorem Response.handled_of_reply {r : Response} {p : Problem} (h : r.reply = .error p) :
    p.Handled := by
  unfold reply at h
  split at h
  · exact nomatch h
  · rcases bind_eq_error_iff.1 h with h | ⟨_, -, h⟩
    · obtain ⟨e, -, rfl⟩ := mapError_eq_error_iff.1 h
      exact Or.inr ⟨e.message, rfl⟩
    · obtain ⟨e, -, rfl⟩ := mapError_eq_error_iff.1 h
      exact Or.inr ⟨e.message, rfl⟩

end Http

namespace Client

namespace Reply

theorem eq_wrongType_of_keep {model : Model} {es : Entries Value} {m : Misuse}
    (h : keep model es = .error m) : m = .wrongType := by
  unfold keep at h
  split at h
  · exact (Except.error.inj h).symm
  · split at h
    · exact nomatch h
    · rcases bind_eq_error_iff.1 h with hgiven | ⟨_, -, h⟩
      · unfold givenBy at hgiven
        split at hgiven
        · exact nomatch hgiven
        · rcases bind_eq_error_iff.1 hgiven with helements | ⟨_, -, hgiven⟩
          · exact eq_wrongType_of_elements helements
          · exact nomatch hgiven
      · split at h <;> exact nomatch h

theorem eq_wrongType_of_wrapIngress {v : Value} {m : Misuse} (h : wrapIngress v = .error m) :
    m = .wrongType := by
  unfold wrapIngress at h
  split at h
  · split at h
    · exact nomatch h
    · exact eq_wrongType_of_keep h
  · exact nomatch h

theorem eq_wrongType_of_wrapIngresses {vs : List Value} {m : Misuse}
    (h : wrapIngresses vs = .error m) : m = .wrongType := by
  induction vs with
  | nil => exact nomatch h
  | cons v vs ih =>
      rcases bind_eq_error_iff.1 h with hfirst | ⟨_, -, h⟩
      · exact eq_wrongType_of_wrapIngress hfirst
      · rcases bind_eq_error_iff.1 h with hrest | ⟨_, -, h⟩
        · exact ih hrest
        · exact nomatch h

theorem eq_of_listIngresses {v : Value} {m : Misuse} (h : listIngresses v = .error m) :
    m = .wrongType ∨ m = .noMember := by
  unfold listIngresses at h
  split at h
  · rcases bind_eq_error_iff.1 h with helements | ⟨_, -, h⟩
    · exact Or.inl (eq_wrongType_of_elements helements)
    · rcases bind_eq_error_iff.1 h with hwrap | ⟨_, -, h⟩
      · exact Or.inl (eq_wrongType_of_wrapIngresses hwrap)
      · exact nomatch h
  · exact Or.inr (Except.error.inj h).symm

theorem eq_wrongType_of_wrap {model : Model} {v : Value} {p : Problem}
    (h : (wrap model v).result = .error p) : p = .misuse .wrongType := by
  unfold wrap at h
  split at h
  · split at h
    · exact nomatch h
    · obtain ⟨m, hm, rfl⟩ := mapError_eq_error_iff.1 h
      rw [eq_wrongType_of_keep hm]
  · exact nomatch h

end Reply

namespace Operation

open Http Reply

/-- What cannot be made of a reply is not handled. -/
theorem not_handled_of_concludeValue {op : Operation} {v : Value} {p : Problem}
    (h : (op.concludeValue v).result = .error p) : ¬p.Handled := by
  have hmisuse : p = .misuse .wrongType ∨ p = .misuse .noMember := by
    cases op with
    | createIndex | updateIndex | getIndex | addDocuments | search =>
      exact Or.inl (eq_wrongType_of_wrap h)
    | listIngresses =>
      obtain ⟨m, hm, rfl⟩ := mapError_eq_error_iff.1 h
      exact (eq_of_listIngresses hm).imp (congrArg _) (congrArg _)
    | createIngress | getIngress | updateIngress =>
      obtain ⟨m, hm, rfl⟩ := mapError_eq_error_iff.1 h
      exact Or.inl (congrArg _ (eq_wrongType_of_wrapIngress hm))
    | _ => exact nomatch h
  rcases hmisuse with rfl | rfl <;> simp [Problem.handled_misuse_iff]

theorem isHandled_concludeValue_iff {op : Operation} {v : Value} :
    IsHandled (op.concludeValue v).result ↔ ∃ w, (op.concludeValue v).result = .ok w := by
  refine ⟨fun h => ?_, isHandled_of_exists_ok⟩
  cases hresult : (op.concludeValue v).result with
  | ok w => exact ⟨w, rfl⟩
  | error p => exact absurd (h p hresult) (not_handled_of_concludeValue hresult)

/-- What an operation concludes from a problem is handled exactly if the problem is. -/
theorem isHandled_conclude_error_iff {op : Operation} {p : Problem} :
    IsHandled (op.conclude (.error p)).result ↔ p.Handled := by
  cases op with
  | indexExists | ingressExists =>
    cases p with
    | reported r =>
      refine iff_of_true ?_ (Or.inl ⟨r, rfl⟩)
      simp only [conclude, concludeExists]
      split
      · exact nofun
      · exact isHandled_error_iff.2 (Or.inl ⟨r, rfl⟩)
    | _ => exact isHandled_error_iff
  | _ => exact isHandled_error_iff

/-- An outcome that an operation handles, if such objects can be taken as they are: no other
    interruption than one of the connection, and no successful reply but one that is accepted. -/
def Handles (takeable : Entries Value → Prop) (op : Operation) (outcome : Outcome) : Prop :=
  match outcome with
  | .interrupted cause _ => cause ∈ connectionFailures
  | .response r => r.isSuccess = true → ∀ v, r.reply = .ok v → op.Accepts takeable v

theorem Handles.imp {p q : Entries Value → Prop} (hpq : ∀ es, p es → q es) {op : Operation}
    {outcome : Outcome} (h : op.Handles p outcome) : op.Handles q outcome := by
  cases outcome with
  | interrupted => exact h
  | response r => exact fun hsuccess v hreply => (h hsuccess v hreply).imp hpq

theorem isHandled_settle_iff {op : Operation} {method path : String} {outcome : Outcome} :
    IsHandled (op.conclude (Executor.settle method path outcome).result).result ↔
      op.Handles Takeable outcome := by
  cases outcome with
  | interrupted cause message =>
    simp only [Executor.settle, Handles]
    by_cases hcause : cause ∈ connectionFailures
    · rw [if_pos (List.contains_iff_mem.2 hcause)]
      exact iff_of_true (isHandled_conclude_error_iff.2 (Or.inl ⟨_, rfl⟩)) hcause
    · rw [if_neg (List.contains_iff_mem.not.2 hcause)]
      refine iff_of_false (fun h => ?_) hcause
      rcases isHandled_conclude_error_iff.1 h with ⟨r, hr⟩ | ⟨s, hs⟩
      · cases hr
      · cases hs
  | response r =>
    rw [Handles]
    cases hsuccess : r.isSuccess with
    | false =>
      rw [Executor.settle_of_failed hsuccess]
      refine iff_of_true (isHandled_conclude_error_iff.2 (Or.inl ⟨_, rfl⟩)) fun hsuccess => ?_
      cases hsuccess
    | true =>
      rw [Executor.settle_of_success hsuccess]
      cases hreply : r.reply with
      | error p =>
        refine iff_of_true ?_ fun _ v hv => ?_
        · exact isHandled_conclude_error_iff.2 (Response.handled_of_reply hreply)
        · cases hv
      | ok v =>
        rw [result_conclude_ok, isHandled_concludeValue_iff,
          exists_concludeValue_iff (Response.isJson_of_reply hreply)]
        simp

variable {op : Operation} {x : Executor} {e : Exchange}

/-- **Handled outcomes.** What a request comes to is handled exactly if its operation handles the
    outcome. -/
theorem handled_iff (he : (op.plan x).exchange = .ok e) (hbase : x.base.HasScheme)
    (outcome : Outcome) : IsHandled (e.settle outcome).result ↔ op.Handles Takeable outcome := by
  obtain ⟨method, path, hsettled⟩ := exists_settle_of_scheme he hbase
  rw [hsettled, isHandled_settle_iff]

/-- Without a scheme, the address may be all that comes of an outcome. -/
theorem exists_settle_or_noScheme (he : (op.plan x).exchange = .ok e) :
    ∃ method path, ∀ outcome,
      (e.settle outcome).result = (op.conclude (Executor.settle method path outcome).result).result ∨
        ∃ url, (e.settle outcome).result = .error (.noScheme url) := by
  obtain ⟨method, path, text, params, -, hsettled⟩ := exists_settle_of_exchange he
  have hunnamed (url : String) : (op.conclude (.error (.noScheme url))).result =
      .error (.noScheme url) := by
    cases op <;> rfl
  refine ⟨method, path, fun outcome => ?_⟩
  rw [hsettled]
  cases outcome with
  | interrupted => exact Or.inl rfl
  | response r =>
    simp only [Executor.settleAt]
    split
    · exact Or.inl rfl
    · exact Or.inr ⟨_, hunnamed _⟩

/-- An outcome that an operation handles is handled without a scheme as well. -/
theorem handled_of_handles (he : (op.plan x).exchange = .ok e) {outcome : Outcome}
    (h : op.Handles Takeable outcome) : IsHandled (e.settle outcome).result := by
  obtain ⟨method, path, hsettled⟩ := exists_settle_or_noScheme he
  rcases hsettled outcome with hsame | ⟨url, hurl⟩
  · rw [hsame]
    exact isHandled_settle_iff.2 h
  · rw [hurl]
    exact isHandled_error_iff.2 (Or.inr ⟨_, rfl⟩)

end Operation

end Client

namespace CommandLine

section

variable {h : Host} {input : String} {args : List String} {i : Invocation} {s : Settings}

/-- A run whose settings are loaded and whose logging is set up carries out its command. -/
theorem run_of_setup (hread : Invocation.read args = .ok i) (hsettings : i.settings h = .ok s)
    {logging : Logging.Setup} (hlogging : Logging.Setup.of s.logLevel s.logFormat = .ok logging)
    (outcome : Outcome) : run h input args outcome =
      (⟨s, logging, i.command, i.command.plan h input s⟩ : Session).finish outcome.halves
        ((i.command.plan h input s).run outcome) := by
  have hstart : start h input args =
      .ok ⟨s, logging, i.command, i.command.plan h input s⟩ := by
    simp only [start, hread, hsettings, hlogging, Except.mapError, bind, Except.bind]
    rfl
  simp only [run, hstart]

/-- A run whose logging cannot be set up ends before its command. -/
theorem run_of_no_setup (hread : Invocation.read args = .ok i) (hsettings : i.settings h = .ok s)
    {p : Problem} (hlogging : Logging.Setup.of s.logLevel s.logFormat = .error p)
    (outcome : Outcome) : run h input args outcome = { ending := .escape p } := by
  have hstart : start h input args = .error { ending := .escape p } := by
    simp only [start, hread, hsettings, hlogging, Except.mapError, bind, Except.bind]
    rfl
  simp only [run, hstart]

/-- A session has the plan of its command. -/
theorem plan_of_start {x : Session} (hstart : start h input args = .ok x) :
    x.plan = x.command.plan h input x.settings := by
  obtain ⟨i, -, hstart⟩ := bind_eq_ok_iff.1 hstart
  obtain ⟨s, -, hstart⟩ := bind_eq_ok_iff.1 hstart
  split at hstart
  · exact nomatch hstart
  · rw [← Except.ok.inj hstart]

theorem run_of_start {x : Session} (hstart : start h input args = .ok x) (outcome : Outcome) :
    run h input args outcome = x.finish outcome.halves (x.plan.run outcome) := by
  simp only [run, hstart]

theorem Command.plan_of_executor {c : Command} {op : Client.Operation}
    (hop : c.operation h input = .ok op) {x : Http.Executor}
    (hx : (connection s).executor = .ok x) : c.plan h input s = op.plan x := by
  simp only [Command.plan, hop, hx]

theorem Command.plan_of_no_operation {c : Command} {p : Problem}
    (hop : c.operation h input = .error p) : c.plan h input s = .refuse p := by
  simp only [Command.plan, hop]

end

/-! ## Printing -/

/-- Whether a value can be printed, by what stands in for halves of surrogate pairs: none of them is
    in its text. What is null is not printed. -/
def IsPrinted (halves : List Char) (v : Value) : Prop :=
  v.isNull = true ∨ ∀ c ∈ (printed v).toList, c ∉ halves

theorem unprintable?_eq_none_iff {halves : List Char} {s : String} :
    unprintable? halves s = none ↔ ∀ c ∈ s.toList, c ∉ halves := by
  unfold unprintable?
  rw [List.span_eq_takeWhile_dropWhile]
  simp only [ite_eq_left_iff, reduceCtorEq, imp_false, not_not, List.isEmpty_iff,
    List.dropWhile_eq_nil_iff, Bool.not_eq_true', ← Bool.not_eq_true, List.contains_iff_mem]

/-- Without halves of surrogate pairs everything can be printed. -/
theorem isPrinted_nil (v : Value) : IsPrinted [] v :=
  Or.inr fun _ _ => List.not_mem_nil

namespace Session

variable (x : Session) {halves : List Char} {t : Trace}

theorem requests_finish (halves : List Char) (t : Trace) :
    (x.finish halves t).requests = t.requests := by
  unfold finish
  split
  · dsimp only
    split
    · rfl
    · split <;> rfl
  · rfl
  · dsimp only
    split <;> rfl

/-- A value that can be printed ends a run with a code. -/
theorem exists_code_of_value {v : Value} (h : t.result = .ok v) (hprinted : IsPrinted halves v) :
    ∃ n, (x.finish halves t).ending = .code n := by
  simp only [finish, h]
  rcases hprinted with hnull | hfree
  · rw [hnull]
    exact ⟨_, rfl⟩
  · rw [unprintable?_eq_none_iff.2 hfree]
    cases v.isNull <;> exact ⟨_, rfl⟩

/-- A value that cannot be printed escapes as such, and nothing is printed. -/
theorem escape_of_unprintable {v : Value} (h : t.result = .ok v) (hnot : ¬IsPrinted halves v) :
    (∃ e, (x.finish halves t).ending = .escape (.unprintable e)) ∧ (x.finish halves t).output = "" ∧
      (x.finish halves t).errors = "" := by
  obtain ⟨hnull, hfree⟩ := not_or.1 hnot
  rw [← unprintable?_eq_none_iff] at hfree
  obtain ⟨e, he⟩ := Option.ne_none_iff_exists'.1 hfree
  simp only [finish, h, he, Bool.not_eq_true] at hnull ⊢
  rw [hnull]
  exact ⟨⟨e, rfl⟩, rfl, rfl⟩

theorem code_of_reported {r : Failure.Report} (h : t.result = .error (.reported r)) :
    (x.finish halves t).ending = .code 1 := by
  simp only [finish, h]

/-- A problem that has a complaint ends a run with code 2 and the complaint. -/
theorem code_of_complaint (halves : List Char) {p : Problem} {s : String}
    (h : t.result = .error p) (hs : p.complaint? = some s) :
    (x.finish halves t).ending = .code 2 ∧
      (x.finish halves t).errors = "Error: " ++ s ++ "\n" := by
  unfold finish
  rw [h]
  cases p with
  | reported r => exact nomatch hs
  | _ => simp only [hs, and_self]

/-- Any other problem escapes. -/
theorem escape_of_unhandled {p : Problem} (h : t.result = .error p) (hp : ¬p.Handled) :
    (x.finish halves t).ending = .escape p := by
  obtain ⟨hreported, hcomplaint⟩ := not_or.1 hp
  have hnone : p.complaint? = none := by
    cases hs : p.complaint? with
    | none => rfl
    | some s => exact absurd ⟨s, hs⟩ hcomplaint
  unfold finish
  rw [h]
  cases p with
  | reported r => exact absurd ⟨r, rfl⟩ hreported
  | _ => simp only [hnone]

/-- **Endings.** A run ends with a code exactly if what its command came to is a value that can be
    printed, or a problem that is handled. -/
theorem exists_code_finish_iff : (∃ n, (x.finish halves t).ending = .code n) ↔
    IsHandled t.result ∧ ∀ v, t.result = .ok v → IsPrinted halves v := by
  constructor
  · rintro ⟨n, hn⟩
    refine ⟨fun p hp => ?_, fun v hv => ?_⟩
    · by_contra hnot
      rw [x.escape_of_unhandled hp hnot] at hn
      exact nomatch hn
    · by_contra hnot
      obtain ⟨⟨e, he⟩, -⟩ := x.escape_of_unprintable hv hnot
      rw [he] at hn
      exact nomatch hn
  · rintro ⟨hall, hprinted⟩
    cases hresult : t.result with
    | ok v => exact x.exists_code_of_value hresult (hprinted v hresult)
    | error p =>
      rcases hall p hresult with ⟨r, rfl⟩ | ⟨s, hs⟩
      · exact ⟨1, x.code_of_reported hresult⟩
      · exact ⟨2, (x.code_of_complaint halves hresult hs).1⟩

end Session

end CommandLine

end SearchClient
