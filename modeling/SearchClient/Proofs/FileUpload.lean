import Mathlib
import SearchClient.Proofs.Blame
import SearchClient.Proofs.Echo
import SearchClient.Proofs.Loading
import SearchClient.Proofs.OneRequest
import SearchClient.Proofs.Runs

set_option autoImplicit false

/-! # Uploads of files

A text holds the items of a list, or one document on each line that is not blank
(`HoldsDocuments`). The run of a file is faithful to it if its documents are objects, all of them
are sent in one request, line by line, and the run ends with a code; or if there are no such
documents, nothing is sent and the run ends with code 2 (`Faithful`). That is so if the text cannot be
read at all. For objects it hangs on whether they can be sent, and what comes of it is handled and can
be printed; for other documents on whether the first one without a line is blamed for a pair that is
none: one that can be gone through, but does not have two parts (`upload_faithful`). -/

namespace SearchClient

open Text Json Http Client Client.Document Client.Operation

/-! ## Documents of a text -/

namespace Json

/-- What starts as a list is read as one. -/
theorem eq_list_of_readText {cs : List Char} {v : Value} (h : readText ('[' :: cs) = .ok v) :
    ∃ vs, v = .list vs := by
  obtain ⟨⟨w, rest⟩, hvalue, h⟩ := bind_eq_ok_iff.1 (mapError_eq_ok_iff.1 h)
  have hw : ∃ vs, w = .list vs := by
    rw [skipBlanks_cons (by decide), readValue] at hvalue
    simp only [] at hvalue
    split at hvalue
    · exact ⟨[], (Prod.mk.inj (Except.ok.inj hvalue)).1.symm⟩
    · obtain ⟨⟨vs, _⟩, -, hvalue⟩ := map_eq_ok_iff.1 hvalue
      exact ⟨vs, (Prod.mk.inj hvalue).1.symm⟩
  simp only [] at h
  split at h
  · rwa [← Except.ok.inj h]
  · cases h

theorem isJson_of_readText {cs : List Char} {v : Value} (h : readText cs = .ok v) : IsJson v :=
  of_read closed_isJson (read_of_readText h)

theorem printable_of_readText {cs : List Char} {v : Value} (h : readText cs = .ok v) :
    Printable v :=
  of_read closed_printable (read_of_readText h)

end Json

namespace CommandLine

/-- The documents of a text: the items of a list, if it starts as one, or what is on each of its
    lines that is not blank. -/
def HoldsDocuments (cs : List Char) (docs : List Value) : Prop :=
  if (trim cs).head? = some '[' then Json.readText (trim cs) = .ok (.list docs)
  else List.Forall₂ (fun line d => Json.readText line = .ok d) (filledLines (trim cs)) docs

theorem readDocuments_eq_ok_iff {cs : List Char} {docs : List Value} :
    readDocuments cs = .ok docs ↔ HoldsDocuments cs docs := by
  unfold readDocuments HoldsDocuments
  split
  · next hnil =>
    rw [hnil, if_neg nofun]
    exact ⟨fun h => by rw [← Except.ok.inj h]; exact .nil, fun h => by cases h; rfl⟩
  · next rest hlist =>
    rw [hlist, List.head?_cons, if_pos rfl]
    constructor
    · intro h
      obtain ⟨v, hv, h⟩ := bind_eq_ok_iff.1 h
      obtain ⟨vs, rfl⟩ := eq_list_of_readText hv
      rw [hv, ← Except.ok.inj h]
    · exact fun h => bind_eq_ok_iff.2 ⟨.list docs, h, rfl⟩
  · next hlines =>
    rw [if_neg, mapM_eq_ok_iff]
    · rfl
    · intro hhead
      obtain ⟨rest, hrest⟩ := List.head?_eq_some_iff.1 hhead
      exact hlines rest hrest

theorem HoldsDocuments.unique {cs : List Char} {docs docs' : List Value}
    (h : HoldsDocuments cs docs) (h' : HoldsDocuments cs docs') : docs = docs' := by
  rw [← readDocuments_eq_ok_iff] at h h'
  rw [h] at h'
  exact Except.ok.inj h'

/-- The documents of a text are data that can be written. -/
theorem HoldsDocuments.data {cs : List Char} {docs : List Value} (h : HoldsDocuments cs docs) :
    ∀ d ∈ docs, IsJson d ∧ Printable d := by
  unfold HoldsDocuments at h
  split at h
  · cases isJson_of_readText h with
    | list hjson =>
      cases printable_of_readText h with
      | list hprintable => exact fun d hd => ⟨hjson d hd, hprintable d hd⟩
  · have hall : List.Forall₂ (fun d line => (IsJson d ∧ Printable d) ∧ Json.readText line = .ok d)
        docs (filledLines (trim cs)) :=
      h.flip.imp fun d line hread =>
        ⟨⟨isJson_of_readText hread, printable_of_readText hread⟩, hread⟩
    exact ((List.forall₂_and_left _ _).1 hall).1

/-- Documents that are objects. -/
def AreObjects (docs : List Value) : Prop :=
  ∀ d ∈ docs, ∃ es, d = .map es

instance (d : Value) : Decidable (∃ es, d = .map es) :=
  match d with
  | .map es => .isTrue ⟨es, rfl⟩
  | .null | .bool _ | .int _ | .float _ | .text _ | .symbol _ | .date _ | .dateTime _ | .octets _
  | .list _ | .record .. | .pair .. => .isFalse nofun

instance (docs : List Value) : Decidable (AreObjects docs) :=
  inferInstanceAs (Decidable (∀ d ∈ docs, ∃ es, d = Value.map es))

end CommandLine

namespace CommandLine

/-! ## Uploads of documents -/

/-- The upload of documents to an index. -/
def upload (index : String) (docs : List Value) (primaryKey : Option String) : Operation :=
  .addDocuments (.text index) (.list docs) (.text "jsoneachrow") (.ofText? primaryKey)

variable {index : String} {docs : List Value} {primaryKey : Option String}

/-- An upload of documents that have lines can be sent wherever one of no documents can. -/
theorem sendable_of_nil {texts : List String} (h : Document.lines docs = .ok texts) {x : Executor}
    (hnil : (upload index [] primaryKey).Sendable x) :
    (upload index docs primaryKey).Sendable x := by
  obtain ⟨hlegible, c, hc, hcarries⟩ := hnil
  have hcall {docs : List Value} {texts : List String} (h : Document.lines docs = .ok texts) :
      ∃ c, (upload index docs primaryKey).call = .ok c ∧ c.params =
        ("format", .text "jsoneachrow") :: present "primaryKey" (.ofText? primaryKey) :=
    ⟨_, bind_eq_ok_iff.2 ⟨texts, mapError_eq_ok_iff.2 h, rfl⟩, rfl⟩
  obtain ⟨c', hc', hparams'⟩ := hcall h
  have hparams : c.params = c'.params := by
    have hlines : Document.lines [] = .ok [] := rfl
    obtain ⟨c'', hc'', hparams''⟩ := hcall hlines
    rw [hparams', ← hparams'']
    exact congrArg Call.params (Except.ok.inj (hc.symm.trans hc''))
  exact ⟨hlegible, c', hc', by rwa [hparams] at hcarries⟩

theorem call_upload_of_error {m : Misuse} (h : Document.lines docs = .error m) :
    (upload index docs primaryKey).call = .error (.misuse m) :=
  bind_eq_error_iff.2 (Or.inl (mapError_eq_error_iff.2 ⟨m, h, rfl⟩))

/-- Objects can be uploaded. -/
theorem uploadable_of_objects (hobjects : AreObjects docs)
    (hdata : ∀ d ∈ docs, IsJson d ∧ Printable d) : ∀ d ∈ docs, Uploadable d := by
  intro d hd
  obtain ⟨es, rfl⟩ := hobjects d hd
  exact hdata _ hd

/-- What stands in the request of an upload of objects: one line for each of them, which reads as
    the object. -/
theorem lines_of_objects (hobjects : AreObjects docs) (hdata : ∀ d ∈ docs, IsJson d ∧ Printable d)
    {x : Executor} {outcome : Outcome} {r : Request}
    (hr : r ∈ (((upload index docs primaryKey).plan x).run outcome).requests) :
    ∃ lines : List (List Char), r.body.toList = joinOn '\n' lines ∧ (∀ line ∈ lines, '\n' ∉ line) ∧
      List.Forall₂ (fun line d => Json.readText line = .ok d) lines docs := by
  obtain ⟨texts, hall, hbody, hfeedless⟩ :=
    lines_of_upload rfl (uploadable_of_objects hobjects hdata) hr
  refine ⟨texts.map String.toList, hbody, hfeedless, ?_⟩
  rw [List.forall₂_map_left_iff]
  have hread : List.Forall₂ (fun d text => (∃ es, d = .map es) ∧ Framed d text) docs texts :=
    (List.forall₂_and_left _ _).2 ⟨hobjects, hall⟩
  refine hread.flip.imp fun text d hline => ?_
  obtain ⟨⟨es, rfl⟩, hframed⟩ := hline
  obtain ⟨es', hsame, hreads⟩ := hframed.reads
  exact hreads.trans (congrArg Except.ok hsame.symm)

/-- The command uploads the documents of its file, if it holds any. -/
theorem operation_of_holds {h : Host} {input file : String} {cs : List Char}
    (htext : CommandLine.readText h input file = .ok cs) (hdocs : HoldsDocuments cs docs) :
    (Command.addDocuments index (some file) primaryKey).operation h input =
      .ok (upload index docs primaryKey) := by
  have hload : loadDocuments h input file = .ok docs :=
    bind_eq_ok_iff.2 ⟨cs, htext, mapError_eq_ok_iff.2 (readDocuments_eq_ok_iff.2 hdocs)⟩
  exact bind_eq_ok_iff.2 ⟨file, rfl, bind_eq_ok_iff.2 ⟨docs, hload, rfl⟩⟩

theorem operation_of_none {h : Host} {input file : String} {cs : List Char}
    (htext : CommandLine.readText h input file = .ok cs) (hnone : ¬∃ docs, HoldsDocuments cs docs) :
    ∃ e, (Command.addDocuments index (some file) primaryKey).operation h input =
      .error (.json e) := by
  cases hread : readDocuments cs with
  | ok docs => exact absurd ⟨docs, readDocuments_eq_ok_iff.1 hread⟩ hnone
  | error e =>
    have hload : loadDocuments h input file = .error (.json e) :=
      bind_eq_error_iff.2 (Or.inr ⟨cs, htext, mapError_eq_error_iff.2 ⟨e, hread, rfl⟩⟩)
    exact ⟨e, bind_eq_error_iff.2 (Or.inr ⟨file, rfl, bind_eq_error_iff.2 (Or.inl hload)⟩)⟩

/-! ## Faithful runs -/

/-- The documents are sent in one request, one on each line, and the run ends with a code. -/
structure Uploads (docs : List Value) (r : Run) : Prop where
  request : ∃ request, r.requests = [request] ∧ ∃ lines : List (List Char),
    request.body.toList = joinOn '\n' lines ∧ (∀ line ∈ lines, '\n' ∉ line) ∧
    List.Forall₂ (fun line d => Json.readText line = .ok d) lines docs
  code : ∃ n, r.ending = .code n

/-- Nothing is sent, and the run ends with code 2 and a message. -/
structure Refuses (r : Run) : Prop where
  requests : r.requests = []
  code : r.ending = .code 2
  message : ∃ message, r.errors = "Error: " ++ message ++ "\n"

/-- A run that sends the objects of a text, or refuses a text that holds none such. -/
def Faithful (cs : List Char) (r : Run) : Prop :=
  (∃ docs, HoldsDocuments cs docs ∧ AreObjects docs ∧ Uploads docs r) ∨
    (¬∃ docs, HoldsDocuments cs docs ∧ AreObjects docs) ∧ Refuses r

theorem faithful_iff_of_objects {cs : List Char} {r : Run} (hdocs : HoldsDocuments cs docs)
    (hobjects : AreObjects docs) : Faithful cs r ↔ Uploads docs r := by
  constructor
  · rintro (⟨docs', hdocs', -, huploads⟩ | ⟨hnone, -⟩)
    · rwa [hdocs.unique hdocs']
    · exact absurd ⟨docs, hdocs, hobjects⟩ hnone
  · exact fun huploads => Or.inl ⟨docs, hdocs, hobjects, huploads⟩

theorem faithful_iff_of_not_objects {cs : List Char} {r : Run} (hdocs : HoldsDocuments cs docs)
    (hobjects : ¬AreObjects docs) : Faithful cs r ↔ Refuses r := by
  have hnone : ¬∃ docs, HoldsDocuments cs docs ∧ AreObjects docs := by
    rintro ⟨docs', hdocs', hobjects'⟩
    exact hobjects (hdocs.unique hdocs' ▸ hobjects')
  constructor
  · rintro (⟨docs', hdocs', hobjects', -⟩ | ⟨-, hrefuses⟩)
    · exact absurd ⟨docs', hdocs', hobjects'⟩ hnone
    · exact hrefuses
  · exact fun hrefuses => Or.inr ⟨hnone, hrefuses⟩

/-- Whether what comes of an upload can be printed: a successful reply that is accepted shows no half
    of a surrogate pair. -/
def Shows (op : Operation) (outcome : Outcome) : Prop :=
  ∀ r v w, outcome = .response r → r.isSuccess = true → r.reply = .ok v →
    (op.concludeValue v).result = .ok w → IsPrinted outcome.halves w

/-- Whether settings and an outcome allow a faithful upload of documents: the base address can be
    read, objects are sent and what comes of it is handled and can be printed, and other documents are
    blamed. -/
def Allows (takeable : Entries Value → Prop) (s : Settings) (index : String)
    (primaryKey : Option String) (outcome : Outcome) (docs : List Value) : Prop :=
  ∃ x, (connection s).executor = .ok x ∧
    (AreObjects docs → (upload index docs primaryKey).Sendable x ∧
      (upload index docs primaryKey).Handles takeable outcome ∧
      Shows (upload index docs primaryKey) outcome) ∧
    (¬AreObjects docs → FailsFirst HasLine IsBlamed docs)

section

variable (x : Session) {e : Executor} {outcome : Outcome} {cs : List Char}

theorem refuses_of_complaint {halves : List Char} {t : Trace} {p : Failure.Problem} (ht : t.Fails p)
    {complaint : String} (hp : p.complaint? = some complaint) : Refuses (x.finish halves t) := by
  obtain ⟨hrequests, hresult⟩ := ht
  obtain ⟨hcode, herrors⟩ := x.code_of_complaint halves hresult hp
  exact ⟨by rw [x.requests_finish, hrequests], hcode, complaint, herrors⟩

/-- What an upload comes to is the value of a successful reply that is accepted, or a failure. -/
theorem value_of_settle_iff {method path : String} {w : Value} :
    ((upload index docs primaryKey).conclude
      (Executor.settle method path outcome).result).result = .ok w ↔
      ∃ r v, outcome = .response r ∧ r.isSuccess = true ∧ r.reply = .ok v ∧
        ((upload index docs primaryKey).concludeValue v).result = .ok w := by
  cases outcome with
  | interrupted cause message =>
    refine iff_of_false (fun h => ?_) fun ⟨r, v, h, _⟩ => nomatch h
    unfold Executor.settle at h
    dsimp only at h
    split at h <;> exact nomatch h
  | response r =>
    cases hsuccess : r.isSuccess with
    | false =>
      rw [Executor.settle_of_failed hsuccess]
      refine iff_of_false nofun fun ⟨r', v, hr, hsuccess', _⟩ => ?_
      rw [← Outcome.response.inj hr, hsuccess] at hsuccess'
      exact nomatch hsuccess'
    | true =>
      rw [Executor.settle_of_success hsuccess]
      constructor
      · intro h
        cases hreply : r.reply with
        | error p =>
          rw [hreply] at h
          exact nomatch h
        | ok v =>
          rw [hreply, result_conclude_ok] at h
          exact ⟨r, v, rfl, hsuccess, hreply, h⟩
      · rintro ⟨r', v, hr, -, hreply, h⟩
        rw [Outcome.response.inj hr, hreply, result_conclude_ok]
        exact h

/-- Objects are uploaded exactly if they can be sent, and what comes of it is handled and can be
    printed. -/
theorem uploads_iff (hobjects : AreObjects docs) (hdata : ∀ d ∈ docs, IsJson d ∧ Printable d) :
    Uploads docs (x.finish outcome.halves (((upload index docs primaryKey).plan e).run outcome)) ↔
      ∃ exchange, ((upload index docs primaryKey).plan e).exchange = .ok exchange ∧
        IsHandled (exchange.settle outcome).result ∧
        ∀ w, (exchange.settle outcome).result = .ok w → IsPrinted outcome.halves w := by
  constructor
  · rintro ⟨⟨request, hrequests, -⟩, hcode⟩
    rw [x.requests_finish] at hrequests
    have hmem : request ∈ (((upload index docs primaryKey).plan e).run outcome).requests := by
      rw [hrequests]
      exact List.mem_singleton_self request
    obtain ⟨exchange, hexchange, -⟩ := Plan.mem_requests_run.1 hmem
    rw [x.exists_code_finish_iff, Plan.result_run hexchange] at hcode
    exact ⟨exchange, hexchange, hcode⟩
  · rintro ⟨exchange, hexchange, hhandled, hprinted⟩
    have hrequests := Plan.requests_run hexchange outcome
    have hmem : exchange.request ∈
        (((upload index docs primaryKey).plan e).run outcome).requests := by
      rw [hrequests]
      exact List.mem_singleton_self _
    refine ⟨⟨exchange.request, ?_, lines_of_objects hobjects hdata hmem⟩, ?_⟩
    · rw [x.requests_finish, hrequests]
    · rw [x.exists_code_finish_iff, Plan.result_run hexchange]
      exact ⟨hhandled, hprinted⟩

/-- Objects are uploaded by settings and for an outcome that allow it. -/
theorem uploads_of_allows (hobjects : AreObjects docs) (hdata : ∀ d ∈ docs, IsJson d ∧ Printable d)
    (hsendable : (upload index docs primaryKey).Sendable e)
    (hhandles : (upload index docs primaryKey).Handles Reply.Takeable outcome)
    (hshows : Shows (upload index docs primaryKey) outcome) :
    Uploads docs
      (x.finish outcome.halves (((upload index docs primaryKey).plan e).run outcome)) := by
  obtain ⟨texts, hlines, -⟩ := exists_lines (uploadable_of_objects hobjects hdata)
  have hencodable : (upload index docs primaryKey).Encodable :=
    ⟨docs, rfl, exists_lines_iff.1 ⟨texts, hlines⟩⟩
  obtain ⟨exchange, hexchange⟩ := exists_exchange_iff.2 ⟨hencodable, hsendable⟩
  refine (uploads_iff x hobjects hdata).2
    ⟨exchange, hexchange, handled_of_handles hexchange hhandles, fun w hw => ?_⟩
  obtain ⟨method, path, hsettled⟩ := exists_settle_or_noScheme hexchange
  rcases hsettled outcome with hsame | ⟨url, hurl⟩
  · rw [hsame] at hw
    obtain ⟨r, v, hr, hsuccess, hreply, hvalue⟩ := value_of_settle_iff.1 hw
    exact hshows r v w hr hsuccess hreply hvalue
  · rw [hurl] at hw
    exact nomatch hw

/-- Documents are refused if they are blamed. -/
theorem refuses_of_blamed (hdata : ∀ d ∈ docs, IsJson d)
    (hblamed : FailsFirst HasLine IsBlamed docs) :
    Refuses
      (x.finish outcome.halves (((upload index docs primaryKey).plan e).run outcome)) := by
  obtain ⟨place, length, hlines⟩ := (exists_notPair_lines_iff hdata).2 hblamed
  exact refuses_of_complaint x (fails_of_call (call_upload_of_error hlines) outcome) rfl

/-- Where uploads can be sent, documents that are refused are blamed. -/
theorem blamed_of_refuses (hdata : ∀ d ∈ docs, IsJson d ∧ Printable d)
    (hsendable : (upload index [] primaryKey).Sendable e)
    (hrefuses : Refuses
      (x.finish outcome.halves (((upload index docs primaryKey).plan e).run outcome))) :
    FailsFirst HasLine IsBlamed docs := by
  rw [← exists_notPair_lines_iff fun d hd => (hdata d hd).1]
  cases hlines : Document.lines docs with
  | ok texts =>
    -- with all lines there would be a request
    have hencodable : (upload index docs primaryKey).Encodable :=
      ⟨docs, rfl, exists_lines_iff.1 ⟨texts, hlines⟩⟩
    obtain ⟨exchange, hexchange⟩ :=
      exists_exchange_iff.2 ⟨hencodable, sendable_of_nil hlines hsendable⟩
    have hnone := hrefuses.requests
    rw [x.requests_finish, Plan.requests_run hexchange] at hnone
    exact nomatch hnone
  | error m =>
    have hcall : (upload index docs primaryKey).call = .error (.misuse m) :=
      call_upload_of_error hlines
    have hresult : (((upload index docs primaryKey).plan e).run outcome).result =
        .error (.misuse m) := (fails_of_call hcall outcome).2
    have hhandled := (x.exists_code_finish_iff.1 ⟨2, hrefuses.code⟩).1
    rw [hresult, isHandled_error_iff, Failure.Problem.handled_misuse_iff] at hhandled
    rcases hhandled with ⟨place, length, rfl⟩ | rfl
    · exact ⟨place, length, rfl⟩
    · exact absurd hlines (lines_ne_tooLong fun d hd => (hdata d hd).2)

/-! ## Runs of files -/

variable {h : Host} {input file : String} {s : Settings}

theorem faithful_of_allows (htext : CommandLine.readText h input file = .ok cs)
    (hallows : ∀ docs, HoldsDocuments cs docs →
      Allows Reply.Takeable s index primaryKey outcome docs) :
    Faithful cs (x.finish outcome.halves
      (((Command.addDocuments index (some file) primaryKey).plan h input s).run outcome)) := by
  by_cases hholds : ∃ docs, HoldsDocuments cs docs
  · obtain ⟨docs, hdocs⟩ := hholds
    obtain ⟨e, he, hupload, hrefuse⟩ := hallows docs hdocs
    rw [Command.plan_of_executor (operation_of_holds htext hdocs) he]
    by_cases hobjects : AreObjects docs
    · rw [faithful_iff_of_objects hdocs hobjects]
      obtain ⟨hsendable, hhandles, hshows⟩ := hupload hobjects
      exact uploads_of_allows x hobjects hdocs.data hsendable hhandles hshows
    · rw [faithful_iff_of_not_objects hdocs hobjects]
      exact refuses_of_blamed x (fun d hd => (hdocs.data d hd).1) (hrefuse hobjects)
  · obtain ⟨p, hp⟩ := operation_of_none htext hholds
    rw [Command.plan_of_no_operation hp]
    refine Or.inr ⟨fun ⟨docs, hdocs, _⟩ => hholds ⟨docs, hdocs⟩, ?_⟩
    exact refuses_of_complaint x (Plan.fails_run rfl outcome) rfl

theorem allows_of_faithful (htext : CommandLine.readText h input file = .ok cs)
    (he : (connection s).executor = .ok e) (hscheme : e.base.scheme ≠ [])
    (hsendable : (upload index [] primaryKey).Sendable e) (hdocs : HoldsDocuments cs docs)
    (hfaithful : Faithful cs (x.finish outcome.halves
      (((Command.addDocuments index (some file) primaryKey).plan h input s).run outcome))) :
    Allows Reply.Classless s index primaryKey outcome docs := by
  rw [Command.plan_of_executor (operation_of_holds htext hdocs) he] at hfaithful
  refine ⟨e, he, fun hobjects => ?_, fun hobjects => ?_⟩
  · rw [faithful_iff_of_objects hdocs hobjects, uploads_iff x hobjects hdocs.data] at hfaithful
    obtain ⟨exchange, hexchange, hhandled, hprinted⟩ := hfaithful
    have hbase := hasScheme_of_executor he hscheme
    rw [handled_iff hexchange hbase] at hhandled
    refine ⟨(exists_exchange_iff.1 ⟨exchange, hexchange⟩).2, hhandled.imp fun _ => And.left,
      fun r v w hr hsuccess hreply hvalue => hprinted w ?_⟩
    obtain ⟨method, path, hsettled⟩ := exists_settle_of_scheme hexchange hbase
    rw [hsettled]
    exact value_of_settle_iff.2 ⟨r, v, hr, hsuccess, hreply, hvalue⟩
  · rw [faithful_iff_of_not_objects hdocs hobjects] at hfaithful
    exact blamed_of_refuses x hdocs.data hsendable hfaithful

end

/-- The command line of an upload of a file. -/
def uploadArguments : List String :=
  ["--url", "http://bright.test", "documents", "add", "books", "docs.ndjson"]

/-- The run of an upload of a file with a text. -/
def uploadOf (text : String) (outcome : Outcome) : Run :=
  run (oneFile (Utf8.encode text.toList)) "" uploadArguments outcome

/-- The code that a run ends with, if it does. -/
def Run.code? (r : Run) : Option Nat :=
  match r.ending with
  | .code n => some n
  | .escape _ => none

end CommandLine

end SearchClient
