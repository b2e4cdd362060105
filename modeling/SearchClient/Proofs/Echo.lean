import Mathlib
import SearchClient.Proofs.Replies
import SearchClient.Proofs.Uploading
import SearchClient.Proofs.Utf8

set_option autoImplicit false

/-! # Updates that come back

A body is written in plain ASCII, so the first octets of a reply that repeats it show no encoding but
the one in single octets, and what is decoded is what was written (`decodeBody_bodyText`). The two
sides agree on all data that a JSON text can hold: escapes and pairs of surrogates, whole numbers of
any size that is printed, the shortest digits of the others, and members in their order, however deep
they are. Hence an update that is answered with its own body gives the updates
(`update_echoed`). -/

namespace SearchClient

/-! ## Octets -/

namespace Text

theorem Encoding.detectByZeros_of_nonzero {bs : List UInt8} (h : ∀ b ∈ bs, b ≠ 0) :
    detectByZeros bs = .utf8 0 := by
  unfold detectByZeros
  split
  · rw [if_neg (h _ (by simp)), if_neg (h _ (by simp))]
  · rw [if_neg (h _ (by simp)), if_neg (h _ (by simp))]
  · rfl

/-- Octets of ASCII, with no zero among them, show no encoding of wider units. -/
theorem Encoding.detect_of_ascii {bs : List UInt8} (h : ∀ b ∈ bs, 0 < b.toNat ∧ b.toNat < 0x80) :
    detect bs = .utf8 0 := by
  -- every mark holds an octet that is zero or beyond ASCII
  have hbeyond : ∀ mark ∈ marks, ∃ b ∈ mark.1, b.toNat = 0 ∨ 0x80 ≤ b.toNat := by decide
  have hmark : marks.find? (fun mark => mark.1.isPrefixOf bs) = none := by
    refine List.find?_eq_none.2 fun mark hmem hprefix => ?_
    obtain ⟨b, hb, hbad⟩ := hbeyond mark hmem
    have hgood := h b ((List.isPrefixOf_iff_prefix.1 hprefix).subset hb)
    omega
  rw [detect, hmark]
  refine detectByZeros_of_nonzero fun b hb => ?_
  rintro rfl
  exact absurd (h 0 hb).1 (by decide)

theorem Utf8.octets_of_plain {cs : List Char} (h : ∀ c ∈ cs, Json.isPlain c = true) :
    ∀ b ∈ Utf8.encode cs, 0 < b.toNat ∧ b.toNat < 0x80 := by
  intro b hb
  obtain ⟨c, hc, hb⟩ := List.mem_flatMap.1 hb
  obtain ⟨hleast, hmost⟩ := Json.isPlain_iff.1 (h c hc)
  rw [Utf8.encodeChar, if_pos (by omega), List.mem_singleton] at hb
  rw [hb, Utf8.toNat_octet (by omega)]
  omega

/-- **Plain texts are detected.** -/
theorem decodeDetected_encode {cs : List Char} (h : ∀ c ∈ cs, Json.isPlain c = true) :
    decodeDetected (Utf8.encode cs) = .ok cs := by
  rw [decodeDetected, Encoding.detect_of_ascii (Utf8.octets_of_plain h), Encoding.decode,
    List.drop_zero, Utf8.decodeFrom_encode]

end Text

/-! ## Bodies -/

namespace Json

/-- Where everything beyond ASCII is escaped, all that is shown is plain. -/
theorem Line.isPlain {chars cs : List Char} (h : Line true chars cs) :
    ∀ c ∈ cs, isPlain c = true := by
  intro c hc
  refine isPlain_iff.2 ⟨h.printable c hc, Nat.lt_of_not_le fun hhigh => ?_⟩
  exact absurd ((h.shown c hhigh).1 hc).1 Bool.true_eq_false.mp

theorem read_of_readText {cs : List Char} {v : Value} (h : readText cs = .ok v) :
    read cs = .ok v := by
  unfold readText at h
  split at h
  · exact nomatch h
  · exact h

end Json

open Http Json

/-- **Bodies read back.** The encoder of requests and the decoder of replies agree on all data that
    a JSON text can hold. -/
theorem Http.Executor.decodeBody_bodyText {v : Value} (hjson : IsJson v) (hprintable : Printable v) :
    ∃ text, bodyText (.json v) = .ok text ∧
      decodeBody (Text.Utf8.encode text.toList) = .ok v := by
  obtain ⟨cs, hwrite, hread⟩ := exists_written Style.legible_body hprintable 0
  have hplain := (line_written Style.legible_body rfl hprintable 0 cs hwrite).isPlain
  rw [readAs_eq_self (by decide) hjson] at hread
  have hbody : write? .body v = some (String.ofList cs) := by rw [write?, hwrite, Option.map_some]
  refine ⟨String.ofList cs, ?_, ?_⟩
  · rw [bodyText, content_of_printable hprintable hbody]
    rfl
  · simp only [decodeBody, String.toList_ofList, Text.decodeDetected_encode hplain,
      read_of_readText hread, Except.mapError, bind, Except.bind]

namespace Client

/-- **Updates are echoed.** The encoder of bodies and the decoder of replies agree on all data. So an
    update of a document is sent, unless its address or a header is at fault, and if it is answered
    with success and the very octets of its body, it gives the updates, in their order. -/
theorem update_echoed {baseUrl : String} {apiKey : Option String} {x : Executor}
    (hx : (Connection.of baseUrl apiKey).executor = .ok x) (hscheme : x.base.scheme ≠ [])
    {es : Entries Value} (hjson : IsJson (.map es)) (hprintable : Printable (.map es))
    (index document : Value) :
    (∀ v, IsJson v → Printable v → ∃ text, Executor.bodyText (.json v) = .ok text ∧
        Executor.decodeBody (Text.Utf8.encode text.toList) = .ok v) ∧
      ∀ outcome, let trace := ((Operation.updateDocument index document (.map es)).plan x).run outcome
        trace.Sent ∧ ∀ r ∈ trace.requests, ∀ reason,
          (((Operation.updateDocument index document (.map es)).plan x).run
            (.response ⟨200, reason, Text.Utf8.encode r.body.toList⟩)).result = .ok (.map es) := by
  refine ⟨fun v => Executor.decodeBody_bodyText, fun outcome => ?_⟩
  obtain ⟨text, htext, hdecoded⟩ := Executor.decodeBody_bodyText hjson hprintable
  obtain ⟨c, hc, hbody⟩ : ∃ c, (Operation.updateDocument index document (.map es)).call = .ok c ∧
      c.body = .json (.map es) := by
    have hdata : Document.data (.map es) = .ok (.map es) :=
      bind_eq_ok_iff.2 ⟨Value.ofNamed es, rfl,
        bind_eq_ok_iff.2 ⟨es, Document.named_ofNamed es, rfl⟩⟩
    exact ⟨_, bind_eq_ok_iff.2 ⟨.map es, by rw [hdata]; rfl, rfl⟩, rfl⟩
  rw [← hbody] at htext
  refine ⟨Operation.sent_of_bodyText hc htext outcome, fun r hr reason => ?_⟩
  have hsame := Operation.body_of_mem hr hc
  rw [htext] at hsame
  obtain rfl := Except.ok.inj hsame
  have hsent : (((Operation.updateDocument index document (.map es)).plan x).run
      (.response ⟨200, reason, Text.Utf8.encode r.body.toList⟩)).requests ≠ [] :=
    Operation.requests_ne_nil_of_path (List.ne_nil_of_mem hr) hc hc rfl rfl rfl htext _
  rw [Operation.result_of_success hx hscheme hsent rfl hdecoded]
  rfl

/-- A long whole number, the least number above zero, an infinite one, a pair of surrogates and
    members out of order come back from the octets of their body. -/
theorem update_echoed_of_hard_data :
    ∃ (es : Entries Value) (body : String),
      es = [("z", .map [("b", .list [.int (10 ^ 30), .float (.ofDecimal false 5 (-324))]),
        ("a", .float (.infinite true))]), ("😀\n", .list [.text "\u2028\"", .bool false, .null])] ∧
      body = "\x7b\"z\": \x7b\"b\": [1000000000000000000000000000000, 5e-324], \"a\": -Infinity\x7d, " ++
        "\"\\ud83d\\ude00\\n\": [\"\\u2028\\\"\", false, null]\x7d" ∧
      (((Operation.updateDocument (.text "books") (.text "dune") (.map es)).plan rootExecutor).run
        (.response ⟨200, none, Text.Utf8.encode body.toList⟩)).result = .ok (.map es) := by
  let inner : Entries Value :=
    [("b", .list [.int (10 ^ 30), .float (.ofDecimal false 5 (-324))]), ("a", .float (.infinite true))]
  let es : Entries Value :=
    [("z", .map inner), ("😀\n", .list [.text "\u2028\"", .bool false, .null])]
  have hjson : IsJson (.map es) := by
    have hlist : IsJson (.list [.text "\u2028\"", .bool false, .null]) :=
      .list (by simp [IsJson.text, IsJson.bool, IsJson.null])
    have hinner : IsJson (.map inner) := by
      refine .map (by decide) (List.forall_mem_cons.2 ⟨.list ?_, List.forall_mem_singleton.2 (.float _)⟩)
      exact List.forall_mem_cons.2 ⟨.int _, List.forall_mem_singleton.2 (.float _)⟩
    exact .map (by decide) (List.forall_mem_cons.2 ⟨hinner, List.forall_mem_singleton.2 hlist⟩)
  have hprintable : Printable (.map es) := by
    have hlist : Printable (.list [.text "\u2028\"", .bool false, .null]) :=
      .list (by simp [Printable.text, Printable.bool, Printable.null])
    have hinner : Printable (.map inner) := by
      refine .map (List.forall_mem_cons.2 ⟨.list ?_, List.forall_mem_singleton.2 (.float _)⟩)
      exact List.forall_mem_cons.2 ⟨.int (by decide +kernel), List.forall_mem_singleton.2 (.float _)⟩
    exact .map (List.forall_mem_cons.2 ⟨hinner, List.forall_mem_singleton.2 hlist⟩)
  obtain ⟨-, hechoed⟩ := update_echoed executor_root (List.cons_ne_nil _ _) hjson hprintable
    (.text "books") (.text "dune")
  have hsent : (((Operation.updateDocument (.text "books") (.text "dune") (.map es)).plan
      rootExecutor).run (.interrupted "" "")).requests.map (·.body) =
        ["\x7b\"z\": \x7b\"b\": [1000000000000000000000000000000, 5e-324], \"a\": -Infinity\x7d, " ++
          "\"\\ud83d\\ude00\\n\": [\"\\u2028\\\"\", false, null]\x7d"] := by
    decide +kernel
  obtain ⟨r, hmem, hbody⟩ := Trace.exists_request hsent
  have hresult := (hechoed _).2 r hmem none
  rw [hbody] at hresult
  exact ⟨es, _, rfl, rfl, hresult⟩

end Client

end SearchClient
