import Mathlib
import SearchClient.Proofs.Echo
import SearchClient.Proofs.OneRequest
import SearchClient.Proofs.ReadingBack

set_option autoImplicit false

/-! # Ingresses from tables

A new ingress from a table is sent with its source and its table as texts, and with all settings that
are not null by their names in data. A reply that holds what was sent, and says of which index, is an
ingress from a table with the very settings: none of them is lost, and none is read as another
(`Client.postgresIngress_made_again`). -/

namespace SearchClient

/-- Data of a JSON text can be written. -/
theorem IsJson.writable {v : Value} (h : IsJson v) : Json.Writable v := by
  induction h with
  | null => exact .null
  | bool b => exact .bool b
  | int n => exact .int n
  | float y => exact .float y
  | text s => exact .text s
  | list _ ih => exact .list ih
  | map _ _ ih => exact .map ih

namespace Schema

/-- What a field is depends on what stands under its names alone. -/
theorem FieldOf.checked?_congr {es other : Entries Value} (h : ∀ name, es.get? name = other.get? name)
    (f : FieldRule) : f.checked? es = f.checked? other := by
  unfold checked? supplied?
  rw [h, h]

/-- A field that has to be given is what its shape makes of the value supplied. -/
theorem FieldOf.Fits.exists_supplied {f : FieldRule} {data : Entries Value} (h : f.Fits data)
    (hrequired : f.default = none) :
    ∃ v w, f.supplied? data = some v ∧ f.shape.check v = .ok w ∧ f.checked? data = some w := by
  unfold Fits at h
  unfold checked?
  cases hsupplied : f.supplied? data with
  | none =>
    rw [hsupplied] at h
    obtain ⟨w, hw⟩ := h
    rw [hrequired] at hw
    exact nomatch hw
  | some v =>
    rw [hsupplied] at h
    obtain ⟨w, hw⟩ := h
    exact ⟨v, w, rfl, hw, by simp only [hw, Except.toOption]⟩

/-- A field with a single option is that option. -/
theorem FieldOf.Fits.checked?_of_only {f : FieldRule} {data : Entries Value} (h : f.Fits data)
    {s : String} (hshape : f.shape = .oneOf [s]) (hdefault : f.default = some (.text s)) :
    f.checked? data = some (.text s) := by
  unfold Fits at h
  unfold checked?
  cases hsupplied : f.supplied? data with
  | none => exact hdefault
  | some v =>
    rw [hsupplied] at h
    obtain ⟨w, hw⟩ := h
    rw [hshape] at hw
    obtain ⟨t, ht, rfl, rfl⟩ := exists_option_of_check hw
    obtain rfl := List.mem_singleton.1 ht
    simp only [hshape, hw, Except.toOption]

end Schema

namespace Record

open Schema

/-- Nothing stands beside the fields where all names are names of fields in data. -/
theorem extraOf_eq_nil {model : Model} {data : Entries Value} (hkept : extrasOf model = .kept)
    (h : ∀ name ∈ data.names, ∃ f ∈ fieldsOf model, f.wire = name) : extraOf model data = [] := by
  refine (if_pos hkept).trans (List.filter_eq_nil_iff.2 fun e he => ?_)
  obtain ⟨f, hf, hwire⟩ := h e.1 (List.mem_map_of_mem he)
  have htaken : (fieldsOf model).any (·.takes data e.1) = true :=
    List.any_eq_true.2 ⟨f, hf, by simp [FieldOf.takes, hwire]⟩
  simp [htaken]

end Record

namespace Client

open Http Record Schema

/-! ## New ingresses -/

/-- A record that was made of data by a check. -/
def IsValidated (model : Model) (r : Value) : Prop :=
  ∃ data, check model (.map data) = .ok r

/-- The members of a request for an ingress from a table. -/
def newIngress (id : String) (config : Value) : Entries Value :=
  [("id", .text id), ("type", .text "postgres"), ("config", config)]

/-- No setting that an ingress from a table needs is null, if the rule on its request is kept. -/
theorem present_of_rule? {fields : Entries Value}
    (h : Model.rule? .newPostgresIngress fields = none) {name : String}
    (hname : name ∈ ["dsn", "table"]) :
    (((fields.get? "config").getD .null).member name).isNull = false := by
  cases habsent : ["dsn", "table"].filter fun name =>
      (((fields.get? "config").getD .null).member name).isNull with
  | nil => exact Bool.eq_false_iff.2 (List.filter_eq_nil_iff.1 habsent name hname)
  | cons first rest =>
    simp only [Model.rule?, habsent] at h
    exact nomatch h

theorem exists_of_check_newPostgresIngress {es : Entries Value} {params : Value}
    (h : check .newPostgresIngress (.map es) = .ok params) :
    ∃ id config given v, params = .record .newPostgresIngress (newIngress id config) [] given ∧
      es.get? "config" = some v ∧ postgresConfigShape.check v = .ok config ∧
      ∀ name ∈ ["dsn", "table"], (config.member name).isNull = false := by
  obtain ⟨hfits, -, hrule, rfl⟩ := check_map_eq_ok_iff.1 h
  have hfits : ∀ f ∈ newPostgresIngressFields, f.Fits es := hfits
  simp only [newPostgresIngressFields, List.forall_mem_cons] at hfits
  obtain ⟨hid, htype, hconfig, -⟩ := hfits
  obtain ⟨_, _, -, hid, hidMade⟩ := hid.exists_supplied rfl
  obtain ⟨id, rfl⟩ := exists_text_of_check hid
  have htypeMade := htype.checked?_of_only rfl rfl
  obtain ⟨v, config, hv, hconfig, hconfigMade⟩ := hconfig.exists_supplied rfl
  have hmembers : membersOf (·.checked? es) (fieldsOf .newPostgresIngress) = newIngress id config := by
    simp only [fieldsOf, newPostgresIngressFields, membersOf, List.filterMap_cons, hidMade, htypeMade,
      hconfigMade, Option.map_some, List.filterMap_nil]
    rfl
  rw [hmembers] at hrule ⊢
  refine ⟨id, config, _, v, rfl, ?_, hconfig, ?_⟩
  · change (es.get? "config").or (es.get? "config") = some v at hv
    rwa [Option.or_self] at hv
  · exact fun name hname => present_of_rule? hrule hname

/-- The settings of a request come from a check, if they are given as data or checked themselves. -/
theorem isValidated_of_check {v config : Value} (h : postgresConfigShape.check v = .ok config)
    (hgiven : (∃ data, v = .map data) ∨ IsValidated .postgresConfig v) :
    IsValidated .postgresConfig config := by
  rcases hgiven with ⟨data, rfl⟩ | hvalidated
  · exact ⟨data, mapError_eq_ok_iff.2 h⟩
  · have hsame : v = config := by
      obtain ⟨data, hdata⟩ := hvalidated
      obtain ⟨-, -, -, rfl⟩ := check_map_eq_ok_iff.1 hdata
      exact Except.ok.inj h
    exact hsame ▸ hvalidated

/-! ## What is sent -/

/-- What is sent of the settings of a connector to a table: source and table are texts, every other
    setting that is not null goes by its name in data, and none by another. -/
structure Describes (config fields extra : Entries Value) : Prop where
  source : ∃ s, config.get? "dsn" = some (.text s)
  table : ∃ s, config.get? "table" = some (.text s)
  settings : ∀ f ∈ postgresConfigFields,
    config.get? f.wire = (fields.get? f.name).filter fun v => !v.isNull
  noOther : config.has "schema_" = false
  beside : ∀ e ∈ extra, config.get? e.1 = some e.2

theorem describes_of_restorable {value : FieldRule → Value} {extra : Entries Value}
    (h : Restorable .postgresConfig value extra) {fields : Entries Value} {given : List String}
    (hfields : fields = membersOf (fun f => some (value f)) (fieldsOf .postgresConfig))
    (hpresent : ∀ name ∈ ["dsn", "table"],
      ((Value.record .postgresConfig fields extra given).member name).isNull = false) :
    Describes (sentData .postgresConfig value extra) fields extra := by
  have hvalue : ∀ f ∈ fieldsOf .postgresConfig, fields.get? f.name = some (value f) := by
    rw [hfields]
    exact fun f hf => get?_membersOf (nodup_names_of_apart (apart_fieldsOf .postgresConfig)) hf
  have htext : ∀ f ∈ fieldsOf .postgresConfig, f.name ∈ ["dsn", "table"] →
      f.shape = .optional .text →
        ∃ s, (sentData .postgresConfig value extra).get? f.wire = some (.text s) := by
    intro f hf hname hshape
    have hnull : (value f).isNull = false := by
      have hmember := hpresent f.name hname
      rwa [Value.member, Value.member?, hvalue f hf, Option.some_or] at hmember
    have hcheck := h.again f hf
    rw [hshape] at hcheck
    obtain ⟨s, hs⟩ := exists_text_of_check (check_of_optional hcheck hnull)
    refine ⟨s, ?_⟩
    rw [h.get?_wire hf, hnull, hs]
    rfl
  constructor
  · exact htext (.nullable "dsn" .text) List.mem_cons_self List.mem_cons_self rfl
  · exact htext (.nullable "table" .text) (List.mem_cons_of_mem _ List.mem_cons_self)
      (List.mem_cons_of_mem _ List.mem_cons_self) rfl
  · intro f hf
    rw [h.get?_wire hf, hvalue f hf, Option.filter_some]
    cases (value f).isNull <;> rfl
  · let schema : FieldRule := (FieldRule.nullable "schema_" .text).wiredAs "schema"
    have hschema : schema ∈ fieldsOf .postgresConfig := by
      simp [fieldsOf, postgresConfigFields, schema]
    cases hget : (sentData .postgresConfig value extra).get? "schema_" with
    | none =>
      rw [Entries.has, hget]
      rfl
    | some v =>
      -- nothing is sent under the name of a field that goes by another
      have hwire := (h.eq_of_mem hschema (Or.inr rfl) (Entries.mem_of_get? hget)).1
      exact absurd hwire (by decide)
  · exact fun e he => Entries.get?_of_mem h.nodup_names (List.mem_append_right _ he)

/-- The settings that are checked are sent and made again. -/
theorem exists_sent_config {fields extra : Entries Value} {given : List String}
    (hvalidated : IsValidated .postgresConfig (.record .postgresConfig fields extra given))
    (hpresent : ∀ name ∈ ["dsn", "table"],
      ((Value.record .postgresConfig fields extra given).member name).isNull = false)
    (hnames : ∀ e ∈ fields, HasDistinctNames e.2) (hextra : IsJson (.map extra))
    (hnonnull : ∀ e ∈ extra, e.2.isNull = false) (hfree : extra.has "schema_" = false) :
    ∃ config : Entries Value, IsJson (.map config) ∧ Describes config fields extra ∧
      dump asSent (.record .postgresConfig fields extra given) = .map config ∧
      ∃ given', check .postgresConfig (.map config) =
        .ok (.record .postgresConfig fields extra given') := by
  have hown : ∀ f ∈ fieldsOf .postgresConfig, f.name = f.wire ∨ f.name = "schema_" := by decide
  have hfreeNames : ∀ f ∈ fieldsOf .postgresConfig, f.name = f.wire ∨ f.name ∉ extra.names := by
    intro f hf
    refine (hown f hf).imp_right fun hname hmem => ?_
    rw [hname, Entries.mem_names_iff, hfree] at hmem
    exact nomatch hmem
  obtain ⟨data, hdata⟩ := hvalidated
  obtain ⟨value, hfields, hrestorable⟩ :=
    Restorable.exists_of_check nullable_postgresConfig hdata hnames hextra hnonnull hfreeNames
  refine ⟨sentData .postgresConfig value extra, hrestorable.isJson,
    describes_of_restorable hrestorable hfields hpresent, ?_, ?_⟩
  · rw [hfields]
    exact hrestorable.dump_eq given
  · rw [hfields]
    exact hrestorable.check_sentData rfl nullable_postgresConfig

/-- The data of a request for an ingress from a table. -/
theorem data_of_newIngress (id : String) {settings : Value} {config : Entries Value}
    (hnull : settings.isNull = false) (hdump : dump asSent settings = .map config)
    (given : List String) :
    Document.data (.record .newPostgresIngress (newIngress id settings) [] given) =
      .ok (.map (newIngress id (.map config))) := by
  have hsent : dump asSent (.record .newPostgresIngress (newIngress id settings) [] given) =
      .map (newIngress id (.map config)) := by
    simp only [dump, newIngress, dumpFields, dumpExtra, hdump, hnull]
    rfl
  have hentries : Document.entries (.record .newPostgresIngress (newIngress id settings) [] given) =
      .ok (Value.ofNamed (newIngress id (.map config))) := by
    show (dump asSent (.record .newPostgresIngress (newIngress id settings) [] given)).toPairs = _
    rw [hsent]
    rfl
  exact bind_eq_ok_iff.2 ⟨_, hentries, bind_eq_ok_iff.2 ⟨_, Document.named_ofNamed _, rfl⟩⟩

theorem isJson_newIngress (id : String) {config : Entries Value} (h : IsJson (.map config)) :
    IsJson (.map (newIngress id (.map config))) := by
  refine .map (show ["id", "type", "config"].Nodup by decide) ?_
  simp only [newIngress, List.forall_mem_cons]
  exact ⟨.text id, .text _, h, fun _ hnil => absurd hnil List.not_mem_nil⟩

theorem printable_newIngress (id : String) {config : Entries Value}
    (h : Json.Printable (.map config)) : Json.Printable (.map (newIngress id (.map config))) := by
  refine .map ?_
  simp only [newIngress, List.forall_mem_cons]
  exact ⟨.text id, .text _, h, fun _ hnil => absurd hnil List.not_mem_nil⟩

/-! ## What comes back -/

/-- The members of an ingress from a table of which no more is known than its settings. -/
def tableIngress (id index : String) (config : Value) : Entries Value :=
  [("id", .text id), ("index_id", .text index), ("status", .text "stopped"),
   ("statistics", noStatistics), ("type", .text "postgres"), ("config", config)]

/-- A reply that holds what was sent and the index makes an ingress from a table. -/
theorem wrapIngress_of_perm {id index : String} {config reply : Entries Value} {made : Value}
    (hmade : check .postgresConfig (.map config) = .ok made)
    (hperm : reply.Perm (("index_id", .text index) :: newIngress id (.map config))) :
    ∃ given, Reply.wrapIngress (.map reply) =
      .ok (.record .postgresIngress (tableIngress id index made) [] given) := by
  let replied : Entries Value := ("index_id", .text index) :: newIngress id (.map config)
  have hget := Entries.get?_of_perm hperm (show ["index_id", "id", "type", "config"].Nodup by decide)
  have hmodel : Reply.ingressModel reply = .postgresIngress := by
    rw [Reply.ingressModel_eq_iff, hget]
    rfl
  -- only the entries count, so the reply may as well be in this order
  have hchecked (f : FieldRule) : f.checked? reply = f.checked? replied :=
    FieldOf.checked?_congr hget f
  have hid : (FieldRule.required "id" .text).checked? replied = some (.text id) := rfl
  have hindex : (FieldRule.required "index_id" .text).checked? replied = some (.text index) := rfl
  have hconfig : (FieldRule.required "config" postgresConfigShape).checked? replied = some made := by
    have hshape : postgresConfigShape.check (.map config) = .ok made := mapError_eq_ok_iff.1 hmade
    show (postgresConfigShape.check (.map config)).toOption = some made
    rw [hshape]
    rfl
  have hmembers : membersOf (·.checked? reply) (fieldsOf .postgresIngress) =
      tableIngress id index made := by
    simp only [fieldsOf, postgresIngressFields, ingressFields, List.cons_append, List.nil_append,
      membersOf, List.filterMap_cons, hchecked, hid, hindex, hconfig, Option.map_some]
    rfl
  have hfits : Fits .postgresIngress reply := by
    have hmade : ∀ f ∈ fieldsOf .postgresIngress, ∃ w, f.checked? replied = some w := by
      simp only [fieldsOf, postgresIngressFields, ingressFields, List.cons_append, List.nil_append,
        List.forall_mem_cons]
      exact ⟨⟨_, hid⟩, ⟨_, hindex⟩, ⟨_, rfl⟩, ⟨_, rfl⟩, ⟨_, rfl⟩, ⟨_, hconfig⟩,
        fun _ hnil => absurd hnil List.not_mem_nil⟩
    intro f hf
    rw [FieldOf.fits_iff, hchecked]
    exact hmade f hf
  have hextra : extraOf .postgresIngress reply = [] := by
    have hwires : ∀ name ∈ replied.names, ∃ f ∈ fieldsOf .postgresIngress, f.wire = name :=
      show ∀ name ∈ ["index_id", "id", "type", "config"],
        ∃ f ∈ fieldsOf .postgresIngress, f.wire = name by decide
    exact extraOf_eq_nil rfl fun name hname => hwires name ((hperm.map Prod.fst).mem_iff.1 hname)
  obtain ⟨r, hr⟩ := (exists_check_iff rfl).2 hfits
  obtain ⟨-, -, -, rfl⟩ := check_map_eq_ok_iff.1 hr
  rw [hmembers, hextra] at hr
  rw [← hmodel] at hr
  exact ⟨_, by rw [Reply.wrapIngress_of_check hr, hmodel]⟩

/-! ## There and back -/

/-- **Ingresses from tables are made again.** A request for an ingress from a table whose settings are
    validated is sent, unless its address, a header or an integer that is too long is at fault. Its body
    is that of an object with the type and the settings that `Describes` says, and reads back as that
    object if all its integers can be printed. A successful reply with this object and the text of an
    index, in whatever order, gives an ingress from a table of the same name, with the settings that
    were given. -/
theorem postgresIngress_made_again {baseUrl : String} {apiKey : Option String} {x : Executor}
    (hx : (Connection.of baseUrl apiKey).executor = .ok x) (hscheme : x.base.scheme ≠ [])
    {es : Entries Value} {params : Value}
    (hparams : check .newPostgresIngress (.map es) = .ok params)
    (hgiven : ∀ v, es.get? "config" = some v →
      (∃ data, v = .map data) ∨ IsValidated .postgresConfig v)
    {fields extra : Entries Value} {given : List String}
    (hsettings : params.member "config" = .record .postgresConfig fields extra given)
    (hnames : ∀ e ∈ fields, HasDistinctNames e.2) (hextra : IsJson (.map extra))
    (hnonnull : ∀ e ∈ extra, e.2.isNull = false) (hfree : extra.has "schema_" = false)
    (index : Value) :
    ∃ (id : String) (config : Entries Value), params.member "id" = .text id ∧
      dump asSent (.record .postgresConfig fields extra given) = .map config ∧
      Describes config fields extra ∧
      ∀ outcome, let trace := ((Operation.createIngress index params).plan x).run outcome
        trace.Sent ∧
        (∀ r ∈ trace.requests,
          Executor.bodyText (.json (.map (newIngress id (.map config)))) = .ok r.body ∧
            (Json.Printable (.map config) → Executor.decodeBody (Text.Utf8.encode r.body.toList) =
              .ok (.map (newIngress id (.map config))))) ∧
        ∀ (response : Response) (indexId : String) (reply : Entries Value),
          outcome = .response response → trace.requests ≠ [] → response.isSuccess = true →
            response.reply = .ok (.map reply) →
              reply.Perm (("index_id", .text indexId) :: newIngress id (.map config)) →
                ∃ given₁ given₂, trace.result = .ok (.record .postgresIngress
                  (tableIngress id indexId (.record .postgresConfig fields extra given₁)) []
                    given₂) := by
  obtain ⟨id, settings, givenParams, v, rfl, hv, hconfig, hpresent⟩ :=
    exists_of_check_newPostgresIngress hparams
  obtain rfl : settings = .record .postgresConfig fields extra given := hsettings
  obtain ⟨config, hjson, hdescribes, hdump, given₁, hmade⟩ :=
    exists_sent_config (isValidated_of_check hconfig (hgiven v hv)) hpresent hnames hextra hnonnull
      hfree
  have hbody := isJson_newIngress id hjson
  obtain ⟨c, hc, hcall⟩ : ∃ c, (Operation.createIngress index (.record .newPostgresIngress
      (newIngress id (.record .postgresConfig fields extra given)) [] givenParams)).call = .ok c ∧
        c.body = .json (.map (newIngress id (.map config))) := by
    have hdata := data_of_newIngress id rfl hdump givenParams
    exact ⟨_, bind_eq_ok_iff.2 ⟨_, mapError_eq_ok_iff.2 hdata, rfl⟩, rfl⟩
  refine ⟨id, config, rfl, hdump, hdescribes, fun outcome => ⟨?_, fun r hr => ?_, ?_⟩⟩
  · exact Operation.sent_of_writable hc hcall hbody.writable outcome
  · have hsame := Operation.body_of_mem hr hc
    rw [hcall] at hsame
    refine ⟨hsame, fun hprintable => ?_⟩
    obtain ⟨text', htext', hdecoded⟩ :=
      Executor.decodeBody_bodyText hbody (printable_newIngress id hprintable)
    rw [hsame] at htext'
    rwa [Except.ok.inj htext']
  · rintro response indexId reply rfl hsent hsuccess hreply hperm
    obtain ⟨given₂, hwrap⟩ := wrapIngress_of_perm hmade hperm
    refine ⟨given₁, given₂, ?_⟩
    rw [Operation.result_of_success hx hscheme hsent hsuccess hreply]
    show (Reply.wrapIngress (.map reply)).mapError Failure.Problem.misuse = _
    rw [hwrap]
    rfl

/-- Settings under both kinds of names, some of them read from texts or null, with a map beside them
    that no field takes, and a reply in another order. -/
theorem postgresIngress_made_again_of_mixed_settings :
    let data : Entries Value := [("dsn", .text "db"), ("table", .text "books"),
      ("schema_", .text "sales"), ("column_mapping", .map [("isbn", .text "id")]),
      ("sync_mode", .text "listen"), ("where_clause", .null), ("batch_size", .text "100"),
      ("auto_triggers", .int 1), ("ssl", .map [("verify", .bool true)])]
    let fields : Entries Value := [("dsn", .text "db"), ("table", .text "books"),
      ("schema_", .text "sales"), ("primary_key", .null), ("columns", .null),
      ("column_mapping", .map [("isbn", .text "id")]), ("updated_at_column", .null),
      ("where_clause", .null), ("sync_mode", .text "listen"), ("poll_interval", .null),
      ("batch_size", .int 100), ("auto_triggers", .bool true)]
    let extra : Entries Value := [("ssl", .map [("verify", .bool true)])]
    let config : Entries Value := [("dsn", .text "db"), ("table", .text "books"),
      ("schema", .text "sales"), ("column_mapping", .map [("isbn", .text "id")]),
      ("sync_mode", .text "listen"), ("batch_size", .int 100), ("auto_triggers", .bool true),
      ("ssl", .map [("verify", .bool true)])]
    let reply : Entries Value := newIngress "pg" (.map config) ++ [("index_id", .text "catalog")]
    ∃ params response, check .newPostgresIngress (.map [("id", .text "pg"), ("config", .map data)]) =
        .ok params ∧ response.reply = .ok (.map reply) ∧
      ∃ given₁ given₂, (((Operation.createIngress (.text "catalog") params).plan rootExecutor).run
        (.response response)).result = .ok (.record .postgresIngress
          (tableIngress "pg" "catalog" (.record .postgresConfig fields extra given₁)) [] given₂) := by
  intro data fields extra config reply
  let settings : Value := .record .postgresConfig fields extra ["dsn", "table", "schema_",
    "column_mapping", "where_clause", "sync_mode", "batch_size", "auto_triggers", "ssl"]
  let params : Value :=
    .record .newPostgresIngress (newIngress "pg" settings) [] ["id", "config"]
  have hparams : check .newPostgresIngress (.map [("id", .text "pg"), ("config", .map data)]) =
      .ok params := rfl
  have hgiven : ∀ v, Entries.get? [("id", .text "pg"), ("config", .map data)] "config" = some v →
      (∃ data, v = .map data) ∨ IsValidated .postgresConfig v :=
    fun v hv => Or.inl ⟨data, (Option.some.inj hv).symm⟩
  have hnames : ∀ e ∈ fields, HasDistinctNames e.2 := by
    simp only [fields, List.forall_mem_cons]
    exact ⟨nofun, nofun, nofun, nofun, nofun, fun _ hes => Value.map.inj hes ▸ List.nodup_singleton _,
      nofun, nofun, nofun, nofun, nofun, nofun, fun _ h => absurd h List.not_mem_nil⟩
  have hextra : IsJson (.map extra) :=
    .map (List.nodup_singleton _) (List.forall_mem_singleton.2
      (.map (List.nodup_singleton _) (List.forall_mem_singleton.2 (.bool true))))
  obtain ⟨id, sent, hid, hdump, -, hrun⟩ := postgresIngress_made_again executor_root
    (List.cons_ne_nil _ _) hparams hgiven rfl hnames hextra (by decide) rfl (.text "catalog")
  obtain rfl : "pg" = id := Value.text.inj hid
  obtain rfl : config = sent := Value.map.inj hdump
  have hperm : reply.Perm (("index_id", .text "catalog") :: newIngress "pg" (.map config)) :=
    List.perm_append_singleton _ _
  have hsent : (((Operation.createIngress (.text "catalog") params).plan rootExecutor).run
      (.interrupted "" "")).requests ≠ [] := by
    decide +kernel
  have hconfig : ∀ e ∈ config, IsJson e.2 ∧ Json.Printable e.2 := by
    have hmapping : IsJson (.map [("isbn", .text "id")]) :=
      .map (List.nodup_singleton _) (List.forall_mem_singleton.2 (.text "id"))
    have hssl : IsJson (.map [("verify", .bool true)]) :=
      .map (List.nodup_singleton _) (List.forall_mem_singleton.2 (.bool true))
    simp only [config, List.forall_mem_cons]
    exact ⟨⟨.text _, .text _⟩, ⟨.text _, .text _⟩, ⟨.text _, .text _⟩,
      ⟨hmapping, .map (List.forall_mem_singleton.2 (.text _))⟩, ⟨.text _, .text _⟩,
      ⟨.int _, .int (by decide +kernel)⟩, ⟨.bool _, .bool _⟩,
      ⟨hssl, .map (List.forall_mem_singleton.2 (.bool _))⟩, fun _ h => absurd h List.not_mem_nil⟩
  have hbody : ∀ e ∈ reply, IsJson e.2 ∧ Json.Printable e.2 := by
    simp only [reply, newIngress, List.cons_append, List.nil_append, List.forall_mem_cons]
    exact ⟨⟨.text _, .text _⟩, ⟨.text _, .text _⟩,
      ⟨.map (by decide) fun e he => (hconfig e he).1, .map fun e he => (hconfig e he).2⟩,
      ⟨.text _, .text _⟩, fun _ h => absurd h List.not_mem_nil⟩
  have hjson : IsJson (.map reply) :=
    .map (show ["id", "type", "config", "index_id"].Nodup by decide) fun e he => (hbody e he).1
  obtain ⟨text, -, hread⟩ := Executor.decodeBody_bodyText hjson (.map fun e he => (hbody e he).2)
  let response : Response := ⟨201, none, Text.Utf8.encode text.toList⟩
  have hresponded : (((Operation.createIngress (.text "catalog") params).plan rootExecutor).run
      (.response response)).requests ≠ [] := by
    obtain ⟨r, hr⟩ := List.exists_mem_of_ne_nil _ hsent
    obtain ⟨e, he, -⟩ := Plan.mem_requests_run.1 hr
    rw [Plan.requests_run he]
    exact List.cons_ne_nil _ _
  exact ⟨params, response, hparams, hread,
    (hrun _).2.2 response "catalog" reply rfl hresponded rfl hread hperm⟩

end Client

end SearchClient
