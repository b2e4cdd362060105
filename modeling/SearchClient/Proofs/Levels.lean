import Mathlib
import SearchClient.Logging.Setup
import SearchClient.Proofs.Entries

set_option autoImplicit false

/-! # The level as a floor

Setting loggers up gives the root a level, and what is logged below it should not be written. A setup
replaces whatever earlier ones did (`Loggers.setUp_setUp`). It fails exactly for the texts that name
something else than a level, and what is written afterwards is what is meant, but for what is logged
for HTTP requests at a level between that of warnings and a higher root (`Strays`). The main theorem
is `level_is_floor`. -/

namespace SearchClient

namespace Logging

/-! ## The names of levels -/

namespace Level

/-- The level that a text stands for: the one that it names in any letter case, else `info`. -/
def meant (text : String) : Level :=
  (named.lookup (Text.upper text)).getD info

/-- A text that names something else than a level. -/
def IsMisnamed (text : String) : Prop :=
  Text.upper text ∈ ["BASIC_FORMAT", "_STYLES"]

theorem exists_ofName_of_isMisnamed {text : String} (h : IsMisnamed text) :
    ∃ p, ofName text = .error p := by
  simp only [IsMisnamed, List.mem_cons, List.not_mem_nil, or_false] at h
  unfold ofName
  rcases h with h | h <;> rw [h] <;> exact ⟨_, rfl⟩

theorem ofName_of_not_isMisnamed {text : String} (h : ¬IsMisnamed text) :
    ofName text = .ok (meant text) := by
  simp only [IsMisnamed, List.mem_cons, List.not_mem_nil, or_false, not_or] at h
  have hnone : misnamed.lookup (Text.upper text) = none := by
    rw [List.lookup_eq_none_iff]
    simp [misnamed, h]
  simp only [ofName, meant, hnone]
  cases named.lookup (Text.upper text) <;> rfl

end Level

namespace Loggers

/-! ## Levels along a path -/

theorem levelOf_eq_root {l : Loggers} {logger : String}
    (h : ∀ name ∈ l.path logger, l.ownLevel? name = none) : l.levelOf logger = l.root := by
  rw [levelOf, List.findSome?_eq_none_iff.2 h, Option.getD_none]

/-- The one level on its path is that of a logger. -/
theorem levelOf_eq_of_only {l : Loggers} {logger other : String} {level : Level}
    (hmem : other ∈ l.path logger) (hlevel : l.ownLevel? other = some level)
    (hrest : ∀ name ∈ l.path logger, name ≠ other → l.ownLevel? name = none) :
    l.levelOf logger = level := by
  rw [levelOf, findSome?_eq_of_only hmem hlevel hrest, Option.getD_some]

/-! ## Setting up -/

/-- What setting up achieves. -/
structure IsSetUp (l : Loggers) (level : Level) (r : Renderer) : Prop where
  root : l.root = level
  request : l.ownLevel? requestLogger = some requestLevel
  handlers : l.handlers = [r]

theorem ownLevel?_put (own : Entries Level) :
    ((own.put requestLogger requestLevel).get? requestLogger).filter (· ≠ 0) =
      some requestLevel := by
  rw [Entries.get?_put_self]
  rfl

theorem setUp_of_isMisnamed {level : String} (h : Level.IsMisnamed level) (l : Loggers)
    (format : String) : ∃ p, l.setUp level format =
      ({ l with handlers := [Renderer.ofName format] }, .error p) := by
  obtain ⟨p, hp⟩ := Level.exists_ofName_of_isMisnamed h
  exact ⟨p, by simp only [setUp, hp]⟩

theorem setUp_of_not_isMisnamed {level : String} (h : ¬Level.IsMisnamed level) (l : Loggers)
    (format : String) : l.setUp level format =
      (⟨Level.meant level, l.own.put requestLogger requestLevel, l.known.insert requestLogger,
        [Renderer.ofName format]⟩, .ok ()) := by
  simp only [setUp, Level.ofName_of_not_isMisnamed h]

theorem isSetUp_setUp {level : String} (h : ¬Level.IsMisnamed level) (l : Loggers)
    (format : String) :
    (l.setUp level format).1.IsSetUp (Level.meant level) (Renderer.ofName format) := by
  rw [setUp_of_not_isMisnamed h]
  exact ⟨rfl, ownLevel?_put l.own, rfl⟩

/-- **The last setup counts alone**, whether an earlier one succeeded or failed. -/
theorem setUp_setUp (l : Loggers) (level format other form : String)
    (h : ¬Level.IsMisnamed other) :
    (l.setUp level format).1.setUp other form = l.setUp other form := by
  rw [setUp_of_not_isMisnamed h, setUp_of_not_isMisnamed h]
  by_cases hlevel : Level.IsMisnamed level
  · obtain ⟨p, hp⟩ := setUp_of_isMisnamed hlevel l format
    rw [hp]
  · rw [setUp_of_not_isMisnamed hlevel, Entries.put_put,
      List.insert_of_mem (List.mem_insert_self)]

/-- The loggers after some setups. -/
def setUpAll (l : Loggers) (calls : List (String × String)) : Loggers :=
  calls.foldl (fun l call => (l.setUp call.1 call.2).1) l

theorem setUp_setUpAll (l : Loggers) (calls : List (String × String)) {level : String}
    (h : ¬Level.IsMisnamed level) (format : String) :
    (l.setUpAll calls).setUp level format = l.setUp level format := by
  induction calls generalizing l with
  | nil => rfl
  | cons call calls ih => exact (ih _).trans (setUp_setUp l call.1 call.2 level format h)

/-! ## What is meant -/

/-- A logger that has its level from the root or the logger of HTTP requests. -/
def Free (l : Loggers) (logger : String) : Prop :=
  ∀ name ∈ l.path logger, name ≠ requestLogger → l.ownLevel? name = none

/-- Whether a logger is the one of HTTP requests or below it. -/
def isRequest (l : Loggers) (logger : String) : Bool :=
  (l.path logger).contains requestLogger

/-- Whether an entry is to be written: from a level on, and for HTTP requests from that of warnings
    on as well. -/
def Meant (l : Loggers) (level : Level) (e : Entry) : Prop :=
  level ≤ e.level ∧ (l.isRequest e.logger = true → requestLevel ≤ e.level)

instance (l : Loggers) (level : Level) : DecidablePred (l.Meant level) := fun _ =>
  inferInstanceAs (Decidable (_ ∧ _))

/-- Where it is not done as it is meant. What is logged for HTTP requests is written from the level of
    warnings on, even if the level is higher. Levels that are not above zero are none that could be
    written, even if the level is not either. -/
def Strays (l : Loggers) (level : Level) (e : Entry) : Prop :=
  if l.isRequest e.logger then requestLevel ≤ e.level ∧ e.level < level
  else level ≤ e.level ∧ e.level ≤ 0

section

variable {l : Loggers} {level : Level} {r : Renderer}

theorem levelOf_of_isSetUp (h : l.IsSetUp level r) {logger : String} (hfree : l.Free logger) :
    l.levelOf logger = if l.isRequest logger then requestLevel else level := by
  -- the logger of HTTP requests is on the path, or no level is met before the root
  split
  · next hmem => exact levelOf_eq_of_only (List.contains_iff_mem.1 hmem) h.request hfree
  · next hmem =>
    rw [← h.root]
    refine levelOf_eq_root fun name hname => hfree name hname ?_
    rintro rfl
    exact hmem (List.contains_iff_mem.2 hname)

theorem writes_iff (l : Loggers) (logger : String) (level : Level) :
    l.writes logger level = true ↔ 0 < level ∧ l.levelOf logger ≤ level := by
  rw [writes, Bool.and_eq_true, decide_eq_true_iff, decide_eq_true_iff]

/-- **A logger writes what is meant** exactly if that is not where it strays. -/
theorem writes_iff_meant_iff (h : l.IsSetUp level r) {e : Entry} (hfree : l.Free e.logger) :
    (l.writes e.logger e.level = true ↔ l.Meant level e) ↔ ¬l.Strays level e := by
  have hrequest : ∀ n floor : Int, ((0 < n ∧ 30 ≤ n) ↔ (floor ≤ n ∧ 30 ≤ n)) ↔
      ¬(30 ≤ n ∧ n < floor) := by
    intro n floor
    omega
  have hother : ∀ n floor : Int, ((0 < n ∧ floor ≤ n) ↔ floor ≤ n) ↔ ¬(floor ≤ n ∧ n ≤ 0) := by
    intro n floor
    omega
  rw [writes_iff, levelOf_of_isSetUp h hfree, Meant, Strays]
  split
  · next hmem =>
    simp only [hmem, true_imp_iff]
    exact hrequest e.level level
  · next hmem =>
    simp only [hmem, false_imp_iff, and_true, Bool.false_eq_true]
    exact hother e.level level

theorem hear_eq (h : l.IsSetUp level r) (e : Entry) :
    l.hear e = if l.writes e.logger e.level then (e.event?.map (r, ·)).toList else [] := by
  rw [hear, h.handlers]
  cases e.event? <;> rfl

/-- **What is written** is, once and in its order, what is meant, if nothing strays. -/
theorem log_eq_meant (h : l.IsSetUp level r) {entries : List Entry}
    (hentries : ∀ e ∈ entries, l.Free e.logger ∧ ¬l.Strays level e) :
    l.log entries = (entries.filter fun e => decide (l.Meant level e)).filterMap
      fun e => e.event?.map (r, ·) := by
  induction entries with
  | nil => rfl
  | cons e entries ih =>
      obtain ⟨⟨hfree, hstay⟩, hrest⟩ := List.forall_mem_cons.1 hentries
      have hwrites := (writes_iff_meant_iff h hfree).2 hstay
      rw [log, List.flatMap_cons, ← log, ih hrest, hear_eq h, List.filter_cons]
      by_cases hmeant : l.Meant level e
      · rw [if_pos (hwrites.2 hmeant), if_pos (decide_eq_true hmeant), List.filterMap_cons]
        cases e.event? <;> rfl
      · rw [if_neg (mt hwrites.1 hmeant), if_neg (by simpa using hmeant), List.nil_append]

end

/-! ## The loggers of a setup -/

/-- A setup stands for the loggers of a process that has set none up before. -/
theorem setUp_eq_loggers {level format : String} {s : Setup} (h : Setup.of level format = .ok s)
    (known : List String) (fresh : Level) (handlers : List Renderer) :
    (Loggers.mk fresh [] known handlers).setUp level format = (s.loggers known, .ok ()) := by
  by_cases hlevel : Level.IsMisnamed level
  · obtain ⟨p, hp⟩ := Level.exists_ofName_of_isMisnamed hlevel
    rw [Setup.of, hp] at h
    exact nomatch h
  · rw [Setup.of, Level.ofName_of_not_isMisnamed hlevel] at h
    rw [setUp_of_not_isMisnamed hlevel, ← Except.ok.inj h]
    rfl

/-- **The level is a floor.** Setting up fails exactly for the texts that name something else than a
    level. Else it counts alone, whatever was set up before, and gives the root the level that the text
    stands for. Each entry for a logger without a level of its own is then written exactly if that is
    meant, unless it strays; and where nothing strays, just what is meant is written, once and in its
    order. -/
theorem level_is_floor (l : Loggers) (earlier : List (String × String)) (level format : String) :
    let (made, result) := (l.setUpAll earlier).setUp level format
    let meant := Level.meant level
    (result = .ok () ↔ ¬Level.IsMisnamed level) ∧
      (¬Level.IsMisnamed level →
        made = (l.setUp level format).1 ∧ made.root = meant ∧
        (∀ e : Entry, made.Free e.logger →
          ((made.writes e.logger e.level = true ↔ made.Meant meant e) ↔ ¬made.Strays meant e)) ∧
        ∀ entries : List Entry, (∀ e ∈ entries, made.Free e.logger ∧ ¬made.Strays meant e) →
          made.log entries = (entries.filter fun e => decide (made.Meant meant e)).filterMap
            fun e => e.event?.map (Renderer.ofName format, ·)) := by
  dsimp only
  constructor
  · by_cases hlevel : Level.IsMisnamed level
    · obtain ⟨p, hp⟩ := setUp_of_isMisnamed hlevel (l.setUpAll earlier) format
      simp [hp, hlevel]
    · simp [setUp_of_not_isMisnamed hlevel, hlevel]
  · intro hlevel
    rw [setUp_setUpAll l earlier hlevel]
    have hmade := isSetUp_setUp hlevel l format
    exact ⟨rfl, hmade.root, fun e hfree => writes_iff_meant_iff hmade hfree,
      fun entries hentries => log_eq_meant hmade hentries⟩

/-- A level in mixed letters after a failed setup and one of another level; a request that is told
    below warnings, one below its logger that is told as an error, and a message without arguments. -/
theorem level_is_floor_of_mixed_case :
    let fresh : Loggers := ⟨Level.warning, [], ["httpx"], []⟩
    let (made, result) :=
      (fresh.setUpAll [("basic_format", "console"), ("critical", "json")]).setUp "Debug" "console"
    result = .ok () ∧ made.root = Level.debug ∧
      made.log [⟨"httpx", Level.info, "GET", []⟩, ⟨"bright.cli", Level.debug, "a %", []⟩,
          ⟨"httpx.auth", Level.error, "%s", [.text "b"]⟩, ⟨"httpxx", 9, "c", []⟩] =
        [(.console, ⟨Level.debug, "bright.cli", "a %"⟩),
          (.console, ⟨Level.error, "httpx.auth", "b"⟩)] := by
  dsimp only
  have hnamed : ¬Level.IsMisnamed "Debug" := by
    unfold Level.IsMisnamed
    decide +kernel
  obtain ⟨hresult, hmade⟩ := level_is_floor ⟨Level.warning, [], ["httpx"], []⟩
    [("basic_format", "console"), ("critical", "json")] "Debug" "console"
  obtain ⟨-, hroot, -, hlog⟩ := hmade hnamed
  refine ⟨hresult.2 hnamed, hroot.trans (by decide +kernel), (hlog _ ?_).trans ?_⟩
  · unfold Free Strays
    decide +kernel
  · decide +kernel

/-- With the level of errors a warning of HTTP requests is written still, and a text that names the
    format of messages is no level and fails. -/
theorem request_written_below_level :
    let fresh : Loggers := ⟨Level.warning, [], [], []⟩
    (fresh.setUp "error" "json").1.root = Level.error ∧
      (fresh.setUp "error" "json").1.log [⟨"httpx", Level.warning, "shown", []⟩] =
        [(.json, ⟨Level.warning, "httpx", "shown"⟩)] ∧
      (fresh.setUp "basic_format" "json").2 =
        .error (.argument (.level "%(levelname)s:%(name)s:%(message)s")) := by
  exact ⟨rfl, rfl, rfl⟩

end Loggers

end Logging

end SearchClient
