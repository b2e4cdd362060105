import Mathlib
import SearchClient.Proofs.Host
import SearchClient.Proofs.Walk

set_option autoImplicit false

/-! # Base addresses

The base address of a service that was read from a text without a question mark has no query, its
path ends with a slash, and holds path characters alone; if paths are walked along at all, no
segment of it is dots. `Address.IsBase` collects these facts, and `resolve?_eq_some` is what they are
for: a path that is resolved stands behind the path of the base, walked along if the base names a
scheme or a place. -/

namespace SearchClient.Http.Address

open Text Text.Percent

/-! ## Characters of paths -/

theorem isPathChar_of_isFormChar {c : Char} (h : isFormChar c = true) : isPathChar c = true :=
  forall_ascii (p := fun c => isFormChar c = true → isPathChar c = true) (by decide)
    (toNat_lt_of_isFormChar h) h

theorem isPathChar_of_isUnreserved {c : Char} (h : isUnreserved c = true) : isPathChar c = true :=
  forall_ascii (p := fun c => isUnreserved c = true → isPathChar c = true) (by decide)
    (toNat_lt_of_isUnreserved h) h

theorem isPathChar_of_mem_encodeBy {cs : List Char} {c : Char}
    (h : c ∈ encodeBy isPathChar cs) : isPathChar c = true := by
  rcases mem_encodeBy h with ⟨hkept, -⟩ | hform
  · exact hkept
  · exact isPathChar_of_isFormChar hform

/-- Dots are encoded as they are, and nothing else is encoded as dots. -/
theorem isDots_encodeBy {keep : Char → Bool} (hdot : keep '.' = true) (s : List Char) :
    isDots (encodeBy keep s) = isDots s := by
  have hone : encodeBy keep s = ['.'] ↔ s = ['.'] :=
    encodeBy_eq_iff (by simp [hdot]) (by simp)
  have htwo : encodeBy keep s = ['.', '.'] ↔ s = ['.', '.'] :=
    encodeBy_eq_iff (by simp [hdot]) (by simp)
  simp only [isDots, hone, htwo]

/-! ## Replacing parts of an address -/

/-- An address stays one with a scheme or a place when it is read once more, or one without. -/
theorem isRooted_reread {a b : Address} (h : a.reread? = some b) : b.isRooted = a.isRooted := by
  obtain ⟨host, hhost, rfl⟩ := Option.map_eq_some_iff.1 h
  have hempty : host.isEmpty = a.host.isEmpty := by
    cases ha : a.host with
    | nil =>
      simp only [hostText, ha, List.contains_nil, Bool.false_eq_true, if_false,
        normalHost?_nil, Option.some.injEq] at hhost
      simp [← hhost]
    | cons c cs =>
      have hne : a.hostText ≠ [] := by
        unfold hostText
        split <;> simp [ha]
      have hhost_ne := normalHost?_ne_nil hne hhost
      simp [hhost_ne]
  cases hs : a.scheme with
  | nil =>
    -- without a scheme no port is the usual one
    have hport : a.port.filter (usualPort [] ≠ some ·) = a.port := by
      have husual : usualPort [] = none := rfl
      cases a.port with
      | none => rfl
      | some n => simp [husual]
    simp only [isRooted, hempty, hs, hport]
  | cons c cs => simp [isRooted, hs]

theorem withPath?_eq_some {a b : Address} {path : List Char} {query : Option (List Char)}
    (h : a.withPath? path query = some b) :
    b = { a with
      path := encodeBy isPathChar (if a.isRooted then walk path else path)
      query := query.map (encodeBy isQueryChar) } := by
  simp only [withPath?] at h
  split_ifs at h with hplace hrooted
  · rw [if_pos hrooted]
    exact (Option.some.inj h).symm
  · rw [if_neg hrooted]
    split at h
    · exact nomatch h
    · exact nomatch h
    · exact (Option.some.inj h).symm

theorem withTarget?_eq_some {a b : Address} {target : List Char} (hquery : '?' ∉ target)
    (h : a.withTarget? target = some b) :
    b.isRooted = a.isRooted ∧ b.query = none ∧
      b.path = encodeBy isPathChar (if a.isRooted then walk target else target) := by
  obtain ⟨c, hc, h⟩ := Option.bind_eq_some_iff.1 h
  rw [(cut?_eq_none_iff '?' target).2 hquery] at h
  simp only [] at h
  split_ifs at h with hlong
  obtain rfl := withPath?_eq_some h
  have hrooted := isRooted_reread hc
  exact ⟨hrooted, rfl, by rw [hrooted]⟩

theorem withQuery?_eq_some {a b : Address} {query : List Char} (h : a.withQuery? query = some b) :
    b.path = a.path ∧ b.query = some query := by
  obtain ⟨c, hc, h⟩ := Option.bind_eq_some_iff.1 h
  obtain ⟨host, -, rfl⟩ := Option.map_eq_some_iff.1 hc
  split at h
  · exact nomatch h
  · rw [← Option.some.inj h]
    exact ⟨rfl, rfl⟩

/-! ## Reading addresses -/

theorem mem_of_mem_splitScheme {cs : List Char} {c : Char} (h : c ∈ (splitScheme cs).2) :
    c ∈ cs := by
  unfold splitScheme at h
  simp only [List.span_eq_takeWhile_dropWhile] at h
  split at h
  · next rest heq =>
    split_ifs at h
    · exact List.dropWhile_sublist _ |>.subset (heq ▸ List.mem_cons_of_mem ':' h)
    · exact h
  · exact h

theorem mem_of_mem_splitPlace {cs : List Char} {c : Char} (h : c ∈ (splitPlace cs).2) :
    c ∈ cs := by
  unfold splitPlace at h
  split at h
  · next rest =>
    rw [List.span_eq_takeWhile_dropWhile] at h
    have hrest : c ∈ rest := (List.dropWhile_sublist _).subset h
    exact List.mem_cons_of_mem '/' (List.mem_cons_of_mem '/' hrest)
  · exact h

theorem splitTail_query {cs : List Char} (h : '?' ∉ cs) : (splitTail cs).2.1 = none := by
  unfold splitTail
  cases hcut : cut? '#' cs with
  | none => simp only [(cut?_eq_none_iff '?' cs).2 h]
  | some parts =>
    obtain ⟨before, fragment⟩ := parts
    obtain ⟨rfl, -⟩ := (cut?_eq_some_iff '#' cs before fragment).1 hcut
    have hbefore : '?' ∉ before := fun hmem => h (List.mem_append_left _ hmem)
    simp only [(cut?_eq_none_iff '?' before).2 hbefore]

/-- What an address has that was read from a text without a question mark. -/
structure IsRead (a : Address) : Prop where
  queryless : a.query = none
  kept : ∀ c ∈ a.path, isPathChar c = true
  still : a.isRooted = true → ∀ s ∈ splitOn '/' a.path, isDots s = false

/-- An address with an encoded path, walked along where paths are, is as if it were read. -/
theorem isRead_of_path {a : Address} {path : List Char} (hquery : a.query = none)
    (hpath : a.path = encodeBy isPathChar (if a.isRooted then walk path else path)) :
    a.IsRead where
  queryless := hquery
  kept c hc := by
    rw [hpath] at hc
    exact isPathChar_of_mem_encodeBy hc
  still hrooted s hs := by
    rw [hpath, if_pos hrooted, splitOn_encodeBy (by decide) (by decide)] at hs
    obtain ⟨t, ht, rfl⟩ := List.mem_map.1 hs
    rw [isDots_encodeBy (by decide)]
    exact isDots_of_mem_splitOn_walk ht

theorem isRead_of_parse? {s : String} {a : Address} (hquery : '?' ∉ s.toList)
    (h : parse? s = some a) : a.IsRead := by
  unfold parse? at h
  simp only [] at h
  split_ifs at h with hlong
  have hrest : '?' ∉ (splitPlace (splitScheme s.toList).2).2 :=
    fun hmem => hquery (mem_of_mem_splitScheme (mem_of_mem_splitPlace hmem))
  split at h
  · obtain rfl := withPath?_eq_some h
    refine isRead_of_path ?_ rfl
    rw [splitTail_query hrest]
    rfl
  · exact nomatch h

theorem IsRead.target_eq {a : Address} (h : a.IsRead) :
    a.target = if a.path.isEmpty then ['/'] else a.path := by
  rw [target, h.queryless]
  exact List.append_nil _

theorem IsRead.target_kept {a : Address} (h : a.IsRead) : ∀ c ∈ a.target, isPathChar c = true := by
  intro c hc
  rw [h.target_eq] at hc
  split at hc
  · rw [List.mem_singleton.1 hc]
    decide
  · exact h.kept c hc

theorem IsRead.target_still {a : Address} (h : a.IsRead) (hrooted : a.isRooted = true) :
    ∀ s ∈ splitOn '/' a.target, isDots s = false := by
  intro s hs
  rw [h.target_eq] at hs
  split at hs
  · have hnil : s = [] := by simpa [splitOn] using hs
    rw [hnil]
    rfl
  · exact h.still hrooted s hs

/-- A path of path characters that has no dots where paths are walked along stays as it is. -/
theorem encodeBy_walk_eq_self {rooted : Bool} {path : List Char}
    (hkept : ∀ c ∈ path, isPathChar c = true)
    (hstill : rooted = true → ∀ s ∈ splitOn '/' path, isDots s = false) :
    encodeBy isPathChar (if rooted then walk path else path) = path := by
  split
  · next hrooted => rw [walk_eq_self (hstill hrooted), encodeBy_eq_self hkept]
  · exact encodeBy_eq_self hkept

theorem notMem_of_kept {path : List Char} (h : ∀ c ∈ path, isPathChar c = true) :
    '?' ∉ path := by
  intro hmem
  exact absurd (h '?' hmem) (by decide)

/-- What the base address of a service has if it was given without a question mark. -/
structure IsBase (base : Address) : Prop extends IsRead base where
  slash : ∃ front, base.target = front ++ ['/']

theorem isBase_of_asBase? {a base : Address} (ha : a.IsRead) (h : a.asBase? = some base) :
    base.IsBase := by
  unfold asBase? at h
  split at h
  · next hslash =>
    obtain rfl := Option.some.inj h
    exact ⟨ha, a.target.dropLast, (List.dropLast_append_getLast? _ hslash).symm⟩
  · have hkept : ∀ c ∈ a.target ++ ['/'], isPathChar c = true := by
      intro c hc
      rcases List.mem_append.1 hc with htarget | hslash
      · exact ha.target_kept c htarget
      · rw [List.mem_singleton.1 hslash]
        decide
    have hstill : a.isRooted = true → ∀ s ∈ splitOn '/' (a.target ++ ['/']), isDots s = false := by
      intro hrooted s hs
      rw [splitOn_append_cons, List.mem_append] at hs
      rcases hs with htarget | hnil
      · exact ha.target_still hrooted s htarget
      · rw [List.mem_singleton.1 hnil]
        rfl
    obtain ⟨hrooted, hnone, hpath⟩ := withTarget?_eq_some (notMem_of_kept hkept) h
    have hread : base.IsRead := isRead_of_path hnone (by rw [hrooted]; exact hpath)
    rw [encodeBy_walk_eq_self hkept hstill] at hpath
    refine ⟨hread, a.target, ?_⟩
    rw [hread.target_eq, hpath, if_neg (by simp)]

/-! ## Resolving paths -/

theorem parse?_path {path : String} {c : Char} {cs : List Char} (hpath : path.toList = '/' :: c :: cs)
    (hc : c ≠ '/') (hkept : ∀ d ∈ path.toList, isPathChar d = true) {a : Address}
    (h : parse? path = some a) : a = ⟨[], [], [], none, path.toList, none, none⟩ := by
  have hscheme : splitScheme path.toList = ([], path.toList) := by
    rw [hpath]
    rfl
  have hplace : splitPlace path.toList = ([], path.toList) := by
    rw [hpath]
    unfold splitPlace
    split
    · next heq =>
      simp only [List.cons.injEq, true_and] at heq
      exact absurd heq.1 hc
    · rfl
  have hhash : '#' ∉ path.toList := fun hmem => absurd (hkept '#' hmem) (by decide)
  have htail : splitTail path.toList = (path.toList, none, none) := by
    simp only [splitTail, (cut?_eq_none_iff '#' path.toList).2 hhash,
      (cut?_eq_none_iff '?' path.toList).2 (notMem_of_kept hkept)]
  unfold parse? at h
  have hport : normalPort? [] (splitPort []).2 = some none := rfl
  have hhost : normalHost? (splitPort []).1 = some [] := normalHost?_nil
  simp only [hscheme, hplace, htail] at h
  split_ifs at h with hlong
  simp only [Text.cutLast?, Option.getD_none, hport, hhost] at h
  rw [withPath?_eq_some h]
  show Address.mk [] [] [] none (encodeBy isPathChar path.toList) none none = _
  rw [encodeBy_eq_self hkept]

/-- A path that is resolved replaces the path of the base by one behind it. -/
theorem withTarget?_of_resolve? {base b : Address} {path : String} {c : Char} {cs : List Char}
    (hpath : path.toList = '/' :: c :: cs) (hc : c ≠ '/')
    (hkept : ∀ d ∈ path.toList, isPathChar d = true) (h : base.resolve? path = some b) :
    base.withTarget? (base.target ++ c :: cs) = some b := by
  obtain ⟨a, ha, h⟩ := Option.bind_eq_some_iff.1 h
  obtain rfl := parse?_path hpath hc hkept ha
  have htarget : (Address.mk [] [] [] none path.toList none none).target = path.toList := by
    simp [target, hpath]
  have hdrop : path.toList.dropWhile (· = '/') = c :: cs := by
    simp [hpath, hc]
  simpa only [List.isEmpty_nil, Bool.not_true, Bool.and_self, Bool.false_eq_true, if_false,
    htarget, hdrop] using h

/-- **Where a path goes.** A path that is resolved stands behind the path of the base, walked along
    if the base names a scheme or a place. -/
theorem resolve?_eq_some {base b : Address} {path : String} {c : Char} {cs : List Char}
    (hbase : base.IsBase) (hpath : path.toList = '/' :: c :: cs) (hc : c ≠ '/')
    (hkept : ∀ d ∈ path.toList, isPathChar d = true) (h : base.resolve? path = some b) :
    b.isRooted = base.isRooted ∧ b.query = none ∧
      b.path = encodeBy isPathChar
        (if base.isRooted then walk (base.target ++ c :: cs) else base.target ++ c :: cs) := by
  refine withTarget?_eq_some ?_ (withTarget?_of_resolve? hpath hc hkept h)
  intro hmem
  rcases List.mem_append.1 hmem with hfront | hback
  · exact notMem_of_kept hbase.toIsRead.target_kept hfront
  · refine notMem_of_kept hkept ?_
    rw [hpath]
    exact List.mem_cons_of_mem '/' hback

end SearchClient.Http.Address
