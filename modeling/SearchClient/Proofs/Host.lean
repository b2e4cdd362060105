import Mathlib
import SearchClient.Http.Address
import SearchClient.Proofs.Except
import SearchClient.Proofs.Percent

set_option autoImplicit false

/-! # Hosts do not vanish

A host that is not empty is not empty in its normal form either: in brackets stand groups, four
numbers stay as they are, ASCII is encoded character by character, and no label of a domain may be
empty. -/

namespace SearchClient.Http

open Text Text.Percent

namespace Host

theorem sendLabel_ne_nil {label sent : List Char} (h : sendLabel label = .ok sent) : sent ≠ [] := by
  rintro rfl
  unfold sendLabel at h
  split at h
  · obtain ⟨u, hcheck, h⟩ := bind_eq_ok_iff.1 h
    rw [pure_bind] at h
    obtain ⟨-, h⟩ := guard_eq_ok_iff.1 h
    obtain rfl : label = [] := Except.ok.inj h
    exact nomatch hcheck
  · obtain ⟨u, hcheck, h⟩ := bind_eq_ok_iff.1 h
    rw [pure_bind] at h
    obtain ⟨-, h⟩ := guard_eq_ok_iff.1 h
    have hnil : codeMark ++ Punycode.encode (label.map Char.toNat) = [] := Except.ok.inj h
    exact List.cons_ne_nil _ _ hnil

theorem labelsOf_ne_nil {domain : List Char} (h : domain ≠ []) : (labelsOf domain).1 ≠ [] := by
  simp only [labelsOf]
  generalize hcs : domain.map (fun c => if dots.contains c then '.' else c) = cs
  have hne : cs ≠ [] := by
    rintro rfl
    exact h (List.map_eq_nil_iff.1 hcs)
  split
  · next hlast =>
    intro (hnil : (splitOn '.' cs).dropLast = [])
    have hjoin := joinOn_splitOn '.' cs
    rw [← List.dropLast_append_getLast? _ hlast, hnil, List.nil_append] at hjoin
    exact hne hjoin.symm
  · exact splitOn_ne_nil '.' cs

theorem sendDomain_ne_nil {domain sent : List Char} (hne : domain ≠ [])
    (h : sendDomain domain = .ok sent) : sent ≠ [] := by
  unfold sendDomain at h
  obtain ⟨-, h⟩ := guard_eq_ok_iff.1 h
  obtain ⟨ls, hls, h⟩ := bind_eq_ok_iff.1 h
  obtain ⟨-, h⟩ := guard_eq_ok_iff.1 h
  obtain rfl := Except.ok.inj h
  obtain ⟨hlength, hlabels⟩ := forall_of_mapM_eq_ok (fun _ _ => sendLabel_ne_nil) hls
  have hls_ne : ls ≠ [] := by
    rintro rfl
    exact labelsOf_ne_nil hne (List.eq_nil_of_length_eq_zero hlength.symm)
  rw [Ne, joinOn_eq_nil_iff]
  split
  · simp [hls_ne]
  · rintro (hnil | hempty)
    · exact hls_ne hnil
    · exact hlabels [] (by simp [hempty]) rfl
end Host

theorem lowerFrom_ne_nil {before host : List Char} (h : host ≠ []) :
    lowerFrom before host ≠ [] := by
  cases host with
  | nil => exact absurd rfl h
  | cons c cs =>
    have hlower : lowerChar c ≠ [] := by
      unfold lowerChar
      simp only []
      split_ifs
      · simp
      · simp
      · split <;> simp
    simp only [lowerFrom]
    split_ifs
    · simp
    · simp [hlower]

namespace Address

theorem normalHost?_nil : normalHost? [] = some [] := rfl

/-- A host does not vanish when it is brought into normal form. -/
theorem normalHost?_ne_nil {host normal : List Char} (hne : host ≠ [])
    (h : normalHost? host = some normal) : normal ≠ [] := by
  simp only [normalHost?] at h
  split at h
  · split_ifs at h with hgrouped
    rw [← Option.some.inj h]
    intro hnil
    rw [hnil] at hgrouped
    exact absurd hgrouped (by decide)
  · split_ifs at h with hlooks hnumbers hascii
    · rwa [← Option.some.inj h]
    · rw [← Option.some.inj h, Ne, encodeBy_eq_nil_iff, List.map_eq_nil_iff]
      exact hne
    · cases hsend : Host.sendDomain (lowerFrom [] host) with
      | error e =>
        rw [hsend] at h
        exact nomatch h
      | ok sent =>
        rw [hsend] at h
        rw [← Option.some.inj h]
        exact Host.sendDomain_ne_nil (lowerFrom_ne_nil hne) hsend

end Address
end SearchClient.Http
