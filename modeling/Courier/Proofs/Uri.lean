import Courier.Uri
/-!
# Uri - which addresses name a server

Main statement: an address that is read has a scheme and an authority unless its text begins with a slash, is a star,
or goes on to the end like an authority (`Uri.isAbsolute_iff`).
-/
namespace Courier
namespace Uri

/-- The text names no server on its own: it is a path, a star, or no more than an authority. -/
def Relative (s : String) : Prop :=
  s.toList.head? = some '/' ∨ s = "*" ∨ ∀ c ∈ s.toList, endsAuthority c = false

instance (s : String) : Decidable (Relative s) :=
  have : Decidable (∀ c ∈ s.toList, endsAuthority c = false) :=
    List.decidableBAll (fun c => endsAuthority c = false) s.toList
  inferInstanceAs (Decidable (_ ∨ _ ∨ _))

variable {s : String} {cs rest : List Char} {scheme : String} {u : Uri}

/-! ## Parts -/

theorem toLower_eq_slash {c : Char} (h : c.toLower = '/') : c = '/' := by
  unfold Char.toLower at h
  split at h
  · rename_i hupper
    have hfirst : 65 ≤ c.val.toNat := UInt32.le_iff_toNat_le.1 hupper.1
    have hlast : c.val.toNat ≤ 90 := UInt32.le_iff_toNat_le.1 hupper.2
    have hvalue : (c.val.toNat + 32) % 0x100000000 = 47 := congrArg Char.toNat h
    omega
  · exact h

/-- A scheme ends in two slashes. -/
theorem slash_mem_of_after? (h : after? scheme cs = some rest) : '/' ∈ cs := by
  simp only [after?, Option.ite_none_right_eq_some] at h
  have hmem : '/' ∈ (cs.take (scheme.toList ++ "://".toList).length).map Char.toLower := by
    rw [h.1]
    simp
  obtain ⟨c, hc, hlower⟩ := List.mem_map.1 hmem
  exact List.mem_of_mem_take (toLower_eq_slash hlower ▸ hc)

theorem slash_mem_of_scheme? (h : scheme? cs = .ok (some (scheme, rest))) : '/' ∈ cs := by
  unfold scheme? at h
  split at h
  · exact slash_mem_of_after? ‹_›
  split at h
  · exact slash_mem_of_after? ‹_›
  split at h
  · rename_i hdrop
    have hmem : '/' ∈ cs.dropWhile isSchemeChar := by
      rw [hdrop]
      simp
    exact (List.dropWhile_sublist _).mem hmem
  · cases h

theorem scheme_withScheme (h : withScheme scheme rest = .ok u) : u.scheme = some scheme := by
  unfold withScheme at h
  simp only at h
  repeat' split at h
  all_goals cases h
  all_goals rfl

theorem scheme_pathAlone (h : pathAlone cs = .ok u) : u.scheme = none := by
  unfold pathAlone at h
  split at h <;> cases h
  rfl

theorem scheme_authorityAlone {other : Malformed} (h : authorityAlone other cs = .ok u) :
    u.scheme = none ∧ ∀ c ∈ cs, endsAuthority c = false := by
  unfold authorityAlone at h
  split at h
  · cases h
  · split at h
    · cases h
    · rename_i hnone
      cases h
      exact ⟨rfl, by simpa using hnone⟩

/-! ## The whole -/

theorem scheme_isSome_iff (h : parse s = .ok u) : u.scheme.isSome ↔ ¬ Relative s := by
  have hnone (hscheme : u.scheme = none) (hrelative : Relative s) : u.scheme.isSome ↔ ¬ Relative s := by
    simp [hscheme, hrelative]
  unfold parse at h
  split at h
  · cases h
  split at h
  case h_1 => cases h
  case h_2 hstar =>
    refine hnone ?_ (.inr (.inl (String.toList_inj.1 hstar)))
    cases h
    rfl
  case h_3 rest hslash => exact hnone (scheme_pathAlone h) (.inl (by rw [hslash]; rfl))
  case h_4 c hstar hslash hone =>
    obtain ⟨hscheme, hends⟩ := scheme_authorityAlone h
    exact hnone hscheme (.inr (.inr (hone ▸ hends)))
  case h_5 hempty hstar hslash hone =>
    split at h
    · cases h
    · rename_i hscheme
      have hmem := slash_mem_of_scheme? hscheme
      have habsolute : ¬ Relative s := by
        rintro (hhead | rfl | hends)
        · obtain ⟨rest, hrest⟩ := List.head?_eq_some_iff.1 hhead
          exact hslash rest hrest
        · exact hstar rfl
        · cases hends '/' hmem
      simp [scheme_withScheme h, habsolute]
    · obtain ⟨hscheme, hends⟩ := scheme_authorityAlone h
      exact hnone hscheme (.inr (.inr hends))

theorem isAbsolute_iff (h : parse s = .ok u) : u.IsAbsolute ↔ ¬ Relative s := by
  rw [← scheme_isSome_iff h]
  exact ⟨And.left, isAbsolute_of_scheme h⟩

end Uri
end Courier
