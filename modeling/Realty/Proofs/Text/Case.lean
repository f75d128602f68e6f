/-
# The case of ASCII letters

* `lower_eq_iff`: where a keyword is looked up, the case of the ASCII letters is all that matters;
  the two characters beyond ASCII whose lower-case form has an ASCII letter lead to no keyword.
* `asciiLower_trim`: the case of a text and the blanks at its ends do not depend on each other.
-/
import Realty.Proofs.Text.Trim
import Realty.Text.Case

namespace Realty.Text

/-- What holds of the characters of ASCII one by one holds of every one of them. -/
theorem forall_ascii {P : Char → Prop} (h : ∀ n < 128, P (Char.ofNat n)) {c : Char}
    (hc : c.toNat < 128) : P c := by
  have hchar := h _ hc
  rwa [Char.ofNat_toNat] at hchar

/-- No character beyond ASCII is an ASCII capital. -/
theorem not_le_z_of_not_ascii {c : Char} (hc : 128 ≤ c.toNat) : ¬ c ≤ 'Z' := fun h =>
  absurd (UInt32.le_iff_toNat_le.1 h) (Nat.not_le.2 (Nat.lt_of_lt_of_le (by decide) hc))

theorem toLower_of_not_ascii {c : Char} (hc : 128 ≤ c.toNat) : c.toLower = c :=
  dif_neg fun h => not_le_z_of_not_ascii hc h.2

theorem isBlank_toLower (c : Char) : isBlank c.toLower = isBlank c := by
  rcases Nat.lt_or_ge c.toNat 128 with hc | hc
  · exact forall_ascii (P := fun c => isBlank c.toLower = isBlank c) (by decide +kernel) hc
  · rw [toLower_of_not_ascii hc]

/-- A character has one lower-case form, apart from two beyond ASCII: theirs have a k, or a
character beyond ASCII. -/
theorem lowerChar_eq_or (c : Char) : lowerChar c = [c.toLower] ∨
    128 ≤ c.toLower.toNat ∧ ∃ d ∈ lowerChar c, d = 'k' ∨ 128 ≤ d.toNat := by
  rcases Nat.lt_or_ge c.toNat 128 with hc | hc
  · exact Or.inl (forall_ascii (P := fun c => lowerChar c = [c.toLower]) (by decide +kernel) hc)
  · have hcapital : ¬ ('A' ≤ c ∧ c ≤ 'Z') := fun h => not_le_z_of_not_ascii hc h.2
    rw [toLower_of_not_ascii hc]
    by_cases hkelvin : c.toNat = 0x212A
    · exact Or.inr ⟨hc, 'k', by simp [lowerChar, hcapital, hkelvin], Or.inl rfl⟩
    · by_cases hdotted : c.toNat = 0x130
      · exact Or.inr ⟨hc, Char.ofNat 0x307, by simp [lowerChar, hcapital, hdotted],
          Or.inr (by decide)⟩
      · exact Or.inl (lowerChar_of_not_upper hcapital hkelvin hdotted)

/-- **For a keyword without a k, the case of the ASCII letters is all that matters.** -/
theorem lower_eq_iff {s w : List Char} (hw : ∀ c ∈ w, c.toNat < 128 ∧ c ≠ 'k') :
    lower s = w ↔ asciiLower s = w := by
  induction s generalizing w with
  | nil => rfl
  | cons c r ih =>
    show lowerChar c ++ lower r = w ↔ c.toLower :: asciiLower r = w
    rcases lowerChar_eq_or c with hc | ⟨hlower, d, hd, hforeign⟩
    · rw [hc, List.singleton_append]
      cases w with
      | nil => exact iff_of_false nofun nofun
      | cons e w => rw [List.cons.injEq, List.cons.injEq, ih (List.forall_mem_cons.1 hw).2]
    · refine iff_of_false ?_ ?_
      · rintro rfl
        obtain ⟨hascii, hk⟩ := hw d (List.mem_append_left _ hd)
        exact hforeign.elim hk (Nat.not_le.2 hascii)
      · rintro rfl
        exact absurd (hw _ List.mem_cons_self).1 (Nat.not_lt.2 hlower)

/-- Case and the blanks at the ends do not depend on each other. -/
theorem asciiLower_trim (s : List Char) : asciiLower (trim s) = trim (asciiLower s) := by
  have hblank : isBlank ∘ Char.toLower = isBlank := funext isBlank_toLower
  simp only [asciiLower, trim, trimWhere, List.dropWhile_map, hblank, ← List.map_reverse]

theorem Bare.of_asciiLower {s : List Char} (h : Bare isBlank (asciiLower s)) : Bare isBlank s where
  first c hc := by
    rw [← isBlank_toLower]
    refine h.first _ ?_
    rw [asciiLower, List.head?_map, hc]
    rfl
  last c hc := by
    rw [← isBlank_toLower]
    refine h.last _ ?_
    rw [asciiLower, List.getLast?_map, hc]
    rfl

end Realty.Text
