import Compliance.Form.Field

/-!
# Whole numbers in decimal

Where a whole number is asked for, a text in decimal form stands for the number that it is the form
of: digits without a zero before others, after a minus if the number is negative. A form with more
characters than can be read is refused. Main statement: `int_toString`.
-/
namespace Compliance

open Number Checked

/-! ## Texts without blanks, points and underscores -/

theorem Text.trimBoth_of_forall {drop : Char → Bool} {cs : List Char}
    (h : ∀ c ∈ cs, drop c = false) : trimBoth drop cs = cs := by
  have hkeep : ∀ ds : List Char, (∀ c ∈ ds, drop c = false) → ds.dropWhile drop = ds := by
    rintro (_ | ⟨d, ds⟩) hds
    · rfl
    · rw [List.dropWhile_cons, hds d List.mem_cons_self, if_neg Bool.false_ne_true]
  rw [trimBoth, hkeep cs h, hkeep cs.reverse (by simpa using h), List.reverse_reverse]

namespace Field

theorem joined?_of_not_mem {cs : List Char} (h : '_' ∉ cs) : joined? cs = some cs := by
  induction cs with
  | nil => rfl
  | cons c cs ih =>
    have hc : c ≠ '_' := fun he => h (he ▸ List.mem_cons_self)
    rw [joined?, ih fun hcs => h (List.mem_cons_of_mem c hcs), Option.map_some]
    · exact fun he _ => hc he
    · exact fun _ he _ => hc he
    · exact hc

theorem withoutFraction_of_not_mem {cs : List Char} (h : '.' ∉ cs) : withoutFraction cs = cs := by
  unfold withoutFraction
  split
  · next rest hpoint =>
    have hmem : '.' ∈ cs.reverse.dropWhile (· == '0') := hpoint ▸ List.mem_cons_self
    exact absurd (List.mem_reverse.1 ((List.dropWhile_sublist _).subset hmem)) h
  · rfl

/-! ## Decimal forms -/

/-- Digits, perhaps after a minus, with no zero before others. -/
structure IsDecimal (cs : List Char) : Prop where
  chars : ∀ c ∈ cs, c = '-' ∨ c.isDigit = true
  nonempty : cs ≠ []
  leading : cs.head? = some '0' → cs = ['0']

section
variable {cs : List Char} {c : Char}

theorem not_isWhiteSpace_of_isDigit (h : c.isDigit = true) : Text.isWhiteSpace c = false := by
  rw [Char.isDigit_iff_toNat] at h
  change 48 ≤ c.toNat ∧ c.toNat ≤ 57 at h
  simp only [Text.isWhiteSpace, Text.isBlank, Text.blank, Text.Ranges.has, Bool.and_eq_false_iff]
  left
  simp
  omega

theorem IsDecimal.not_mem (h : IsDecimal cs) (hminus : c ≠ '-') (hdigit : c.isDigit = false) :
    c ∉ cs := fun hc =>
  (h.chars c hc).elim hminus fun hd => Bool.false_ne_true (hdigit.symm.trans hd)

theorem IsDecimal.trimBoth (h : IsDecimal cs) : Text.trimBoth Text.isWhiteSpace cs = cs := by
  refine Text.trimBoth_of_forall fun c hc => ?_
  rcases h.chars c hc with rfl | hd
  · decide
  · exact not_isWhiteSpace_of_isDigit hd

theorem IsDecimal.withoutZeros? (h : IsDecimal cs) : withoutZeros? cs = some cs := by
  cases cs with
  | nil => exact absurd rfl h.nonempty
  | cons c cs =>
    by_cases hc : c = '0'
    · cases h.leading (congrArg some hc)
      rfl
    · rw [Field.withoutZeros?, if_pos (h.chars c List.mem_cons_self)]
      exact hc

/-- A decimal form is bare already. -/
theorem IsDecimal.bareWhole? (h : IsDecimal cs) : bareWhole? cs = some cs := by
  have hplus : '+' ∉ cs := h.not_mem (by decide) (by decide)
  have hline : '_' ∉ cs := h.not_mem (by decide) (by decide)
  have hpoint : '.' ∉ cs := h.not_mem (by decide) (by decide)
  have hhead : cs.head? ≠ some '_' := fun he => hline (List.mem_of_head? he)
  unfold Field.bareWhole?
  split
  · exact absurd List.mem_cons_self hplus
  · exact absurd List.mem_cons_self hplus
  · simp only [Option.bind_eq_bind, Option.bind_some, h.withoutZeros?,
      withoutFraction_of_not_mem hpoint, withoutUnderscores?, if_neg hhead,
      joined?_of_not_mem hline]

end

/-! ## The form of a number -/

/-- The digits of a number, after a minus if it is negative. -/
def signed (negative : Bool) (n : Nat) : List Char :=
  (if negative then ['-'] else []) ++ Nat.toDigits 10 n

theorem toList_toString (n : Int) : (toString n).toList = signed (n < 0) n.natAbs := by
  rw [Int.toString_eq_repr, Int.repr_eq_if]
  by_cases hn : n < 0
  · have habs : (-n).toNat = n.natAbs := by omega
    rw [if_neg (by omega), Nat.repr_eq_ofList_toDigits, habs]
    simp [signed, hn]
  · have habs : n.toNat = n.natAbs := by omega
    rw [if_pos (by omega), Nat.repr_eq_ofList_toDigits, habs, String.toList_ofList]
    simp [signed, hn]

section
variable {n : Nat}

theorem isDigit_toDigits {c : Char} (h : c ∈ Nat.toDigits 10 n) : c.isDigit = true :=
  Nat.isDigit_of_mem_toDigits (by decide) (by decide) h

theorem head?_toDigits (hn : 0 < n) : (Nat.toDigits 10 n).head? ≠ some '0' := by
  induction n using Nat.strongRecOn with
  | ind n ih =>
    by_cases hlt : n < 10
    · rw [Nat.toDigits_of_lt_base hlt]
      exact (by decide : ∀ d < 10, 0 < d → [d.digitChar].head? ≠ some '0') n hlt hn
    · have hrest := ih (n / 10) (by omega) (by omega)
      rw [List.head?_eq_some_head Nat.toDigits_ne_nil] at hrest
      rw [Nat.toDigits_of_base_le (by decide) (by omega), List.head?_append,
        List.head?_eq_some_head Nat.toDigits_ne_nil, Option.some_or]
      exact hrest

theorem toDigits_of_head? (h : (Nat.toDigits 10 n).head? = some '0') :
    Nat.toDigits 10 n = ['0'] := by
  rcases Nat.eq_zero_or_pos n with rfl | hn
  · exact Nat.toDigits_zero 10
  · exact absurd h (head?_toDigits hn)

theorem isDecimal_signed (negative : Bool) (n : Nat) : IsDecimal (signed negative n) := by
  refine ⟨fun c hc => ?_, ?_, fun hzero => ?_⟩
  · rcases List.mem_append.1 hc with hc | hc
    · cases negative with
      | true => exact .inl (List.mem_singleton.1 hc)
      | false => cases hc
    · exact .inr (isDigit_toDigits hc)
  · exact List.append_ne_nil_of_right_ne_nil _ Nat.toDigits_ne_nil
  · cases negative with
    | true => cases hzero
    | false => exact toDigits_of_head? hzero

/-! ## Reading it -/

theorem digitSpan_of_forall {cs : List Char} (h : ∀ c ∈ cs, c.isDigit = true) :
    digitSpan cs = (cs.map fun c => c.toNat - 48, []) := by
  induction cs with
  | nil => rfl
  | cons c cs ih =>
    obtain ⟨hc, hcs⟩ := List.forall_mem_cons.1 h
    simp [digitSpan, Text.asciiDigit?, hc, ih hcs]

theorem fromDigits_toDigits (n : Nat) :
    fromDigits ((Nat.toDigits 10 n).map fun c => c.toNat - 48) = n := by
  have hdigits : Nat.ofDigitChars 10 (Nat.toDigits 10 n) 0 = n := Nat.ofDigitChars_ten_toDigits
  rw [Nat.ofDigitChars_eq_foldl] at hdigits
  rw [fromDigits, List.foldl_map]
  exact hdigits

/-- There is no zero before other digits. -/
theorem map_toDigits_ne (d : Nat) (rest : List Nat) :
    (Nat.toDigits 10 n).map (fun c => c.toNat - 48) ≠ 0 :: d :: rest := by
  intro hds
  obtain ⟨c, cs, hcs, hc, hrest⟩ := List.map_eq_cons_iff.1 hds
  have hdigit := Char.isDigit_iff_toNat.1 (isDigit_toDigits (hcs ▸ List.mem_cons_self))
  have hzero : c = '0' := Char.toNat_inj.1 (Nat.le_antisymm (Nat.sub_eq_zero_iff_le.1 hc) hdigit.1)
  have hone := toDigits_of_head? (n := n) (by rw [hcs, hzero]; rfl)
  cases hcs.symm.trans hone
  cases hrest

theorem plainWhole_signed (negative : Bool) (n : Nat) : plainWhole (signed negative n) =
    if digitLimit < (signed negative n).length then complain .intParsingSize
    else .accepted (if negative then -(n : Int) else n) := by
  have hminus : ∀ cs, Nat.toDigits 10 n ≠ '-' :: cs := by
    intro cs hcs
    have hdigit := isDigit_toDigits (hcs ▸ List.mem_cons_self)
    revert hdigit
    decide
  unfold plainWhole
  split
  next sign body hbody =>
    obtain ⟨rfl, rfl⟩ : sign = negative ∧ body = Nat.toDigits 10 n := by
      cases negative with
      | true =>
        cases hbody
        exact ⟨rfl, rfl⟩
      | false =>
        split at hbody
        · next cs hcs => exact absurd hcs (hminus cs)
        · cases hbody
          exact ⟨rfl, rfl⟩
    rw [digitSpan_of_forall fun c hc => isDigit_toDigits hc]
    split
    · next hempty =>
      exact absurd (List.map_eq_nil_iff.1 (congrArg Prod.fst hempty)) Nat.toDigits_ne_nil
    · next hpadded => exact absurd (congrArg Prod.fst hpadded) (map_toDigits_ne _ _)
    · next hds =>
      cases hds
      rw [fromDigits_toDigits, List.length_map]
      cases sign <;> simp [signed]

end

/-- **A whole number is read back from its decimal form**, as long as that has no more characters
than can be read. -/
theorem int_toString (n : Int) : int (.text (toString n)) =
    if digitLimit < (toString n).length then complain .intParsingSize else .accepted n := by
  have hdecimal := isDecimal_signed (n < 0) n.natAbs
  have hvalue : (if n < 0 then -(n.natAbs : Int) else n.natAbs) = n := by omega
  rw [← String.length_toList, toList_toString]
  simp only [int, intOfText, trimmed, toList_toString, hdecimal.trimBoth, hdecimal.bareWhole?,
    plainWhole_signed, decide_eq_true_eq, hvalue]

end Field
end Compliance
