import Mathlib.Tactic.SplitIfs
import RotatedShards.Time.DurationText

/-!
# The written form of durations

A duration is written as a breakdown into units, and the reader adds up the parts that it
meets. The breakdown loses nothing, and no sum on the way exceeds the duration itself, so
that the reader refuses none of it.

Results:
* `weight_breakdown`: the parts of a breakdown add up to what was broken down.
* `readFrom_digits`, `readFrom_label`: how the reader goes through a number and its unit.
* `exists_readFrom_parts`: what it makes of written parts.
* `ofText_text`: a duration is read back from its written form.
-/

namespace RotatedShards.Duration

/-! ## Breakdowns -/

/-- The nanoseconds that counts of units add up to. -/
def weight : List (Nat × TimeUnit) → Nat
  | [] => 0
  | (count, u) :: rest => count * u.nanos + weight rest

/-- What a breakdown leaves over. -/
def leftover (units : List TimeUnit) (nanos : Nat) : Nat :=
  units.foldl (fun n u => n % u.nanos) nanos

theorem breakdown_append (units units' : List TimeUnit) (nanos : Nat) :
    breakdown (units ++ units') nanos =
      breakdown units nanos ++ breakdown units' (leftover units nanos) := by
  induction units generalizing nanos with
  | nil => rfl
  | cons u rest ih =>
    simp only [List.cons_append, breakdown, leftover, List.foldl_cons]
    split_ifs with h
    · have hmod : nanos % u.nanos = nanos := by
        rcases Nat.div_eq_zero_iff.mp h with h | h
        · rw [h, Nat.mod_zero]
        · exact Nat.mod_eq_of_lt h
      rw [hmod]
      exact ih nanos
    · rw [ih]
      rfl

theorem weight_breakdown_add (units : List TimeUnit) (nanos : Nat) :
    weight (breakdown units nanos) + leftover units nanos = nanos := by
  induction units generalizing nanos with
  | nil => simp [breakdown, weight, leftover]
  | cons u rest ih =>
    have hsplit := Nat.div_add_mod' nanos u.nanos
    have hrest := ih (nanos % u.nanos)
    simp only [breakdown, leftover, List.foldl_cons] at hrest ⊢
    split_ifs with h
    · rw [h, Nat.zero_mul, Nat.zero_add] at hsplit
      rw [hsplit] at hrest ⊢
      exact hrest
    · rw [weight]
      omega

/-- Down to nanoseconds nothing is left over. -/
theorem weight_breakdown (nanos : Nat) : weight (breakdown writtenUnits nanos) = nanos := by
  have hleft : leftover writtenUnits nanos = 0 := Nat.mod_one _
  have := weight_breakdown_add writtenUnits nanos
  omega

theorem of_mem_breakdown {units : List TimeUnit} {nanos count : Nat} {u : TimeUnit}
    (h : (count, u) ∈ breakdown units nanos) : u ∈ units ∧ count * u.nanos ≤ nanos := by
  induction units generalizing nanos with
  | nil => cases h
  | cons v rest ih =>
    rw [breakdown] at h
    split_ifs at h with hv
    · obtain ⟨hmem, hle⟩ := ih h
      exact ⟨List.mem_cons_of_mem _ hmem, hle⟩
    · rcases List.mem_cons.mp h with heq | h
      · cases heq
        exact ⟨List.mem_cons_self, Nat.div_mul_le_self nanos u.nanos⟩
      · obtain ⟨hmem, hle⟩ := ih h
        have hmod : nanos % v.nanos ≤ nanos := Nat.mod_le nanos v.nanos
        exact ⟨List.mem_cons_of_mem _ hmem, by omega⟩

/-! ## Labels -/

theorem label_eq_or (u : TimeUnit) (count : Nat) :
    u.label count = u.label 1 ∨ u.label count = u.label 2 := by
  by_cases h : count = 1
  · exact Or.inl (by rw [h])
  · refine Or.inr ?_
    cases u <;> simp [TimeUnit.label, h]

theorem ofName?_label {u : TimeUnit} (h : u ∈ writtenUnits) (count : Nat) :
    TimeUnit.ofName? (u.label count) = some u := by
  have hnames : ∀ v ∈ writtenUnits, TimeUnit.ofName? (v.label 1) = some v ∧
      TimeUnit.ofName? (v.label 2) = some v := by decide
  rcases label_eq_or u count with hlabel | hlabel
  · rw [hlabel, (hnames u h).1]
  · rw [hlabel, (hnames u h).2]

theorem exists_label_eq_cons {u : TimeUnit} (h : u ∈ writtenUnits) (count : Nat) :
    ∃ c cs, (u.label count).toList = c :: cs ∧ ∀ x ∈ c :: cs, isUnitLetter x = true := by
  have hletters : ∀ v ∈ writtenUnits, ∀ n ∈ [1, 2],
      (v.label n).toList ≠ [] ∧ (v.label n).toList.all isUnitLetter = true := by decide
  obtain ⟨n, hn, hlabel⟩ : ∃ n ∈ [1, 2], u.label count = u.label n := by
    rcases label_eq_or u count with hlabel | hlabel
    · exact ⟨1, by decide, hlabel⟩
    · exact ⟨2, by decide, hlabel⟩
  obtain ⟨hne, hall⟩ := hletters u h n hn
  obtain ⟨c, cs, hcs⟩ := List.exists_cons_of_ne_nil hne
  exact ⟨c, cs, by rw [hlabel, hcs], List.all_eq_true.mp (hcs ▸ hall)⟩

/-! ## Parts -/

/-- A part that occurs in written durations: less than a second of a unit shorter than a
    second, and otherwise no more than the longest duration. -/
structure Part (count : Nat) (u : TimeUnit) : Prop where
  written : u ∈ writtenUnits
  short : u.nanos < 1000000000 → count * u.nanos < 1000000000
  fits : count * u.nanos < 18446744073709551616 * 1000000000

theorem writtenUnits_eq : writtenUnits =
    [.year, .month, .day, .hour, .minute, .second] ++ [.millisecond, .microsecond, .nanosecond] :=
  rfl

theorem part_of_mem_breakdown (d : Duration) {count : Nat} {u : TimeUnit}
    (h : (count, u) ∈ breakdown writtenUnits d.nanos) : Part count u := by
  obtain ⟨hmem, hle⟩ := of_mem_breakdown h
  refine ⟨hmem, fun hshort => ?_, Nat.lt_of_le_of_lt hle d.nanos_lt⟩
  rw [writtenUnits_eq, breakdown_append] at h
  rcases List.mem_append.mp h with h | h
  · -- none of the units from a second on is shorter than a second
    have hlong : ∀ v ∈ [TimeUnit.year, .month, .day, .hour, .minute, .second],
        1000000000 ≤ v.nanos := by decide
    have := hlong u (of_mem_breakdown h).1
    omega
  · have hleft : leftover [.year, .month, .day, .hour, .minute, .second] d.nanos < 1000000000 :=
      Nat.mod_lt _ (by decide)
    have := (of_mem_breakdown h).2
    omega

theorem word?_of_lt {n : Nat} (h : n < 18446744073709551616) : word? n = some n := if_pos h

theorem ofParts?_of_lt {secs nanos : Nat}
    (h : secs * 1000000000 + nanos < 18446744073709551616 * 1000000000) :
    ofParts? secs nanos = some ⟨secs * 1000000000 + nanos, h⟩ := dif_pos h

theorem wholeParts?_part {count : Nat} {u : TimeUnit} (h : Part count u) :
    ∃ secs nanos, wholeParts? count u = some (secs, nanos) ∧
      secs * 1000000000 + nanos = count * u.nanos ∧ nanos < 1000000000 := by
  have hfits := h.fits
  unfold wholeParts?
  split_ifs with hshort
  · have hlt := h.short hshort
    refine ⟨0, count * u.nanos, ?_, by omega, hlt⟩
    rw [word?_of_lt (by omega)]
    rfl
  · have heven : ∀ v ∈ writtenUnits, ¬v.nanos < 1000000000 →
        v.nanos / 1000000000 * 1000000000 = v.nanos := by decide
    have hsecs : count * (u.nanos / 1000000000) * 1000000000 = count * u.nanos := by
      rw [Nat.mul_assoc, heven u h.written hshort]
    have hword : count * (u.nanos / 1000000000) < 18446744073709551616 := by omega
    refine ⟨count * (u.nanos / 1000000000), 0, ?_, by rw [Nat.add_zero, hsecs], by decide⟩
    rw [word?_of_lt hword]
    rfl

theorem exists_extend? {total : Duration} {secs nanos : Nat} (hnanos : nanos < 1000000000)
    (hsum : total.nanos + (secs * 1000000000 + nanos) < 18446744073709551616 * 1000000000) :
    ∃ total', extend? total (secs, nanos) = some total' ∧
      total'.nanos = total.nanos + (secs * 1000000000 + nanos) := by
  have hword : total.subsecondNanos + nanos < 18446744073709551616 := by
    simp only [subsecondNanos]
    omega
  have heq : (total.seconds + secs) * 1000000000 + (total.subsecondNanos + nanos) =
      total.nanos + (secs * 1000000000 + nanos) := by
    simp only [seconds, subsecondNanos]
    omega
  have hfits := hsum
  rw [← heq] at hfits
  refine ⟨⟨_, hfits⟩, ?_, heq⟩
  rw [extend?, word?_of_lt hword, Option.bind_eq_bind, Option.bind_some]
  exact ofParts?_of_lt hfits

/-- The reader adds a part to what it has, if the sum is a duration. -/
theorem exists_extendBy {count : Nat} {u : TimeUnit} (h : Part count u) (total : Duration)
    (hsum : total.nanos + count * u.nanos < 18446744073709551616 * 1000000000) :
    ∃ total', extendBy total count none (u.label count).toList.reverse = .ok total' ∧
      total'.nanos = total.nanos + count * u.nanos := by
  obtain ⟨secs, nanos, hparts, heq, hlt⟩ := wholeParts?_part h
  have hnonempty : (u.label count).toList.reverse.isEmpty = false := by
    obtain ⟨c, cs, hlabel, -⟩ := exists_label_eq_cons h.written count
    simp [hlabel]
  rw [← heq] at hsum
  obtain ⟨total', hextend, hnanos⟩ := exists_extend? hlt hsum
  refine ⟨total', ?_, hnanos.trans (by rw [heq])⟩
  unfold extendBy
  simp only [hnonempty, List.reverse_reverse, String.ofList_toList, ofName?_label h.written, hparts,
    Option.bind_eq_bind, Option.bind_some, hextend]
  rfl

/-! ## Reading -/

theorem digit?_digitChar {d : Nat} (h : d < 10) : digit? (Nat.digitChar d) = some d := by
  rw [digit?, Nat.isDigit_digitChar, decide_eq_true h, if_pos rfl, Nat.toNat_digitChar_of_lt_ten h]
  congr 1
  omega

/-- A letter of a unit is neither a digit nor a blank. -/
theorem not_digit_of_isUnitLetter {c : Char} (h : isUnitLetter c = true) :
    digit? c = none ∧ Text.isBlank c = false := by
  rcases Bool.or_eq_true_iff.mp h with halpha | hmicro
  · have hrange : 65 ≤ c.toNat ∧ c.toNat ≤ 90 ∨ 97 ≤ c.toNat ∧ c.toNat ≤ 122 := by
      have hcases : (decide (65 ≤ c.val ∧ c.val ≤ 90) ||
          (decide (97 ≤ c.val) && decide (c.val ≤ 122))) = true := halpha
      simpa [UInt32.le_iff_toNat_le] using hcases
    have hdigit : c.isDigit = false := by
      rw [Bool.eq_false_iff]
      intro hd
      have : 48 ≤ c.toNat ∧ c.toNat ≤ 57 := by
        simpa [Char.isDigit, UInt32.le_iff_toNat_le] using hd
      omega
    refine ⟨by rw [digit?, hdigit]; rfl, ?_⟩
    simp only [Text.isBlank, Bool.or_eq_false_iff, Bool.and_eq_false_iff, decide_eq_false_iff_not,
      beq_eq_false_iff_ne]
    omega
  · rw [beq_iff_eq.mp hmicro]
    decide

/-- The reader goes through the digits of a number that fits a word. -/
theorem readFrom_digits {n : Nat} (hn : n < 18446744073709551616) (total : Duration)
    (offset since : Nat) (first : Bool) (rest : List Char) :
    ∃ offset', readFrom total offset (.beforeNumber first since) (Nat.toDigits 10 n ++ rest) =
      readFrom total offset' (.inNumber n) rest := by
  -- all digits but the last make up a tenth of the number
  induction n using Nat.strongRecOn generalizing rest with
  | _ n ih =>
    rw [Nat.toDigits_eq_if (by decide)]
    split_ifs with h10
    · refine ⟨offset + (Nat.digitChar n).utf8Size, ?_⟩
      rw [List.singleton_append, readFrom]
      simp only [advance, digit?_digitChar h10]
    · have hlast : n % 10 < 10 := Nat.mod_lt _ (by decide)
      have hsum : n / 10 * 10 + n % 10 = n := by omega
      obtain ⟨offset', h⟩ := ih (n / 10) (by omega) (by omega) (Nat.digitChar (n % 10) :: rest)
      refine ⟨offset' + (Nat.digitChar (n % 10)).utf8Size, ?_⟩
      rw [List.append_assoc, List.singleton_append, h, readFrom]
      simp only [advance, digit?_digitChar hlast, appendDigit, hsum, word?_of_lt hn]
      rfl

theorem readFrom_letters {cs : List Char} (hcs : ∀ c ∈ cs, isUnitLetter c = true)
    (total : Duration) (offset count : Nat) (letters rest : List Char) :
    ∃ offset', readFrom total offset (.inUnit count none letters) (cs ++ rest) =
      readFrom total offset' (.inUnit count none (cs.reverse ++ letters)) rest := by
  induction cs generalizing offset letters with
  | nil => exact ⟨offset, rfl⟩
  | cons c cs ih =>
    have hc := hcs c List.mem_cons_self
    obtain ⟨hdigit, hblank⟩ := not_digit_of_isUnitLetter hc
    obtain ⟨offset', h⟩ := ih (fun x hx => hcs x (List.mem_cons_of_mem _ hx))
      (offset + c.utf8Size) (c :: letters)
    refine ⟨offset', ?_⟩
    rw [List.cons_append, readFrom]
    simp only [advance, hdigit, hblank, hc, if_true, Bool.false_eq_true, if_false]
    rw [h, List.reverse_cons, List.append_assoc, List.singleton_append]

/-- The reader goes from a number to the end of its unit. -/
theorem readFrom_label {u : TimeUnit} (h : u ∈ writtenUnits) (total : Duration)
    (offset count : Nat) (rest : List Char) :
    ∃ offset', readFrom total offset (.inNumber count) ((u.label count).toList ++ rest) =
      readFrom total offset' (.inUnit count none (u.label count).toList.reverse) rest := by
  obtain ⟨c, cs, hlabel, hletters⟩ := exists_label_eq_cons h count
  have hc := hletters c List.mem_cons_self
  obtain ⟨hdigit, hblank⟩ := not_digit_of_isUnitLetter hc
  obtain ⟨offset', h⟩ := readFrom_letters (fun x hx => hletters x (List.mem_cons_of_mem _ hx))
    total (offset + c.utf8Size) count [c] rest
  refine ⟨offset', ?_⟩
  rw [hlabel, List.cons_append, readFrom]
  simp only [advance, hdigit, hblank, hc, if_true, Bool.false_eq_true, if_false]
  rw [h, List.reverse_cons]

/-- A part as it is written. -/
def writtenPart (part : Nat × TimeUnit) : String := toString part.1 ++ part.2.label part.1

theorem toList_writtenPart (count : Nat) (u : TimeUnit) :
    (writtenPart (count, u)).toList = Nat.toDigits 10 count ++ (u.label count).toList := by
  rw [writtenPart, String.toList_append, Nat.toString_eq_repr, Nat.toList_repr]

/-- The reader goes from before a part to the end of its unit. -/
theorem readFrom_writtenPart {count : Nat} {u : TimeUnit} (h : Part count u) (total : Duration)
    (offset since : Nat) (first : Bool) (rest : List Char) :
    ∃ offset', readFrom total offset (.beforeNumber first since)
        ((writtenPart (count, u)).toList ++ rest) =
      readFrom total offset' (.inUnit count none (u.label count).toList.reverse) rest := by
  have hcount : count < 18446744073709551616 := by
    have hle : count ≤ count * u.nanos := Nat.le_mul_of_pos_right count u.nanos_pos
    have hfits := h.fits
    by_cases hshort : u.nanos < 1000000000
    · have := h.short hshort
      omega
    · have : count * 1000000000 ≤ count * u.nanos := Nat.mul_le_mul_left count (by omega)
      omega
  obtain ⟨offset₁, hdigits⟩ := readFrom_digits hcount total offset since first
    ((u.label count).toList ++ rest)
  obtain ⟨offset₂, hlabel⟩ := readFrom_label h.written total offset₁ count rest
  exact ⟨offset₂, by rw [toList_writtenPart, List.append_assoc, hdigits, hlabel]⟩

/-- The reader adds up the parts of a text, if their sum is a duration. -/
theorem exists_readFrom_parts {parts : List (Nat × TimeUnit)} (hne : parts ≠ [])
    (hparts : ∀ part ∈ parts, Part part.1 part.2) (total : Duration)
    (hsum : total.nanos + weight parts < 18446744073709551616 * 1000000000)
    (offset since : Nat) (first : Bool) :
    ∃ total', readFrom total offset (.beforeNumber first since)
        (" ".intercalate (parts.map writtenPart)).toList = .ok total' ∧
      total'.nanos = total.nanos + weight parts := by
  induction parts generalizing total offset since first with
  | nil => exact absurd rfl hne
  | cons part rest ih =>
    obtain ⟨count, u⟩ := part
    have hpart : Part count u := hparts _ List.mem_cons_self
    rw [weight] at hsum ⊢
    obtain ⟨total', hextend, hnanos⟩ := exists_extendBy hpart total (by omega)
    cases rest with
    | nil =>
      obtain ⟨offset', hread⟩ := readFrom_writtenPart hpart total offset since first []
      rw [List.append_nil] at hread
      refine ⟨total', ?_, by rw [hnanos, weight, Nat.add_zero]⟩
      rw [List.map_singleton, String.intercalate_singleton, hread]
      exact hextend
    | cons next rest =>
      -- the blank between two parts ends the unit of the first
      obtain ⟨offset', hread⟩ := readFrom_writtenPart hpart total offset since first
        (' ' :: (" ".intercalate ((next :: rest).map writtenPart)).toList)
      obtain ⟨total'', htail, hsum'⟩ := ih (List.cons_ne_nil next rest)
        (fun p hp => hparts p (List.mem_cons_of_mem _ hp)) total' (by omega)
        (offset' + ' '.utf8Size) (offset' + ' '.utf8Size) false
      refine ⟨total'', ?_, by omega⟩
      have htext : (" ".intercalate (((count, u) :: next :: rest).map writtenPart)).toList =
          (writtenPart (count, u)).toList ++
            ' ' :: (" ".intercalate ((next :: rest).map writtenPart)).toList := by
        simp [String.intercalate_cons_cons]
      have hblank : digit? ' ' = none ∧ Text.isBlank ' ' = true := by decide
      rw [htext, hread, readFrom]
      simp only [advance, hblank.1, hblank.2, if_true, hextend]
      exact htail

/-! ## Texts -/

/-- A duration is read back from its written form. -/
theorem ofText_text (d : Duration) : ofText d.text = .ok d := by
  have htext : d.text = if d.nanos = 0 then "0s"
      else " ".intercalate ((breakdown writtenUnits d.nanos).map writtenPart) := rfl
  rw [htext]
  split_ifs with hzero
  · have hd : d = zero := by
      cases d
      cases hzero
      rfl
    rw [hd]
    rfl
  · have hweight := weight_breakdown d.nanos
    have hne : breakdown writtenUnits d.nanos ≠ [] := by
      intro h
      rw [h, weight] at hweight
      exact hzero hweight.symm
    obtain ⟨total, hread, hnanos⟩ := exists_readFrom_parts hne
      (fun part hpart => part_of_mem_breakdown d hpart) zero
      (by rw [hweight]; simpa [zero] using d.nanos_lt) 0 0 true
    have htotal : total = d := by
      rw [hweight] at hnanos
      cases total
      cases d
      simpa [zero] using hnanos
    -- a lone `0` has no unit, so the reader would have refused it
    have hunit : " ".intercalate ((breakdown writtenUnits d.nanos).map writtenPart) ≠ "0" := by
      intro h
      have hzero : readFrom zero 0 (.beforeNumber true 0) "0".toList = .error (.unitNeeded 0) := rfl
      rw [h, hzero] at hread
      cases hread
    rw [ofText, if_neg hunit, hread, htotal]

end RotatedShards.Duration
