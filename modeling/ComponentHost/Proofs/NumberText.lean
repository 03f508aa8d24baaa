/-
# The text of a number tells the number

A number is written by a spelling (`Number.spelling`), and reading takes exactly that
spelling off the front of a text, whatever stands behind it that does not go on with
the number (`Number.readSpelling_write`).  The spelling tells the number:

| Number | Told by |
|--------|---------|
| whole | the digits, and that there is neither point nor exponent |
| zero, binary | no digit but zeros |
| any other binary | its digits between zeros, and where the point stands (`Spelling.Spells`) |

So a text determines the number at its front (`Number.write_append_inj`).
-/

import ComponentHost.Json.Reader
import ComponentHost.Proofs.ShortestDigits

namespace ComponentHost
namespace Json

/-! ### Spellings are read back -/

/-- What may stand behind a number: nothing that goes on with it. -/
def Delimits (rest : List Char) : Prop :=
  ∀ c ∈ rest.head?, c.isDigit = false ∧ c ≠ '.' ∧ c ≠ 'e' ∧ c ≠ 'E'

theorem readDigits_append {ds rest : List Char} (digits : ∀ c ∈ ds, c.isDigit) (ne_nil : ds ≠ [])
    (stop : ∀ c ∈ rest.head?, c.isDigit = false) : readDigits (ds ++ rest) = some (ds, rest) := by
  have taken : rest.takeWhile Char.isDigit = [] ∧ rest.dropWhile Char.isDigit = rest := by
    cases rest with
    | nil => exact ⟨rfl, rfl⟩
    | cons c rest =>
      have := stop c rfl
      exact ⟨List.takeWhile_cons_of_neg (by simp [this]),
        List.dropWhile_cons_of_neg (by simp [this])⟩
  rw [readDigits, List.takeWhile_append_of_pos digits, List.dropWhile_append_of_pos digits, taken.1,
    taken.2, List.append_nil]
  simp [ne_nil]

namespace Number
namespace Spelling

/-- The point and the digits after it. -/
def writeFraction : Option (List Char) → List Char
  | none => []
  | some digits => '.' :: digits

/-- The exponent, its sign always there. -/
def writeExponent : Option Int → List Char
  | none => []
  | some e => 'e' :: (if e < 0 then '-' else '+') :: Nat.toDigits 10 e.natAbs

/-- The text of a spelling without its sign. -/
def writeSize (s : Spelling) : List Char :=
  s.whole ++ (writeFraction s.fraction ++ writeExponent s.exponent)

/-- The text of a spelling. -/
def write (s : Spelling) : List Char := if s.negative then '-' :: s.writeSize else s.writeSize

/-- A spelling that JSON allows: digits on both sides of the point, and before it no zero
but one that stands alone. -/
structure WellFormed (s : Spelling) : Prop where
  whole_isDigit : ∀ c ∈ s.whole, c.isDigit
  whole_ne_nil : s.whole ≠ []
  whole_zero : s.whole.head? = some '0' → s.whole = ['0']
  fraction_isDigit : ∀ ds ∈ s.fraction, ∀ c ∈ ds, c.isDigit
  fraction_ne_nil : ∀ ds ∈ s.fraction, ds ≠ []

theorem readFraction_append {fraction : Option (List Char)} {rest : List Char}
    (digits : ∀ ds ∈ fraction, ∀ c ∈ ds, c.isDigit) (ne_nil : ∀ ds ∈ fraction, ds ≠ [])
    (stop : ∀ c ∈ rest.head?, c.isDigit = false ∧ c ≠ '.') :
    readFraction (writeFraction fraction ++ rest) = some (fraction, rest) := by
  cases fraction with
  | none =>
    cases rest with
    | nil => rfl
    | cons c rest =>
      have := (stop c rfl).2
      rw [writeFraction, List.nil_append, readFraction]
      simp [this]
  | some ds =>
    rw [writeFraction, List.cons_append, readFraction,
      readDigits_append (digits ds rfl) (ne_nil ds rfl) fun c hc => (stop c hc).1]
    rfl

theorem readExponent_append {exponent : Option Int} {rest : List Char} (stop : Delimits rest) :
    readExponent (writeExponent exponent ++ rest) = some (exponent, rest) := by
  cases exponent with
  | none =>
    cases rest with
    | nil => rfl
    | cons c rest =>
      obtain ⟨-, -, lower, upper⟩ := stop c rfl
      simp [writeExponent, readExponent, lower, upper]
  | some e =>
    have digits : readDigits (Nat.toDigits 10 e.natAbs ++ rest) =
        some (Nat.toDigits 10 e.natAbs, rest) :=
      readDigits_append (fun c hc => Nat.isDigit_of_mem_toDigits (by decide) le_rfl hc)
        Nat.toDigits_ne_nil fun c hc => (stop c hc).1
    rw [writeExponent]
    by_cases negative : e < 0
    · have value : -((e.natAbs : Nat) : Int) = e := by omega
      simp only [negative, if_true, List.cons_append, readExponent, true_or, digits,
        Option.bind_eq_bind, Option.bind_some, Decimal.valueOfDigits_toDigits, value]
      rfl
    · have value : ((e.natAbs : Nat) : Int) = e := by omega
      simp only [negative, if_false, List.cons_append, readExponent, true_or, if_true, digits,
        Option.bind_eq_bind, Option.bind_some, Decimal.valueOfDigits_toDigits, value]
      rfl

/-- **A spelling is read back**, and what stands behind it is left. -/
theorem readSpelling_append {s : Spelling} (h : s.WellFormed) {rest : List Char}
    (stop : Delimits rest) : readSpelling (s.write ++ rest) = some (s, rest) := by
  obtain ⟨negative, whole, fraction, exponent⟩ := s
  obtain ⟨whole_isDigit, whole_ne_nil, whole_zero, fraction_isDigit, fraction_ne_nil⟩ := h
  have stopFraction : ∀ c ∈ (writeExponent exponent ++ rest).head?,
      c.isDigit = false ∧ c ≠ '.' := by
    cases exponent with
    | none => exact fun c hc => ⟨(stop c hc).1, (stop c hc).2.1⟩
    | some e =>
      rintro c ⟨⟩
      decide
  have stopWhole : ∀ c ∈ (writeFraction fraction ++ (writeExponent exponent ++ rest)).head?,
      c.isDigit = false := by
    cases fraction with
    | none => exact fun c hc => (stopFraction c hc).1
    | some ds =>
      rintro c ⟨⟩
      decide
  have readWhole := readDigits_append whole_isDigit whole_ne_nil stopWhole
  have readFraction := readFraction_append fraction_isDigit fraction_ne_nil stopFraction
  have readExponent : readExponent (writeExponent exponent ++ rest) = some (exponent, rest) :=
    readExponent_append stop
  have allowed : ¬ (whole.head? = some '0' ∧ whole ≠ ['0']) := fun bad => bad.2 (whole_zero bad.1)
  cases negative with
  | true =>
    simp [write, writeSize, readSpelling, readWhole, allowed, readFraction, readExponent]
  | false =>
    -- The first character is a digit, so it is not taken for a sign.
    have sign : ∀ tail, whole ++ (writeFraction fraction ++ (writeExponent exponent ++ rest)) ≠
        '-' :: tail := by
      intro tail same
      obtain ⟨c, cs, rfl⟩ := List.exists_cons_of_ne_nil whole_ne_nil
      obtain ⟨rfl, -⟩ := List.cons.inj same
      exact absurd (whole_isDigit '-' (List.mem_cons_self ..)) (by decide)
    simp [write, writeSize, readSpelling, readWhole, allowed, readFraction, readExponent]

/-! ### The spelling of a number -/

/-- The spelling of digits in place. -/
def inPlace (negative : Bool) (digits : List Char) (point : Int) : Spelling :=
  if 0 < point then
    if digits.length ≤ point.toNat then
      ⟨negative, digits ++ List.replicate (point.toNat - digits.length) '0', some ['0'], none⟩
    else ⟨negative, digits.take point.toNat, some (digits.drop point.toNat), none⟩
  else ⟨negative, ['0'], some (List.replicate (-point).toNat '0' ++ digits), none⟩

/-- The spelling of digits with an exponent. -/
def scientific (negative : Bool) (digits : List Char) (point : Int) : Spelling :=
  ⟨negative, digits.take 1, if digits.length ≤ 1 then none else some (digits.drop 1),
    some (point - 1)⟩

/-- Whether digits and their point are what a spelling has between zeros. -/
def Spells (s : Spelling) (d : Digits) : Prop :=
  ∃ front back, s.whole ++ s.fraction.getD [] =
      List.replicate front '0' ++ (d.digits ++ List.replicate back '0') ∧
    s.whole.length + s.exponent.getD 0 = d.point + front

theorem dropWhile_zeros_append {ds : List Char} (first : ds.head? ≠ some '0') (n : ℕ) :
    (List.replicate n '0' ++ ds).dropWhile (· = '0') = ds := by
  rw [List.dropWhile_append_of_pos (by simp)]
  cases ds with
  | nil => rfl
  | cons c ds =>
    exact List.dropWhile_cons_of_neg (by simpa using first)

/-- **What stands between the zeros is unique.** -/
theorem Spells.unique {s : Spelling} {d d' : Digits} (h : s.Spells d) (h' : s.Spells d')
    (normal : d.Normal) (normal' : d'.Normal) : d = d' := by
  obtain ⟨front, back, digits, point⟩ := h
  obtain ⟨front', back', digits', point'⟩ := h'
  have same := digits.symm.trans digits'
  have inner : d.digits ++ List.replicate back '0' = d'.digits ++ List.replicate back' '0' := by
    rw [← dropWhile_zeros_append (normal.head?_append _) front, same,
      dropWhile_zeros_append (normal'.head?_append _) front']
  have fronts : front = front' := by
    have := congrArg List.length same
    rw [inner] at this
    simp only [List.length_append, List.length_replicate] at this
    omega
  have reversed : d.digits.reverse = d'.digits.reverse := by
    have := congrArg List.reverse inner
    rw [List.reverse_append, List.reverse_append, List.reverse_replicate,
      List.reverse_replicate] at this
    rw [← dropWhile_zeros_append normal.head?_reverse back, this,
      dropWhile_zeros_append normal'.head?_reverse back']
  obtain ⟨ds, p⟩ := d
  obtain ⟨ds', p'⟩ := d'
  obtain rfl : ds = ds' := List.reverse_inj.1 reversed
  obtain rfl : p = p' := by
    simp only at point point'
    omega
  rfl

theorem writeSize_inPlace (negative : Bool) (digits : List Char) (point : Int) :
    (inPlace negative digits point).writeSize = Number.inPlace digits point := by
  rw [inPlace, Number.inPlace]
  split
  · split <;> simp [writeSize, writeFraction, writeExponent, *]
  · simp [writeSize, writeFraction, writeExponent]

theorem writeSize_scientific (negative : Bool) (digits : List Char) (point : Int) :
    (scientific negative digits point).writeSize = Number.scientific digits point := by
  rw [scientific, Number.scientific]
  split <;> simp [writeSize, writeFraction, writeExponent, *]

theorem spells_inPlace (negative : Bool) (d : Digits) :
    (inPlace negative d.digits d.point).Spells d := by
  rw [inPlace]
  split
  · split
    · refine ⟨0, d.point.toNat - d.digits.length + 1, ?_, ?_⟩
      · simp [List.replicate_succ']
      · simp only [List.length_append, List.length_replicate, Option.getD_none]
        omega
    · refine ⟨0, 0, ?_, ?_⟩
      · simp
      · simp only [List.length_take, Option.getD_none]
        omega
  · refine ⟨(-d.point).toNat + 1, 0, ?_, ?_⟩
    · simp [List.replicate_succ]
    · simp only [List.length_singleton, Option.getD_none]
      omega

theorem spells_scientific (negative : Bool) {d : Digits} (normal : d.Normal) :
    (scientific negative d.digits d.point).Spells d := by
  have some_digit : 0 < d.digits.length := List.length_pos_iff.2 normal.ne_nil
  refine ⟨0, 0, ?_, ?_⟩
  · rw [scientific]
    split
    · simpa using List.take_of_length_le ‹_›
    · simp only [Option.getD_some, List.take_append_drop, List.replicate_zero, List.nil_append,
        List.append_nil]
  · rw [scientific]
    simp only [List.length_take, Option.getD_some]
    omega

/-- Digits before a point are a whole part that JSON allows. -/
theorem wellFormed_take {d : Digits} (normal : d.Normal) (negative : Bool) {n : Nat} (hn : 0 < n)
    {fraction : Option (List Char)} {exponent : Option Int}
    (isDigit : ∀ ds ∈ fraction, ∀ c ∈ ds, c.isDigit) (ne_nil : ∀ ds ∈ fraction, ds ≠ []) :
    WellFormed ⟨negative, d.digits.take n, fraction, exponent⟩ where
  whole_isDigit c hc := normal.isDigit c (List.mem_of_mem_take hc)
  whole_ne_nil h := normal.ne_nil ((List.take_eq_nil_iff.1 h).resolve_left (by omega))
  whole_zero h := by
    rw [List.head?_take, if_neg (by omega)] at h
    exact absurd h normal.first
  fraction_isDigit := isDigit
  fraction_ne_nil := ne_nil

theorem wellFormed_inPlace {d : Digits} (normal : d.Normal) (negative : Bool) :
    (inPlace negative d.digits d.point).WellFormed := by
  rw [inPlace]
  split
  · split
    · refine ⟨fun c hc => ?_, by simp [normal.ne_nil], fun h => ?_, ?_, ?_⟩
      · rcases List.mem_append.1 hc with hc | hc
        · exact normal.isDigit c hc
        · rw [List.eq_of_mem_replicate hc]
          decide
      · exact absurd h (normal.head?_append _)
      · rintro ds ⟨⟩ c hc
        rw [List.mem_singleton.1 hc]
        decide
      · rintro ds ⟨⟩
        exact List.cons_ne_nil _ _
    · rename_i positive long
      refine wellFormed_take normal negative (by omega) ?_ ?_
      · rintro ds ⟨⟩ c hc
        exact normal.isDigit c (List.mem_of_mem_drop hc)
      · rintro ds ⟨⟩ h
        exact long (List.drop_eq_nil_iff.1 h)
  · refine ⟨fun c hc => ?_, List.cons_ne_nil _ _, fun _ => rfl, ?_, ?_⟩
    · rw [List.mem_singleton.1 hc]
      decide
    · rintro ds ⟨⟩ c hc
      rcases List.mem_append.1 hc with hc | hc
      · rw [List.eq_of_mem_replicate hc]
        decide
      · exact normal.isDigit c hc
    · rintro ds ⟨⟩ h
      exact normal.ne_nil (List.append_eq_nil_iff.1 h).2

theorem wellFormed_scientific {d : Digits} (normal : d.Normal) (negative : Bool) :
    (scientific negative d.digits d.point).WellFormed := by
  refine wellFormed_take normal negative Nat.one_pos ?_ ?_
  · split
    · rintro ds ⟨⟩
    · rintro ds ⟨⟩ c hc
      exact normal.isDigit c (List.mem_of_mem_drop hc)
  · split
    · rintro ds ⟨⟩
    · rename_i long
      rintro ds ⟨⟩ h
      exact long (List.drop_eq_nil_iff.1 h)

end Spelling

/-- The spelling of a binary number. -/
def binarySpelling (x : Binary64) : Spelling :=
  if x.significand = 0 then ⟨x.negative, ['0'], some ['0'], none⟩
  else if -5 < x.digits.point ∧ x.digits.point ≤ 16 then
    .inPlace x.negative x.digits.digits x.digits.point
  else .scientific x.negative x.digits.digits x.digits.point

/-- The spelling by which a number is written. -/
def spelling : Number → Spelling
  | .whole n => ⟨decide (n < 0), Nat.toDigits 10 n.natAbs, none, none⟩
  | .binary x => binarySpelling x

theorem negative_binarySpelling (x : Binary64) : (binarySpelling x).negative = x.negative := by
  rw [binarySpelling, Spelling.inPlace]
  repeat' split
  all_goals rfl

theorem writeSize_binarySpelling (x : Binary64) :
    (binarySpelling x).writeSize = writeMagnitude x := by
  rw [binarySpelling, writeMagnitude]
  by_cases zero : x.significand = 0
  · rw [if_pos zero, if_pos zero]
    rfl
  · rw [if_neg zero, if_neg zero]
    simp only
    split
    · exact Spelling.writeSize_inPlace ..
    · exact Spelling.writeSize_scientific ..

theorem write_spelling (n : Number) : n.spelling.write = n.write := by
  cases n with
  | whole n =>
    simp [spelling, Spelling.write, Spelling.writeSize, Spelling.writeFraction,
      Spelling.writeExponent, write]
  | binary x =>
    rw [spelling, Spelling.write, negative_binarySpelling, writeSize_binarySpelling, write]

theorem wellFormed_spelling (n : Number) : n.spelling.WellFormed := by
  cases n with
  | whole n =>
    refine ⟨fun c hc => Nat.isDigit_of_mem_toDigits (by decide) le_rfl hc, Nat.toDigits_ne_nil,
      fun zero => ?_, ?_, ?_⟩
    · by_cases hn : n.natAbs = 0
      · rw [spelling, hn]
        rfl
      · exact absurd zero (Decimal.head?_toDigits hn)
    · rintro ds ⟨⟩
    · rintro ds ⟨⟩
  | binary x =>
    rw [spelling, binarySpelling]
    split
    · refine ⟨by simp, List.cons_ne_nil _ _, fun _ => rfl, ?_, ?_⟩
      · rintro ds ⟨⟩ c hc
        rw [List.mem_singleton.1 hc]
        decide
      · rintro ds ⟨⟩
        exact List.cons_ne_nil _ _
    · split
      · exact Spelling.wellFormed_inPlace (Binary64.normal_digits ‹_›) _
      · exact Spelling.wellFormed_scientific (Binary64.normal_digits ‹_›) _

/-- **A number is read back by its spelling.** -/
theorem readSpelling_write (n : Number) {rest : List Char} (stop : Delimits rest) :
    readSpelling (n.write ++ rest) = some (n.spelling, rest) := by
  rw [← write_spelling]
  exact Spelling.readSpelling_append n.wellFormed_spelling stop

/-! ### The spelling tells the number -/

theorem spells_binarySpelling {x : Binary64} (hx : x.significand ≠ 0) :
    (binarySpelling x).Spells x.digits := by
  rw [binarySpelling, if_neg hx]
  split
  · exact Spelling.spells_inPlace ..
  · exact Spelling.spells_scientific _ (Binary64.normal_digits hx)

/-- Zero has no digits between zeros. -/
theorem not_spells_zero {negative : Bool} {d : Digits} (normal : d.Normal) :
    ¬ (⟨negative, ['0'], some ['0'], none⟩ : Spelling).Spells d := by
  rintro ⟨front, back, digits, -⟩
  have all : ∀ c ∈ d.digits, c = '0' := by
    intro c hc
    have : c ∈ ['0'] ++ ['0'] := by
      rw [show ['0'] ++ ['0'] = _ from digits]
      exact List.mem_append_right _ (List.mem_append_left _ hc)
    simpa using this
  obtain ⟨c, cs, h⟩ := List.exists_cons_of_ne_nil normal.ne_nil
  refine normal.first ?_
  rw [h, List.head?_cons, all c (by rw [h]; exact List.mem_cons_self ..)]

theorem binarySpelling_inj {x y : Binary64} (h : binarySpelling x = binarySpelling y) : x = y := by
  have sign : x.negative = y.negative := by
    rw [← negative_binarySpelling x, h, negative_binarySpelling]
  by_cases hx : x.significand = 0
  · by_cases hy : y.significand = 0
    · exact Binary64.eq_of_significand_eq_zero hx hy sign
    · have := spells_binarySpelling hy
      rw [← h, binarySpelling, if_pos hx] at this
      exact absurd this (not_spells_zero (Binary64.normal_digits hy))
  · have spells := spells_binarySpelling hx
    by_cases hy : y.significand = 0
    · rw [h, binarySpelling, if_pos hy] at spells
      exact absurd spells (not_spells_zero (Binary64.normal_digits hx))
    · rw [h] at spells
      exact Binary64.eq_of_digits_eq hx hy sign (spells.unique (spells_binarySpelling hy)
        (Binary64.normal_digits hx) (Binary64.normal_digits hy))

/-- A binary number is never written like a whole one. -/
theorem spelling_whole_ne_binary (n : Int) (x : Binary64) :
    spelling (.whole n) ≠ spelling (.binary x) := by
  intro h
  have fraction : (binarySpelling x).fraction = none := congrArg Spelling.fraction h.symm
  have exponent : (binarySpelling x).exponent = none := congrArg Spelling.exponent h.symm
  rw [binarySpelling, Spelling.inPlace, Spelling.scientific] at fraction exponent
  repeat' split at fraction
  all_goals simp_all

theorem spelling_inj {n m : Number} (h : n.spelling = m.spelling) : n = m := by
  cases n with
  | whole n =>
    cases m with
    | whole m =>
      have sign : decide (n < 0) = decide (m < 0) := congrArg Spelling.negative h
      have digits : Nat.toDigits 10 n.natAbs = Nat.toDigits 10 m.natAbs :=
        congrArg Spelling.whole h
      have size := congrArg Decimal.valueOfDigits digits
      rw [Decimal.valueOfDigits_toDigits, Decimal.valueOfDigits_toDigits] at size
      rw [decide_eq_decide] at sign
      congr 1
      omega
    | binary y => exact absurd h (spelling_whole_ne_binary n y)
  | binary x =>
    cases m with
    | whole m => exact absurd h.symm (spelling_whole_ne_binary m x)
    | binary y => rw [binarySpelling_inj h]

/-- **A text tells the number at its front.** -/
theorem write_append_inj {n m : Number} {rest rest' : List Char} (stop : Delimits rest)
    (stop' : Delimits rest') (h : n.write ++ rest = m.write ++ rest') : n = m ∧ rest = rest' := by
  have reads := readSpelling_write n stop
  rw [h, readSpelling_write m stop'] at reads
  obtain ⟨spellings, rests⟩ := Prod.mk.inj (Option.some.inj reads)
  exact ⟨spelling_inj spellings.symm, rests.symm⟩

end Number
end Json
end ComponentHost
