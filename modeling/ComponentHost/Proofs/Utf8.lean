/-
# Texts survive their octets

The machine of `Utf8` reads the octets of one scalar value back as that value,
whatever comes after them (`piecesFrom_encodeChar`).  So a text is recovered from its
octets (`decode?_encode`), and texts with the same octets are the same text.

The lead octet grows with the number of octets and each octet with its share of the scalar
value, so octets also keep the order of texts (`encode_lt_encode`).  And no octet of a longer
scalar value is ASCII, so an ASCII ending of the octets is an ending of the text
(`encode_suffix_iff`).

Nothing but its own octets is read as a scalar value (`exists_rest_of_piecesFrom`): the ranges
of the octets leave no second spelling of one.  So octets that can be decoded are those of what
they are decoded to (`encode_of_decode?`).
-/

import ComponentHost.Text.Utf8
import Mathlib.Data.List.Induction

namespace ComponentHost
namespace Utf8

/-! ### First octets -/

theorem start_ascii : ∀ n < 0x80, start (UInt8.ofNat n) = ([some (Char.ofNat n)], .between) := by
  decide

theorem start_two : ∀ m < 32, 2 ≤ m →
    start (UInt8.ofNat (0xC0 + m)) = ([], .within m 1 0x80 0xBF) := by
  decide

theorem start_three : ∀ m < 16, start (UInt8.ofNat (0xE0 + m)) =
    ([], .within m 2 (if m = 0 then 0xA0 else 0x80) (if m = 0xD then 0x9F else 0xBF)) := by
  decide

theorem start_four : ∀ m < 5, start (UInt8.ofNat (0xF0 + m)) =
    ([], .within m 3 (if m = 0 then 0x90 else 0x80) (if m = 4 then 0x8F else 0xBF)) := by
  decide

/-! ### Octets after the first -/

/-- An octet in its range adds six bits to the payload. -/
theorem step_within {payload due t : Nat} {low high : UInt8} (ht : t < 64)
    (hlow : low.toNat ≤ 0x80 + t) (hhigh : 0x80 + t ≤ high.toNat) :
    step (.within payload due low high) (UInt8.ofNat (0x80 + t)) =
      if due ≤ 1 then ([some (Char.ofNat (payload * 64 + t))], .between)
      else ([], .within (payload * 64 + t) (due - 1) 0x80 0xBF) := by
  have value : (UInt8.ofNat (0x80 + t)).toNat = 0x80 + t :=
    UInt8.toNat_ofNat_of_lt' (by change 0x80 + t < 256; omega)
  have inRange : low ≤ UInt8.ofNat (0x80 + t) ∧ UInt8.ofNat (0x80 + t) ≤ high := by
    rw [UInt8.le_iff_toNat_le, UInt8.le_iff_toNat_le, value]
    exact ⟨hlow, hhigh⟩
  rw [step, if_pos inRange, value, Nat.add_sub_cancel_left]

theorem piecesFrom_cons (s : State) (b : UInt8) (bs : Bytes) :
    piecesFrom s (b :: bs) = (step s b).1 ++ piecesFrom (step s b).2 bs := by
  cases s <;> rfl

/-- **One scalar value is read back from its octets**, whatever comes after them. -/
theorem piecesFrom_encodeChar (c : Char) (rest : Bytes) :
    piecesFrom .between (encodeChar c ++ rest) = some c :: piecesFrom .between rest := by
  have hc : Char.ofNat c.toNat = c := Char.ofNat_toNat c
  have valid : c.toNat < 0xD800 ∨ 0xDFFF < c.toNat ∧ c.toNat < 0x110000 := c.valid
  simp only [encodeChar]
  generalize c.toNat = n at hc valid
  split
  · rename_i one
    rw [List.singleton_append, piecesFrom_cons, step, start_ascii n one, hc]
    rfl
  split
  · have first := start_two (n / 64) (by omega) (by omega)
    simp only [List.cons_append, List.nil_append, piecesFrom_cons, step.eq_1, first]
    rw [step_within (by omega) (by change 0x80 ≤ _; omega) (by change _ ≤ 0xBF; omega),
      if_pos (by omega), show n / 64 * 64 + n % 64 = n by omega, hc]
    rfl
  split
  · have first := start_three (n / 4096) (by omega)
    simp only [List.cons_append, List.nil_append, piecesFrom_cons, step.eq_1, first]
    rw [step_within (by omega) (by split <;> simp; omega) (by split <;> simp <;> omega),
      if_neg (by omega),
      step_within (by omega) (by change 0x80 ≤ _; omega) (by change _ ≤ 0xBF; omega),
      if_pos (by omega), show (n / 4096 * 64 + n / 64 % 64) * 64 + n % 64 = n by omega, hc]
    rfl
  · have first := start_four (n / 262144) (by omega)
    simp only [List.cons_append, List.nil_append, piecesFrom_cons, step.eq_1, first]
    rw [step_within (by omega) (by split <;> simp; omega) (by split <;> simp <;> omega),
      if_neg (by omega),
      step_within (by omega) (by change 0x80 ≤ _; omega) (by change _ ≤ 0xBF; omega),
      if_neg (by omega),
      step_within (by omega) (by change 0x80 ≤ _; omega) (by change _ ≤ 0xBF; omega),
      if_pos (by omega),
      show ((n / 262144 * 64 + n / 4096 % 64) * 64 + n / 64 % 64) * 64 + n % 64 = n by omega, hc]
    rfl

/-! ### Whole texts -/

theorem pieces_encode (text : String) : pieces (encode text) = text.toList.map some := by
  rw [pieces, encode]
  induction text.toList with
  | nil => rfl
  | cons c cs ih => rw [List.flatMap_cons, piecesFrom_encodeChar, ih, List.map_cons]

/-- **A text is recovered from its octets.** -/
@[simp] theorem decode?_encode (text : String) : decode? (encode text) = some text := by
  rw [decode?, pieces_encode]
  have all : (text.toList.map some).mapM id = some text.toList := by
    induction text.toList with
    | nil => rfl
    | cons c cs ih => simp [ih]
  rw [all, Option.map_some, String.ofList_toList]

/-- Texts with the same octets are the same. -/
@[simp] theorem encode_inj {a b : String} : encode a = encode b ↔ a = b := by
  refine ⟨fun h => ?_, fun h => h ▸ rfl⟩
  have := decode?_encode a
  rw [h, decode?_encode] at this
  exact (Option.some.inj this).symm

/-! ### The order of octets -/

theorem ofNat_lt_ofNat {m n : Nat} (hm : m < 256) (hn : n < 256) :
    UInt8.ofNat m < UInt8.ofNat n ↔ m < n := by
  rw [UInt8.lt_iff_toNat_lt, UInt8.toNat_ofNat_of_lt' hm, UInt8.toNat_ofNat_of_lt' hn]

theorem ofNat_eq_ofNat {m n : Nat} (hm : m < 256) (hn : n < 256) :
    UInt8.ofNat m = UInt8.ofNat n ↔ m = n := by
  rw [← UInt8.toNat_inj, UInt8.toNat_ofNat_of_lt' hm, UInt8.toNat_ofNat_of_lt' hn]

theorem encodeChar_ascii {c : Char} (h : c.toNat < 0x80) :
    encodeChar c = [UInt8.ofNat c.toNat] := by
  simp only [encodeChar, if_pos h]

/-- The last octet of a scalar value that is not ASCII is a continuation. -/
theorem encodeChar_eq_append {c : Char} (h : ¬ c.toNat < 0x80) :
    ∃ front, encodeChar c = front ++ [UInt8.ofNat (0x80 + c.toNat % 64)] := by
  simp only [encodeChar, if_neg h]
  split_ifs
  · exact ⟨[_], rfl⟩
  · exact ⟨[_, _], rfl⟩
  · exact ⟨[_, _, _], rfl⟩

theorem encodeChar_ne_nil (c : Char) : encodeChar c ≠ [] := by
  by_cases ascii : c.toNat < 0x80
  · rw [encodeChar_ascii ascii]
    exact List.cons_ne_nil _ _
  · obtain ⟨front, h⟩ := encodeChar_eq_append ascii
    rw [h]
    exact List.append_ne_nil_of_right_ne_nil _ (List.cons_ne_nil _ _)

/-- A scalar value that is not ASCII has no ASCII octet. -/
theorem le_of_mem_encodeChar {c : Char} (h : ¬ c.toNat < 0x80) :
    ∀ b ∈ encodeChar c, 0x80 ≤ b.toNat := by
  have top : c.toNat < 0x110000 := by
    rcases c.valid with below | ⟨-, below⟩
    · exact Nat.lt_trans below (by decide)
    · exact below
  have octet : ∀ n, 0x80 ≤ n → n < 0x100 → 0x80 ≤ (UInt8.ofNat n).toNat := fun n low high => by
    rw [UInt8.toNat_ofNat_of_lt' high]
    exact low
  intro b hb
  simp only [encodeChar, if_neg h] at hb
  split_ifs at hb <;> simp only [List.mem_cons, List.not_mem_nil, or_false] at hb <;>
    rcases hb with rfl | rfl | rfl | rfl <;> exact octet _ (by omega) (by omega)

/-- **An ASCII octet stands for itself**, wherever it stands. -/
theorem mem_encodeChar_iff {c d : Char} (ascii : d.toNat < 0x80) :
    UInt8.ofNat d.toNat ∈ encodeChar c ↔ c = d := by
  have octet : d.toNat < 0x100 := by omega
  have small : (UInt8.ofNat d.toNat).toNat = d.toNat := UInt8.toNat_ofNat_of_lt' octet
  constructor
  · intro h
    by_cases hc : c.toNat < 0x80
    · rw [encodeChar_ascii hc, List.mem_singleton, ofNat_eq_ofNat octet (by omega)] at h
      exact Char.toNat_inj.1 h.symm
    · have := le_of_mem_encodeChar hc _ h
      omega
  · rintro rfl
    rw [encodeChar_ascii ascii]
    exact List.mem_singleton_self _

theorem mem_encode_iff {text : String} {d : Char} (ascii : d.toNat < 0x80) :
    UInt8.ofNat d.toNat ∈ encode text ↔ d ∈ text.toList := by
  rw [encode, List.mem_flatMap]
  simp only [mem_encodeChar_iff ascii, exists_eq_right]

theorem encode_eq_nil_iff {text : String} : encode text = [] ↔ text = "" :=
  (encode_inj : encode text = encode "" ↔ text = "")

theorem encode_append (a b : String) : encode (a ++ b) = encode a ++ encode b := by
  rw [encode, String.toList_append, List.flatMap_append]
  rfl

/-- **A smaller scalar value has smaller octets**, whatever comes after them. -/
theorem encodeChar_append_lt {c d : Char} (h : c < d) (rest rest' : Bytes) :
    encodeChar c ++ rest < encodeChar d ++ rest' := by
  have less : c.toNat < d.toNat := h
  have top : d.toNat < 0x110000 := by
    rcases d.valid with below | ⟨-, below⟩
    · exact Nat.lt_trans below (by decide)
    · exact below
  simp only [encodeChar]
  generalize c.toNat = m at less
  generalize d.toNat = n at less top
  -- One case for each pair of lengths: the octets are compared digit by digit.
  split_ifs <;> simp only [List.cons_append, List.nil_append, List.cons_lt_cons_iff] <;>
    simp (disch := omega) only [ofNat_lt_ofNat, ofNat_eq_ofNat] <;> omega

theorem flatMap_encodeChar_lt {cs ds : List Char} (h : cs < ds) :
    cs.flatMap encodeChar < ds.flatMap encodeChar := by
  induction h with
  | @nil d ds =>
    rw [List.flatMap_nil, List.flatMap_cons]
    obtain ⟨b, bs, hd⟩ := List.exists_cons_of_ne_nil (encodeChar_ne_nil d)
    rw [hd]
    exact List.nil_lt_cons ..
  | rel h =>
    rw [List.flatMap_cons, List.flatMap_cons]
    exact encodeChar_append_lt h ..
  | cons h ih =>
    rw [List.flatMap_cons, List.flatMap_cons]
    exact List.append_left_lt ih

/-- **Texts are in the order of their octets.** -/
theorem encode_lt_encode {a b : String} : encode a < encode b ↔ a < b := by
  constructor
  · intro h
    rcases Std.lt_trichotomy a b with less | rfl | greater
    · exact less
    · exact absurd h (List.lt_irrefl _)
    · exact absurd (flatMap_encodeChar_lt (String.lt_iff.1 greater)) (List.lt_asymm h)
  · intro h
    exact flatMap_encodeChar_lt (String.lt_iff.1 h)

/-! ### ASCII at the end -/

/-- An octet of ASCII at the end of a text is a character of its own. -/
theorem suffix_of_flatMap_encodeChar {ds cs : List Char} (ascii : ∀ d ∈ ds, d.toNat < 0x80)
    (h : ds.flatMap encodeChar <:+ cs.flatMap encodeChar) : ds <:+ cs := by
  induction cs using List.reverseRecOn generalizing ds with
  | nil =>
    cases ds with
    | nil => exact List.suffix_refl _
    | cons d ds =>
      have := List.suffix_nil.1 h
      rw [List.flatMap_cons] at this
      exact absurd (List.append_eq_nil_iff.1 this).1 (encodeChar_ne_nil d)
  | append_singleton cs c ih =>
    rcases List.eq_nil_or_concat ds with rfl | ⟨front, d, rfl⟩
    · exact List.nil_suffix
    rw [List.concat_eq_append] at h ascii ⊢
    have hd : d.toNat < 0x80 := ascii d (by simp)
    rw [List.flatMap_append, List.flatMap_append, List.flatMap_singleton, List.flatMap_singleton,
      encodeChar_ascii hd] at h
    by_cases hc : c.toNat < 0x80
    · rw [encodeChar_ascii hc, List.suffix_concat_iff] at h
      rcases h with none | ⟨octets, same, rest⟩
      · exact absurd none (List.append_ne_nil_of_right_ne_nil _ (List.cons_ne_nil _ _))
      · obtain ⟨rfl, last⟩ := List.append_inj' same rfl
        have sameNat : d.toNat = c.toNat :=
          (ofNat_eq_ofNat (by omega) (by omega)).1 (List.cons.inj last).1
        obtain rfl : d = c := Char.toNat_inj.1 sameNat
        obtain ⟨before, hbefore⟩ := ih (fun d hd => ascii d (List.mem_append_left _ hd)) rest
        exact ⟨before, by rw [← hbefore, List.append_assoc]⟩
    · obtain ⟨octets, hoctets⟩ := encodeChar_eq_append hc
      rw [hoctets, ← List.append_assoc, List.suffix_concat_iff] at h
      rcases h with none | ⟨_, same, -⟩
      · exact absurd none (List.append_ne_nil_of_right_ne_nil _ (List.cons_ne_nil _ _))
      · obtain ⟨-, last⟩ := List.append_inj' same rfl
        have := (ofNat_eq_ofNat (by omega) (by omega)).1 (List.cons.inj last).1
        omega

/-- **A text ends in an ASCII text exactly if its octets do.** -/
theorem encode_suffix_iff {ending text : String} (ascii : ∀ c ∈ ending.toList, c.toNat < 0x80) :
    encode ending <:+ encode text ↔ ending.toList <:+ text.toList := by
  constructor
  · exact suffix_of_flatMap_encodeChar ascii
  · rintro ⟨front, hfront⟩
    exact ⟨front.flatMap encodeChar, by rw [encode, encode, ← hfront, List.flatMap_append]⟩

/-! ### Octets that are a text's -/

theorem start_continuation : ∀ m < 0x42,
    start (UInt8.ofNat (0x80 + m)) = ([none], .between) := by
  decide

theorem start_beyond : ∀ m < 11, start (UInt8.ofNat (0xF5 + m)) = ([none], .between) := by
  decide

section

variable {m t u v : Nat}

theorem toNat_charOfNat {n : Nat} (valid : n.isValidChar) : (Char.ofNat n).toNat = n := by
  rw [Char.ofNat, dif_pos valid]
  rfl

theorem encodeChar_two (hm : m < 32) (beyond : 2 ≤ m) (ht : t < 64) :
    encodeChar (Char.ofNat (m * 64 + t)) = [UInt8.ofNat (0xC0 + m), UInt8.ofNat (0x80 + t)] := by
  rw [encodeChar, toNat_charOfNat (.inl (by omega)), if_neg (by omega), if_pos (by omega),
    show (m * 64 + t) / 64 = m by omega, show (m * 64 + t) % 64 = t by omega]

theorem encodeChar_three (hm : m < 16) (ht : t < 64) (hu : u < 64) (beyond : m = 0 → 0x20 ≤ t)
    (below : m = 0xD → t < 0x20) :
    encodeChar (Char.ofNat ((m * 64 + t) * 64 + u)) =
      [UInt8.ofNat (0xE0 + m), UInt8.ofNat (0x80 + t), UInt8.ofNat (0x80 + u)] := by
  rw [encodeChar, toNat_charOfNat (by unfold Nat.isValidChar; omega), if_neg (by omega),
    if_neg (by omega), if_pos (by omega), show ((m * 64 + t) * 64 + u) / 4096 = m by omega,
    show ((m * 64 + t) * 64 + u) / 64 % 64 = t by omega,
    show ((m * 64 + t) * 64 + u) % 64 = u by omega]

theorem encodeChar_four (hm : m < 5) (ht : t < 64) (hu : u < 64) (hv : v < 64)
    (beyond : m = 0 → 0x10 ≤ t) (below : m = 4 → t < 0x10) :
    encodeChar (Char.ofNat (((m * 64 + t) * 64 + u) * 64 + v)) =
      [UInt8.ofNat (0xF0 + m), UInt8.ofNat (0x80 + t), UInt8.ofNat (0x80 + u),
        UInt8.ofNat (0x80 + v)] := by
  rw [encodeChar, toNat_charOfNat (by unfold Nat.isValidChar; omega), if_neg (by omega),
    if_neg (by omega), if_neg (by omega),
    show (((m * 64 + t) * 64 + u) * 64 + v) / 262144 = m by omega,
    show (((m * 64 + t) * 64 + u) * 64 + v) / 4096 % 64 = t by omega,
    show (((m * 64 + t) * 64 + u) * 64 + v) / 64 % 64 = u by omega,
    show (((m * 64 + t) * 64 + u) * 64 + v) % 64 = v by omega]

end

section

variable {bs : Bytes} {c : Char} {ps : List Piece}

/-- A scalar value in hand goes on with an octet in its range only. -/
theorem exists_octet_of_piecesFrom {payload due : Nat} {low high : UInt8}
    (hlow : 0x80 ≤ low.toNat) (h : piecesFrom (.within payload due low high) bs = some c :: ps) :
    ∃ t rest, bs = UInt8.ofNat (0x80 + t) :: rest ∧
      low.toNat ≤ 0x80 + t ∧ 0x80 + t ≤ high.toNat ∧
      if due ≤ 1 then c = Char.ofNat (payload * 64 + t) ∧ piecesFrom .between rest = ps
      else piecesFrom (.within (payload * 64 + t) (due - 1) 0x80 0xBF) rest = some c :: ps := by
  cases bs with
  | nil => cases h
  | cons b rest =>
    rw [piecesFrom_cons, step] at h
    split at h
    · rename_i inRange
      rw [UInt8.le_iff_toNat_le, UInt8.le_iff_toNat_le] at inRange
      have octet : UInt8.ofNat (0x80 + (b.toNat - 0x80)) = b := by
        rw [Nat.add_sub_cancel' (by omega), UInt8.ofNat_toNat]
      refine ⟨b.toNat - 0x80, rest, by rw [octet], by omega, by omega, ?_⟩
      dsimp only at h
      split at h
      · rename_i last
        rw [if_pos last]
        obtain ⟨value, later⟩ := List.cons.inj h
        exact ⟨(Option.some.inj value).symm, later⟩
      · rename_i more
        rw [if_neg more]
        exact h
    · cases h

/-- An octet behind the second one adds six bits, and the last of them ends the value. -/
theorem exists_tail_of_piecesFrom {payload due : Nat}
    (h : piecesFrom (.within payload due 0x80 0xBF) bs = some c :: ps) :
    ∃ t rest, bs = UInt8.ofNat (0x80 + t) :: rest ∧ t < 64 ∧
      if due ≤ 1 then c = Char.ofNat (payload * 64 + t) ∧ piecesFrom .between rest = ps
      else piecesFrom (.within (payload * 64 + t) (due - 1) 0x80 0xBF) rest = some c :: ps := by
  obtain ⟨t, rest, hbs, -, high, next⟩ := exists_octet_of_piecesFrom (by decide) h
  have high : 0x80 + t ≤ 0xBF := high
  exact ⟨t, rest, hbs, by omega, next⟩

/-- **A scalar value is read only from its own octets.** -/
theorem exists_rest_of_piecesFrom (h : piecesFrom .between bs = some c :: ps) :
    ∃ rest, bs = encodeChar c ++ rest ∧ piecesFrom .between rest = ps := by
  cases bs with
  | nil => cases h
  | cons b bs =>
    rw [piecesFrom_cons, step] at h
    have bound := b.toNat_lt
    rw [← UInt8.ofNat_toNat (x := b)] at h ⊢
    generalize b.toNat = n at h bound ⊢
    -- One case for each row of the table of first octets.
    by_cases one : n < 0x80
    · rw [start_ascii n one] at h
      obtain ⟨value, later⟩ := List.cons.inj h
      obtain rfl := Option.some.inj value
      have code := toNat_charOfNat (n := n) (.inl (by omega))
      refine ⟨bs, ?_, later⟩
      rw [encodeChar_ascii (by rw [code]; exact one), code]
      rfl
    by_cases continuation : n < 0xC2
    · obtain ⟨m, rfl⟩ : ∃ m, n = 0x80 + m := ⟨n - 0x80, by omega⟩
      rw [start_continuation m (by omega)] at h
      cases h
    by_cases two : n < 0xE0
    · obtain ⟨m, rfl⟩ : ∃ m, n = 0xC0 + m := ⟨n - 0xC0, by omega⟩
      rw [start_two m (by omega) (by omega)] at h
      obtain ⟨t, rest, rfl, ht, rfl, later⟩ := exists_tail_of_piecesFrom h
      refine ⟨rest, ?_, later⟩
      rw [encodeChar_two (by omega) (by omega) ht]
      rfl
    by_cases three : n < 0xF0
    · obtain ⟨m, rfl⟩ : ∃ m, n = 0xE0 + m := ⟨n - 0xE0, by omega⟩
      rw [start_three m (by omega)] at h
      obtain ⟨t, rest, rfl, low, high, more⟩ :=
        exists_octet_of_piecesFrom (by split <;> decide) h
      obtain ⟨u, rest, rfl, hu, rfl, later⟩ := exists_tail_of_piecesFrom more
      have range : t < 64 ∧ (m = 0 → 0x20 ≤ t) ∧ (m = 0xD → t < 0x20) := by
        split at low <;> split at high <;> simp at low high <;> omega
      refine ⟨rest, ?_, later⟩
      rw [encodeChar_three (by omega) range.1 hu range.2.1 range.2.2]
      rfl
    by_cases four : n < 0xF5
    · obtain ⟨m, rfl⟩ : ∃ m, n = 0xF0 + m := ⟨n - 0xF0, by omega⟩
      rw [start_four m (by omega)] at h
      obtain ⟨t, rest, rfl, low, high, more⟩ :=
        exists_octet_of_piecesFrom (by split <;> decide) h
      obtain ⟨u, rest, rfl, hu, more⟩ := exists_tail_of_piecesFrom more
      obtain ⟨v, rest, rfl, hv, rfl, later⟩ := exists_tail_of_piecesFrom more
      have range : t < 64 ∧ (m = 0 → 0x10 ≤ t) ∧ (m = 4 → t < 0x10) := by
        split at low <;> split at high <;> simp at low high <;> omega
      refine ⟨rest, ?_, later⟩
      rw [encodeChar_four (by omega) range.1 hu hv range.2.1 range.2.2]
      rfl
    · obtain ⟨m, rfl⟩ : ∃ m, n = 0xF5 + m := ⟨n - 0xF5, by omega⟩
      rw [start_beyond m (by omega)] at h
      cases h

end

/-- A scalar value in hand does not get lost. -/
theorem piecesFrom_within_ne_nil (payload due : Nat) (low high : UInt8) (bs : Bytes) :
    piecesFrom (.within payload due low high) bs ≠ [] := by
  induction bs generalizing payload due low high with
  | nil => exact List.cons_ne_nil _ _
  | cons b bs ih =>
    rw [piecesFrom_cons, step]
    split
    · dsimp only
      split
      · exact List.cons_ne_nil _ _
      · exact ih _ _ _ _
    · exact List.cons_ne_nil _ _

/-- No octets are without pieces. -/
theorem pieces_cons_ne_nil (b : UInt8) (bs : Bytes) : pieces (b :: bs) ≠ [] := by
  rw [pieces, piecesFrom_cons, step, start]
  repeat' split
  all_goals first | exact List.cons_ne_nil _ _ | exact piecesFrom_within_ne_nil _ _ _ _ _

theorem eq_map_some_of_mapM {ps : List Piece} {cs : List Char} (h : ps.mapM id = some cs) :
    ps = cs.map some := by
  induction ps generalizing cs with
  | nil =>
    rw [List.mapM_nil] at h
    cases h
    rfl
  | cons p ps ih =>
    cases p with
    | none => simp at h
    | some c =>
      cases later : ps.mapM id with
      | none => simp [later] at h
      | some rest =>
        obtain rfl : c :: rest = cs := by simpa [later] using h
        rw [ih later, List.map_cons]

/-- **Octets that are read as scalar values only are the octets of these.** -/
theorem flatMap_encodeChar_of_pieces {bs : Bytes} {cs : List Char}
    (h : pieces bs = cs.map some) : cs.flatMap encodeChar = bs := by
  induction cs generalizing bs with
  | nil =>
    cases bs with
    | nil => rfl
    | cons b bs => exact absurd h (pieces_cons_ne_nil b bs)
  | cons c cs ih =>
    obtain ⟨rest, rfl, later⟩ := exists_rest_of_piecesFrom h
    rw [List.flatMap_cons, ih later]

/-- **What is decoded is encoded as it was.** -/
theorem encode_of_decode? {bs : Bytes} {text : String} (h : decode? bs = some text) :
    encode text = bs := by
  obtain ⟨cs, hcs, rfl⟩ := Option.map_eq_some_iff.1 h
  rw [encode, String.toList_ofList]
  exact flatMap_encodeChar_of_pieces (eq_map_some_of_mapM hcs)

/-- Texts of octets that can be decoded differ if the octets do. -/
theorem decode?_inj {bs bs' : Bytes} {text : String} (h : decode? bs = some text)
    (h' : decode? bs' = some text) : bs = bs' := by
  rw [← encode_of_decode? h, encode_of_decode? h']

/-- **A text without U+FFFD stands for one list of octets**, whatever can be decoded. -/
theorem eq_encode_of_decodeLossy {bs : Bytes} {text : String} (h : decodeLossy bs = text)
    (plain : Char.ofNat 0xFFFD ∉ text.toList) : bs = encode text := by
  have letters : (pieces bs).map (·.getD (Char.ofNat 0xFFFD)) = text.toList := by
    rw [← h, decodeLossy, String.toList_ofList]
  have read : pieces bs = text.toList.map some := by
    rw [← letters, List.map_map]
    refine (List.map_id _).symm.trans (List.map_congr_left fun piece mem => ?_)
    cases piece with
    | none => exact absurd (letters ▸ List.mem_map_of_mem mem) plain
    | some c => rfl
  exact (flatMap_encodeChar_of_pieces read).symm

end Utf8
end ComponentHost
