/-
# The text of a value tells the value

A string ends at the first quote that is not escaped, so reading takes exactly the
string off the front of a text (`readString_flatMap_escape`).  What a value begins with
tells its kind (`Value.kind_of_head?`), and what stands behind it is a mark or nothing.
By induction on the value a text determines the value at its front
(`Value.write_append_inj`): no two values have the same text (`Value.text_inj`).
-/

import ComponentHost.Proofs.NumberText

namespace ComponentHost
namespace Json

/-! ### Strings -/

/-- The two hexadecimal digits of a control character are read back. -/
theorem hex4?_hexDigit {n : Nat} (hn : n < 0x20) :
    hex4? '0' '0' (Bytes.hexDigit (n / 16)) (Bytes.hexDigit (n % 16)) = some n := by
  have all : ∀ n < 0x20,
      hex4? '0' '0' (Bytes.hexDigit (n / 16)) (Bytes.hexDigit (n % 16)) = some n := by decide
  exact all n hn

/-- A letter after a backslash is read as the character that it names. -/
theorem readString_backslash {letter c : Char} (names : unescape? letter = some c)
    (short : letter ≠ 'u') (rest : List Char) :
    readString ('\\' :: letter :: rest) = (readString rest).map fun p => (c :: p.1, p.2) := by
  cases h : readString rest <;> simp [readString, names, short, h]

/-- **An escape is read as one character.** -/
theorem readString_escape (c : Char) (rest : List Char) :
    readString (escape c ++ rest) = (readString rest).map fun p => (c :: p.1, p.2) := by
  rw [escape]
  iterate 7
    split
    · subst_vars
      exact readString_backslash rfl (by decide) rest
  split
  · rename_i control
    have below : ¬ (0xD800 ≤ c.toNat ∧ c.toNat < 0xDC00) := by omega
    have below' : ¬ (0xDC00 ≤ c.toNat ∧ c.toNat < 0xE000) := by omega
    cases h : readString rest <;>
      simp [readString, hex4?_hexDigit control, below, below', h]
  · rename_i backslash _ _ _ _ _ control
    cases h : readString rest <;> simp [readString, backslash, control, h]

/-- **A string is read back**, and what stands behind its closing quote is left. -/
theorem readString_flatMap_escape (text rest : List Char) :
    readString (text.flatMap escape ++ '"' :: rest) = some (text, rest) := by
  induction text with
  | nil => simp [readString]
  | cons c text ih =>
    rw [List.flatMap_cons, List.append_assoc, readString_escape, ih]
    rfl

theorem writeString_append_inj {s t : String} {rest rest' : List Char}
    (h : writeString s ++ rest = writeString t ++ rest') : s = t ∧ rest = rest' := by
  simp only [writeString, List.cons_append, List.append_assoc, List.nil_append,
    List.cons.injEq, true_and] at h
  have reads := readString_flatMap_escape s.toList rest
  rw [h, readString_flatMap_escape] at reads
  obtain ⟨texts, rests⟩ := Prod.mk.inj (Option.some.inj reads)
  exact ⟨String.toList_inj.1 texts.symm, rests.symm⟩

/-! ### Values -/

/-- The kinds of values. -/
inductive Kind where
  | null
  | bool
  | number
  | string
  | array
  | object

/-- The kind of the value that begins with a character. -/
def Kind.ofLead (c : Char) : Option Kind :=
  if c = 'n' then some .null
  else if c = 't' ∨ c = 'f' then some .bool
  else if c = '-' ∨ c.isDigit then some .number
  else if c = '"' then some .string
  else if c = '[' then some .array
  else if c = '\x7b' then some .object
  else none

theorem Kind.ofLead_of_isDigit {c : Char} (digit : c.isDigit) : ofLead c = some .number := by
  have other : ∀ d : Char, d.isDigit = false → c ≠ d := by
    rintro d hd rfl
    rw [hd] at digit
    cases digit
  simp [ofLead, digit, other 'n' (by decide), other 't' (by decide), other 'f' (by decide)]

namespace Value

/-- The kind of a value. -/
def kind : Value → Kind
  | .null => .null
  | .bool _ => .bool
  | .number _ => .number
  | .string _ => .string
  | .array _ => .array
  | .object _ => .object

/-- **What a value begins with tells its kind.** -/
theorem kind_of_head? (v : Value) (rest : List Char) :
    (v.write ++ rest).head?.bind Kind.ofLead = some v.kind := by
  cases v with
  | bool b => cases b <;> rfl
  | number n =>
    rw [write, ← Number.write_spelling, Number.Spelling.write]
    split
    · rfl
    · have digits := n.wellFormed_spelling.whole_isDigit
      obtain ⟨c, cs, hc⟩ := List.exists_cons_of_ne_nil n.wellFormed_spelling.whole_ne_nil
      rw [hc] at digits
      rw [Number.Spelling.writeSize, hc]
      exact Kind.ofLead_of_isDigit (digits c (List.mem_cons_self ..))
  | _ => rfl

/-! ### What stands behind a part -/

theorem delimits_cons {c : Char} (mark : c = ',' ∨ c = ']' ∨ c = '\x7d') (rest : List Char) :
    Delimits (c :: rest) := by
  rintro d ⟨⟩
  rcases mark with rfl | rfl | rfl <;> decide

/-- What stands behind the first value of an array. -/
def behindItem (vs : List Value) (rest : List Char) : List Char :=
  match vs with
  | [] => ']' :: rest
  | v :: vs => ',' :: (writeItems (v :: vs) ++ ']' :: rest)

theorem writeItems_cons_append (v : Value) (vs : List Value) (rest : List Char) :
    writeItems (v :: vs) ++ ']' :: rest = v.write ++ behindItem vs rest := by
  cases vs <;> simp [writeItems, behindItem]

theorem delimits_behindItem (vs : List Value) (rest : List Char) :
    Delimits (behindItem vs rest) := by
  cases vs with
  | nil => exact delimits_cons (.inr (.inl rfl)) _
  | cons _ _ => exact delimits_cons (.inl rfl) _

/-- What stands behind the first member of an object. -/
def behindMember (ms : List (String × Value)) (rest : List Char) : List Char :=
  match ms with
  | [] => '\x7d' :: rest
  | m :: ms => ',' :: (writeMembers (m :: ms) ++ '\x7d' :: rest)

theorem writeMembers_cons_append (name : String) (v : Value) (ms : List (String × Value))
    (rest : List Char) :
    writeMembers ((name, v) :: ms) ++ '\x7d' :: rest =
      writeString name ++ ':' :: (v.write ++ behindMember ms rest) := by
  cases ms <;> simp [writeMembers, behindMember]

theorem delimits_behindMember (ms : List (String × Value)) (rest : List Char) :
    Delimits (behindMember ms rest) := by
  cases ms with
  | nil => exact delimits_cons (.inr (.inr rfl)) _
  | cons _ _ => exact delimits_cons (.inl rfl) _

/-! ### Values -/

mutual

/-- **A text tells the value at its front.** -/
theorem write_append_inj (v w : Value) {rest rest' : List Char} (stop : Delimits rest)
    (stop' : Delimits rest') (h : v.write ++ rest = w.write ++ rest') : v = w ∧ rest = rest' := by
  have kinds : v.kind = w.kind := by
    have := kind_of_head? v rest
    rw [h, kind_of_head?] at this
    exact (Option.some.inj this).symm
  cases v <;> cases w <;> simp only [kind, reduceCtorEq] at kinds
  case null.null => exact ⟨rfl, by simpa [write] using h⟩
  case bool.bool b c => cases b <;> cases c <;> simp [write] at h ⊢ <;> exact h
  case number.number n m =>
    obtain ⟨rfl, rests⟩ := Number.write_append_inj stop stop' (by simpa only [write] using h)
    exact ⟨rfl, rests⟩
  case string.string s t =>
    obtain ⟨rfl, rests⟩ := writeString_append_inj (by simpa only [write] using h)
    exact ⟨rfl, rests⟩
  case array.array vs ws =>
    obtain ⟨rfl, rests⟩ := writeItems_append_inj vs ws (by simpa [write] using h)
    exact ⟨rfl, rests⟩
  case object.object ms ns =>
    obtain ⟨rfl, rests⟩ := writeMembers_append_inj ms ns (by simpa [write] using h)
    exact ⟨rfl, rests⟩

theorem writeItems_append_inj (vs ws : List Value) {rest rest' : List Char}
    (h : writeItems vs ++ ']' :: rest = writeItems ws ++ ']' :: rest') :
    vs = ws ∧ rest = rest' := by
  have lead : ∀ w ws rest rest', ']' :: rest ≠ write w ++ behindItem ws rest' := by
    intro w ws rest rest' same
    have := kind_of_head? w (behindItem ws rest')
    rw [← same] at this
    cases this
  cases vs with
  | nil =>
    cases ws with
    | nil => exact ⟨rfl, (List.cons.inj h).2⟩
    | cons w ws =>
      rw [writeItems_cons_append] at h
      exact absurd h (lead w ws _ _)
  | cons v vs =>
    cases ws with
    | nil =>
      rw [writeItems_cons_append] at h
      exact absurd h.symm (lead v vs _ _)
    | cons w ws =>
      rw [writeItems_cons_append, writeItems_cons_append] at h
      obtain ⟨rfl, behind⟩ :=
        write_append_inj v w (delimits_behindItem _ _) (delimits_behindItem _ _) h
      cases vs <;> cases ws
      case nil.nil => exact ⟨rfl, (List.cons.inj behind).2⟩
      case nil.cons => exact absurd (List.cons.inj behind).1 (by decide)
      case cons.nil => exact absurd (List.cons.inj behind).1 (by decide)
      case cons.cons v' vs w' ws =>
        obtain ⟨tails, rests⟩ :=
          writeItems_append_inj (v' :: vs) (w' :: ws) (List.cons.inj behind).2
        exact ⟨by rw [tails], rests⟩

theorem writeMembers_append_inj (ms ns : List (String × Value)) {rest rest' : List Char}
    (h : writeMembers ms ++ '\x7d' :: rest = writeMembers ns ++ '\x7d' :: rest') :
    ms = ns ∧ rest = rest' := by
  cases ms with
  | nil =>
    cases ns with
    | nil => exact ⟨rfl, (List.cons.inj h).2⟩
    | cons n ns =>
      rw [writeMembers_cons_append] at h
      exact absurd (List.cons.inj h).1 (by decide)
  | cons m ms =>
    obtain ⟨name, v⟩ := m
    cases ns with
    | nil =>
      rw [writeMembers_cons_append] at h
      exact absurd (List.cons.inj h).1 (by decide)
    | cons n ns =>
      obtain ⟨name', w⟩ := n
      rw [writeMembers_cons_append, writeMembers_cons_append] at h
      obtain ⟨rfl, values⟩ := writeString_append_inj h
      obtain ⟨rfl, behind⟩ := write_append_inj v w (delimits_behindMember _ _)
        (delimits_behindMember _ _) (List.cons.inj values).2
      cases ms <;> cases ns
      case nil.nil => exact ⟨rfl, (List.cons.inj behind).2⟩
      case nil.cons => exact absurd (List.cons.inj behind).1 (by decide)
      case cons.nil => exact absurd (List.cons.inj behind).1 (by decide)
      case cons.cons m' ms n' ns =>
        obtain ⟨tails, rests⟩ :=
          writeMembers_append_inj (m' :: ms) (n' :: ns) (List.cons.inj behind).2
        exact ⟨by rw [tails], rests⟩

end

/-- **No two values have the same text.** -/
theorem text_inj {v w : Value} (h : v.text = w.text) : v = w := by
  have ends : Delimits [] := by rintro c ⟨⟩
  have same : v.write ++ [] = w.write ++ [] := by
    rw [List.append_nil, List.append_nil]
    exact String.ofList_injective h
  exact (write_append_inj v w ends ends same).1

end Value
end Json
end ComponentHost
