/-
# What an identity covers

The octets that an identity is the digest of are fields one after another, each with
its length before it and nothing that says how many there are.  A length in eight
octets is unambiguous below `2 ^ 64`, so the first field can be told from what comes
after it (`writeField_append_inj`), and by induction every field can
(`flatMap_writeField_inj`).

| Fields | Tell |
|--------|------|
| mode | a key from arguments |
| source kind, source | an address from a directory, and which one |
| JSON, then name and data of each table | the arguments, tables in their order |

So two inputs are equal exactly if all that they are meant to cover is
(`input_eq_iff`).
-/

import ComponentHost.Instance.Identity
import ComponentHost.Proofs.Utf8

namespace ComponentHost

/-- Two sources of one kind with the same text: the same address, or directories whose
absolute paths read the same. -/
def Source.SameText [Platform] : Source → Source → Prop
  | .url a, .url b => a = b
  | .path p, .path q => p.absolute.toText = q.absolute.toText
  | _, _ => False

theorem Source.sameText_refl [Platform] (s : Source) : s.SameText s := by
  cases s <;> rfl

namespace Identity

/-! ### Fields -/

/-- A field whose length eight octets can tell. -/
def Fits (field : Bytes) : Prop := field.length < 0x10000000000000000

instance (field : Bytes) : Decidable (Fits field) := inferInstanceAs (Decidable (_ < _))

/-- **The first field ends where its length says.** -/
theorem writeField_append_inj {f g rest rest' : Bytes} (hf : Fits f) (hg : Fits g)
    (h : writeField f ++ rest = writeField g ++ rest') : f = g ∧ rest = rest' := by
  rw [writeField, writeField, List.append_assoc, List.append_assoc] at h
  obtain ⟨lengths, tails⟩ := List.append_inj h (by simp)
  have hlength : f.length = g.length := Bytes.littleEndian_injective (w := 8) hf hg lengths
  exact List.append_inj tails hlength

theorem writeField_ne_nil (f : Bytes) : writeField f ≠ [] := fun h => by
  have := congrArg List.length h
  rw [writeField, List.length_append, Bytes.length_littleEndian, List.length_nil] at this
  omega

/-- **Written fields tell the fields**, how many they are included. -/
theorem flatMap_writeField_inj {fs gs : List Bytes} (hfs : ∀ f ∈ fs, Fits f)
    (hgs : ∀ g ∈ gs, Fits g) (h : fs.flatMap writeField = gs.flatMap writeField) : fs = gs := by
  induction fs generalizing gs with
  | nil =>
    cases gs with
    | nil => rfl
    | cons g gs =>
      rw [List.flatMap_cons] at h
      exact absurd (List.append_eq_nil_iff.1 h.symm).1 (writeField_ne_nil g)
  | cons f fs ih =>
    cases gs with
    | nil =>
      rw [List.flatMap_cons] at h
      exact absurd (List.append_eq_nil_iff.1 h).1 (writeField_ne_nil f)
    | cons g gs =>
      rw [List.flatMap_cons, List.flatMap_cons] at h
      obtain ⟨rfl, rest⟩ := writeField_append_inj (hfs f (List.mem_cons_self ..))
        (hgs g (List.mem_cons_self ..)) h
      rw [ih (fun f hf => hfs f (List.mem_cons_of_mem _ hf))
        (fun g hg => hgs g (List.mem_cons_of_mem _ hg)) rest]

/-! ### What the fields hold -/

theorem tableFields_inj {ts us : List TableArgument}
    (h : (ts.flatMap fun t => [Utf8.encode t.key, t.data]) =
      us.flatMap fun u => [Utf8.encode u.key, u.data]) : ts = us := by
  induction ts generalizing us with
  | nil => cases us <;> simp_all
  | cons t ts ih =>
    cases us with
    | nil => simp at h
    | cons u us =>
      obtain ⟨key, data⟩ := t
      obtain ⟨key', data'⟩ := u
      simp only [List.flatMap_cons, List.cons_append, List.nil_append, List.cons.injEq,
        Utf8.encode_inj] at h
      obtain ⟨rfl, rfl, rest⟩ := h
      rw [ih rest]

theorem Basis.eq_of_fields {b b' : Basis} (mode : b.mode = b'.mode) (h : b.fields = b'.fields) :
    b = b' := by
  cases b with
  | key k =>
    cases b' with
    | key k' => simpa [Basis.fields] using h
    | arguments _ => exact absurd (show "key" = "args" from mode) (by decide)
  | arguments args =>
    cases b' with
    | key _ => exact absurd (show "args" = "key" from mode) (by decide)
    | arguments args' =>
      obtain ⟨json, tables⟩ := args
      obtain ⟨json', tables'⟩ := args'
      simp only [Basis.fields, List.cons.injEq, Utf8.encode_inj] at h
      rw [h.1, tableFields_inj h.2]

section

variable [Platform]

theorem sourceFields_inj {s t : Source} {fs gs : List Bytes} :
    sourceFields s ++ fs = sourceFields t ++ gs ↔ s.SameText t ∧ fs = gs := by
  have kinds : Utf8.encode "url" ≠ Utf8.encode "path" := by simp
  cases s <;> cases t <;> simp [sourceFields, Source.SameText, kinds, kinds.symm]

/-- The fields tell what they were made of. -/
theorem fields_eq_iff {kind kind' : String} {c c' : Declaration} {b b' : Basis} :
    fields kind c b = fields kind' c' b' ↔
      kind = kind' ∧ c.name = c'.name ∧ c.source.SameText c'.source ∧ b = b' := by
  simp only [fields, List.cons_append, List.nil_append, List.cons.injEq,
    Utf8.encode_inj, sourceFields_inj]
  constructor
  · rintro ⟨mode, kinds, names, sources, basis⟩
    exact ⟨kinds, names, sources, Basis.eq_of_fields mode basis⟩
  · rintro ⟨rfl, names, sources, rfl⟩
    exact ⟨rfl, rfl, names, sources, rfl⟩

/-- Inputs are equal exactly if their fields are. -/
theorem input_eq_iff_fields_eq {kind kind' : String} {c c' : Declaration} {b b' : Basis}
    (fits : ∀ f ∈ fields kind c b, Fits f) (fits' : ∀ f ∈ fields kind' c' b', Fits f) :
    input kind c b = input kind' c' b' ↔ fields kind c b = fields kind' c' b' := by
  constructor
  · exact flatMap_writeField_inj fits fits'
  · intro same
    rw [input, input, same]

/-- **An identity's input tells all that it covers, and covers nothing else.**  Two
inputs are equal exactly if they are of the same element kind, component name and
source text, and rest both on the same key or both on the same arguments: the same JSON
text, and tables of the same names and data in the same order. -/
theorem input_eq_iff {kind kind' : String} {c c' : Declaration} {b b' : Basis}
    (fits : ∀ f ∈ fields kind c b, Fits f) (fits' : ∀ f ∈ fields kind' c' b', Fits f) :
    input kind c b = input kind' c' b' ↔
      kind = kind' ∧ c.name = c'.name ∧ c.source.SameText c'.source ∧ b = b' := by
  rw [input_eq_iff_fields_eq fits fits', fields_eq_iff]

end

attribute [local instance] Platform.atRoot

/-- A name that goes on like the length of the next field, and tables whose name and
data could be cut elsewhere. -/
theorem input_eq_iff_of_lookalikes :
    let c := Declaration.ofPath "a" (.ofString "srv/../b\x00")
    let c' := Declaration.ofUrl "a\x02" "url"
    let b := Basis.arguments ⟨"\x7b\x7d", [⟨"k", [1, 0]⟩, ⟨"", []⟩]⟩
    let b' := Basis.key "\x7b\x7d"
    (∀ f ∈ fields "component_instance" c b, Fits f) ∧ (∀ f ∈ fields "k" c' b', Fits f) ∧
      (input "component_instance" c b = input "k" c' b' ↔
        "component_instance" = "k" ∧ c.name = c'.name ∧ c.source.SameText c'.source ∧ b = b') :=
  ⟨by decide, by decide, input_eq_iff (by decide) (by decide)⟩

end Identity
end ComponentHost
