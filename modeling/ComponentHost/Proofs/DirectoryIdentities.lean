/-
# Directories that share an identity

The source of a local component enters its identity as the text of the absolute directory,
and a text has U+FFFD for what is not UTF-8.  So the identity tells texts from each other, and
directories as far as their texts do:

| Absolute directories | Inputs |
|----------------------|--------|
| the same | the same |
| different, both UTF-8 | different |
| different, one of them UTF-8 without U+FFFD | different |
| any others | the same exactly if the texts are: `/` and `FF`, `/` and `FE` |

No length enters, for two inputs that differ in one field only can be compared there
(`input_ofPath_eq_iff`).  Where the inputs are the same, so are the values: what was reported
for an instance of one component is returned to an instance of the other.
-/

import ComponentHost.Proofs.IdentityInput
import ComponentHost.Proofs.Retention

namespace ComponentHost

/-- Absolute directories that read the same though at least one of them is UTF-8 and has no
U+FFFD are the same. -/
theorem Path.eq_of_toText_eq {p q : Path} {text : String} (hp : Utf8.decode? p.bytes = some text)
    (plain : Char.ofNat 0xFFFD ∉ text.toList) (h : p.toText = q.toText) : p = q := by
  have hq : Utf8.decodeLossy q.bytes = text :=
    h.symm.trans (Utf8.decodeLossy_of_decode? hp)
  have octets : q.bytes = p.bytes := by
    rw [Utf8.eq_encode_of_decodeLossy hq plain, Utf8.encode_of_decode? hp]
  exact congrArg Path.mk octets.symm

/-- Paths that are UTF-8 read the same only if they are the same. -/
theorem Path.eq_of_toText_eq_of_decode? {p q : Path} {text text' : String}
    (hp : Utf8.decode? p.bytes = some text) (hq : Utf8.decode? q.bytes = some text')
    (h : p.toText = q.toText) : p = q := by
  rw [toText, toText, Utf8.decodeLossy_of_decode? hp, Utf8.decodeLossy_of_decode? hq] at h
  subst h
  exact congrArg Path.mk (Utf8.decode?_inj hp hq)

namespace Identity

/-! ### One field -/

/-- A written field tells the field, however long it is. -/
theorem writeField_inj {f g : Bytes} : writeField f = writeField g ↔ f = g := by
  constructor
  · intro h
    rw [writeField, writeField] at h
    exact (List.append_inj h (by simp)).2
  · rintro rfl
    rfl

section

variable [Platform]

/-- **Inputs of local components of one name tell the texts of their directories.** -/
theorem input_ofPath_eq_iff {kind name : String} {p q : Path} {basis : Basis} :
    input kind (.ofPath name p) basis = input kind (.ofPath name q) basis ↔
      p.absolute.toText = q.absolute.toText := by
  have parts : ∀ p, input kind (.ofPath name p) basis =
      [Utf8.encode basis.mode, Utf8.encode kind, Utf8.encode name,
        Utf8.encode "path"].flatMap writeField ++
      (writeField (Utf8.encode p.absolute.toText) ++ basis.fields.flatMap writeField) := by
    intro p
    simp [input, fields, sourceFields, Declaration.ofPath]
  rw [parts, parts, List.append_cancel_left_eq, List.append_cancel_right_eq, writeField_inj,
    Utf8.encode_inj]

/-! ### Values -/

variable {c d : Declaration} {call : Call Table} {args : MarshalledArguments} {page : Page}

/-- A value that was reported for an identity is returned to every instance that has it. -/
theorem create_of_report (marshals : call.marshal Table.encode = .ok args)
    (same : input Settings.elementKind c (.ofCall call.key args) =
      input Settings.elementKind d (.ofCall call.key args)) (reported : Json.Value) :
    (d.create (Page.host .keep) call
      (page.report (c.query call.key args).identity (some reported))).result =
      .ok (.value reported) := by
  have asked : (c.query call.key args).identity = (d.query call.key args).identity :=
    congrArg ofInput same
  rw [(Declaration.create_keep marshals _).1, asked, Page.report]
  simp only [ByName.get?_insert, if_pos]
  rfl

/-- A value that was reported for an identity is not seen by instances that have another. -/
theorem create_of_other_report (marshals : call.marshal Table.encode = .ok args)
    (other : (c.query call.key args).identity ≠ (d.query call.key args).identity)
    (reported : Json.Value) :
    (d.create (Page.host .keep) call
      (page.report (c.query call.key args).identity (some reported))).result =
      (d.create (Page.host .keep) call page).result := by
  rw [(Declaration.create_keep marshals _).1, (Declaration.create_keep marshals _).1, Page.report]
  simp only [ByName.get?_insert, if_neg other.symm]

/-- **Which directories share an identity.**  Of two local components of one name, with the
same key or the same arguments, the identity inputs are equal exactly if the absolute
directories have the same text.

* Different directories that are UTF-8 have different inputs.
* So have different directories one of which is UTF-8 and has no U+FFFD, whatever octets the
  other consists of.
* A value that was reported for an instance of one is returned to the same call of the other
  if the texts are the same, and changes nothing for it if the identities are not. -/
theorem input_eq_iff_of_directories (kind name : String) (p q : Path) (basis : Basis) :
    (input kind (.ofPath name p) basis = input kind (.ofPath name q) basis ↔
      p.absolute.toText = q.absolute.toText) ∧
    (∀ text text', Utf8.decode? p.absolute.bytes = some text →
      Utf8.decode? q.absolute.bytes = some text' → p.absolute ≠ q.absolute →
      input kind (.ofPath name p) basis ≠ input kind (.ofPath name q) basis) ∧
    (∀ text, Utf8.decode? p.absolute.bytes = some text → Char.ofNat 0xFFFD ∉ text.toList →
      p.absolute ≠ q.absolute →
      input kind (.ofPath name p) basis ≠ input kind (.ofPath name q) basis) ∧
    ∀ (call : Call Table) args page reported, call.marshal Table.encode = .ok args →
      let c := Declaration.ofPath name p
      let d := Declaration.ofPath name q
      let reportedPage := page.report (c.query call.key args).identity (some reported)
      (p.absolute.toText = q.absolute.toText →
        (d.create (Page.host .keep) call reportedPage).result = .ok (.value reported)) ∧
      ((c.query call.key args).identity ≠ (d.query call.key args).identity →
        (d.create (Page.host .keep) call reportedPage).result =
          (d.create (Page.host .keep) call page).result) := by
  refine ⟨input_ofPath_eq_iff, fun text text' hp hq differ same => ?_,
    fun text hp plain differ same => ?_, ?_⟩
  · exact differ (Path.eq_of_toText_eq_of_decode? hp hq (input_ofPath_eq_iff.1 same))
  · exact differ (Path.eq_of_toText_eq hp plain (input_ofPath_eq_iff.1 same))
  · intro call args page reported marshals
    refine ⟨fun same => ?_, fun other => ?_⟩
    · exact create_of_report marshals (input_ofPath_eq_iff.2 same) reported
    · exact create_of_other_report marshals other reported

end

attribute [local instance] Platform.atRoot

/-- A directory whose last octet was cut off shares no identity with the whole one.  Two with
different beginnings of one scalar value share theirs, and their values. -/
theorem input_eq_iff_of_directories_of_cut_names :
    let cut : Path := ⟨[0x2F, 0x63, 0x61, 0x66, 0xC3]⟩
    let two : Path := ⟨[0x2F, 0xE2, 0x82]⟩
    let three : Path := ⟨[0x2F, 0xF0, 0x9F, 0x98]⟩
    let call : Call Table := .ofSteps [.argument "max" (.integer 1)]
    input "component_instance" (.ofPath "knob" (.ofString "café")) (.key "k") ≠
        input "component_instance" (.ofPath "knob" cut) (.key "k") ∧
      ∀ page : Page, ((Declaration.ofPath "knob" three).create (Page.host .keep) call
        (page.report ((Declaration.ofPath "knob" two).query call.key
          ⟨"\x7b\"max\":1\x7d", []⟩).identity (some .null))).result = .ok (.value .null) := by
  intro cut two three call
  constructor
  · obtain ⟨-, -, apart, -⟩ := input_eq_iff_of_directories "component_instance" "knob"
      (.ofString "café") cut (.key "k")
    exact apart "/café" (by decide) (by decide) (by decide)
  · intro page
    obtain ⟨-, -, -, values⟩ := input_eq_iff_of_directories "component_instance" "knob" two three
      (.key "k")
    exact (values call _ page .null rfl).1 (by decide)

/-- **Different directories can share an identity**, and then a value that was reported for an
instance in one is returned to an instance in the other. -/
theorem input_eq_of_undecodable_names :
    let knob : Declaration := .ofPath "knob" ⟨[0x2F, 0xFF]⟩
    let other : Declaration := .ofPath "knob" ⟨[0x2F, 0xFE]⟩
    let call : Call Table := .ofSteps [.key "k"]
    knob.directory? ≠ other.directory? ∧
      input Settings.elementKind knob (.key "k") = input Settings.elementKind other (.key "k") ∧
      (other.create (Page.host .keep) call
        (Page.empty.report (knob.query call.key ⟨"\x7b\x7d", []⟩).identity
          (some (.bool true)))).result = .ok (.value (.bool true)) := by
  intro knob other call
  have same : input Settings.elementKind knob (.key "k") =
      input Settings.elementKind other (.key "k") := input_ofPath_eq_iff.2 (by decide)
  have marshals : call.marshal Table.encode = .ok ⟨"\x7b\x7d", []⟩ := rfl
  exact ⟨by decide, same, create_of_report marshals same (.bool true)⟩

end Identity
end ComponentHost
