/-
# The names of callers

A component that is declared in passing is named after its caller, so that it can be asked for
under that name:

| Caller | Name |
|--------|------|
| a module | its segments, joined by dots (`IsModulePath.componentName_eq`) |
| a script | the stem of its file's name (`isStem_componentName`) |

Neither has a slash, so a request for the name and a relative path is cut behind the name
(`AssetRequest.parse_append`), and what is found there is the caller's declaration until
another one is put in place under the name (`Registry.get?_after_declare`).  Modules that are
told apart have different names, for their segments have no dots.  A script can share its name
with others.

The stem of a name is what stands before its last dot, unless nothing does:

| Name | Stem |
|------|------|
| no dot in it | the name |
| a dot at the front, no other | the name |
| any other | what stands before the last dot |
-/

import ComponentHost.Proofs.ComponentNames
import ComponentHost.Proofs.RelativePath

namespace ComponentHost

namespace Path

/-! ### File names of texts -/

theorem dot_mem_encode_iff {text : String} : dot ∈ Utf8.encode text ↔ '.' ∈ text.toList :=
  Utf8.mem_encode_iff (by decide : '.'.toNat < 0x80)

theorem slash_mem_encode_iff {text : String} : slash ∈ Utf8.encode text ↔ '/' ∈ text.toList :=
  Utf8.mem_encode_iff (by decide : '/'.toNat < 0x80)

/-- A name of a text is not empty and has no slash. -/
theorem of_mem_textNames {text s : String} (h : s ∈ textNames text) :
    s ≠ "" ∧ '/' ∉ s.toList := by
  have mem : Utf8.encode s ∈ (ofString text).meaningful :=
    meaningful_ofString text ▸ List.mem_map_of_mem h
  obtain ⟨isSegment, notEmpty, -⟩ := mem_meaningful_iff.1 mem
  constructor
  · rintro rfl
    exact notEmpty rfl
  · exact mt slash_mem_encode_iff.2 (slash_notMem_of_mem_splitAtSlashes isSegment)

/-- **The file name of a text is its last name**, unless that is `..`. -/
theorem fileName?_ofString (text : String) :
    (ofString text).fileName? =
      ((textNames text).getLast?.filter fun s => s ≠ "..").map Utf8.encode := by
  have up : ∀ s, Utf8.encode s = [dot, dot] ↔ s = ".." := fun s =>
    (Utf8.encode_inj : Utf8.encode s = Utf8.encode ".." ↔ s = "..")
  rw [fileName?_eq_getLast?, meaningful_ofString, List.getLast?_map]
  cases (textNames text).getLast? with
  | none => rfl
  | some s => by_cases h : s = ".." <;> simp [Option.filter, up, h]

/-- A file name of a text is a name of that text, its last one. -/
theorem exists_of_fileName?_ofString {text : String} {octets : Bytes}
    (h : (ofString text).fileName? = some octets) :
    ∃ name, octets = Utf8.encode name ∧ (textNames text).getLast? = some name ∧
      name ≠ "" ∧ '/' ∉ name.toList := by
  rw [fileName?_ofString] at h
  obtain ⟨name, kept, rfl⟩ := Option.map_eq_some_iff.1 h
  obtain ⟨last, -⟩ := Option.filter_eq_some_iff.1 kept
  exact ⟨name, rfl, last, of_mem_textNames (List.mem_of_getLast? last)⟩

/-! ### Stems -/

theorem splitAtLastDot?_of_notMem {name : Bytes} (h : dot ∉ name) :
    splitAtLastDot? name = none := by
  induction name with
  | nil => rfl
  | cons b rest ih =>
    obtain ⟨notDot, hrest⟩ := List.ne_and_not_mem_of_not_mem_cons h
    rw [splitAtLastDot?, ih hrest]
    exact if_neg notDot.symm

theorem splitAtLastDot?_append {after : Bytes} (h : dot ∉ after) (before : Bytes) :
    splitAtLastDot? (before ++ dot :: after) = some (before, after) := by
  induction before with
  | nil =>
    rw [List.nil_append, splitAtLastDot?, splitAtLastDot?_of_notMem h]
    exact if_pos rfl
  | cons b before ih => rw [List.cons_append, splitAtLastDot?, ih]

/-- A name, and what it is without its last extension: a name with no dot and one with a dot at
its front only have none. -/
inductive IsStem : String → String → Prop where
  | plain {name : String} (noDot : '.' ∉ name.toList) : IsStem name name
  | hidden {rest : String} (noDot : '.' ∉ rest.toList) : IsStem ("." ++ rest) ("." ++ rest)
  | cut {stem extension : String} (notEmpty : stem ≠ "") (last : '.' ∉ extension.toList) :
    IsStem (stem ++ "." ++ extension) stem

namespace IsStem

/-- Each name is of one of the three kinds. -/
theorem exists_of_name (name : String) : ∃ stem, IsStem name stem := by
  by_cases h : '.' ∈ name.toList
  · obtain ⟨before, after, hcut, last⟩ := exists_eq_append_of_mem h
    have hname : name = String.ofList before ++ "." ++ String.ofList after := by
      apply String.ext
      rw [hcut]
      simp
    have last : '.' ∉ (String.ofList after).toList := by rwa [String.toList_ofList]
    by_cases front : String.ofList before = ""
    · rw [hname, front, String.empty_append]
      exact ⟨_, hidden last⟩
    · rw [hname]
      exact ⟨_, cut front last⟩
  · exact ⟨name, plain h⟩

/-- The stem of the octets of a name are the octets of its stem. -/
theorem stemOf_encode {name stem : String} (h : IsStem name stem) :
    stemOf (Utf8.encode name) = Utf8.encode stem := by
  have single : Utf8.encode "." = [dot] := rfl
  cases h with
  | plain noDot =>
    have uncut : splitAtLastDot? (Utf8.encode name) = none :=
      splitAtLastDot?_of_notMem (mt dot_mem_encode_iff.1 noDot)
    rw [stemOf, uncut]
  | @hidden rest noDot =>
    have front : splitAtLastDot? ([dot] ++ Utf8.encode rest) = some ([], Utf8.encode rest) :=
      splitAtLastDot?_append (mt dot_mem_encode_iff.1 noDot) []
    rw [Utf8.encode_append, single, stemOf, front]
  | @cut _ extension notEmpty last =>
    have behind : splitAtLastDot? (Utf8.encode stem ++ dot :: Utf8.encode extension) =
        some (Utf8.encode stem, Utf8.encode extension) :=
      splitAtLastDot?_append (mt dot_mem_encode_iff.1 last) _
    obtain ⟨b, bs, octets⟩ := List.exists_cons_of_ne_nil (mt Utf8.encode_eq_nil_iff.1 notEmpty)
    rw [Utf8.encode_append, Utf8.encode_append, single, List.append_assoc, List.singleton_append,
      stemOf, behind, octets]

theorem ne_empty {name stem : String} (h : IsStem name stem) (hname : name ≠ "") : stem ≠ "" := by
  cases h with
  | plain | hidden => exact hname
  | cut notEmpty => exact notEmpty

theorem toList_subset {name stem : String} (h : IsStem name stem) :
    stem.toList ⊆ name.toList := by
  cases h with
  | plain | hidden => exact List.Subset.refl _
  | cut =>
    intro c hc
    simp [hc]

end IsStem
end Path

namespace Caller

/-! ### Modules -/

/-- Names of nested modules, from the outside: at least one, each a word without the characters
that part them, here and in addresses. -/
structure IsModulePath (segments : List String) : Prop where
  nonempty : segments ≠ []
  words : ∀ s ∈ segments, s ≠ "" ∧ ∀ c ∈ [':', '.', '/'], c ∉ s.toList

theorem dotted_append_of_notMem {front : List Char} (h : ':' ∉ front) (rest : List Char) :
    dotted (front ++ rest) = front ++ dotted rest := by
  induction front with
  | nil => rfl
  | cons c front ih =>
    obtain ⟨notColon, hfront⟩ := List.ne_and_not_mem_of_not_mem_cons h
    -- A pair can begin at a colon only.
    have single : dotted (c :: (front ++ rest)) = c :: dotted (front ++ rest) :=
      dotted.eq_2 _ _ fun _ e _ => notColon e.symm
    rw [List.cons_append, single, ih hfront, List.cons_append]

/-- **Words joined by colons are read as joined by dots.** -/
theorem dotted_intercalate {words : List (List Char)} (h : ∀ w ∈ words, ':' ∉ w) :
    dotted ([':', ':'].intercalate words) = ['.'].intercalate words := by
  induction words with
  | nil => rfl
  | cons w rest ih =>
    obtain ⟨hw, hrest⟩ := List.forall_mem_cons.1 h
    have whole : dotted w = w := by
      have ended := dotted_append_of_notMem hw []
      rwa [List.append_nil, dotted, List.append_nil] at ended
    cases rest with
    | nil => rw [List.intercalate_singleton, List.intercalate_singleton, whole]
    | cons next rest =>
      -- The word before a separator ends in no colon, so the two colons there are read as a pair.
      rw [List.intercalate_cons_cons, List.intercalate_cons_cons, ← ih hrest, List.append_assoc,
        dotted_append_of_notMem hw, List.append_assoc]
      rfl

theorem notMem_intercalate {α : Type} {a : α} {separator : List α} {words : List (List α)}
    (hseparator : a ∉ separator) (h : ∀ w ∈ words, a ∉ w) : a ∉ separator.intercalate words := by
  induction words with
  | nil => exact List.not_mem_nil
  | cons w rest ih =>
    obtain ⟨hw, hrest⟩ := List.forall_mem_cons.1 h
    cases rest with
    | nil => rwa [List.intercalate_singleton]
    | cons next rest =>
      rw [List.intercalate_cons_cons, List.mem_append, List.mem_append]
      exact not_or.2 ⟨not_or.2 ⟨hw, hseparator⟩, ih hrest⟩

namespace IsModulePath

variable {segments : List String} (h : IsModulePath segments)
include h

theorem notMem_word {c : Char} (hc : c ∈ [':', '.', '/']) :
    ∀ w ∈ segments.map String.toList, c ∉ w := by
  intro w hw
  obtain ⟨s, hs, rfl⟩ := List.mem_map.1 hw
  exact (h.words s hs).2 c hc

theorem intercalate_ne_empty : "::".intercalate segments ≠ "" := by
  obtain ⟨s, rest, rfl⟩ := List.exists_cons_of_ne_nil h.nonempty
  have letters : s.toList ≠ [] :=
    mt String.toList_eq_nil_iff.1 (h.words s (List.mem_cons_self ..)).1
  rw [← String.toList_eq_nil_iff.ne, String.toList_intercalate, List.map_cons]
  cases rest with
  | nil => rwa [List.map_nil, List.intercalate_singleton]
  | cons next rest =>
    rw [List.map_cons, List.intercalate_cons_cons, List.append_assoc]
    exact List.append_ne_nil_of_left_ne_nil letters _

/-- **A module is named by its segments, joined by dots**, whatever its file. -/
theorem componentName_eq (file : String) :
    componentName ⟨some ("::".intercalate segments), file⟩ = ".".intercalate segments := by
  have joined : dotted ("::".intercalate segments).toList = (".".intercalate segments).toList := by
    rw [String.toList_intercalate, String.toList_intercalate]
    exact dotted_intercalate (h.notMem_word (by decide))
  rw [componentName]
  exact (if_neg h.intercalate_ne_empty).trans (String.ext (by rw [joined, String.toList_ofList]))

theorem slash_notMem_intercalate : '/' ∉ (".".intercalate segments).toList := by
  rw [String.toList_intercalate]
  exact notMem_intercalate (by decide) (h.notMem_word (by decide))

/-- The segments are what stands between the dots. -/
theorem splitOn_intercalate :
    (".".intercalate segments).toList.splitOn '.' = segments.map String.toList := by
  rw [String.toList_intercalate]
  exact List.splitOn_intercalate '.' (h.notMem_word (by decide))
    (mt List.map_eq_nil_iff.1 h.nonempty)

/-- **Different modules have different names.** -/
theorem eq_of_intercalate_eq {segments' : List String} (h' : IsModulePath segments')
    (e : ".".intercalate segments = ".".intercalate segments') : segments = segments' := by
  have words : segments.map String.toList = segments'.map String.toList := by
    rw [← h.splitOn_intercalate, e, h'.splitOn_intercalate]
  exact List.map_injective_iff.2 (fun _ _ => String.ext) words

end IsModulePath

/-! ### Scripts -/

/-- Whether a caller is in no module. -/
def IsScript (caller : Caller) : Prop := caller.modulePath = none ∨ caller.modulePath = some ""

/-- **A script is named by the stem of its file's name.** -/
theorem isStem_componentName {caller : Caller} (h : caller.IsScript) {name : String}
    (fileName : (Path.ofString caller.file).fileName? = some (Utf8.encode name)) :
    Path.IsStem name caller.componentName := by
  obtain ⟨stem, hstem⟩ := Path.IsStem.exists_of_name name
  have named : caller.componentName = scriptName caller.file := by
    obtain ⟨modulePath, file⟩ := caller
    rcases h with rfl | rfl
    · rfl
    · rw [componentName]
      exact if_pos rfl
  have read : scriptName caller.file = stem := by
    rw [scriptName, Path.fileStem?, fileName, Option.map_some, hstem.stemOf_encode]
    exact Utf8.decodeLossy_of_decode? (Utf8.decode?_encode stem)
  rwa [named, read]

/-- The callers whose name is made from what they are: modules, and scripts that have a file
name. -/
inductive IsNamed : Caller → Prop where
  | module {segments : List String} (h : IsModulePath segments) (file : String) :
    IsNamed ⟨some ("::".intercalate segments), file⟩
  | script {caller : Caller} (h : caller.IsScript) {octets : Bytes}
    (fileName : (Path.ofString caller.file).fileName? = some octets) : IsNamed caller

/-- **Names of callers can be asked for**: they have no slash. -/
theorem IsNamed.slash_notMem {caller : Caller} (h : caller.IsNamed) :
    '/' ∉ caller.componentName.toList := by
  cases h with
  | module h file =>
    rw [h.componentName_eq]
    exact h.slash_notMem_intercalate
  | script h fileName =>
    obtain ⟨name, rfl, -, -, noSlash⟩ := Path.exists_of_fileName?_ofString fileName
    exact fun slash => noSlash ((isStem_componentName h fileName).toList_subset slash)

end Caller

namespace Registry

/-! ### Requests for a declared component -/

theorem lastNamed_eq_none_iff {name : String} {declarations : List Declaration} :
    lastNamed name declarations = none ↔ ∀ c ∈ declarations, c.name ≠ name := by
  rw [lastNamed, List.find?_eq_none]
  simp only [List.mem_reverse, decide_eq_true_iff]

section

variable [Platform]

/-- A local component that could be declared has the caller's name and stands under it. -/
theorem eq_of_declare_eq_ok {r r' : Registry} {files : FileTree} {caller : Caller} {p : Path}
    {c : Declaration} {log : List LogLine}
    (h : r.declare files caller (some p) none = (.ok c, r', log)) :
    c = .ofPath caller.componentName p ∧ r'.get? caller.componentName = some c := by
  have made : r.attempt ⟨files, .declare caller (some p) none⟩ = ⟨.ok c, r', log⟩ := by
    rw [attempt]
    simp only [h]
  obtain ⟨asked, -⟩ := answer_eq_ok_iff.1 (congrArg Attempted.answer made)
  have hc : c = .ofPath caller.componentName p := (Option.some.inj asked).symm
  have stands := get?_attempt r ⟨files, .declare caller (some p) none⟩ caller.componentName
  rw [made] at stands
  have last : lastNamed caller.componentName [c] = some c := by
    rw [hc, lastNamed]
    exact List.find?_cons_of_pos (decide_eq_true rfl)
  refine ⟨hc, stands.trans ?_⟩
  exact (congrArg (Option.or · _) last).trans Option.some_or

/-- **A declaration stands** until another one is put in place under its name. -/
theorem get?_after_declare {r r' : Registry} {files : FileTree} {caller : Caller} {p : Path}
    {c : Declaration} {log : List LogLine}
    (h : r.declare files caller (some p) none = (.ok c, r', log)) {later : List Attempt}
    (others : ∀ d ∈ r'.registered later, d.name ≠ caller.componentName) :
    (r'.after later).get? caller.componentName = some c := by
  rw [get?_after, lastNamed_eq_none_iff.2 others, Option.none_or]
  exact (eq_of_declare_eq_ok h).2

/-- **A request that names a local component is resolved in its directory**, and depends on
nothing else that is registered. -/
theorem load_of_directory? {r : Registry} {name : String} {root : Path}
    (noSlash : '/' ∉ name.toList) (held : r.directory? name = some root) (relativePath : String) :
    let text := name ++ "/" ++ relativePath
    let document := AssetRequest.documentPath ⟨name, relativePath⟩
    ∀ tree,
      (Asset.resolveWithin root document = none →
        (Asset.load tree r text).value = .error (.assetNotFound text Refusal.rejectedPath.reason)) ∧
      (∀ asset, (Asset.load tree r text).value = .ok asset →
        Asset.resolveWithin root document = some asset.path) ∧
      ∀ other : Registry, other.directory? name = some root →
        Asset.load tree other text = Asset.load tree r text := by
  intro text document tree
  have reached : AssetRequest.parse text = ⟨name, relativePath⟩ :=
    AssetRequest.parse_append noSlash relativePath
  refine ⟨fun rejected => ?_, fun asset loaded => ?_, fun other same => ?_⟩
  · have refused : Asset.find tree r (.parse text) = .error .rejectedPath := by
      rw [Asset.find, reached]
      simp only [held]
      rw [rejected]
    rw [Asset.load, refused]
    rfl
  · obtain ⟨found, hfound, resolved, -⟩ :=
      Asset.eq_of_find_eq_ok (Asset.load_value_eq_ok_iff.1 loaded)
    rw [reached, held] at hfound
    rw [reached] at resolved
    rw [Option.some.inj hfound, resolved]
  · exact Asset.load_congr_registry (by rw [reached, same, held]) tree

/-- **The names of callers tell modules apart and can be asked for.**

* A module is named by its segments, joined by dots, whatever its file, and different modules
  have different names.
* A script whose file has a name is called by the stem of that name, the last one of the file's
  text; it is not empty and has no slash.
* Let such a caller declare a local component, and let others be registered under other names
  afterwards.  Then that component stands under the caller's name, and a request for the name
  and a relative path is cut behind the name.  It is resolved in the directory of the component:
  refused if the path cannot be, and otherwise answered with what is found there, as in any
  other registry that has this directory under the name. -/
theorem declared_names_route :
    (∀ segments, Caller.IsModulePath segments → ∀ file,
      Caller.componentName ⟨some ("::".intercalate segments), file⟩ = ".".intercalate segments ∧
      ∀ segments', Caller.IsModulePath segments' → segments ≠ segments' → ∀ file',
        Caller.componentName ⟨some ("::".intercalate segments), file⟩ ≠
          Caller.componentName ⟨some ("::".intercalate segments'), file'⟩) ∧
    (∀ caller : Caller, caller.IsScript →
      ∀ octets, (Path.ofString caller.file).fileName? = some octets →
        ∃ name, octets = Utf8.encode name ∧ (Path.textNames caller.file).getLast? = some name ∧
          Path.IsStem name caller.componentName ∧ caller.componentName ≠ "" ∧
          '/' ∉ caller.componentName.toList) ∧
    ∀ caller : Caller, caller.IsNamed → ∀ (r : Registry) files p c r' log,
      r.declare files caller (some p) none = (.ok c, r', log) →
      ∀ later, (∀ d ∈ r'.registered later, d.name ≠ caller.componentName) →
        let name := caller.componentName
        let now := r'.after later
        c = .ofPath name p ∧ now.get? name = some c ∧
        ∀ relativePath,
          let text := name ++ "/" ++ relativePath
          let document := AssetRequest.documentPath ⟨name, relativePath⟩
          AssetRequest.parse text = ⟨name, relativePath⟩ ∧
          now.directory? (AssetRequest.parse text).componentName = some p.absolute ∧
          ∀ tree,
            (Asset.resolveWithin p.absolute document = none →
              (Asset.load tree now text).value =
                .error (.assetNotFound text Refusal.rejectedPath.reason)) ∧
            (∀ asset, (Asset.load tree now text).value = .ok asset →
              Asset.resolveWithin p.absolute document = some asset.path) ∧
            ∀ other : Registry, other.directory? name = some p.absolute →
              Asset.load tree other text = Asset.load tree now text := by
  refine ⟨fun segments h file => ⟨h.componentName_eq file, ?_⟩, fun caller isScript octets named => ?_,
    fun caller named r files p c r' log declared later others => ?_⟩
  · intro segments' h' differ file' same
    rw [h.componentName_eq, h'.componentName_eq] at same
    exact differ (h.eq_of_intercalate_eq h' same)
  · obtain ⟨name, rfl, last, notEmpty, -⟩ := Path.exists_of_fileName?_ofString named
    have stem := Caller.isStem_componentName isScript named
    exact ⟨name, rfl, last, stem, stem.ne_empty notEmpty,
      (Caller.IsNamed.script isScript named).slash_notMem⟩
  · intro name now
    have hc : c = .ofPath name p := (eq_of_declare_eq_ok declared).1
    have stands : now.get? name = some c := get?_after_declare declared others
    have directory : now.directory? name = some p.absolute :=
      directory?_eq_some_iff.2 ⟨c, p, stands, hc ▸ rfl, rfl⟩
    refine ⟨hc, stands, fun relativePath => ?_⟩
    have reached : AssetRequest.parse (name ++ "/" ++ relativePath) = ⟨name, relativePath⟩ :=
      AssetRequest.parse_append named.slash_notMem relativePath
    exact ⟨reached, by rw [reached, directory],
      load_of_directory? named.slash_notMem directory relativePath⟩

end

/-- A script with a hidden file of two extensions, its path not in its shortest spelling. -/
def hiddenScript : Caller := ⟨some "", "bin//.knob.tar.gz/."⟩

/-- A directory `/a` with a file. -/
def scriptFiles : FileTree :=
  { entries := [([Utf8.encode "a"], .directory),
    ([Utf8.encode "a", Utf8.encode "x"], .file [7])] }

/-- What follows the script's declaration: another component is registered, and declaring the
first one anew fails. -/
def afterwards : List Attempt :=
  [⟨scriptFiles, .register (.ofPath "knob" (.ofString "/a"))⟩,
    ⟨.empty, .declare hiddenScript (some (.ofString "/b")) none⟩]

attribute [local instance] Platform.atRoot

/-- Two modules that differ in a dot; the script, its component, and a request for a file. -/
theorem declared_names_route_of_hidden_script :
    let declared := empty.declare scriptFiles hiddenScript (some (.ofString "a/.")) none
    let now := declared.2.1.after afterwards
    Caller.componentName ⟨some "ui::ab", "x.rs"⟩ = "ui.ab" ∧
      Caller.componentName ⟨some "ui::ab", "x.rs"⟩ ≠
        Caller.componentName ⟨some "ui::a::b", "x.rs"⟩ ∧
      Path.IsStem ".knob.tar.gz" hiddenScript.componentName ∧
      hiddenScript.componentName = ".knob.tar" ∧
      declared.1 = .ok (.ofPath ".knob.tar" (.ofString "a/.")) ∧
      now.get? ".knob.tar" = some (.ofPath ".knob.tar" (.ofString "a/.")) ∧
      now.directory? (AssetRequest.parse (".knob.tar" ++ "/" ++ "./x")).componentName =
        some (.ofString "/a") ∧
      (Asset.load scriptFiles now (".knob.tar" ++ "/" ++ "./x")).value =
        .ok ⟨.ofString "/a/x", [7], "application/octet-stream", "public"⟩ ∧
      Asset.resolveWithin (.ofString "/a") "./x" = some (.ofString "/a/x") := by
  intro declared now
  obtain ⟨modules, scripts, requests⟩ := declared_names_route
  have outer : Caller.IsModulePath ["ui", "ab"] := ⟨by decide, by simp⟩
  have inner : Caller.IsModulePath ["ui", "a", "b"] := ⟨by decide, by simp⟩
  obtain ⟨joined, apart⟩ := modules _ outer "x.rs"
  have isScript : hiddenScript.IsScript := .inr rfl
  have fileName : (Path.ofString hiddenScript.file).fileName? =
      some (Utf8.encode ".knob.tar.gz") := by decide
  obtain ⟨name, octets, -, stem, -⟩ := scripts hiddenScript isScript _ fileName
  obtain ⟨-, stands, asked⟩ := requests hiddenScript (.script isScript fileName) empty scriptFiles
    _ _ _ _ (rfl : declared = _) afterwards (by decide)
  obtain ⟨-, directory, answered⟩ := asked "./x"
  have loaded : (Asset.load scriptFiles now (".knob.tar" ++ "/" ++ "./x")).value =
      .ok ⟨.ofString "/a/x", [7], "application/octet-stream", "public"⟩ := rfl
  exact ⟨joined, apart _ inner (by decide) "x.rs", Utf8.encode_inj.1 octets ▸ stem, by decide, rfl,
    stands, directory, loaded, (answered scriptFiles).2.1 _ loaded⟩

end Registry
end ComponentHost
