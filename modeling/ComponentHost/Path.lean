/-
# Paths

A path is the octets it is spelled with; they need not be UTF-8.  Two views are
read off the spelling:

| View | What it is |
|------|------------|
| `segments` | the texts between slashes, empty ones included |
| `components` | what the path means: the root, names, `..`, and a leading `.` |

Empty segments and every `.` but a leading one mean nothing, so paths that differ
only in repeated slashes, trailing slashes or inner `.` have the same components
(`SameAs`).  A leading `.` counts, because `./a` and `a` are told apart.
-/

import ComponentHost.Text.Utf8

namespace ComponentHost

/-- A path, as spelled. -/
structure Path where
  bytes : Bytes
  deriving DecidableEq, Repr

namespace Path

/-- The octet that separates segments. -/
def slash : UInt8 := 0x2F

/-- The octet that separates a file name's extension. -/
def dot : UInt8 := 0x2E

/-- The path spelled by a text. -/
def ofString (text : String) : Path := ⟨Utf8.encode text⟩

/-- The text of a path, with U+FFFD for what is not UTF-8. -/
def toText (p : Path) : String := Utf8.decodeLossy p.bytes

/-- One step of a path's meaning. -/
inductive Component where
  | root
  | current
  | parent
  | normal (name : Bytes)
  deriving DecidableEq, Repr

/-- The octets between slashes; a list without slashes is its own only part. -/
def splitAtSlashes : Bytes → List Bytes
  | [] => [[]]
  | b :: bs =>
    if b = slash then [] :: splitAtSlashes bs
    else match splitAtSlashes bs with
      | [] => [[b]]
      | s :: ss => (b :: s) :: ss

/-- The texts between the slashes of a path, empty ones included. -/
def segments (p : Path) : List Bytes := splitAtSlashes p.bytes

/-- What a segment means that is not the first one: nothing if it is empty or `.`. -/
def Component.ofSegment? (s : Bytes) : Option Component :=
  if s = [] ∨ s = [dot] then none
  else if s = [dot, dot] then some .parent
  else some (.normal s)

/-- What the first segment means: an empty one before a slash is the root, a `.`
counts. -/
def Component.ofFirst? (s : Bytes) (isLast : Bool) : Option Component :=
  if s = [] then if isLast then none else some .root
  else if s = [dot] then some .current
  else ofSegment? s

/-- The components of a path, from left to right. -/
def components (p : Path) : List Component :=
  match p.segments with
  | [] => []
  | first :: rest =>
    (Component.ofFirst? first rest.isEmpty).toList ++ rest.filterMap Component.ofSegment?

/-- Two spellings of the same components. -/
def SameAs (p q : Path) : Prop := p.components = q.components

instance (p q : Path) : Decidable (SameAs p q) :=
  inferInstanceAs (Decidable (p.components = q.components))

/-- The path of an entry in a directory: its name after one slash, and after none
where the directory's own spelling is empty or ends in one. -/
def child (p : Path) (name : Bytes) : Path :=
  if p.bytes = [] ∨ p.bytes.getLast? = some slash then ⟨p.bytes ++ name⟩
  else ⟨p.bytes ++ slash :: name⟩

/-- The path of names below the root. -/
def ofNames (names : List Bytes) : Path :=
  match names with
  | [] => ⟨[slash]⟩
  | _ => ⟨names.flatMap (slash :: ·)⟩

/-! ### Places -/

/-- A name that an entry of a directory can have: not empty, without slashes, and neither
`.` nor `..`. -/
def IsName (s : Bytes) : Prop :=
  s ≠ [] ∧ s ≠ [dot] ∧ s ≠ [dot, dot] ∧ slash ∉ s

instance : DecidablePred IsName := fun _ => inferInstanceAs (Decidable (_ ∧ _ ∧ _ ∧ _))

/-- Where a component leads from a place given by the names down to it, the last
one first: the root lies above itself. -/
def Component.descend (place : List Bytes) : Component → List Bytes
  | .root => []
  | .current => place
  | .parent => place.tail
  | .normal name => name :: place

/-! ### File names -/

/-- The name at the end of a path, unless it ends in the root, a leading `.` or `..`. -/
def fileName? (p : Path) : Option Bytes :=
  match p.components.getLast? with
  | some (.normal name) => some name
  | _ => none

/-- What stands before and after the last dot. -/
def splitAtLastDot? : Bytes → Option (Bytes × Bytes)
  | [] => none
  | b :: bs =>
    match splitAtLastDot? bs with
    | some (before, after) => some (b :: before, after)
    | none => if b = dot then some ([], bs) else none

/-- A name without its last extension; a dot at its front starts none. -/
def stemOf (name : Bytes) : Bytes :=
  match splitAtLastDot? name with
  | some (b :: before, _) => b :: before
  | _ => name

/-- The last extension of a name; a dot at its front starts none. -/
def extensionOf? (name : Bytes) : Option Bytes :=
  match splitAtLastDot? name with
  | some (_ :: _, after) => some after
  | _ => none

/-- The file name of a path without its last extension. -/
def fileStem? (p : Path) : Option Bytes := p.fileName?.map stemOf

/-- The last extension of a path's file name. -/
def extension? (p : Path) : Option Bytes := p.fileName?.bind extensionOf?

/-! ### Fingerprints -/

/-- A path's segments as they are spelled, without the root. -/
def Component.spelling : Component → Bytes
  | .root => []
  | .current => [dot]
  | .parent => [dot, dot]
  | .normal name => name

/-- A word that mixes the lengths of the segments in order, so that moving a cut
between segments changes it. -/
def cutWord (lengths : List Nat) : UInt64 :=
  lengths.foldl (fun word n =>
    let sum := word + UInt64.ofNat n
    sum >>> 2 ||| sum <<< 62) 0

/-- What a hash of a path is taken of: the octets of its segments one after
another, and the word of their lengths.  Paths with the same components agree on
it, and so do `/a` and `a`. -/
def fingerprint (p : Path) : Bytes × UInt64 :=
  let named := p.components.filter (· ≠ .root)
  (named.flatMap Component.spelling, cutWord (named.map (·.spelling.length)))

theorem fingerprint_eq_of_sameAs {p q : Path} (h : SameAs p q) : p.fingerprint = q.fingerprint := by
  rw [fingerprint, fingerprint, show p.components = q.components from h]

example : (ofString "a//b/./c/").components = (ofString "a/b/c").components := by decide
example : ¬ SameAs (ofString "./a") (ofString "a") := by decide
example : (ofString "a/.b.c/").fileStem? = some (Utf8.encode ".b") := by decide
example : (ofString "/a").fingerprint = (ofString "a").fingerprint := by decide

end Path
end ComponentHost
