/-
# Component declarations

A declaration names a component and says where its files are: in a local
directory, or at an address that someone else serves.

Declarations are equal (`SameAs`) if their names are, and their addresses letter
by letter or their directories component by component.  So a directory may be
respelled; `display` and the declared path tell the spellings apart, the
`directory?` does not.
-/

import ComponentHost.Error
import ComponentHost.Platform

namespace ComponentHost

/-- Where a component's files are. -/
inductive Source where
  | path (p : Path)
  | url (address : String)
  deriving DecidableEq, Repr

/-- A named component and where its files are. -/
structure Declaration where
  name : String
  source : Source
  deriving DecidableEq, Repr

/-- Equality of sources: addresses by letter, paths by component. -/
def Source.SameAs : Source → Source → Prop
  | .path p, .path q => p.SameAs q
  | .url a, .url b => a = b
  | _, _ => False

instance : (s t : Source) → Decidable (s.SameAs t)
  | .path p, .path q => inferInstanceAs (Decidable (p.SameAs q))
  | .url a, .url b => inferInstanceAs (Decidable (a = b))
  | .path _, .url _ => inferInstanceAs (Decidable False)
  | .url _, .path _ => inferInstanceAs (Decidable False)

/-- What a hash of a source is taken of. -/
inductive SourceFingerprint where
  | path (octets : Bytes) (cuts : UInt64)
  | url (address : String)
  deriving DecidableEq, Repr

/-- What a hash of a source is taken of. -/
def Source.fingerprint : Source → SourceFingerprint
  | .path p => .path p.fingerprint.1 p.fingerprint.2
  | .url address => .url address

namespace Declaration

/-- Declares a component of which exactly one source has to be given. -/
def ofOptions (name : String) (path : Option Path) (url : Option String) :
    Except Error Declaration :=
  match path, url with
  | some p, none => .ok ⟨name, .path p⟩
  | none, some address => .ok ⟨name, .url address⟩
  | _, _ => .error .sourceChoice

/-- Declares a component in a directory. -/
def ofPath (name : String) (path : Path) : Declaration := ⟨name, .path path⟩

/-- Declares a component at an address. -/
def ofUrl (name address : String) : Declaration := ⟨name, .url address⟩

/-- The directory of a local component, as declared. -/
def path? (c : Declaration) : Option Path :=
  match c.source with
  | .path p => some p
  | .url _ => none

/-- The address of a remote component. -/
def url? (c : Declaration) : Option String :=
  match c.source with
  | .path _ => none
  | .url address => some address

/-- The absolute directory of a local component. -/
def directory? [Platform] (c : Declaration) : Option Path := c.path?.map Path.absolute

/-- Equality of declarations. -/
def SameAs (c d : Declaration) : Prop := c.name = d.name ∧ c.source.SameAs d.source

instance (c d : Declaration) : Decidable (c.SameAs d) :=
  inferInstanceAs (Decidable (_ ∧ _))

/-- What a hash of a declaration is taken of. -/
def fingerprint (c : Declaration) : String × SourceFingerprint := (c.name, c.source.fingerprint)

/-- The name in quotes, and the source as declared. -/
def display (c : Declaration) : String :=
  "'" ++ c.name ++ "': " ++
    match c.source with
    | .path p => p.toText
    | .url address => address

/-- **Equal declarations hash alike.** -/
theorem fingerprint_eq_of_sameAs {c d : Declaration} (h : c.SameAs d) :
    c.fingerprint = d.fingerprint := by
  obtain ⟨n, s⟩ := c
  obtain ⟨m, t⟩ := d
  obtain ⟨rfl, hs⟩ : n = m ∧ s.SameAs t := h
  cases s <;> cases t <;> simp only [Source.SameAs] at hs
  · simp [fingerprint, Source.fingerprint, Path.fingerprint_eq_of_sameAs hs]
  · simp [hs]

end Declaration
end ComponentHost
