import StaleBuild.Path

/-!
Source files and the class files they compile to. A file name below a source directory is a
*candidate* when it is a non-empty base followed by a source suffix. Its class file lies in
the same package directory below the destination; a Groovy source in a package directory may also
have been compiled to the destination's root.
-/

namespace StaleBuild

/-- The languages that are compiled together. -/
inductive SourceKind where
  | groovy
  | java
deriving DecidableEq

namespace SourceKind

/-- All kinds, in the order in which a name is tried against them. -/
def all : List SourceKind := [.groovy, .java]

/-- The name of a kind. -/
def name : SourceKind → String
  | .groovy => "groovy"
  | .java => "java"

/-- The suffix of a file of this kind, with its full stop. -/
def suffix (kind : SourceKind) : Bytes := Path.fullStop :: Utf8.encode kind.name

/-- The primary language is the one whose classes may lie at the destination's root. -/
def isPrimary : SourceKind → Bool
  | .groovy => true
  | .java => false

/-- The kind whose suffix a file name has. -/
def ofName? (name : Path) : Option SourceKind := all.find? fun kind => kind.suffix.isSuffixOf name.bytes

/-- The kind with a given name. -/
def named? (s : String) : Option SourceKind := all.find? fun kind => kind.name = s

end SourceKind

/-- The suffix of a class file. -/
def classSuffix : Bytes := Utf8.encode ".class"

/-- A source file, named from its source directory: a base and the suffix of its kind. -/
structure Candidate where
  kind : SourceKind
  base : Bytes
  base_ne_nil : base ≠ []

namespace Candidate

/-- Read a file name as a candidate. A name that is nothing but a suffix is none. -/
def ofName? (name : Path) : Option Candidate :=
  match SourceKind.ofName? name with
  | none => none
  | some kind =>
    let base := name.bytes.take (name.bytes.length - kind.suffix.length)
    if h : base = [] then none else some ⟨kind, base, h⟩

/-- The file name of a candidate. -/
def name (c : Candidate) : Path := ⟨c.base ++ c.kind.suffix⟩

/-- The class file in the package directory of the source. -/
def packageOutput (c : Candidate) : Path := ⟨c.base ++ classSuffix⟩

/-- What follows the last separator of the base. -/
def simpleBase (c : Candidate) : Bytes :=
  (c.base.reverse.takeWhile (· ≠ Path.separator)).reverse

/-- The class file at the destination's root, for a primary source in a package directory. -/
def rootOutput? (c : Candidate) : Option Path :=
  if c.kind.isPrimary ∧ c.base.contains Path.separator then some ⟨c.simpleBase ++ classSuffix⟩
  else none

/-- The source file below a source directory. -/
def sourcePath (c : Candidate) (sourceDir : Path) : Path := sourceDir.join c.name

end Candidate

/-- A stale source with the class file it is expected to produce. -/
structure OutputMapping where
  source : Path
  output : Path
deriving DecidableEq

end StaleBuild
