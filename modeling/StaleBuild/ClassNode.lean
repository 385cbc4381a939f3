import StaleBuild.Failure
import StaleBuild.Files.Lookup
import StaleBuild.Text.Basic

/-!
Classes as the phases see them: a name, the source file that declares it, and the properties that
operations have added. The name of a source's class is the package that the source declares and
the stem of the file.

The package stands on the first line that, trimmed, begins with `package` and a blank. The line is
read with undecodable bytes replaced, so they never matter to it.
-/

namespace StaleBuild

/-- A class of a compilation unit. -/
structure ClassNode where
  name : String
  source : Path
  properties : List String
deriving DecidableEq

namespace ClassNode

/-- What a package line begins with. -/
def packageKeyword : List Char := "package ".toList

/-- The package of what follows the keyword: semicolons at the end do not belong to it. -/
def packageOf (rest : List Char) : List Char :=
  Text.trimChars (Text.dropWhileEnd (· = ';') (Text.trimChars rest))

/-- The package that a source text declares. -/
def package? (text : List Char) : Option (List Char) :=
  match ((Text.lines text).map Text.trimChars).findSome? packageKeyword.isPrefixOf? with
  | none => none
  | some rest => if packageOf rest = [] then none else some (packageOf rest)

/-- The stem of a file as text, empty if there is none. -/
def stemText (p : Path) : String := ((p.fileStem?.bind Utf8.decode?)).getD ""

/-- The name of the class that a source of these contents declares. -/
def nameOf (source : Path) (contents : Bytes) : String :=
  match package? (Utf8.decodeLossyChars contents) with
  | some package => String.ofList package ++ "." ++ stemText source
  | none => stemText source

/-- A class without properties. -/
def plain (name : String) (source : Path) : ClassNode := ⟨name, source, []⟩

/-- The class that a source file declares. -/
def ofSource (tree : FileTree) (source : Path) : Except BuildError ClassNode :=
  match tree.read source with
  | .error cause => .error (.file source cause)
  | .ok contents => .ok (plain (nameOf source contents) source)

/-- The name without its package: what follows the last full stop. -/
def simpleName (c : ClassNode) : String :=
  String.ofList (c.name.toList.reverse.takeWhile (· ≠ '.')).reverse

def hasProperty (c : ClassNode) (property : String) : Bool := c.properties.contains property

/-- The class with one more property; nothing changes if it has that property. -/
def addProperty (c : ClassNode) (property : String) : ClassNode :=
  if c.hasProperty property then c else { c with properties := c.properties ++ [property] }

end ClassNode

end StaleBuild
