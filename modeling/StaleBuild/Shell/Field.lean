import StaleBuild.Shell.Pattern
import StaleBuild.Shell.Syntax
import StaleBuild.Host.Basic

/-!
From expanded words to fields. What expanding a word gives is a list of pieces; a piece that came out
of an expansion without quotation marks is split where separators stand in it, and every piece is
part of one field with the pieces beside it. A field that is a pattern stands for the names of files
that it accepts.
-/

namespace StaleBuild.Shell

open Host (Str)

/-- A piece of an expanded word. -/
inductive Piece where
  | text (s : Str) (quoted splits : Bool)
  /-- The end of a field. -/
  | gap

namespace Piece

/-- The text of pieces, with blanks for gaps. -/
def join (ps : List Piece) : Str := ps.flatMap fun p => match p with
  | .text s _ _ => s
  | .gap => [' ']

/-- The characters of pieces, of which the quoted ones are literal. -/
def glyphs (ps : List Piece) : List Glyph := ps.flatMap fun p => match p with
  | .text s quoted _ => s.map fun c => ⟨c, quoted⟩
  | .gap => [⟨' ', false⟩]

end Piece

namespace Field

/-- How far fields have been split. -/
structure Splitting where
  /-- The fields that are complete, the last one first. -/
  done : List (List Glyph)
  /-- The field that is being put together, reversed. -/
  current : List Glyph
  /-- Whether there is such a field, which may be empty. -/
  isOpen : Bool
  /-- A blank has ended the last field, so that one separator behind it belongs to it. -/
  afterBlank : Bool

namespace Splitting

def start : Splitting := ⟨[], [], false, false⟩

/-- End the field. -/
def close (s : Splitting) : Splitting :=
  if s.isOpen then { s with done := s.current.reverse :: s.done, current := [], isOpen := false }
  else s

/-- One more character that is no separator. -/
def add (s : Splitting) (g : Glyph) : Splitting :=
  { s with current := g :: s.current, isOpen := true, afterBlank := false }

/-- One more character that may separate. -/
def meet (ifs : Str) (s : Splitting) (c : Char) : Splitting :=
  if !ifs.contains c then s.add ⟨c, false⟩
  else if c = ' ' || c = '\t' || c = '\n' then
    if s.isOpen then { s.close with afterBlank := true } else s
  else if s.afterBlank then { s with afterBlank := false }
  else { s.close with
    done := if s.isOpen then s.close.done else [] :: s.done, afterBlank := false }

/-- One more piece. -/
def take (ifs : Str) (s : Splitting) : Piece → Splitting
  | .gap => { s.close with afterBlank := false }
  | .text t quoted splits =>
    if splits then t.foldl (meet ifs) s
    else if t = [] && !quoted then s
    else
      { s with
        current := (t.map fun c => ⟨c, quoted⟩).reverse ++ s.current
        isOpen := true
        afterBlank := false }

end Splitting

/-- The fields of pieces. -/
def fields (ifs : Str) (ps : List Piece) : List (List Glyph) :=
  (ps.foldl (Splitting.take ifs) .start).close.done.reverse

/-- The text of a field. -/
def text (gs : List Glyph) : Str := gs.map Glyph.char

/-! ## Names of files -/

/-- The parts of a field between slashes, each with the slashes behind it. -/
def segments : Nat → List Glyph → List (List Glyph × Str)
  | 0, _ => []
  | _, [] => []
  | fuel + 1, gs =>
    let name := gs.takeWhile fun g => g.char ≠ '/'
    let rest := gs.drop name.length
    let slashes := rest.takeWhile fun g => g.char = '/'
    (name, slashes.map Glyph.char) :: segments fuel (rest.drop slashes.length)

/-- The names in the directory that a path denotes, with the two that every directory has. -/
def namesIn (tree : FileTree) (path : Str) : List Str :=
  match tree.find (Host.pathOf (if path = [] then ['.'] else path)) with
  | .ok (loc, e) =>
    if e.node.isDirectory then ['.'] :: ['.', '.'] :: (tree.names loc).map Host.ofBytes else []
  | .error _ => []

/-- Whether a path names anything, a link counting as it is. -/
def isThere (tree : FileTree) (path : Str) : Bool :=
  match tree.lookupLink (Host.pathOf path) with
  | .found .. => true
  | _ => false

/-- The names that a pattern accepts; one that starts with a full stop must be asked for, and the two
that every directory has are left out unless `dots`. -/
def matching (caret dots : Bool) (gs : List Glyph) (names : List Str) : List Str :=
  let p := Pattern.ofGlyphs caret gs
  names.filter fun name =>
    (name.head? ≠ some '.' || (gs.head?.map Glyph.char) = some '.') &&
      (dots || (name ≠ ['.'] && name ≠ ['.', '.'])) && p.accepts name

/-- The paths that segments stand for behind a path that is already found. -/
def paths (tree : FileTree) (caret dots : Bool) (found : Str) : List (List Glyph × Str) → List Str
  | [] => if isThere tree found then [found] else []
  | (name, slashes) :: rest =>
    if !Pattern.isPattern name then paths tree caret dots (found ++ text name ++ slashes) rest
    else
      (matching caret dots name (namesIn tree found)).flatMap fun n =>
        let path := found ++ n
        if rest.isEmpty && slashes = [] then [path]
        else if tree.isDirectory (Host.pathOf path) then
          paths tree caret dots (path ++ slashes) rest
        else []

/-- The names of files that a field stands for: itself, unless it is a pattern that accepts some. -/
def names (tree : FileTree) (caret : Bool) (gs : List Glyph) : List Str :=
  if Pattern.isPattern gs then
    match paths tree caret (!caret) [] (segments (gs.length + 1) gs) with
    | [] => [text gs]
    | found => found.mergeSort fun a b => !decide (b < a)
  else [text gs]

end Field

end StaleBuild.Shell
