import StaleBuild.Host.Quote

/-!
Texts written so that a shell of the extended dialect reads them back: with backslashes, or between
single quotation marks.
-/

namespace StaleBuild.Shell.Requote

open Host (Str str)

/-- Whether a text has characters that only an escape can show. -/
def hasControls (s : Str) : Bool := s.any fun c => c.toNat < 32 || c.toNat = 127

/-- A text with escapes. -/
def ansi (s : Str) : Str :=
  str "$'" ++ (s.flatMap fun c =>
    if c = '\'' || c = '\\' then ['\\', c]
    else if c.toNat = 27 then ['\\', 'E']
    else if c.toNat < 32 || c.toNat = 127 then Host.Quote.escaped c
    else [c]) ++ ['\'']

/-- The characters that need a backslash. -/
def special : List Char := " \t\n'\"\\|&;()<>!\x7b\x7d*[]?^$,".toList ++ [Char.ofNat 96]

/-- A text with backslashes. -/
def slashed (s : Str) : Str :=
  if s = [] then ['\'', '\'']
  else if hasControls s then ansi s
  else (s.zipIdx.flatMap fun (c, i) =>
    if special.contains c || (i = 0 && (c = '~' || c = '#')) then ['\\', c] else [c])

/-- A text between single quotation marks. -/
def single (s : Str) : Str :=
  if hasControls s then ansi s
  else '\'' :: (s.flatMap fun c => if c = '\'' then str "'\\''" else [c]) ++ ['\'']

/-- Whether a text cannot stand in a script as it is. -/
def needsMarks (s : Str) : Bool :=
  s = [] || hasControls s || s.any special.contains || s.head? = some '~' || s.head? = some '#'

/-- A text as a trace shows it. -/
def traced (s : Str) : Str := if needsMarks s then single s else s

end StaleBuild.Shell.Requote
