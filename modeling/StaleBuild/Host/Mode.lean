import StaleBuild.Host.Text

/-!
Permissions of files: in octal digits, in letters for the owner, the group and the others, and the
changes that users write, such as `u+x,go-w`.
-/

namespace StaleBuild.Host.Mode

/-- One change: the classes it is for, and what it does. -/
structure Clause where
  /-- The classes that are named; none stands for all that the mask of new files leaves alone. -/
  who : Str
  /-- Each of the operators with the permissions behind it. -/
  actions : List (Char × Str)

/-- The actions of a clause. -/
def actions : Nat → Str → Option (List (Char × Str))
  | 0, _ => none
  | _ + 1, [] => some []
  | fuel + 1, op :: rest =>
    if op = '+' || op = '-' || op = '=' then
      let perms := rest.takeWhile fun c => "rwxXstugo".toList.contains c
      (actions fuel (rest.drop perms.length)).map ((op, perms) :: ·)
    else none

/-- A change in letters. -/
def clause? (s : Str) : Option Clause :=
  let who := s.takeWhile fun c => "ugoa".toList.contains c
  match s.drop who.length with
  | [] => none
  | rest => (actions (rest.length + 1) rest).map fun as => ⟨who, as⟩

/-- Several changes with commas between them. -/
def clauses? (s : Str) : Option (List Clause) := (splitOn ',' s).mapM clause?

/-- The permission bits of one class of a mode, which are the lowest three. -/
def ofClass (mode : Nat) (c : Char) : Nat :=
  match c with
  | 'u' => mode / 64 % 8
  | 'g' => mode / 8 % 8
  | _ => mode % 8

/-- The bits that letters stand for in the classes named, given the mode so far. -/
def bits (who perms : Str) (isDirectory : Bool) (mode : Nat) : Nat :=
  let classes (n : Nat) : Nat :=
    (if who.contains 'u' then n * 64 else 0) + (if who.contains 'g' then n * 8 else 0) +
      (if who.contains 'o' then n else 0)
  perms.foldl (fun acc c => acc ||| (match c with
    | 'r' => classes 4
    | 'w' => classes 2
    | 'x' => classes 1
    | 'X' => if isDirectory || mode &&& 0o111 ≠ 0 then classes 1 else 0
    | 's' => (if who.contains 'u' then 0o4000 else 0) + (if who.contains 'g' then 0o2000 else 0)
    | 't' => 0o1000
    | c => classes (ofClass mode c))) 0

/-- The bits of a number that another one does not have. -/
def without (n m : Nat) : Nat := n &&& (0o7777 - m % 0o10000)

/-- A mode changed by one clause. -/
def apply (mask : Nat) (isDirectory : Bool) (mode : Nat) (c : Clause) : Nat :=
  let all := c.who = [] || c.who.contains 'a'
  let who := if all then "ugo".toList else c.who
  let kept := if c.who = [] then 0o7777 - mask else 0o7777
  let scope := bits who "rwx".toList false 0 ||| (if who.contains 'u' then 0o4000 else 0) |||
    (if who.contains 'g' then 0o2000 else 0) ||| (if who.contains 'o' then 0o1000 else 0)
  c.actions.foldl (fun mode a =>
    let b := bits who a.2 isDirectory mode &&& kept
    match a.1 with
    | '+' => mode ||| b
    | '-' => without mode b
    | _ => without mode (if isDirectory then without scope 0o6000 else scope) ||| b) mode

/-- A mode changed as a user says: by a number or by letters. -/
def changed? (mask : Nat) (isDirectory : Bool) (mode : Nat) (s : Str) : Option Nat :=
  match naturalIn? 8 s with
  | some n => if 0o7777 < n then none else some n
  | none => (clauses? s).map fun cs => cs.foldl (apply mask isDirectory) mode

/-- Three letters for the permissions of a class. -/
def letters (n : Nat) : Str :=
  [if n / 4 % 2 = 1 then 'r' else '-', if n / 2 % 2 = 1 then 'w' else '-',
    if n % 2 = 1 then 'x' else '-']

/-- Nine letters for the permissions of a mode. -/
def shown (mode : Nat) : Str :=
  let triple (n : Nat) (special : Bool) (on off : Char) : Str :=
    match letters n with
    | [r, w, x] => [r, w, if special then (if x = 'x' then on else off) else x]
    | l => l
  triple (mode / 64) (mode / 0o4000 % 2 = 1) 's' 'S' ++ triple (mode / 8) (mode / 0o2000 % 2 = 1) 's' 'S' ++
    triple mode (mode / 0o1000 % 2 = 1) 't' 'T'

/-- The letters that a class has. -/
def granted (n : Nat) : Str := (letters n).filter (· ≠ '-')

end StaleBuild.Host.Mode
