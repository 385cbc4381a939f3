import StaleBuild.Host.Options
import StaleBuild.Installation.Tree

/-!
Starting a program. The file that is started is a program of the system or a script whose first line
names a program for it; that one is started in its place. Programs start others, so the way to start
one is a recursion on how deep this may go.
-/

namespace StaleBuild.Installation

open Host (Str str Starter Program)

/-- A program with its name. -/
structure Installed where
  name : String
  /-- Whether the program holds its output back until it ends. -/
  holdsBack : Bool
  program : Program

/-- The longest first line of a script that counts. -/
def firstLineLimit : Nat := 255

/-- The program that the first line of a script names, with the argument behind it. -/
def interpreter? (text : Str) : Option (Str × Option Str) :=
  match text.take firstLineLimit with
  | '#' :: '!' :: rest =>
    let line := (rest.takeWhile (· ≠ '\n')).dropWhile Host.isBlank
    let program := line.takeWhile fun c => !Host.isBlank c
    let argument := Host.trimBy Host.isBlank (line.drop program.length)
    some (program, if argument = [] then none else some argument)
  | _ => none

/-- The contents of a file that can be started. -/
def executable (h : Host) (path : Str) : Except FileError Bytes :=
  match h.files.find (Host.pathOf path) with
  | .error cause => .error cause
  | .ok (_, e) =>
    match e.node with
    | .file bytes => if e.isExecutable then .ok bytes else .error .permissionDenied
    | _ => .error .permissionDenied

/-- Start the program at a path. -/
def start (programs : List Installed) : Nat → Starter
  | 0, _, _ => return .error .tooManyLinks
  | depth + 1, path, argv => do
    match executable (← get) path with
    | .error cause => return .error cause
    | .ok bytes =>
      match programName? bytes with
      | some name =>
        match programs.find? fun p => p.name.toList = name with
        | some p => do
          let called := argv.headD []
          return .ok (← Act.asProcess called p.holdsBack
            (p.program (start programs depth) ⟨called, argv.tail⟩))
        | none => return .error .noProgram
      | none =>
        match interpreter? (Host.ofBytes bytes) with
        | some ([], _) => return .error .noProgram
        | some (program, argument) =>
          start programs depth program (program :: argument.toList ++ path :: argv.tail)
        | none => return .error .noProgram

/-- How many programs may start each other. -/
def deepest : Nat := 60

end StaleBuild.Installation
