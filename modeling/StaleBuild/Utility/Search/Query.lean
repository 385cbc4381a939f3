import StaleBuild.Host.DateText
import StaleBuild.Regex.Reader

/-!
Queries about files: tests and actions, put together by operators. A row of tests and operators as the user
writes it becomes a query by precedence: negation first, then conjunction, then alternatives, and commas
last.

Queries serve the running program only.
-/

namespace StaleBuild.Utility.Search

open Host (Str str)

/-- How a number is compared: it is the limit, above it or below it. -/
inductive Bound where
  | exactly
  | above
  | below
  deriving DecidableEq

/-- A limit for a number. -/
structure Limit where
  bound : Bound
  value : Nat

/-- Whether a number keeps to a limit. -/
def Limit.accepts (l : Limit) (n : Int) : Bool :=
  match l.bound with
  | .exactly => n = l.value
  | .above => (l.value : Int) < n
  | .below => n < l.value

/-- A test or an action. -/
inductive Test where
  | constant (value : Bool)
  /-- The last name of the path; whether case counts. -/
  | name (ignoresCase : Bool) (pattern : Str)
  | path (ignoresCase : Bool) (pattern : Str)
  | regex (ignoresCase : Bool) (e : Regex.Expr)
  /-- The kind of the file, or of what a link leads to. -/
  | kind (behind : Bool) (letters : List Char)
  | size (limit : Limit) (unit : Nat)
  | empty
  /-- Changed after a time. -/
  | newer (time : Time)
  /-- How long ago the file was changed, in units of so many seconds. -/
  | age (limit : Limit) (unit : Nat)
  /-- The permissions: exactly these, all of them, or one of them. -/
  | permission (bound : Char) (mode : Nat)
  | owner (isRoot : Bool)
  | ownerNumber (limit : Limit)
  | links (limit : Limit)
  | number (limit : Limit)
  | same (loc : Location)
  | target (ignoresCase : Bool) (pattern : Str)
  | runnable
  | prune
  | quit
  | delete
  /-- Write the path with a mark behind it, to a file if there is one. -/
  | print (mark : Str) (file : Option Str)
  | printf (format : Str) (file : Option Str)
  | list
  /-- Run a program for each file; whether in its directory, and whether the user is asked. -/
  | run (argv : List Str) (inPlace asks : Bool)
  /-- Run a program for many files; the number tells such actions apart. -/
  | gather (n : Nat) (argv : List Str) (inPlace : Bool)

/-- Whether a test is an action, so that paths are not written by themselves. -/
def Test.isAction : Test → Bool
  | .delete | .print .. | .printf .. | .list | .run .. | .gather .. => true
  | _ => false

/-- A query. -/
inductive Query where
  | test (t : Test)
  | negation (q : Query)
  | both (a b : Query)
  | either (a b : Query)
  | second (a b : Query)

/-- What the user writes: tests and operators by their names. -/
inductive Item where
  | test (t : Test)
  | negation (name : String)
  | both (name : String)
  | either (name : String)
  | comma
  | opening
  /-- A closing bracket; whether the user has written it. -/
  | closing (written : Bool)

/-- The name of an operator. -/
def Item.name : Item → String
  | .test _ => ""
  | .negation n | .both n | .either n => n
  | .comma => ","
  | .opening => "("
  | .closing _ => ")"

/-- How strongly an item binds: more than zero for operators between two queries. -/
def Item.strength : Item → Nat
  | .comma => 1
  | .either _ => 2
  | .both _ => 3
  | _ => 0

/-- Whether an item can end a query, so that another query behind it is a conjunction. -/
def Item.ends : Item → Bool
  | .test _ | .closing _ => true
  | _ => false

/-- Whether an item can start a query. -/
def Item.starts : Item → Bool
  | .test _ | .negation _ | .opening => true
  | _ => false

/-- Items with the conjunctions that are left out. -/
def conjoined : List Item → List Item
  | a :: b :: rest =>
    if a.ends && b.starts then a :: .both "-a" :: conjoined (b :: rest) else a :: conjoined (b :: rest)
  | items => items

/-- Two queries under an operator. -/
def combined (operator : Item) (a b : Query) : Query :=
  match operator with
  | .either _ => .either a b
  | .comma => .second a b
  | _ => .both a b

mutual

/-- A query that binds more strongly than an operator in front of it; the error is a complaint. -/
def query : Nat → Nat → Item → List Item → Except String (Query × List Item)
  | 0, _, _, _ => .error "invalid expression"
  | _, _, _, [] => .error "invalid expression"
  | fuel + 1, strength, before, item :: rest => do
    let (q, rest) ← match item with
      | .test t => .ok (Query.test t, rest)
      | .negation _ => do
        let (q, rest) ← query fuel 4 item rest
        .ok (.negation q, rest)
      | .opening =>
        match rest with
        | [] | .closing false :: _ =>
          .error ("invalid expression; expected to find a ')' but didn't see one. " ++
            "Perhaps you need an extra predicate after '('")
        | .closing true :: _ => .error "invalid expression; empty parentheses are not allowed."
        | rest =>
          match ← query fuel 0 item rest with
          | (q, .closing true :: rest) => .ok (q, rest)
          | _ =>
            .error "invalid expression; I was expecting to find a ')' somewhere but did not see one."
      | .closing written =>
        let operator := match before with
          | .negation _ | .both _ | .either _ | .comma => true
          | _ => false
        if written && operator then
          .error ("expected an expression between '" ++ before.name ++ "' and ')'")
        else if written then .error "invalid expression: you have too many ')'"
        else .error ("expected an expression after '" ++ before.name ++ "'")
      | operator =>
        .error ("invalid expression; you have used a binary operator '" ++ operator.name ++
          "' with nothing before it.")
    operators fuel strength q rest

/-- A query with the operators behind it that bind more strongly than one in front of it. -/
def operators : Nat → Nat → Query → List Item → Except String (Query × List Item)
  | 0, _, _, _ => .error "invalid expression"
  | _, _, q, [] => .ok (q, [])
  | fuel + 1, strength, q, item :: rest =>
    if strength < item.strength then do
      let (right, rest) ← query fuel item.strength item rest
      operators fuel strength (combined item q right) rest
    else .ok (q, item :: rest)

end

/-- The query that items spell. Without an action the paths are written for which it holds. -/
def read (items : List Item) : Except String Query :=
  let acts := items.any fun i => match i with
    | .test t => t.isAction
    | _ => false
  let print := Query.test (.print ['\n'] none)
  if items = [] then .ok print
  else
    let all := conjoined items ++ if acts then [] else [.closing false]
    match query (2 * all.length + 2) 0 .opening all with
    | .error complaint => .error complaint
    | .ok (q, []) => .ok q
    | .ok (q, [.closing false]) => .ok (.both q print)
    | .ok _ => .error "you have too many ')'"

end StaleBuild.Utility.Search
