import StaleBuild.Utility.Reading

/-!
The utility that puts words in an order in which each one comes behind those that are said to come
before it. Words without anything before them come out first, in the order of their bytes; a word comes
out as soon as the last word before it has come out. Where a loop leaves no such word, the loop is told and
one of its pairs is forgotten.
-/

namespace StaleBuild.Utility

open Host (Str str Call Program)
open Host.Quote (curly beforeColon)

namespace Precedence

/-- A word, the number of pairs that have it behind another word, and the words behind it, the
latest pair first. -/
structure Item where
  name : Str
  waiting : Nat
  behind : List Str

/-- The words in the order of their bytes. -/
abbrev Items := List Item

/-- The words with one more word. -/
def insert (name : Str) : Items → Items
  | [] => [⟨name, 0, []⟩]
  | i :: rest => if name = i.name then i :: rest
    else if name < i.name then ⟨name, 0, []⟩ :: i :: rest
    else i :: insert name rest

/-- Change one word. -/
def change (name : Str) (f : Item → Item) (items : Items) : Items :=
  items.map fun i => if i.name = name then f i else i

/-- The words with one more pair; a word does not wait for itself. -/
def relate (items : Items) (a b : Str) : Items :=
  let items := insert b (insert a items)
  if a = b then items
  else change b (fun i => { i with waiting := i.waiting + 1 })
    (change a (fun i => { i with behind := b :: i.behind }) items)

/-- The words of pairs; nothing if the last pair lacks its second word. -/
def ofWords? : Items → List Str → Option Items
  | items, [] => some items
  | _, [_] => none
  | items, a :: b :: rest => ofWords? (relate items a b) rest

/-- Let the words behind a word wait no longer for it; those that wait for nothing any more are told in
their order. -/
def release (items : Items) : List Str → Items × List Str
  | [] => (items, [])
  | b :: rest =>
    let items := change b (fun i => { i with waiting := i.waiting - 1 }) items
    let free := (items.filter fun i => i.name = b && i.waiting = 0).map Item.name
    let (items, more) := release items rest
    (items, free ++ more)

/-- Let words come out from a queue: the words that came out, and those that are left. -/
def comeOut : Nat → Items → List Str → List Str × Items
  | 0, items, _ => ([], items)
  | _, items, [] => ([], items)
  | fuel + 1, items, a :: queue =>
    let behind := ((items.find? fun i => i.name = a).map Item.behind).getD []
    let (items, free) := release (items.filter fun i => i.name ≠ a) behind
    let (out, left) := comeOut fuel items (queue ++ free)
    (a :: out, left)

/-- A chain of words that may be a loop: the word at its head, and for words the next one. -/
structure Chain where
  head : Option Str
  next : List (Str × Str)

def Chain.next? (c : Chain) (name : Str) : Option Str := (c.next.find? fun p => p.1 = name).map Prod.snd

/-- The words of a chain from a word up to another one. -/
def Chain.between (c : Chain) (finish : Str) : Nat → Str → List Str
  | 0, _ => []
  | fuel + 1, a =>
    if a = finish then [a]
    else match c.next? a with
      | some b => a :: c.between finish fuel b
      | none => [a]

/-- Grow a chain backwards along the words; a word that is on the chain already closes a loop, which is
given with the pair that closes it. -/
def grow : Chain → Items → Chain ⊕ (List Str × Str × Str)
  | c, [] => .inl c
  | c, i :: rest =>
    if i.waiting = 0 then grow c rest
    else match c.head with
      | none => grow ⟨some i.name, c.next⟩ rest
      | some h =>
        if i.behind.contains h then
          match c.next? i.name with
          | some _ => .inr (c.between i.name (c.next.length + 2) h, i.name, h)
          | none => grow ⟨some i.name, (i.name, h) :: c.next⟩ rest
        else grow c rest

/-- A loop of words that wait for each other, with one of its pairs. -/
def loop? (items : Items) : Nat → Chain → Option (List Str × Str × Str)
  | 0, _ => none
  | fuel + 1, c => match grow c items with
    | .inl c => loop? items fuel c
    | .inr found => some found

/-- All words in order, where each loop is told before one of its pairs is forgotten. -/
def order : Nat → Items → List (Str ⊕ List Str)
  | 0, _ => []
  | fuel + 1, items =>
    let (out, left) := comeOut (items.length + 1) items ((items.filter fun i => i.waiting = 0).map Item.name)
    out.map .inl ++
      if left.isEmpty then []
      else match loop? left (left.length + 3) ⟨none, []⟩ with
        | none => []
        | some (words, a, b) =>
          .inr words :: order fuel
            (change b (fun i => { i with waiting := i.waiting - 1 })
              (change a (fun i => { i with behind := i.behind.erase b }) left))

end Precedence

open Precedence in
/-- Put words in order. -/
def tsort : Program := fun _ c => do
  let g ← c.read 1 "" [] true
  match g.operands with
  | _ :: extra :: _ => c.misused 1 (str "extra operand " ++ curly extra)
  | operands =>
    let operand := operands.headD ['-']
    let shown := beforeColon operand
    let text ← match ← Call.readOperand operand with
      | .ok text => pure text
      | .error .isADirectory => c.die 1 (shown ++ str ": read error: Is a directory")
      | .error cause => c.die 1 (shown ++ str ": " ++ Host.reason cause)
    let words := (Host.splitOn ' ' (text.map fun x => if x = '\n' || x = '\t' then ' ' else x)).filter (· ≠ [])
    match ofWords? [] words with
    | none => c.die 1 (shown ++ str ": input contains an odd number of tokens")
    | some items =>
      let mut status := 0
      for step in order (words.length + 1) items do
        match step with
        | .inl word => Act.say (word ++ ['\n'])
        | .inr loop =>
          c.warn (shown ++ str ": input contains a loop:")
          for word in loop do
            c.warn word
          status := 1
      return status

end StaleBuild.Utility
