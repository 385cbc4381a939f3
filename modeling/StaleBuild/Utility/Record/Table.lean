import Std.Data.HashMap
import StaleBuild.Host.Text

/-!
Tables from texts to values. Going through a table takes its keys in the order of their places: a key has a
place by a hash value, and of two keys in one place the one comes first that was used last. Whole numbers
have places of their own until a key is used as text for the first time.
-/

namespace StaleBuild.Utility.Record

open Host (Str)

/-- What a table holds for a key: the value, when the key was last used as text, and when as a number. -/
structure Slot (α : Type) where
  value : α
  asText : Option Nat
  asNumber : Option (Int × Nat)

/-- A table. -/
structure Table (α : Type) where
  slots : Std.HashMap String (Slot α)
  /-- Counts what is done with the table. -/
  clock : Nat
  /-- Keys have been used as text. -/
  hasTexts : Bool
  /-- How many places there are. -/
  places : Nat

namespace Table

variable {α : Type}

/-- How many places a table starts with. -/
def fewest : Nat := 64

/-- How many keys there are for each place before there are more places. -/
def crowd : Nat := 12

def empty : Table α := ⟨{}, 0, false, fewest⟩

def size (t : Table α) : Nat := t.slots.size

/-- The hash value of a key. -/
def hashOf (key : String) : Nat :=
  (key.toList.foldl (fun (h : UInt32) c => (h ^^^ UInt32.ofNat c.toNat) * 16777619) 2166136261).toNat

/-- The keys that are whole numbers, by their places and the later ones first. -/
def numbers (t : Table α) : List (String × Slot α) :=
  let place (n : Int) : Nat := (n % t.places).toNat
  let all := t.slots.toList.filterMap fun (k, s) => s.asNumber.map fun (n, time) => (k, s, place n, time)
  let sorted := all.mergeSort fun a b => a.2.2.1 < b.2.2.1 || (a.2.2.1 = b.2.2.1 && b.2.2.2 ≤ a.2.2.2)
  sorted.map fun x => (x.1, x.2.1)

/-- The table with all keys used as text. -/
def withTexts (t : Table α) : Table α :=
  if t.hasTexts then t
  else
    let step (t : Table α) (x : String × Slot α) : Table α :=
      { t with slots := t.slots.insert x.1 { x.2 with asText := some t.clock }, clock := t.clock + 1 }
    { t.numbers.foldl step t with hasTexts := true }

/-- The table with more places, if it is too crowded. -/
def spread (t : Table α) : Table α :=
  if crowd * t.places < t.size then { t with places := 2 * t.places } else t

/-- Use a key as text. A key that is missing is made if there is a value for it. -/
def useText (t : Table α) (key : String) (fresh : Option α) : Table α :=
  let t := t.withTexts
  match t.slots[key]?, fresh with
  | some s, _ =>
    { t with slots := t.slots.insert key { s with asText := some t.clock }, clock := t.clock + 1 }
  | none, some v =>
    ({ t with slots := t.slots.insert key ⟨v, some t.clock, none⟩, clock := t.clock + 1 } : Table α).spread
  | none, none => t

/-- Use a key as a whole number. -/
def useNumber (t : Table α) (key : String) (n : Int) (fresh : Option α) : Table α :=
  match t.slots[key]? with
  | some s =>
    let t := if s.asNumber.isNone then t.useText key none else t
    match t.slots[key]? with
    | some s =>
      { t with slots := t.slots.insert key { s with asNumber := some (n, t.clock) }, clock := t.clock + 1 }
    | none => t
  | none =>
    match fresh with
    | none => t
    | some v =>
      if t.hasTexts then
        let t := t.useText key (some v)
        match t.slots[key]? with
        | some s =>
          { t with slots := t.slots.insert key { s with asNumber := some (n, t.clock) }, clock := t.clock + 1 }
        | none => t
      else
        ({ t with
          slots := t.slots.insert key ⟨v, none, some (n, t.clock)⟩, clock := t.clock + 1 } : Table α).spread

/-- The value for a key. -/
def get? (t : Table α) (key : String) : Option α := t.slots[key]?.map Slot.value

/-- The table with another value for a key that it has. -/
def set (t : Table α) (key : String) (v : α) : Table α :=
  match t.slots[key]? with
  | some s => { t with slots := t.slots.insert key { s with value := v } }
  | none => t

/-- The table without a key. -/
def erase (t : Table α) (key : String) : Table α :=
  let slots := t.slots.erase key
  if slots.size = 0 then empty else { t with slots }

/-- The table with all keys used as text, and its keys in the order of their places. -/
def inOrder (t : Table α) : Table α × List String :=
  let t := t.withTexts
  let all := t.slots.toList.map fun (k, s) => (k, hashOf k % t.places, s.asText.getD 0)
  let sorted := all.mergeSort fun a b => a.2.1 < b.2.1 || (a.2.1 = b.2.1 && b.2.2 ≤ a.2.2)
  (t, sorted.map Prod.fst)

end Table

end StaleBuild.Utility.Record
