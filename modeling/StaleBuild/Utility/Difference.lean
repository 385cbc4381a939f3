import StaleBuild.Host.Text

/-!
The difference of two lists of lines: which lines of the first are not in the second, and the other way round,
so that few are left out. The lists are given as numbers, equal ones for lines that count as equal.

A path through the grid of both lists is looked for from both ends at once; where the two meet, the lists are cut
and their parts are compared. Runs of changed lines are then moved so that they join.
-/

namespace StaleBuild.Utility.Difference

/-- Which elements of two lists are changed. -/
structure Marks where
  first : Array Bool
  second : Array Bool

/-- A number in an array that starts at a negative index. -/
def at_ (a : Array Int) (base : Int) (i : Int) : Int := a.getD (i + base).toNat 0

/-- An array that starts at a negative index, with another number. -/
def put (a : Array Int) (base i v : Int) : Array Int := a.setIfInBounds (i + base).toNat v

/-- How far two lists agree from two places on, up to two ends. -/
def agree (xs ys : Array Nat) (x y xEnd yEnd : Nat) : Nat := Id.run do
  let mut n := 0
  for _ in [0:min (xEnd - x) (yEnd - y)] do
    if xs[x + n]? = ys[y + n]? then n := n + 1 else break
  return n

/-- How far two lists agree backwards in front of two places, down to two starts. -/
def agreeBack (xs ys : Array Nat) (x y xStart yStart : Nat) : Nat := Id.run do
  let mut n := 0
  for _ in [0:min (x - xStart) (y - yStart)] do
    if xs[x - n - 1]? = ys[y - n - 1]? then n := n + 1 else break
  return n

/-- Where shortest paths from both ends meet; both parts are not empty and do not start or end alike. -/
def meeting (xs ys : Array Nat) (xStart xEnd yStart yEnd : Nat) : Nat × Nat := Id.run do
  let size := (xEnd - xStart) + (yEnd - yStart) + 5
  let least : Int := (xStart : Int) - yEnd
  let most : Int := (xEnd : Int) - yStart
  let base : Int := 2 - least
  let far : Int := 1000000000
  let forthMid : Int := (xStart : Int) - yStart
  let backMid : Int := (xEnd : Int) - yEnd
  let odd : Bool := (forthMid - backMid) % 2 ≠ 0
  let mut forth : Array Int := put (Array.replicate size 0) base forthMid xStart
  let mut back : Array Int := put (Array.replicate size 0) base backMid xEnd
  let mut forthLow := forthMid
  let mut forthHigh := forthMid
  let mut backLow := backMid
  let mut backHigh := backMid
  for _ in [0:size] do
    -- one step more from the start, on each diagonal
    if least < forthLow then
      forthLow := forthLow - 1
      forth := put forth base (forthLow - 1) (-1)
    else forthLow := forthLow + 1
    if forthHigh < most then
      forthHigh := forthHigh + 1
      forth := put forth base (forthHigh + 1) (-1)
    else forthHigh := forthHigh - 1
    for k in [0:((forthHigh - forthLow) / 2 + 1).toNat] do
      let d := forthHigh - 2 * k
      let low := at_ forth base (d - 1)
      let high := at_ forth base (d + 1)
      let x := if low < high then high else low + 1
      let x := x + agree xs ys x.toNat (x - d).toNat xEnd yEnd
      forth := put forth base d x
      if odd && backLow ≤ d && d ≤ backHigh && at_ back base d ≤ x then return (x.toNat, (x - d).toNat)
    -- one step more from the end
    if least < backLow then
      backLow := backLow - 1
      back := put back base (backLow - 1) far
    else backLow := backLow + 1
    if backHigh < most then
      backHigh := backHigh + 1
      back := put back base (backHigh + 1) far
    else backHigh := backHigh - 1
    for k in [0:((backHigh - backLow) / 2 + 1).toNat] do
      let d := backHigh - 2 * k
      let low := at_ back base (d - 1)
      let high := at_ back base (d + 1)
      let x := if low < high then low else high - 1
      let x := x - agreeBack xs ys x.toNat (x - d).toNat xStart yStart
      back := put back base d x
      if !odd && forthLow ≤ d && d ≤ forthHigh && x ≤ at_ forth base d then return (x.toNat, (x - d).toNat)
  return (xEnd, yStart)

/-- Marks with a stretch of one list marked. -/
def marked (a : Array Bool) (start stop : Nat) : Array Bool :=
  (List.range (stop - start)).foldl (fun a i => a.setIfInBounds (start + i) true) a

/-- Compare stretches of two lists. -/
def compare (xs ys : Array Nat) : Nat → Nat → Nat → Nat → Nat → Marks → Marks
  | 0, _, _, _, _, m => m
  | fuel + 1, xStart, xEnd, yStart, yEnd, m =>
    let front := agree xs ys xStart yStart xEnd yEnd
    let xStart := xStart + front
    let yStart := yStart + front
    let behind := agreeBack xs ys xEnd yEnd xStart yStart
    let xEnd := xEnd - behind
    let yEnd := yEnd - behind
    if xStart = xEnd then { m with second := marked m.second yStart yEnd }
    else if yStart = yEnd then { m with first := marked m.first xStart xEnd }
    else
      let (x, y) := meeting xs ys xStart xEnd yStart yEnd
      compare xs ys fuel x xEnd y yEnd (compare xs ys fuel xStart x yStart y m)

/-- Move runs of changed elements of one list so that they join, and so that they stand beside those of the
other one. -/
def settled (xs : Array Nat) (changed other : Array Bool) : Array Bool := Id.run do
  let size := xs.size
  let isOther (j : Nat) : Bool := other.getD j false
  let mut changed := changed
  let mut i := 0
  let mut j := 0
  for _ in [0:size + 1] do
    -- the next run of changes, and the place in the other list that it belongs to
    for _ in [0:size] do
      if i < size && !changed.getD i false then
        for _ in [0:other.size + 1] do
          if isOther j then j := j + 1 else break
        j := j + 1
        i := i + 1
      else break
    if size ≤ i then break
    let mut start := i
    for _ in [0:size] do
      if changed.getD i false then i := i + 1 else break
    for _ in [0:other.size + 1] do
      if isOther j then j := j + 1 else break
    let mut beside := size
    for _ in [0:size + 1] do
      let length := i - start
      -- back, as long as the line in front is the last one of the run
      for _ in [0:size] do
        if 0 < start && xs[start - 1]? = xs[i - 1]? then
          start := start - 1
          i := i - 1
          changed := (changed.setIfInBounds start true).setIfInBounds i false
          for _ in [0:size] do
            if 0 < start && changed.getD (start - 1) false then start := start - 1 else break
          j := j - 1
          for _ in [0:other.size + 1] do
            if isOther j then j := j - 1 else break
        else break
      beside := if 0 < j && isOther (j - 1) then i else size
      -- forth, as long as the line behind is the first one of the run
      for _ in [0:size] do
        if i < size && xs[start]? = xs[i]? then
          changed := (changed.setIfInBounds start false).setIfInBounds i true
          start := start + 1
          i := i + 1
          for _ in [0:size] do
            if changed.getD i false then i := i + 1 else break
          j := j + 1
          for _ in [0:other.size + 1] do
            if isOther j then
              beside := i
              j := j + 1
            else break
        else break
      if length = i - start then break
    for _ in [0:size] do
      if beside < i then
        start := start - 1
        i := i - 1
        changed := (changed.setIfInBounds start true).setIfInBounds i false
        j := j - 1
        for _ in [0:other.size + 1] do
          if isOther j then j := j - 1 else break
      else break
  return changed

/-- A place where two lists differ: from where on, and how many elements of each. -/
structure Hunk where
  first : Nat
  removed : Nat
  second : Nat
  added : Nat

/-- The places that marks make. -/
def hunksWithin (m : Marks) : Nat → Nat → Nat → List Hunk
  | 0, _, _ => []
  | fuel + 1, i, j =>
    if m.first.size ≤ i && m.second.size ≤ j then []
    else
      let removed := ((m.first.toList.drop i).takeWhile id).length
      let added := ((m.second.toList.drop j).takeWhile id).length
      if removed = 0 && added = 0 then hunksWithin m fuel (i + 1) (j + 1)
      else ⟨i, removed, j, added⟩ :: hunksWithin m fuel (i + removed) (j + added)

/-- The place so many elements further on. -/
def Hunk.shift (h : Hunk) (n : Nat) : Hunk := { h with first := h.first + n, second := h.second + n }

/-- The places where two lists differ. Elements that the other list does not have are changed in any case. -/
def hunksBetween (xs ys : Array Nat) : List Hunk :=
  let size := (xs.toList ++ ys.toList).foldl max 0 + 1
  let counts (zs : Array Nat) : Array Nat :=
    zs.foldl (fun a z => a.modify z (· + 1)) (Array.replicate size 0)
  let inFirst := counts xs
  let inSecond := counts ys
  let xKept := xs.toList.zipIdx.filter fun x => inSecond.getD x.1 0 ≠ 0
  let yKept := ys.toList.zipIdx.filter fun y => inFirst.getD y.1 0 ≠ 0
  let blank (n : Nat) : Array Bool := Array.replicate n false
  let kept := compare (xKept.map Prod.fst).toArray (yKept.map Prod.fst).toArray (xs.size + ys.size + 2)
    0 xKept.length 0 yKept.length ⟨blank xKept.length, blank yKept.length⟩
  let spread (kept : List (Nat × Nat)) (marks : Array Bool) (n : Nat) : Array Bool :=
    (kept.zipIdx).foldl (fun a (z, i) => a.setIfInBounds z.2 (marks.getD i false)) (Array.replicate n true)
  let first := spread xKept kept.first xs.size
  let second := spread yKept kept.second ys.size
  let first := settled xs first second
  let second := settled ys second first
  hunksWithin ⟨first, second⟩ (xs.size + ys.size + 2) 0 0

/-- The places where two lists differ that agree at both ends: so many elements of each end are not looked at. -/
def hunks (front behind : Nat) (xs ys : Array Nat) : List Hunk :=
  (hunksBetween (xs.extract front (xs.size - behind)) (ys.extract front (ys.size - behind))).map (·.shift front)

end StaleBuild.Utility.Difference
