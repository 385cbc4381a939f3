import StaleBuild.Proofs.Protocol
import StaleBuild.Rehearsal

/-!
# The calls of a phase

A phase calls its first operation on each class, then its second one, and is left at once when a call
fails. Written down flat, that is one loop over all pairs of an operation and a class:

    calls made  <+:  (op 0, class 0), (op 0, class 1), …, (op 1, class 0), (op 1, class 1), …

Each call is given the class as the last call on it left it and the world as the last call of all left
it (`Performs`). So the calls that were made tell what the phase has done: whether it came to the end,
which call failed, which operations were applied to which classes (`Traced`, `phase_traced`).

The order of the two loops can be seen only through the world: if no operation looks at it, each class
goes through the operations on its own                                  (`Operation.Stateless`).
-/

namespace StaleBuild

variable {σ : Type}

/-! ## Calls -/

/-- A call that was made: its operation and its class by their places, what it was given, and what came
of it. -/
structure CallMade (σ : Type) where
  op : Nat
  cls : Nat
  given : ClassNode
  /-- The world ahead of the call. -/
  ahead : World σ
  called : Called σ

namespace CallMade

/-- Where a call stands among those of its phase. -/
def place (phase : Phase) (c : CallMade σ) : Place := .call phase c.op c.cls

/-- What a log tells of a call. -/
def event (phase : Phase) (c : CallMade σ) : Event :=
  .called phase c.op c.given c.called.node c.called.failure?

end CallMade

/-- `Performs ops phase calls classes w made swept`: the calls are made in order, each on the class at
its place and in the world that the call ahead of it left, up to the first one that fails. -/
inductive Performs (ops : List (Operation σ)) (phase : Phase) :
    List Place → List ClassNode → World σ → List (CallMade σ) → Swept σ → Prop where
  | done {classes : List ClassNode} {w : World σ} :
      Performs ops phase [] classes w [] ⟨classes, w, none⟩
  | passed {op cls : Nat} {operation : Operation σ} {given : ClassNode} {calls : List Place}
      {classes : List ClassNode} {w : World σ} {made : List (CallMade σ)} {swept : Swept σ} :
      ops[op]? = some operation → classes[cls]? = some given →
      (operation.call w given).failure? = none →
      Performs ops phase calls (classes.set cls (operation.call w given).node)
        (operation.call w given).world made swept →
      Performs ops phase (.call phase op cls :: calls) classes w
        (⟨op, cls, given, w, operation.call w given⟩ :: made) swept
  | failed {op cls : Nat} {operation : Operation σ} {given : ClassNode} {calls : List Place}
      {classes : List ClassNode} {w : World σ} {failure : OperationFailure} :
      ops[op]? = some operation → classes[cls]? = some given →
      (operation.call w given).failure? = some failure →
      Performs ops phase (.call phase op cls :: calls) classes w
        [⟨op, cls, given, w, operation.call w given⟩]
        ⟨classes.set cls (operation.call w given).node, (operation.call w given).world,
          some failure⟩

namespace Performs

variable {ops : List (Operation σ)} {phase : Phase} {calls : List Place} {classes : List ClassNode}
  {w : World σ} {made : List (CallMade σ)} {swept : Swept σ}

/-- Calls that all succeeded can be followed by more. -/
theorem append {more : List Place} {made' : List (CallMade σ)} {swept' : Swept σ}
    (h : Performs ops phase calls classes w made swept) (hnone : swept.failure? = none)
    (h' : Performs ops phase more swept.classes swept.world made' swept') :
    Performs ops phase (calls ++ more) classes w (made ++ made') swept' := by
  induction h with
  | done => exact h'
  | passed hop hgiven hpasses _ ih => exact .passed hop hgiven hpasses (ih hnone h')
  | failed _ _ _ => simp at hnone

/-- Behind a failure no call is made. -/
theorem append_of_failure {failure : OperationFailure}
    (h : Performs ops phase calls classes w made swept) (hfails : swept.failure? = some failure)
    (more : List Place) : Performs ops phase (calls ++ more) classes w made swept := by
  induction h with
  | done => simp at hfails
  | passed hop hgiven hpasses _ ih => exact .passed hop hgiven hpasses (ih hfails)
  | failed hop hgiven hcall => exact .failed hop hgiven hcall

end Performs

/-! ## The two loops -/

/-- An operation performs its calls on the classes behind some others, and its log tells them. -/
theorem performs_sweep (phase : Phase) {ops : List (Operation σ)} {place : Nat} {op : Operation σ}
    (hop : ops[place]? = some op) (ahead classes : List ClassNode) (w : World σ) (log : List Event) :
    ∃ made,
      Performs ops phase (callsOfOperation phase place ahead.length classes.length)
        (ahead ++ classes) w made
        ⟨ahead ++ (op.sweep w classes).classes, (op.sweep w classes).world,
          (op.sweep w classes).failure?⟩ ∧
      (op.watched phase place).sweep (w.watched log) classes =
        ⟨(op.sweep w classes).classes,
          (op.sweep w classes).world.watched (log ++ made.map (CallMade.event phase)),
          (op.sweep w classes).failure?⟩ := by
  induction classes generalizing ahead w log with
  | nil =>
    refine ⟨[], ?_, by simp [Operation.sweep]⟩
    simp only [Operation.sweep, List.append_nil]
    exact .done
  | cons c rest ih =>
    have hgiven : (ahead ++ c :: rest)[ahead.length]? = some c := by simp
    have hset : (ahead ++ c :: rest).set ahead.length (op.call w c).node =
        ahead ++ [(op.call w c).node] ++ rest := by simp
    have hcalls : callsOfOperation phase place ahead.length (c :: rest).length =
        .call phase place ahead.length ::
          callsOfOperation phase place (ahead.length + 1) rest.length := rfl
    rw [hcalls]
    simp only [Operation.sweep, Operation.watched_call]
    cases hfailure : (op.call w c).failure? with
    | some failure =>
      refine ⟨[⟨place, ahead.length, c, w, op.call w c⟩], ?_, ?_⟩
      · have hstops : (ahead ++ c :: rest).set ahead.length (op.call w c).node =
            ahead ++ (op.call w c).node :: rest := by simp
        have hfails := @Performs.failed _ ops phase place ahead.length op c
          (callsOfOperation phase place (ahead.length + 1) rest.length) (ahead ++ c :: rest) w
          failure hop hgiven hfailure
        rw [hstops] at hfails
        exact hfails
      · simp [CallMade.event, hfailure]
    | none =>
      obtain ⟨made, hperforms, hwatched⟩ := ih (ahead ++ [(op.call w c).node]) (op.call w c).world
        (log ++ [.called phase place c (op.call w c).node none])
      refine ⟨⟨place, ahead.length, c, w, op.call w c⟩ :: made, ?_, ?_⟩
      · refine .passed hop hgiven hfailure ?_
        rw [hset]
        simpa using hperforms
      · simp [hwatched, CallMade.event, hfailure]

/-- Operations behind some others perform their calls, one operation after another. -/
theorem performs_sweepAll (phase : Phase) (ahead ops : List (Operation σ))
    (classes : List ClassNode) (w : World σ) (log : List Event) :
    ∃ made,
      Performs (ahead ++ ops) phase (callsOfPhase phase ahead.length ops.length classes.length)
        classes w made (sweepAll w classes ops) ∧
      sweepAll (w.watched log) classes (watchedFrom phase ahead.length ops) =
        ⟨(sweepAll w classes ops).classes,
          (sweepAll w classes ops).world.watched (log ++ made.map (CallMade.event phase)),
          (sweepAll w classes ops).failure?⟩ := by
  induction ops generalizing ahead classes w log with
  | nil => exact ⟨[], .done, by simp [sweepAll, watchedFrom]⟩
  | cons op rest ih =>
    have hop : (ahead ++ op :: rest)[ahead.length]? = some op := by simp
    obtain ⟨made, hperforms, hwatched⟩ := performs_sweep phase hop [] classes w log
    have hcalls : callsOfPhase phase ahead.length (op :: rest).length classes.length =
        callsOfOperation phase ahead.length 0 classes.length ++
          callsOfPhase phase (ahead.length + 1) rest.length classes.length := by
      simp [callsOfPhase, List.range'_succ]
    have hops : watchedFrom phase ahead.length (op :: rest) =
        op.watched phase ahead.length :: watchedFrom phase (ahead.length + 1) rest := rfl
    rw [hcalls, hops]
    simp only [List.nil_append] at hperforms
    simp only [sweepAll, hwatched]
    cases hfailure : (op.sweep w classes).failure? with
    | some failure =>
      rw [hfailure] at hperforms
      exact ⟨made, hperforms.append_of_failure rfl _, rfl⟩
    | none =>
      obtain ⟨made', hperforms', hwatched'⟩ := ih (ahead ++ [op]) (op.sweep w classes).classes
        (op.sweep w classes).world (log ++ made.map (CallMade.event phase))
      simp only [List.length_append, List.length_singleton, List.append_assoc,
        List.singleton_append, ExternalCompiler.length_sweep] at hperforms' hwatched'
      refine ⟨made ++ made', hperforms.append hfailure hperforms', ?_⟩
      dsimp only
      rw [hwatched', List.map_append]

/-! ## What the calls tell -/

namespace Performs

variable {ops : List (Operation σ)} {phase : Phase} {calls : List Place} {classes : List ClassNode}
  {w : World σ} {made : List (CallMade σ)} {swept : Swept σ}

theorem planned (h : Performs ops phase calls classes w made swept) :
    made.map (CallMade.place phase) <+: calls := by
  induction h with
  | done => exact List.nil_prefix
  | passed _ _ _ _ ih => exact (List.prefix_append_right_inj [_]).2 ih
  | failed _ _ _ => exact (List.prefix_append_right_inj [_]).2 List.nil_prefix

theorem genuine (h : Performs ops phase calls classes w made swept) :
    ∀ c ∈ made, ∃ operation, ops[c.op]? = some operation ∧
      c.called = operation.call c.ahead c.given := by
  induction h with
  | done => simp
  | passed hop _ _ _ ih => exact List.forall_mem_cons.2 ⟨⟨_, hop, rfl⟩, ih⟩
  | failed hop _ _ => exact List.forall_mem_cons.2 ⟨⟨_, hop, rfl⟩, by simp⟩

/-- Each call finds the world as the one ahead of it left it. -/
theorem worlds (h : Performs ops phase calls classes w made swept) :
    made.map CallMade.ahead ++ [swept.world] = w :: made.map fun c => c.called.world := by
  induction h with
  | done => rfl
  | passed _ _ _ _ ih => simp [ih]
  | failed _ _ _ => rfl

theorem length (h : Performs ops phase calls classes w made swept) :
    swept.classes.length = classes.length := by
  induction h with
  | done => rfl
  | passed _ _ _ _ ih => rw [ih, List.length_set]
  | failed _ _ _ => rw [List.length_set]

/-- Each call finds its class as the last call on it left it. -/
theorem nodes (h : Performs ops phase calls classes w made swept) (cls : Nat) :
    ((made.filter (·.cls = cls)).map fun c => some c.given) ++ [swept.classes[cls]?] =
      classes[cls]? :: (made.filter (·.cls = cls)).map fun c => some c.called.node := by
  induction h with
  | done => rfl
  | @passed op at' _ _ _ classes _ _ _ _ hgiven _ _ ih =>
    by_cases hcls : at' = cls
    · subst hcls
      obtain ⟨hlt, rfl⟩ := List.getElem?_eq_some_iff.1 hgiven
      simp [ih, hlt]
    · simpa [hcls, List.getElem?_set_ne hcls] using ih
  | @failed op at' _ _ _ classes _ _ _ hgiven _ =>
    by_cases hcls : at' = cls
    · subst hcls
      obtain ⟨hlt, rfl⟩ := List.getElem?_eq_some_iff.1 hgiven
      simp [hlt]
    · simp [hcls, List.getElem?_set_ne hcls]

/-- Either all calls are made and succeed, or the last one that is made is the first that fails. -/
theorem ends (h : Performs ops phase calls classes w made swept) :
    (swept.failure? = none ∧ made.map (CallMade.place phase) = calls ∧
        ∀ c ∈ made, c.called.failure? = none) ∨
      ∃ earlier last failure, made = earlier ++ [last] ∧
        (∀ c ∈ earlier, c.called.failure? = none) ∧ last.called.failure? = some failure ∧
        swept.failure? = some failure := by
  induction h with
  | done => exact .inl ⟨rfl, rfl, by simp⟩
  | passed _ _ hpasses _ ih =>
    rcases ih with ⟨hnone, hall, hsucceed⟩ | ⟨earlier, last, failure, rfl, hearlier, hlast, hfails⟩
    · refine .inl ⟨hnone, ?_, List.forall_mem_cons.2 ⟨hpasses, hsucceed⟩⟩
      rw [List.map_cons, hall]
      rfl
    · exact .inr ⟨_ :: earlier, last, failure, rfl,
        List.forall_mem_cons.2 ⟨hpasses, hearlier⟩, hlast, hfails⟩
  | failed _ _ hfails => exact .inr ⟨[], _, _, rfl, by simp, hfails, rfl⟩

end Performs

/-! ## The order of the calls -/

/-- A call of an earlier operation, or of the same one on an earlier class. -/
def Place.Precedes : Place → Place → Prop
  | .call _ op cls, .call _ op' cls' => op < op' ∨ op = op' ∧ cls < cls'
  | _, _ => False

theorem pairwise_callsOfPhase (phase : Phase) (first ops classes : Nat) :
    (callsOfPhase phase first ops classes).Pairwise Place.Precedes := by
  refine List.pairwise_flatMap.2 ⟨fun op _ => ?_, ?_⟩
  · refine List.pairwise_map.2 (List.Pairwise.imp ?_ List.pairwise_lt_range')
    intro cls cls' hlt
    exact .inr ⟨rfl, hlt⟩
  · refine List.Pairwise.imp ?_ List.pairwise_lt_range'
    intro op op' hlt x hx y hy
    obtain ⟨cls, -, rfl⟩ := List.mem_map.1 hx
    obtain ⟨cls', -, rfl⟩ := List.mem_map.1 hy
    exact .inl hlt

theorem call_mem_callsOfPhase_iff {phase : Phase} {ops classes op cls : Nat} :
    .call phase op cls ∈ callsOfPhase phase 0 ops classes ↔ op < ops ∧ cls < classes := by
  simp [callsOfPhase, callsOfOperation]

/-- The calls up to some call are those of earlier operations on all classes and those of its own
operation on the classes up to its own. -/
theorem mem_calls_up_to {phase : Phase} {ops classes op cls op' cls' : Nat} {front : List Place}
    (h : front ++ [.call phase op cls] <+: callsOfPhase phase 0 ops classes) :
    .call phase op' cls' ∈ front ++ [.call phase op cls] ↔
      cls' < classes ∧ (op' < op ∨ op' = op ∧ cls' ≤ cls) := by
  obtain ⟨behind, hcalls⟩ := h
  have hmem (op cls : Nat) := @call_mem_callsOfPhase_iff phase ops classes op cls
  have hlast := (hmem op cls).1 (by simp [← hcalls])
  have hsorted := pairwise_callsOfPhase phase 0 ops classes
  rw [← hcalls, List.append_assoc, List.pairwise_append] at hsorted
  obtain ⟨-, hbehind, hfront⟩ := hsorted
  rw [List.singleton_append, List.pairwise_cons] at hbehind
  constructor
  · intro hat
    have hplace := (hmem op' cls').1 (by rw [← hcalls]; exact List.mem_append_left _ hat)
    refine ⟨hplace.2, ?_⟩
    rcases List.mem_append.1 hat with hat | hat
    · have hprecedes := hfront _ hat (.call phase op cls) (by simp)
      rcases hprecedes with hlt | ⟨heq, hlt⟩
      · exact .inl hlt
      · exact .inr ⟨heq, Nat.le_of_lt hlt⟩
    · obtain ⟨rfl, rfl⟩ : op' = op ∧ cls' = cls := by simpa using hat
      exact .inr ⟨rfl, Nat.le_refl _⟩
  · rintro ⟨hcls, horder⟩
    have hplace := (hmem op' cls').2 ⟨by omega, hcls⟩
    rw [← hcalls] at hplace
    rcases List.mem_append.1 hplace with hat | hat
    · exact hat
    · -- what comes behind is later
      have hprecedes := hbehind.1 _ hat
      rcases hprecedes with hlt | ⟨heq, hlt⟩ <;> omega

/-! ## Operations that do not look at the world -/

/-- What comes of a call depends on the class alone. -/
def Operation.Stateless (op : Operation σ) : Prop :=
  ∀ (w w' : World σ) (c : ClassNode),
    (op.call w c).node = (op.call w' c).node ∧ (op.call w c).failure? = (op.call w' c).failure?

theorem Operation.Stateless.sweep {op : Operation σ} (hop : op.Stateless) (start : World σ)
    {w : World σ} {classes : List ClassNode} (hnone : (op.sweep w classes).failure? = none) :
    (op.sweep w classes).classes = classes.map fun c => (op.call start c).node := by
  induction classes generalizing w with
  | nil => rfl
  | cons c rest ih =>
    simp only [Operation.sweep] at hnone ⊢
    cases hfailure : (op.call w c).failure? with
    | some failure => simp [hfailure] at hnone
    | none =>
      simp only [hfailure] at hnone ⊢
      rw [ih hnone, (hop w start c).1, List.map_cons]

/-- Each class goes through such operations on its own. -/
theorem stateless_sweepAll {ops : List (Operation σ)} (hops : ∀ op ∈ ops, op.Stateless)
    (start : World σ) {w : World σ} {classes : List ClassNode}
    (hnone : (sweepAll w classes ops).failure? = none) :
    (sweepAll w classes ops).classes =
      classes.map fun c => ops.foldl (fun c op => (op.call start c).node) c := by
  induction ops generalizing w classes with
  | nil => simp [sweepAll]
  | cons op rest ih =>
    obtain ⟨hop, hrest⟩ := List.forall_mem_cons.1 hops
    simp only [sweepAll] at hnone ⊢
    cases hfailure : (op.sweep w classes).failure? with
    | some failure => simp [hfailure] at hnone
    | none =>
      simp only [hfailure] at hnone ⊢
      rw [ih hrest hnone, hop.sweep start hfailure, List.map_map]
      rfl

/-! ## A phase -/

/-- What the calls that a phase has made tell of it. -/
structure Traced (u : CompilationUnit σ) (phase : Phase) (w : World σ) (made : List (CallMade σ))
    (swept : Swept σ) : Prop where
  /-- They are the first ones of all pairs of an operation and a class. -/
  planned : made.map (CallMade.place phase) <+:
    callsOfPhase phase 0 (u.operations phase).length u.classes.length
  /-- Each is a call of the operation at its place. -/
  genuine : ∀ c ∈ made, ∃ operation, (u.operations phase)[c.op]? = some operation ∧
    c.called = operation.call c.ahead c.given
  /-- Each finds the world as the one ahead of it left it. -/
  worlds : made.map CallMade.ahead ++ [swept.world] = w :: made.map fun c => c.called.world
  /-- Each finds its class as the last call on that class left it. -/
  nodes : ∀ cls, ((made.filter (·.cls = cls)).map fun c => some c.given) ++ [swept.classes[cls]?] =
    u.classes[cls]? :: (made.filter (·.cls = cls)).map fun c => some c.called.node
  length : swept.classes.length = u.classes.length
  /-- All calls are made, and the phase succeeds, exactly if every call succeeds. -/
  whole_iff : made.map (CallMade.place phase) =
      callsOfPhase phase 0 (u.operations phase).length u.classes.length ∧ swept.failure? = none ↔
    ∀ c ∈ made, c.called.failure? = none
  /-- Otherwise the last call is the first that fails, and the phase fails as it did. The earlier
  operations have then been called on all classes, its own one on the classes up to its own, and no
  later one on any. -/
  fails : (¬∀ c ∈ made, c.called.failure? = none) →
    ∃ earlier last failure, made = earlier ++ [last] ∧
      (∀ c ∈ earlier, c.called.failure? = none) ∧ last.called.failure? = some failure ∧
      swept.failure? = some failure ∧
      ∀ op cls, (∃ c ∈ made, c.op = op ∧ c.cls = cls) ↔
        cls < u.classes.length ∧ (op < last.op ∨ op = last.op ∧ cls ≤ last.cls)

theorem Performs.traced {u : CompilationUnit σ} {phase : Phase} {w : World σ}
    {made : List (CallMade σ)} {swept : Swept σ}
    (h : Performs (u.operations phase) phase
      (callsOfPhase phase 0 (u.operations phase).length u.classes.length) u.classes w made swept) :
    Traced u phase w made swept := by
  refine ⟨h.planned, h.genuine, h.worlds, h.nodes, h.length, ⟨?_, ?_⟩, ?_⟩
  · rintro ⟨-, hnone⟩
    rcases h.ends with ⟨-, -, hsucceed⟩ | ⟨_, _, failure, -, -, -, hfails⟩
    · exact hsucceed
    · rw [hnone] at hfails
      cases hfails
  · intro hsucceed
    rcases h.ends with ⟨hnone, hall, -⟩ | ⟨earlier, last, failure, rfl, -, hlast, -⟩
    · exact ⟨hall, hnone⟩
    · rw [hsucceed last (by simp)] at hlast
      cases hlast
  · intro hnot
    rcases h.ends with ⟨-, -, hsucceed⟩ | ⟨earlier, last, failure, rfl, hearlier, hlast, hfails⟩
    · exact absurd hsucceed hnot
    · refine ⟨earlier, last, failure, rfl, hearlier, hlast, hfails, fun op cls => ?_⟩
      have hplanned := h.planned
      rw [List.map_append, List.map_singleton] at hplanned
      rw [← mem_calls_up_to hplanned]
      simp [CallMade.place, eq_comm]

/-- **A phase runs up to its first failure.** The calls that it makes are seen from outside when the
operations are watched. No part of the unit but its classes is changed, and where no operation looks
at the world a phase that succeeds takes each class through the operations on its own. -/
theorem CompilationUnit.phase_traced (u : CompilationUnit σ) (phase : Phase) (w : World σ) :
    let ran := u.runPhase phase w
    (∃ made,
      u.watched.runPhase phase (w.watched []) =
        (ran.1, ran.2.1.watched, ran.2.2.watched (made.map (CallMade.event phase))) ∧
      Traced u phase w made ⟨ran.2.1.classes, ran.2.2, ran.1⟩) ∧
    ran.2.1.sources = u.sources ∧ (∀ other, ran.2.1.operations other = u.operations other) ∧
    ((∀ op ∈ u.operations phase, op.Stateless) → ran.1 = none →
      ran.2.1.classes =
        u.classes.map fun c => (u.operations phase).foldl (fun c op => (op.call w c).node) c) := by
  intro ran
  obtain ⟨made, hperforms, hwatched⟩ :=
    performs_sweepAll phase [] (u.operations phase) u.classes w []
  refine ⟨⟨made, ?_, hperforms.traced⟩, rfl, fun _ => rfl, fun hops hnone => ?_⟩
  · have hops : u.watched.operations phase = watchedFrom phase 0 (u.operations phase) := rfl
    have hclasses : u.watched.classes = u.classes := rfl
    rw [List.length_nil, List.nil_append] at hwatched
    rw [CompilationUnit.runPhase, hops, hclasses, hwatched]
    rfl
  · exact stateless_sweepAll hops w hnone

namespace Rehearsal

/-- A scripted operation takes notes of its calls and does not read them. -/
theorem OperationScript.stateless (s : OperationScript) : s.operation.Stateless := by
  intro w w' c
  unfold operation
  dsimp only
  split
  · exact ⟨rfl, rfl⟩
  · exact ⟨rfl, rfl⟩

/-- Two classes that are stamped and then reviewed. -/
def stampedUnit : CompilationUnit Notes where
  sources := []
  classes := [.plain "org.Book" (.ofString "Book.groovy"), .plain "org.Page" (.ofString "Page.groovy")]
  operations phase :=
    if phase = .conversion then
      [OperationScript.operation ⟨"stamp", ["id"], none, ""⟩,
        OperationScript.operation ⟨"review", ["reviewed", "id"], some "org.Draft", "unfinished"⟩]
    else []

end Rehearsal

open Rehearsal

theorem stamped_phase_traced :
    let w : Stage := ⟨FileTree.fresh [] 0, 0, none, .blank⟩
    let ran := stampedUnit.runPhase .conversion w
    ((∀ op ∈ stampedUnit.operations .conversion, op.Stateless) ∧ ran.1 = none) ∧
      ran.2.1.classes = [⟨"org.Book", .ofString "Book.groovy", ["id", "reviewed"]⟩,
        ⟨"org.Page", .ofString "Page.groovy", ["id", "reviewed"]⟩] := by
  intro w ran
  have hops : ∀ op ∈ stampedUnit.operations .conversion, op.Stateless := by
    intro op hop
    simp only [stampedUnit, if_true, List.mem_cons, List.not_mem_nil, or_false] at hop
    rcases hop with rfl | rfl
    · exact OperationScript.stateless _
    · exact OperationScript.stateless _
  have hnone : ran.1 = none := by decide +kernel
  refine ⟨⟨hops, hnone⟩, ?_⟩
  rw [(stampedUnit.phase_traced .conversion w).2.2.2 hops hnone]
  decide +kernel

end StaleBuild
