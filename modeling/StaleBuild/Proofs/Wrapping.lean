import Mathlib.Data.List.Forall2
import StaleBuild.Compiler.Injecting
import StaleBuild.Proofs.Injection
import StaleBuild.Proofs.Protocol
import StaleBuild.Rehearsal

/-!
# A wrapped unit beside its base

The injecting compiler puts one operation behind those that its base has at the canonicalization
phase. That operation never fails and leaves the world alone, so the base's operations are called as
before, provided that they go by the names of classes (`Operation.DecidesByName`): the properties
that injection has added make no difference to them then.

    Beside own given plain injected      the two units and worlds, with the same calls so far; `given`
                                         says which names have been given domain properties

    Beside own given … → Beside own (given, and what a successful canonicalization finds) …
                                                                              (beside_runPhase)

A run of phases is a list of such steps (`beside_runEach`). The calls are read off a log that the
operations keep (`CompilationUnit.watched`), and keeping it changes nothing (`runEach_watched`).
-/

namespace StaleBuild

/-! ## Runs of phases -/

/-- A phase that was run: how it ended and the world that it left. -/
structure PhaseRun (σ : Type) where
  phase : Phase
  failure? : Option OperationFailure
  world : World σ

namespace PhaseRun

variable {σ : Type}

/-- A phase with its end. -/
def result (r : PhaseRun σ) : Phase × Option OperationFailure := (r.phase, r.failure?)

/-- The phase without the log in the world that it left. -/
def unwatched (r : PhaseRun (σ × List Event)) : PhaseRun σ :=
  ⟨r.phase, r.failure?, r.world.unwatched⟩

end PhaseRun

namespace CompilationUnit

variable {σ : Type}

/-- Run phases in turn, whether they fail or not. If the caller stops at failures, the first one that
fails is the last one. -/
def runEach (stops : Bool) : List Phase → CompilationUnit σ → World σ →
    List (PhaseRun σ) × CompilationUnit σ × World σ
  | [], u, w => ([], u, w)
  | phase :: rest, u, w =>
    let (failure?, u, w) := u.runPhase phase w
    if stops && failure?.isSome then ([⟨phase, failure?, w⟩], u, w)
    else
      let (runs, left) := runEach stops rest u w
      (⟨phase, failure?, w⟩ :: runs, left)

/-- Watching a unit changes nothing in a run of phases but the log. -/
theorem runEach_watched (stops : Bool) (phases : List Phase) (u : CompilationUnit σ) (w : World σ)
    (log : List Event) :
    ∃ more,
      let watched := u.watched.runEach stops phases (w.watched log)
      let plain := u.runEach stops phases w
      watched.1.map PhaseRun.unwatched = plain.1 ∧ watched.2.1 = plain.2.1.watched ∧
        watched.2.2 = plain.2.2.watched (log ++ more) := by
  induction phases generalizing u w log with
  | nil => exact ⟨[], rfl, rfl, by simp [runEach]⟩
  | cons phase rest ih =>
    obtain ⟨more, hphase, -⟩ := ExternalCompiler.runPhase_watched ⟨"", []⟩ ⟨"", []⟩ [] u phase w log
    simp only [runEach, hphase]
    split
    · exact ⟨more, rfl, rfl, rfl⟩
    · obtain ⟨more', hruns, hunit, hworld⟩ :=
        ih (u.runPhase phase w).2.1 (u.runPhase phase w).2.2 (log ++ more)
      refine ⟨more ++ more', ?_, hunit, ?_⟩
      · rw [List.map_cons, hruns]
        rfl
      · rw [hworld, List.append_assoc]

end CompilationUnit

/-! ## Calls -/

/-- A call of an operation on a class, whatever properties the class has. -/
structure OperationCall where
  phase : Phase
  /-- The place of the operation at its phase. -/
  op : Nat
  name : String
  source : Path
  failure? : Option OperationFailure
deriving DecidableEq

/-- The call that an event is, if it is one of the given operations. -/
def Event.callAmong? {σ : Type} (operations : Phase → List (Operation σ)) :
    Event → Option OperationCall
  | .called phase op given _ failure? =>
    if op < (operations phase).length then some ⟨phase, op, given.name, given.source, failure?⟩
    else none
  | .started .. => none

/-- The calls of the given operations that a world has logged. -/
def World.callsAmong {σ τ : Type} (operations : Phase → List (Operation σ))
    (w : World (τ × List Event)) : List OperationCall :=
  w.memory.2.filterMap (Event.callAmong? operations)

/-- The calls of the given operations when a unit runs phases. -/
def CompilationUnit.callsAmong {σ : Type} (u : CompilationUnit σ)
    (operations : Phase → List (Operation σ)) (stops : Bool) (phases : List Phase) (w : World σ) :
    List OperationCall :=
  (u.watched.runEach stops phases (w.watched [])).2.2.callsAmong operations

/-! ## Operations that go by the name -/

variable {σ : Type}

/-- Whether an operation fails on a class, and which properties it adds, hangs on the name of the
class alone, and it does nothing else to the class. -/
def Operation.DecidesByName (op : Operation σ) : Prop :=
  ∃ (fails : String → Option OperationFailure) (adds : String → List String)
    (change : ClassNode → List String), ∀ w c,
      (op.call w c).failure? = fails c.name ∧
      (op.call w c).node = { c with properties := change c } ∧
      ∀ p, p ∈ change c ↔ p ∈ c.properties ∨ p ∈ adds c.name

/-- An operation that logs its calls decides as it does without. -/
theorem Operation.DecidesByName.watched {op : Operation σ} (h : op.DecidesByName) (phase : Phase)
    (place : Nat) : (op.watched phase place).DecidesByName := by
  obtain ⟨fails, adds, change, hcall⟩ := h
  exact ⟨fails, adds, change, fun w c => hcall w.unwatched c⟩

theorem ClassNode.mem_properties_foldl_addProperty (c : ClassNode) (ps : List String) (p : String) :
    p ∈ (ps.foldl addProperty c).properties ↔ p ∈ c.properties ∨ p ∈ ps := by
  induction ps generalizing c with
  | nil => simp
  | cons q rest ih =>
    have hone : p ∈ (c.addProperty q).properties ↔ p ∈ c.properties ∨ p = q := by
      unfold addProperty hasProperty
      by_cases hq : q ∈ c.properties
      · simp only [List.contains_iff_mem, hq, if_true]
        exact ⟨.inl, fun h => h.elim id fun heq => heq ▸ hq⟩
      · simp [hq]
    rw [List.foldl_cons, ih, hone, List.mem_cons, or_assoc]

theorem ClassNode.foldl_addProperty_eq (c : ClassNode) (ps : List String) :
    ps.foldl addProperty c = { c with properties := (ps.foldl addProperty c).properties } := by
  induction ps generalizing c with
  | nil => rfl
  | cons q rest ih =>
    have hone : c.addProperty q = { c with properties := (c.addProperty q).properties } := by
      unfold addProperty
      split <;> rfl
    rw [List.foldl_cons, ih]
    rw [hone]

/-- Scripted operations decide by the name. -/
theorem Rehearsal.OperationScript.decidesByName (s : OperationScript) :
    s.operation.DecidesByName := by
  refine ⟨fun name => if s.failOn = some name then some ⟨s.name, name, s.reason⟩ else none,
    fun name => if s.failOn = some name then [] else s.adds,
    fun c => if s.failOn = some c.name then c.properties
      else (s.adds.foldl ClassNode.addProperty c).properties, fun w c => ?_⟩
  unfold operation
  by_cases hfails : s.failOn = some c.name
  · simp [hfails]
  · simp only [hfails, if_false]
    exact ⟨trivial, c.foldl_addProperty_eq s.adds, c.mem_properties_foldl_addProperty s.adds⟩

/-! ## Twins -/

/-- A class of a plain run beside the same class where injection takes part. `given` holds of the
names that have been given the properties of a domain class. -/
structure Twin (given : String → Prop) (plain injected : ClassNode) : Prop where
  name : injected.name = plain.name
  source : injected.source = plain.source
  added : given plain.name → ∀ p, p ∈ injected.properties ↔
    p ∈ plain.properties ∨ p ∈ Injector.domainProperties
  kept : ¬given plain.name → injected.properties = plain.properties

theorem Twin.refl {given : String → Prop} (hnone : ∀ name, ¬given name) (c : ClassNode) :
    Twin given c c :=
  ⟨rfl, rfl, fun h => absurd h (hnone c.name), fun _ => rfl⟩

variable {given : String → Prop}

/-- An operation that decides by the name does the same to twins. -/
theorem Twin.call {op : Operation σ} (hop : op.DecidesByName) {plain injected : ClassNode}
    (h : Twin given plain injected) (w w' : World σ) :
    (op.call w' injected).failure? = (op.call w plain).failure? ∧
      Twin given (op.call w plain).node (op.call w' injected).node := by
  obtain ⟨fails, adds, change, hcall⟩ := hop
  obtain ⟨hfailure, hnode, hadds⟩ := hcall w plain
  obtain ⟨hfailure', hnode', hadds'⟩ := hcall w' injected
  rw [hfailure, hfailure', hnode, hnode', h.name]
  refine ⟨rfl, rfl, h.source, fun hgiven p => ?_, fun hnot => ?_⟩
  · simp only [hadds, hadds', h.name, h.added hgiven p]
    exact or_right_comm
  · have hsame : injected = plain := by
      have hproperties := h.kept hnot
      have hname := h.name
      have hsource := h.source
      cases injected
      cases plain
      simp_all
    rw [hsame]

/-- Injection gives the domain properties to the names that the index finds. -/
theorem Twin.injectedFrom {plain injected : ClassNode} (h : Twin given plain injected)
    (index? : Option ArtefactIndex) :
    Twin (fun name => given name ∨ Injection.findsDomain index? name = true) plain
      (injected.injectedFrom index?) := by
  rw [ClassNode.injectedFrom, h.name]
  by_cases hfinds : Injection.findsDomain index? plain.name = true
  · rw [if_pos hfinds]
    refine ⟨h.name, h.source, fun _ p => ?_, fun hnot => absurd (.inr hfinds) hnot⟩
    rw [ClassNode.mem_properties_asDomain]
    by_cases hgiven : given plain.name
    · rw [h.added hgiven p, or_assoc, or_self]
    · rw [h.kept hgiven]
  · rw [if_neg hfinds]
    exact ⟨h.name, h.source, fun hor => h.added (hor.resolve_right hfinds),
      fun hnot => h.kept fun hgiven => hnot (.inl hgiven)⟩

/-! ## Sweeps over twins -/

/-- Two sweeps that ended alike, on twins, in related worlds. -/
structure Swept.Alike {τ : Type} (related : World τ → World τ → Prop) (given : String → Prop)
    (plain injected : Swept τ) : Prop where
  failure : injected.failure? = plain.failure?
  classes : List.Forall₂ (Twin given) plain.classes injected.classes
  worlds : related plain.world injected.world

/-- An operation that makes of related worlds related ones, if it is called on twins. -/
def Operation.Relates {τ : Type} (related : World τ → World τ → Prop) (op : Operation τ) : Prop :=
  ∀ w w' c c', related w w' → c'.name = c.name → c'.source = c.source →
    related (op.call w c).world (op.call w' c').world

section

variable {τ : Type} {related : World τ → World τ → Prop}

theorem sweep_alike {op : Operation τ} (hop : op.DecidesByName) (hrelates : op.Relates related)
    {classes classes' : List ClassNode} (hclasses : List.Forall₂ (Twin given) classes classes')
    {w w' : World τ} (hw : related w w') :
    Swept.Alike related given (op.sweep w classes) (op.sweep w' classes') := by
  induction hclasses generalizing w w' with
  | nil => exact ⟨rfl, .nil, hw⟩
  | @cons c c' rest rest' hc hrest ih =>
    obtain ⟨hfailure, hnode⟩ := hc.call hop w w'
    have hworld := hrelates w w' c c' hw hc.name hc.source
    simp only [Operation.sweep, hfailure]
    cases (op.call w c).failure? with
    | some failure => exact ⟨rfl, .cons hnode hrest, hworld⟩
    | none =>
      obtain ⟨hends, hleft, hworlds⟩ := ih hworld
      exact ⟨hends, .cons hnode hleft, hworlds⟩

theorem sweepAll_alike {ops : List (Operation τ)}
    (hops : ∀ op ∈ ops, op.DecidesByName ∧ op.Relates related)
    {classes classes' : List ClassNode} (hclasses : List.Forall₂ (Twin given) classes classes')
    {w w' : World τ} (hw : related w w') :
    Swept.Alike related given (sweepAll w classes ops) (sweepAll w' classes' ops) := by
  induction ops generalizing classes classes' w w' with
  | nil => exact ⟨rfl, hclasses, hw⟩
  | cons op rest ih =>
    obtain ⟨⟨hop, hrelates⟩, hrest⟩ := List.forall_mem_cons.1 hops
    have halike := sweep_alike hop hrelates hclasses hw
    simp only [sweepAll, halike.failure]
    cases (op.sweep w classes).failure? with
    | some failure => exact ⟨rfl, halike.classes, halike.worlds⟩
    | none => exact ih hrest halike.classes halike.worlds

end

/-- Operations behind others are called if none of those fails. -/
theorem sweepAll_append (w : World σ) (classes : List ClassNode) (ops more : List (Operation σ)) :
    sweepAll w classes (ops ++ more) =
      match (sweepAll w classes ops).failure? with
      | some _ => sweepAll w classes ops
      | none => sweepAll (sweepAll w classes ops).world (sweepAll w classes ops).classes more := by
  induction ops generalizing w classes with
  | nil => rfl
  | cons op rest ih =>
    simp only [List.cons_append, sweepAll]
    cases (op.sweep w classes).failure? with
    | some failure => rfl
    | none => exact ih _ _

namespace Injection

/-- Injection goes over all classes. -/
theorem sweep_operation (own : Option ArtefactIndex) (w : World σ) (classes : List ClassNode) :
    (operation own Injector.standard).sweep w classes =
      ⟨classes.map (ClassNode.injectedFrom (own.or w.published)), w, none⟩ := by
  induction classes with
  | nil => rfl
  | cons c rest ih => simp only [Operation.sweep, operation_call, ih, List.map_cons]

/-- Watched injection does so too, and none of the calls that it logs is one of other operations. -/
theorem sweep_watched_operation (own : Option ArtefactIndex) {phase : Phase} {place : Nat}
    {operations : Phase → List (Operation σ)} (hplace : (operations phase).length ≤ place)
    (w : World (σ × List Event)) (classes : List ClassNode) :
    let swept := ((operation own Injector.standard).watched phase place).sweep w classes
    swept.classes = classes.map (ClassNode.injectedFrom (own.or w.published)) ∧
      swept.failure? = none ∧ swept.world.published = w.published ∧
      swept.world.callsAmong operations = w.callsAmong operations := by
  intro swept
  obtain ⟨more, hsweep, hfollows⟩ := ExternalCompiler.sweep_watched ⟨"", []⟩ ⟨"", []⟩ [] phase place
    (operation own Injector.standard) [] classes w.unwatched w.memory.2
  rw [sweep_operation] at hsweep
  have hswept : swept = _ := hsweep
  rw [hswept]
  refine ⟨rfl, rfl, rfl, ?_⟩
  have hnone : more.filterMap (Event.callAmong? operations) = [] := by
    refine List.filterMap_eq_nil_iff.2 fun e he => ?_
    cases e with
    | started command result => rfl
    | called phase' op given left failure? =>
      obtain ⟨cls, hcls⟩ := hfollows.place_of_called he
      obtain ⟨_, -, hcall⟩ := List.mem_map.1 hcls
      cases hcall
      exact if_neg (Nat.not_lt.2 hplace)
  have hlog : w.callsAmong operations ++ more.filterMap (Event.callAmong? operations) =
      w.callsAmong operations := by rw [hnone, List.append_nil]
  rw [← hlog]
  exact List.filterMap_append

end Injection

/-! ## Wrapped units -/

/-- A unit with injection behind its operations. -/
def CompilationUnit.injecting (u : CompilationUnit σ) (own : Option ArtefactIndex) :
    CompilationUnit σ :=
  { u with operations := fun phase =>
      if phase = Injection.phase then
        u.operations phase ++ [Injection.operation own Injector.standard]
      else u.operations phase }

/-- That is the unit that the injecting compiler makes. -/
theorem withInjection_eq {u : CompilationUnit σ} (own : Option ArtefactIndex)
    (hfree : u.hasOperation Injection.operationName Injection.phase = false) :
    Compiler.withInjection own u = .ok (u.injecting own) := by
  unfold Compiler.withInjection CompilationUnit.register
  have hname : (Injection.operation (σ := σ) own Injector.standard).name =
      Injection.operationName := rfl
  rw [hname, hfree]
  rfl

theorem watchedFrom_append (phase : Phase) (first : Nat) (ops more : List (Operation σ)) :
    watchedFrom phase first (ops ++ more) =
      watchedFrom phase first ops ++ watchedFrom phase (first + ops.length) more := by
  simp [watchedFrom, List.zipIdx_append]

/-- The operations that a wrapped unit calls while it is watched. -/
theorem operations_injecting_watched (u : CompilationUnit σ) (own : Option ArtefactIndex)
    (phase : Phase) :
    (u.injecting own).watched.operations phase =
      u.watched.operations phase ++ if phase = Injection.phase then
        [(Injection.operation own Injector.standard).watched phase (u.operations phase).length]
      else [] := by
  simp only [CompilationUnit.watched, CompilationUnit.injecting]
  by_cases hphase : phase = Injection.phase
  · rw [if_pos hphase, if_pos hphase, watchedFrom_append, Nat.zero_add]
    rfl
  · rw [if_neg hphase, if_neg hphase, List.append_nil]

/-- Two worlds with the same calls of a unit's operations in their logs. -/
def SameCalls (u : CompilationUnit σ) (w w' : World (σ × List Event)) : Prop :=
  w'.callsAmong u.operations = w.callsAmong u.operations

/-- Called on twins, an operation that decides by the name logs the same call. -/
theorem relates_watched (u : CompilationUnit σ) {op : Operation σ} (hop : op.DecidesByName)
    (phase : Phase) (place : Nat) : (op.watched phase place).Relates (SameCalls u) := by
  intro w w' c c' hw hname hsource
  obtain ⟨fails, adds, change, hcall⟩ := hop
  have hfailure : (op.call w'.unwatched c').failure? = (op.call w.unwatched c).failure? := by
    rw [(hcall w.unwatched c).1, (hcall w'.unwatched c').1, hname]
  have hevent : Event.callAmong? u.operations
      (.called phase place c' (op.call w'.unwatched c').node (op.call w'.unwatched c').failure?) =
      Event.callAmong? u.operations
      (.called phase place c (op.call w.unwatched c).node (op.call w.unwatched c).failure?) := by
    simp only [Event.callAmong?, hname, hsource, hfailure]
  unfold SameCalls World.callsAmong at hw ⊢
  simp only [Operation.watched, World.watched, List.filterMap_append, List.filterMap_cons, hw,
    hevent]

/-- All operations of a watched unit decide by the name if those of the unit do. -/
theorem watched_operations {u : CompilationUnit σ}
    (hnamed : ∀ phase, ∀ op ∈ u.operations phase, op.DecidesByName) (phase : Phase) :
    ∀ op ∈ u.watched.operations phase, op.DecidesByName ∧ op.Relates (SameCalls u) := by
  intro watched hwatched
  obtain ⟨⟨op, place⟩, hplace, rfl⟩ := List.mem_map.1 hwatched
  have hop : op ∈ u.operations phase := List.fst_mem_of_mem_zipIdx hplace
  exact ⟨(hnamed phase op hop).watched phase place,
    relates_watched u (hnamed phase op hop) phase place⟩

/-! ## Phase by phase -/

/-- Two watched units with their worlds, one of the base and one that is wrapped. -/
structure Beside (own : Option ArtefactIndex) (u : CompilationUnit σ) (given : String → Prop)
    (plain injected : CompilationUnit (σ × List Event)) (w w' : World (σ × List Event)) : Prop where
  plainOperations : plain.operations = u.watched.operations
  injectedOperations : injected.operations = (u.injecting own).watched.operations
  sources : injected.sources = plain.sources
  classes : List.Forall₂ (Twin given) plain.classes injected.classes
  calls : SameCalls u w w'

theorem Twin.congr {given' : String → Prop} (hgiven : ∀ name, given name ↔ given' name)
    {plain injected : ClassNode} (h : Twin given plain injected) : Twin given' plain injected :=
  ⟨h.name, h.source, fun hg => h.added ((hgiven _).2 hg),
    fun hn => h.kept fun hg => hn ((hgiven _).1 hg)⟩

variable {own : Option ArtefactIndex} {u : CompilationUnit σ}

/-- A phase ends alike on both units. It gives the domain properties to the names that the index
finds, if it is canonicalization and succeeds. -/
theorem beside_runPhase (hnamed : ∀ phase, ∀ op ∈ u.operations phase, op.DecidesByName)
    {plain injected : CompilationUnit (σ × List Event)} {w w' : World (σ × List Event)}
    (h : Beside own u given plain injected w w') (phase : Phase) :
    let ran := plain.runPhase phase w
    let ran' := injected.runPhase phase w'
    ran'.1 = ran.1 ∧ Beside own u (fun name => given name ∨ phase = Injection.phase ∧
      ran'.1 = none ∧ Injection.findsDomain (own.or ran'.2.2.published) name = true)
      ran.2.1 ran'.2.1 ran.2.2 ran'.2.2 := by
  intro ran ran'
  -- the operations of the base end alike
  have halike := sweepAll_alike (watched_operations hnamed phase) h.classes h.calls
  generalize hplain : sweepAll w plain.classes (u.watched.operations phase) = swept at halike
  generalize hbase : sweepAll w' injected.classes (u.watched.operations phase) = swept' at halike
  have hran : ran = (swept.failure?, { plain with classes := swept.classes }, swept.world) := by
    simp only [ran, CompilationUnit.runPhase, h.plainOperations, hplain]
  -- injection comes behind them
  have hran' : ran' = (let behind := sweepAll w' injected.classes (u.watched.operations phase ++
        if phase = Injection.phase then
          [(Injection.operation own Injector.standard).watched phase (u.operations phase).length]
        else [])
      (behind.failure?, { injected with classes := behind.classes }, behind.world)) := by
    simp only [ran', CompilationUnit.runPhase, h.injectedOperations, operations_injecting_watched]
  rw [sweepAll_append, hbase] at hran'
  obtain ⟨hfailure, hclasses, hcalls⟩ := halike
  cases hends : swept'.failure? with
  | some failure =>
    simp only [hends] at hran'
    rw [hran, hran', ← hfailure, hends]
    refine ⟨rfl, h.plainOperations, h.injectedOperations, h.sources, ?_, hcalls⟩
    exact hclasses.imp fun _ _ => Twin.congr fun name => by simp
  | none =>
    simp only [hends] at hran'
    by_cases hphase : phase = Injection.phase
    · obtain ⟨hgone, hnone, hpublished, hlogged⟩ := Injection.sweep_watched_operation own
        (Nat.le_refl (u.operations phase).length) swept'.world swept'.classes
      simp only [if_pos hphase, sweepAll, hnone, hgone] at hran'
      rw [hran, hran', ← hfailure, hends]
      refine ⟨rfl, h.plainOperations, h.injectedOperations, h.sources, ?_, hlogged.trans hcalls⟩
      simp only [List.forall₂_map_right_iff, hpublished]
      exact hclasses.imp fun _ _ htwin => (htwin.injectedFrom _).congr fun name => by simp [hphase]
    · simp only [if_neg hphase, sweepAll] at hran'
      rw [hran, hran', ← hfailure, hends]
      refine ⟨rfl, h.plainOperations, h.injectedOperations, h.sources, ?_, hcalls⟩
      exact hclasses.imp fun _ _ => Twin.congr fun name => by simp [hphase]

/-- The names that have been given the properties of a domain class: some canonicalization that
succeeded found them in the index that counted then. -/
def Injection.Given {τ : Type} (own : Option ArtefactIndex) (runs : List (PhaseRun τ))
    (name : String) : Prop :=
  ∃ r ∈ runs, r.phase = Injection.phase ∧ r.failure? = none ∧
    Injection.findsDomain (own.or r.world.published) name = true

/-- The log in the worlds makes no difference to that. -/
theorem Injection.given_unwatched (own : Option ArtefactIndex)
    (runs : List (PhaseRun (σ × List Event))) (name : String) :
    Given own (runs.map PhaseRun.unwatched) name ↔ Given own runs name := by
  constructor
  · rintro ⟨_, hmem, hgiven⟩
    obtain ⟨r, hr, rfl⟩ := List.mem_map.1 hmem
    exact ⟨r, hr, hgiven⟩
  · rintro ⟨r, hr, hgiven⟩
    exact ⟨r.unwatched, List.mem_map_of_mem hr, hgiven⟩

/-- A run of phases ends alike on both units. -/
theorem beside_runEach (hnamed : ∀ phase, ∀ op ∈ u.operations phase, op.DecidesByName)
    (stops : Bool) (phases : List Phase) {plain injected : CompilationUnit (σ × List Event)}
    {w w' : World (σ × List Event)} (h : Beside own u given plain injected w w') :
    let ran := plain.runEach stops phases w
    let ran' := injected.runEach stops phases w'
    ran'.1.map PhaseRun.result = ran.1.map PhaseRun.result ∧
      Beside own u (fun name => given name ∨ Injection.Given own ran'.1 name)
        ran.2.1 ran'.2.1 ran.2.2 ran'.2.2 := by
  induction phases generalizing given plain injected w w' with
  | nil =>
    refine ⟨rfl, h.plainOperations, h.injectedOperations, h.sources, ?_, h.calls⟩
    exact h.classes.imp fun _ _ => Twin.congr fun name => by
      simp [CompilationUnit.runEach, Injection.Given]
  | cons phase rest ih =>
    obtain ⟨hresult, hbeside⟩ := beside_runPhase hnamed h phase
    simp only [CompilationUnit.runEach]
    rw [hresult] at hbeside ⊢
    split
    · refine ⟨rfl, hbeside.plainOperations, hbeside.injectedOperations, hbeside.sources, ?_,
        hbeside.calls⟩
      exact hbeside.classes.imp fun _ _ => Twin.congr fun name => by simp [Injection.Given]
    · obtain ⟨hresults, hleft⟩ := ih hbeside
      refine ⟨by rw [List.map_cons, List.map_cons, hresults]; rfl, hleft.plainOperations,
        hleft.injectedOperations, hleft.sources, ?_, hleft.calls⟩
      exact hleft.classes.imp fun _ _ => Twin.congr fun name => by
        simp only [Injection.Given, List.exists_mem_cons_iff, or_assoc]

/-! ## Transparency -/

/-- What a run of phases shows of a wrapped unit beside its base. -/
structure Transparent (own : Option ArtefactIndex) (u wrapped : CompilationUnit σ) (stops : Bool)
    (phases : List Phase) (w : World σ) : Prop where
  /-- The base's operations are called in the same order on the same classes, with the same ends. -/
  calls : wrapped.callsAmong u.operations stops phases w = u.callsAmong u.operations stops phases w
  /-- Each phase ends alike. -/
  results : (wrapped.runEach stops phases w).1.map PhaseRun.result =
    (u.runEach stops phases w).1.map PhaseRun.result
  sources : (wrapped.runEach stops phases w).2.1.sources = (u.runEach stops phases w).2.1.sources
  /-- The classes are the same ones in the same order. A name that a successful canonicalization found
  in the index has the domain properties besides those of the base, and any other has those. -/
  classes : List.Forall₂ (Twin (Injection.Given own (wrapped.runEach stops phases w).1))
    (u.runEach stops phases w).2.1.classes (wrapped.runEach stops phases w).2.1.classes

theorem transparent_injecting (own : Option ArtefactIndex)
    (hnamed : ∀ phase, ∀ op ∈ u.operations phase, op.DecidesByName) (classes : List ClassNode)
    (stops : Bool) (phases : List Phase) (w : World σ) :
    Transparent own { u with classes } { u.injecting own with classes } stops phases w := by
  obtain ⟨log, hruns, hunit, hworld⟩ :=
    CompilationUnit.runEach_watched stops phases { u with classes } w []
  obtain ⟨log', hruns', hunit', hworld'⟩ :=
    CompilationUnit.runEach_watched stops phases { u.injecting own with classes } w []
  have hstart : Beside own u (fun _ => False) ({ u with classes } : CompilationUnit σ).watched
      ({ u.injecting own with classes } : CompilationUnit σ).watched (w.watched []) (w.watched []) :=
    ⟨rfl, rfl, rfl, List.forall₂_same.2 fun c _ => .refl (fun _ => id) c, rfl⟩
  obtain ⟨hresults, hbeside⟩ := beside_runEach hnamed stops phases hstart
  have hresult {τ : Type} (runs : List (PhaseRun (τ × List Event))) :
      (runs.map PhaseRun.unwatched).map PhaseRun.result = runs.map PhaseRun.result := by
    rw [List.map_map]
    rfl
  refine ⟨hbeside.calls, ?_, ?_, ?_⟩
  · rw [← hruns, ← hruns', hresult, hresult, hresults]
  · have hsources := hbeside.sources
    rw [hunit, hunit'] at hsources
    exact hsources
  · have hclasses := hbeside.classes
    rw [hunit, hunit'] at hclasses
    rw [← hruns']
    exact hclasses.imp fun _ _ => Twin.congr fun name => by
      rw [false_or, Injection.given_unwatched]

/-- **A wrapped unit is its base with injection added.** If the operations of the base go by the
names of classes, a run of phases shows no more of the wrapper than the properties of domain
classes. -/
theorem wrapped_unit_transparent {base : Compiler σ} {start made : World σ}
    (hmade : base.makeUnit start = (.ok u, made))
    (hfree : u.hasOperation Injection.operationName Injection.phase = false)
    (hnamed : ∀ phase, ∀ op ∈ u.operations phase, op.DecidesByName) (own : Option ArtefactIndex) :
    ∃ wrapped, (base.injecting own).makeUnit start = (.ok wrapped, made) ∧
      ∀ (classes : List ClassNode) (stops : Bool) (phases : List Phase) (w : World σ),
        Transparent own { u with classes } { wrapped with classes } stops phases w := by
  refine ⟨u.injecting own, ?_, transparent_injecting own hnamed⟩
  simp only [Compiler.injecting, hmade, withInjection_eq own hfree]

open Rehearsal

/-- A base whose canonicalization adds one of the domain properties itself and fails on drafts. -/
theorem auditing_base_transparent :
    let audit : OperationScript := ⟨"audit", ["audited", "version"], some "org.Draft", "unfinished"⟩
    let base := equipped [(audit.operation, .canonicalization)]
      (CompilerScript.compile ⟨false, [], [], none, .outcome .success⟩)
    let stage : Stage := ⟨FileTree.fresh [] 0, 0, some (.ofResources [domainBook]), .blank⟩
    ∃ u wrapped, (base.makeUnit stage = (.ok u, stage) ∧
      u.hasOperation Injection.operationName Injection.phase = false ∧
      ∀ phase, ∀ op ∈ u.operations phase, op.DecidesByName) ∧
      (base.injecting none).makeUnit stage = (.ok wrapped, stage) ∧
      Transparent none { u with classes := [bookClass plainBook] }
        { wrapped with classes := [bookClass plainBook] } false
        [.canonicalization, .canonicalization] stage := by
  intro audit base stage
  let u : CompilationUnit Notes :=
    ⟨[], [], fun phase => if phase = .canonicalization then [audit.operation] else []⟩
  have hmade : base.makeUnit stage = (.ok u, stage) := rfl
  have hfree : u.hasOperation Injection.operationName Injection.phase = false := rfl
  have hnamed : ∀ phase, ∀ op ∈ u.operations phase, op.DecidesByName := by
    intro phase op hop
    by_cases hphase : phase = .canonicalization
    · obtain rfl : op = audit.operation := by simpa [u, hphase] using hop
      exact audit.decidesByName
    · simp [u, hphase] at hop
  obtain ⟨wrapped, hwrapped, htransparent⟩ := wrapped_unit_transparent hmade hfree hnamed none
  exact ⟨u, wrapped, ⟨hmade, hfree, hnamed⟩, hwrapped, htransparent _ _ _ _⟩

end StaleBuild
