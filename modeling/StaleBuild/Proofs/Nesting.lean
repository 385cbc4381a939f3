import StaleBuild.Proofs.History
import StaleBuild.Proofs.Wrapping

/-!
# Wrapping a compiler more than once

A unit that carries the injection is left alone by another wrapper, so around a wrapped compiler
further wrappers do nothing:

    (base.injecting inner).injecting outer = base.injecting inner            (injecting_injecting)
    base.wrappedIn (inner :: outers) = base.injecting inner                  (wrappedIn_cons)

The innermost wrapper is the one whose index counts. `InjectedOnce` says what its units are beside
those of the base, and that a second canonicalization finds nothing left to inject.
-/

namespace StaleBuild

variable {σ : Type}

/-! ## Injecting twice -/

theorem ClassNode.asDomain_of_subset {c : ClassNode}
    (h : ∀ p ∈ Injector.domainProperties, p ∈ c.properties) : c.asDomain = c := by
  have hnone : Injector.domainProperties.filter (fun p => p ∉ c.properties) = [] :=
    List.filter_eq_nil_iff.2 fun p hp => by simpa using h p hp
  rw [asDomain, hnone, List.append_nil]

/-- Injecting from the same index once more changes nothing. -/
theorem ClassNode.injectedFrom_injectedFrom (index? : Option ArtefactIndex) (c : ClassNode) :
    (c.injectedFrom index?).injectedFrom index? = c.injectedFrom index? := by
  by_cases hfinds : Injection.findsDomain index? c.name = true
  · have honce : c.injectedFrom index? = c.asDomain := if_pos hfinds
    have htwice : c.asDomain.injectedFrom index? = c.asDomain.asDomain := if_pos hfinds
    rw [honce, htwice]
    exact asDomain_of_subset fun p hp => mem_properties_asDomain.2 (.inr hp)
  · have honce : c.injectedFrom index? = c := if_neg hfinds
    rw [honce, honce]

/-! ## Units with the injection -/

namespace CompilationUnit

variable {u v : CompilationUnit σ} {own : Option ArtefactIndex}

/-- A unit runs a phase as far as its operations there and its classes go. -/
theorem runPhase_eq_of_operations {phase : Phase} (h : v.operations phase = u.operations phase)
    (w : World σ) :
    let ran := ({ u with classes := v.classes } : CompilationUnit σ).runPhase phase w
    v.runPhase phase w = (ran.1, { v with classes := ran.2.1.classes }, ran.2.2) := by
  simp only [runPhase, h]

/-- A sweep with injection behind other operations. -/
theorem sweepAll_injecting (w : World σ) (classes : List ClassNode) (ops : List (Operation σ)) :
    let swept := sweepAll w classes ops
    sweepAll w classes (ops ++ [Injection.operation own Injector.standard]) =
      { swept with classes :=
          if swept.failure?.isSome then swept.classes
          else swept.classes.map (ClassNode.injectedFrom (own.or swept.world.published)) } := by
  intro swept
  rw [sweepAll_append]
  split
  · next failure hends => rw [if_pos (Option.isSome_iff_exists.2 ⟨failure, hends⟩)]
  · next hends =>
    have hnone : swept.failure? = none := hends
    simp only [sweepAll, Injection.sweep_operation, hnone, Option.isSome_none, Bool.false_eq_true,
      if_false, swept]

/-- A phase whose last operation is injection. -/
theorem runPhase_of_injection {phase : Phase}
    (h : v.operations phase = u.operations phase ++ [Injection.operation own Injector.standard])
    (w : World σ) :
    let ran := ({ u with classes := v.classes } : CompilationUnit σ).runPhase phase w
    v.runPhase phase w =
      (ran.1, { v with classes :=
          if ran.1.isSome then ran.2.1.classes
          else ran.2.1.classes.map (ClassNode.injectedFrom (own.or ran.2.2.published)) },
        ran.2.2) := by
  intro ran
  rw [runPhase, h, sweepAll_injecting]
  rfl

/-- What is left behind such a phase, if it went well, has been injected. -/
theorem injected_of_runPhase {phase : Phase} {after : CompilationUnit σ} {w left : World σ}
    (h : v.operations phase = u.operations phase ++ [Injection.operation own Injector.standard])
    (hran : v.runPhase phase w = (none, after, left)) :
    after.operations = v.operations ∧
      after.classes.map (ClassNode.injectedFrom (own.or left.published)) = after.classes := by
  have hkept : (v.runPhase phase w).2.1.operations = v.operations := rfl
  rw [hran] at hkept
  refine ⟨hkept, ?_⟩
  rw [runPhase_of_injection h] at hran
  obtain ⟨hnone, hrest⟩ := Prod.ext_iff.1 hran
  obtain ⟨rfl, rfl⟩ := Prod.ext_iff.1 hrest
  dsimp only at hnone
  simp only [hnone, Option.isSome_none, Bool.false_eq_true, if_false, List.map_map]
  exact List.map_congr_left fun c _ => c.injectedFrom_injectedFrom _

/-- What a wrapper over the index `own`, or else the published one, makes of a base's unit `u`. -/
structure InjectedOnce (own : Option ArtefactIndex) (u made : CompilationUnit σ) : Prop where
  sources : made.sources = u.sources
  classes : made.classes = u.classes
  once : (made.operationNames Injection.phase).count Injection.operationName = 1
  elsewhere : ∀ phase, phase ≠ Injection.phase → made.operations phase = u.operations phase
  kept : Injection.operationName ∈ u.operationNames Injection.phase →
    made.operations Injection.phase = u.operations Injection.phase ∧
      made.operationCount = u.operationCount
  added : Injection.operationName ∉ u.operationNames Injection.phase →
    made.operations Injection.phase =
        u.operations Injection.phase ++ [Injection.operation own Injector.standard] ∧
      made.operationCount = u.operationCount + 1
  /-- Canonicalization is that of the base, and if that goes well the index found then decides. -/
  decides : Injection.operationName ∉ u.operationNames Injection.phase →
    ∀ (v : CompilationUnit σ) (w : World σ), v.operations = made.operations →
      let ran := ({ u with classes := v.classes } : CompilationUnit σ).runPhase Injection.phase w
      v.runPhase Injection.phase w =
        (ran.1, { v with classes :=
            if ran.1.isSome then ran.2.1.classes
            else ran.2.1.classes.map (ClassNode.injectedFrom (own.or ran.2.2.published)) },
          ran.2.2)
  /-- Behind a canonicalization that went well, another one over the same index changes no class if
  the base changes none. -/
  again : ∀ (v after : CompilationUnit σ) (w left next : World σ), v.operations = made.operations →
    v.runPhase Injection.phase w = (none, after, left) →
      let ran := ({ u with classes := after.classes } : CompilationUnit σ).runPhase
        Injection.phase next
      ran.2.1.classes = after.classes → own.or ran.2.2.published = own.or left.published →
        (after.runPhase Injection.phase next).2.1.classes = after.classes

/-- A unit that has an operation of that name is left as it is. -/
theorem injectedOnce_self (hnamed : (u.operationNames Injection.phase).Nodup)
    (hhas : Injection.operationName ∈ u.operationNames Injection.phase)
    (own : Option ArtefactIndex) : u.InjectedOnce own u where
  sources := rfl
  classes := rfl
  once := List.count_eq_one_of_mem hnamed hhas
  elsewhere _ _ := rfl
  kept _ := ⟨rfl, rfl⟩
  added hfree := absurd hhas hfree
  decides hfree := absurd hhas hfree
  again v after w left next hops hran := by
    intro ran hsame _
    have hafter : after.operations = u.operations := by
      rw [← hops]
      exact congrArg (fun ran => CompilationUnit.operations ran.2.1) hran.symm
    rw [runPhase_eq_of_operations (congrFun hafter Injection.phase)]
    exact hsame

theorem operationNames_injecting (u : CompilationUnit σ) (own : Option ArtefactIndex) :
    (u.injecting own).operationNames Injection.phase =
      u.operationNames Injection.phase ++ [Injection.operationName] := by
  simp only [operationNames, injecting, if_true, List.map_append]
  rfl

/-- Any other unit gets the injection behind its operations. -/
theorem injectedOnce_injecting (hfree : Injection.operationName ∉ u.operationNames Injection.phase)
    (own : Option ArtefactIndex) : u.InjectedOnce own (u.injecting own) := by
  have hregister : u.register (Injection.operation own Injector.standard) Injection.phase =
      .ok (u.injecting own) := by
    obtain ⟨htaken, -⟩ | ⟨-, haccepted⟩ :=
      u.register_cases (Injection.operation own Injector.standard) Injection.phase
    · exact absurd htaken hfree
    · exact haccepted
  have hops : (u.injecting own).operations Injection.phase =
      u.operations Injection.phase ++ [Injection.operation own Injector.standard] := by
    simp only [injecting, if_true]
  refine ⟨rfl, rfl, ?_, fun phase hphase => if_neg hphase, fun hhas => absurd hhas hfree,
    fun _ => ⟨hops, operationCount_register hregister⟩,
    fun _ v w hv => runPhase_of_injection ((congrFun hv Injection.phase).trans hops) w,
    fun v after w left next hv hran => ?_⟩
  · rw [operationNames_injecting, List.count_append, List.count_eq_zero_of_not_mem hfree,
      List.count_singleton_self]
  · intro ran hsame hindex
    have hvops := (congrFun hv Injection.phase).trans hops
    obtain ⟨hkept, hinjected⟩ := injected_of_runPhase hvops hran
    rw [runPhase_of_injection ((congrFun hkept Injection.phase).trans hvops)]
    dsimp only
    rw [hsame, hindex, hinjected, ite_self]

end CompilationUnit

/-! ## Nested wrappers -/

namespace Compiler

open CompilationUnit

/-- A wrapper leaves a unit that has an operation of the injection's name and injects any other. -/
theorem withInjection_cases (own : Option ArtefactIndex) (u : CompilationUnit σ) :
    Injection.operationName ∈ u.operationNames Injection.phase ∧ withInjection own u = .ok u ∨
      Injection.operationName ∉ u.operationNames Injection.phase ∧
        withInjection own u = .ok (u.injecting own) := by
  cases hhas : u.hasOperation Injection.operationName Injection.phase with
  | true => exact .inl ⟨List.contains_iff_mem.1 hhas, by rw [withInjection, if_pos hhas]⟩
  | false =>
    refine .inr ⟨fun hmem => ?_, withInjection_eq own hhas⟩
    rw [hasOperation, List.contains_iff_mem.2 hmem] at hhas
    cases hhas

/-- Either way the unit has such an operation then. -/
theorem exists_withInjection (own : Option ArtefactIndex) (u : CompilationUnit σ) :
    ∃ made, withInjection own u = .ok made ∧
      Injection.operationName ∈ made.operationNames Injection.phase := by
  obtain ⟨hhas, hmade⟩ | ⟨-, hmade⟩ := withInjection_cases own u
  · exact ⟨u, hmade, hhas⟩
  · exact ⟨u.injecting own, hmade, by simp [operationNames_injecting]⟩

/-- A compiler in several wrappers, the innermost one first. -/
def wrappedIn (base : Compiler σ) (owns : List (Option ArtefactIndex)) : Compiler σ :=
  owns.foldl injecting base

/-- Around a wrapped compiler another wrapper does nothing. -/
theorem injecting_injecting (base : Compiler σ) (inner outer : Option ArtefactIndex) :
    (base.injecting inner).injecting outer = base.injecting inner := by
  have hmake (w : World σ) : ((base.injecting inner).injecting outer).makeUnit w =
      (base.injecting inner).makeUnit w := by
    simp only [injecting]
    obtain ⟨result, left⟩ := base.makeUnit w
    cases result with
    | error e => rfl
    | ok u =>
      -- the name is taken once the inner wrapper is done
      obtain ⟨made, hmade, hhas⟩ := exists_withInjection inner u
      obtain ⟨-, hkept⟩ | ⟨hfree, -⟩ := withInjection_cases outer made
      · simp only [hmade, hkept]
      · exact absurd hhas hfree
  exact congrArg (fun make => (⟨make, base.unitPanic?, base.compile⟩ : Compiler σ)) (funext hmake)

theorem wrappedIn_cons (base : Compiler σ) (inner : Option ArtefactIndex)
    (outers : List (Option ArtefactIndex)) :
    base.wrappedIn (inner :: outers) = base.injecting inner := by
  induction outers with
  | nil => rfl
  | cons outer rest ih =>
    rw [← ih, wrappedIn, List.foldl_cons, List.foldl_cons, injecting_injecting]
    rfl

theorem makeUnit_injecting {base : Compiler σ} {w left : World σ} {u : CompilationUnit σ}
    (hmade : base.makeUnit w = (.ok u, left)) (hnamed : (u.operationNames Injection.phase).Nodup)
    (own : Option ArtefactIndex) :
    ∃ made, (base.injecting own).makeUnit w = (.ok made, left) ∧ u.InjectedOnce own made := by
  simp only [injecting, hmade]
  obtain ⟨hhas, hmade⟩ | ⟨hfree, hmade⟩ := withInjection_cases own u
  · exact ⟨u, by rw [hmade], injectedOnce_self hnamed hhas own⟩
  · exact ⟨u.injecting own, by rw [hmade], injectedOnce_injecting hfree own⟩

/-- **Wrapping once is as good as wrapping often.** However many wrappers there are, the compiler is
the one in its innermost wrapper: it fails as the base does, and of a unit that calls of its methods
have made, it makes one that carries the injection exactly once. -/
theorem wrapped_injects_once (base : Compiler σ) (inner : Option ArtefactIndex)
    (outers : List (Option ArtefactIndex)) :
    base.wrappedIn (inner :: outers) = base.injecting inner ∧
      (∀ w e left, base.makeUnit w = (.error e, left) →
        (base.wrappedIn (inner :: outers)).makeUnit w = (.error e, left)) ∧
      ∀ w calls left, base.makeUnit w = (.ok (ofHistory calls), left) →
        ∃ made, (base.wrappedIn (inner :: outers)).makeUnit w = (.ok made, left) ∧
          (ofHistory calls).InjectedOnce inner made := by
  rw [wrappedIn_cons]
  refine ⟨rfl, fun w e left hfailed => ?_, fun w calls left hmade => ?_⟩
  · simp only [injecting, hfailed]
  · exact makeUnit_injecting hmade ((registered_empty.run calls).distinct Injection.phase) inner

end Compiler

namespace Rehearsal

/-- A base whose units carry these operations. -/
def basedOn (operations : List (Operation Notes × Phase)) : Compiler Notes :=
  equipped operations (CompilerScript.compile ⟨false, [], [], none, .outcome .success⟩)

/-- Three wrappers: the one inside goes by the published index, the others by their own. -/
def threefold : List (Option ArtefactIndex) :=
  [none, some (.ofResources []), some (.ofResources [serviceBook])]

def shelvedStage : Stage :=
  ⟨FileTree.fresh [] 0, 0, some (.ofResources [domainBook]), .blank⟩

end Rehearsal

open Rehearsal

/-- A base that registers an operation twice fails in its wrappers too; one that registers it once
gets the injection behind it, which finds the domain class in the published index. -/
theorem threefold_injects_once :
    let reviewing := (review.operation, Phase.canonicalization)
    let base := basedOn [reviewing]
    let calls : List (UnitCall Notes) := [.register review.operation .canonicalization]
    let broken := basedOn [reviewing, reviewing]
    let taken := BuildError.duplicateOperation "review" "canonicalization"
    (broken.makeUnit shelvedStage = (.error taken, shelvedStage) ∧
      (broken.wrappedIn threefold).makeUnit shelvedStage = (.error taken, shelvedStage)) ∧
    base.makeUnit shelvedStage = (.ok (.ofHistory calls), shelvedStage) ∧
    ∃ made, (base.wrappedIn threefold).makeUnit shelvedStage = (.ok made, shelvedStage) ∧
      (CompilationUnit.ofHistory calls).InjectedOnce none made ∧
      made.operationNames .canonicalization = ["review", "grails-aware-injection"] ∧
      ((made.addClass (bookClass plainBook)).runPhase .canonicalization shelvedStage).2.1.classes =
        [⟨"org.Book", plainBook, ["reviewed", "id", "version"]⟩] := by
  intro reviewing base calls broken taken
  obtain ⟨-, hfails, -⟩ := broken.wrapped_injects_once none
    [some (.ofResources []), some (.ofResources [serviceBook])]
  obtain ⟨-, -, hmakes⟩ := base.wrapped_injects_once none
    [some (.ofResources []), some (.ofResources [serviceBook])]
  have hbroken : broken.makeUnit shelvedStage = (.error taken, shelvedStage) := rfl
  have hbase : base.makeUnit shelvedStage = (.ok (.ofHistory calls), shelvedStage) := rfl
  obtain ⟨made, hmade, honce⟩ := hmakes shelvedStage calls shelvedStage hbase
  have hshown : (base.wrappedIn threefold).makeUnit shelvedStage =
      (.ok ((CompilationUnit.ofHistory calls).injecting none), shelvedStage) := rfl
  obtain rfl : made = (CompilationUnit.ofHistory calls).injecting none :=
    Except.ok.inj (congrArg Prod.fst (hmade.symm.trans hshown))
  exact ⟨⟨hbroken, hfails _ _ _ hbroken⟩, hbase, _, hmade, honce, rfl, by decide +kernel⟩

end StaleBuild
