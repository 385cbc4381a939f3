import Mathlib.Data.List.Forall2
import Mathlib.Data.List.Nodup
import StaleBuild.Proofs.Injection
import StaleBuild.Rehearsal

/-!
# A compilation unit through its history

A unit begins empty and changes through calls of its methods (`UnitCall`), in any order, refused
registrations and failed phases among them. One call, and by induction any number of calls, keeps

    Registered u accepted       the operations of each phase are those accepted there, in order,
                                under different names                    (registered_after, Registered.run)
    Tidy u                      no class has a property twice            (tidy_after, Tidy.run)
    Continues u v               sources and classes stay where they are, the new ones behind them;
                                the properties of a class likewise       (continues_after, Continues.run)

The last two hold if operations change classes by adding properties only (`Operation.AddsOnly`),
whether a call of theirs fails or not.
-/

namespace StaleBuild

variable {σ : Type}

/-! ## Classes that gain properties -/

namespace ClassNode

variable {c d e : ClassNode}

/-- The class with properties added, one after another. -/
def Extends (c d : ClassNode) : Prop := ∃ ps : List String, d = ps.foldl addProperty c

theorem Extends.refl (c : ClassNode) : c.Extends c := ⟨[], rfl⟩

theorem Extends.trans : c.Extends d → d.Extends e → c.Extends e := by
  rintro ⟨ps, rfl⟩ ⟨qs, rfl⟩
  exact ⟨ps ++ qs, by rw [List.foldl_append]⟩

/-- What holds of a class and is kept when a property is added holds of each extension. -/
theorem Extends.keeps (kept : ClassNode → Prop) (hadd : ∀ c p, kept c → kept (c.addProperty p))
    (h : c.Extends d) (hc : kept c) : kept d := by
  obtain ⟨ps, rfl⟩ := h
  induction ps generalizing c with
  | nil => exact hc
  | cons p rest ih => exact ih (hadd c p hc)

theorem addProperty_cases (c : ClassNode) (p : String) :
    c.addProperty p = c ∨
      p ∉ c.properties ∧ c.addProperty p = { c with properties := c.properties ++ [p] } := by
  unfold addProperty hasProperty
  split
  · exact .inl rfl
  · next hnew => exact .inr ⟨by simpa using hnew, rfl⟩

/-- An extension is the same class, with more properties behind those that it had. -/
theorem Extends.grown (h : c.Extends d) :
    (d.name, d.source) = (c.name, c.source) ∧ c.properties <+: d.properties := by
  refine h.keeps (fun d => (d.name, d.source) = (c.name, c.source) ∧
    c.properties <+: d.properties) (fun d p hd => ?_) ⟨rfl, List.prefix_rfl⟩
  obtain hsame | ⟨-, hadded⟩ := d.addProperty_cases p
  · rwa [hsame]
  · rw [hadded]
    exact ⟨hd.1, hd.2.trans (List.prefix_append _ _)⟩

theorem Extends.nodup (h : c.Extends d) (hc : c.properties.Nodup) : d.properties.Nodup := by
  refine h.keeps (fun d => d.properties.Nodup) (fun d p hd => ?_) hc
  obtain hsame | ⟨hnew, hadded⟩ := d.addProperty_cases p
  · rwa [hsame]
  · rw [hadded]
    exact List.concat_eq_append ▸ hd.concat hnew

end ClassNode

/-- An operation that changes classes by adding properties only, whether it fails or not. -/
def Operation.AddsOnly (op : Operation σ) : Prop :=
  ∀ w c, ClassNode.Extends c (op.call w c).node

/-- Sweeping over classes extends each of them. -/
theorem Operation.AddsOnly.sweep {op : Operation σ} (h : op.AddsOnly) (w : World σ)
    (classes : List ClassNode) :
    List.Forall₂ ClassNode.Extends classes (op.sweep w classes).classes := by
  induction classes generalizing w with
  | nil => exact .nil
  | cons c rest ih =>
    simp only [Operation.sweep]
    cases (op.call w c).failure? with
    | some failure => exact .cons (h w c) (List.forall₂_same.2 fun d _ => .refl d)
    | none => exact .cons (h w c) (ih (op.call w c).world)

theorem forall₂_extends_trans {cs ds es : List ClassNode}
    (hcd : List.Forall₂ ClassNode.Extends cs ds) (hde : List.Forall₂ ClassNode.Extends ds es) :
    List.Forall₂ ClassNode.Extends cs es := by
  induction hcd generalizing es with
  | nil => exact hde
  | cons hc _ ih =>
    cases hde with
    | cons hd hrest => exact .cons (hc.trans hd) (ih hrest)

/-- What holds of the classes and is kept by extensions holds of the extended ones. -/
theorem forall_of_forall₂_extends {kept : ClassNode → Prop}
    (hkept : ∀ c d : ClassNode, c.Extends d → kept c → kept d) {cs ds : List ClassNode}
    (h : List.Forall₂ ClassNode.Extends cs ds) (hcs : ∀ c ∈ cs, kept c) : ∀ d ∈ ds, kept d := by
  induction h with
  | nil => exact fun d hd => nomatch hd
  | @cons c d _ _ hcd _ ih =>
    obtain ⟨hc, hrest⟩ := List.forall_mem_cons.1 hcs
    exact List.forall_mem_cons.2 ⟨hkept c d hcd hc, ih hrest⟩

theorem sweepAll_extends {ops : List (Operation σ)} (h : ∀ op ∈ ops, op.AddsOnly) (w : World σ)
    (classes : List ClassNode) :
    List.Forall₂ ClassNode.Extends classes (sweepAll w classes ops).classes := by
  induction ops generalizing w classes with
  | nil => exact List.forall₂_same.2 fun c _ => .refl c
  | cons op rest ih =>
    obtain ⟨hop, hrest⟩ := List.forall_mem_cons.1 h
    have hswept := hop.sweep w classes
    simp only [sweepAll]
    cases (op.sweep w classes).failure? with
    | some failure => exact hswept
    | none => exact forall₂_extends_trans hswept (ih hrest _ _)

/-! ## Histories -/

/-- A call of one of the methods that change a unit. -/
inductive UnitCall (σ : Type) where
  | register (op : Operation σ) (phase : Phase)
  | addSources (sources : List Path)
  | addClass (c : ClassNode)
  | loadClasses (files : FileTree)
  | runPhase (phase : Phase) (w : World σ)

/-- Registered operations only add properties, and an added class has no property twice. -/
def UnitCall.Plain : UnitCall σ → Prop
  | .register op _ => op.AddsOnly
  | .addClass c => c.properties.Nodup
  | _ => True

namespace CompilationUnit

variable {u v : CompilationUnit σ}

/-- The unit that a call leaves. -/
def after (u : CompilationUnit σ) : UnitCall σ → CompilationUnit σ
  | .register op phase =>
    match u.register op phase with
    | .ok v => v
    | .error _ => u
  | .addSources sources => u.addSources sources
  | .addClass c => u.addClass c
  | .loadClasses files => u.loadClasses files
  | .runPhase phase w => (u.runPhase phase w).2.1

/-- The unit that several calls leave. -/
def afterAll (u : CompilationUnit σ) (calls : List (UnitCall σ)) : CompilationUnit σ :=
  calls.foldl after u

/-- The unit of which these have been the calls so far. -/
def ofHistory (calls : List (UnitCall σ)) : CompilationUnit σ := empty.afterAll calls

/-- The registration that a call brings about, if it is accepted. -/
def acceptedBy (u : CompilationUnit σ) : UnitCall σ → List (Operation σ × Phase)
  | .register op phase =>
    match u.register op phase with
    | .ok _ => [(op, phase)]
    | .error _ => []
  | _ => []

/-- The registrations that are accepted in the course of several calls. -/
def accepted (u : CompilationUnit σ) : List (UnitCall σ) → List (Operation σ × Phase)
  | [] => []
  | call :: rest => u.acceptedBy call ++ (u.after call).accepted rest

/-! ### Registrations -/

/-- A registration is refused if the name is taken, and else puts the operation behind the others
of its phase. -/
theorem register_cases (u : CompilationUnit σ) (op : Operation σ) (phase : Phase) :
    op.name ∈ u.operationNames phase ∧
        u.register op phase = .error (.duplicateOperation op.name phase.name) ∨
      op.name ∉ u.operationNames phase ∧ u.register op phase = .ok { u with
        operations := fun p => if p = phase then u.operations p ++ [op] else u.operations p } := by
  unfold register hasOperation
  split
  · next htaken => exact .inl ⟨by simpa using htaken, rfl⟩
  · next hfree => exact .inr ⟨by simpa using hfree, rfl⟩

/-- The operations are the accepted ones, in order and under different names. -/
structure Registered (u : CompilationUnit σ) (accepted : List (Operation σ × Phase)) : Prop where
  listed : ∀ phase, u.operations phase = (accepted.filter (·.2 = phase)).map Prod.fst
  distinct : ∀ phase, (u.operationNames phase).Nodup

theorem registered_empty : (empty : CompilationUnit σ).Registered [] :=
  ⟨fun _ => rfl, fun _ => List.nodup_nil⟩

theorem registered_after {accepted : List (Operation σ × Phase)} (h : u.Registered accepted)
    (call : UnitCall σ) : (u.after call).Registered (accepted ++ u.acceptedBy call) := by
  cases call with
  | register op phase =>
    obtain ⟨-, hrefused⟩ | ⟨hnew, haccepted⟩ := u.register_cases op phase
    · simpa only [after, acceptedBy, hrefused, List.append_nil] using h
    · simp only [after, acceptedBy, haccepted]
      refine ⟨fun p => ?_, fun p => ?_⟩
      · by_cases hp : p = phase
        · subst hp
          simp [h.listed p]
        · have hother : ¬phase = p := fun heq => hp heq.symm
          simp [h.listed p, hp, hother]
      · by_cases hp : p = phase
        · subst hp
          simpa [operationNames] using (h.distinct p).concat hnew
        · simpa [operationNames, hp] using h.distinct p
  | addSources sources => simpa only [acceptedBy, List.append_nil] using ⟨h.listed, h.distinct⟩
  | addClass c => simpa only [acceptedBy, List.append_nil] using ⟨h.listed, h.distinct⟩
  | loadClasses files => simpa only [acceptedBy, List.append_nil] using ⟨h.listed, h.distinct⟩
  | runPhase phase w => simpa only [acceptedBy, List.append_nil] using ⟨h.listed, h.distinct⟩

theorem Registered.run {accepted : List (Operation σ × Phase)} (h : u.Registered accepted)
    (calls : List (UnitCall σ)) :
    (u.afterAll calls).Registered (accepted ++ u.accepted calls) := by
  induction calls generalizing u accepted with
  | nil =>
    rw [CompilationUnit.accepted, List.append_nil]
    exact h
  | cons call rest ih =>
    have hrest := ih (registered_after h call)
    rwa [List.append_assoc] at hrest

/-- An accepted registration is one more operation. -/
theorem operationCount_register {op : Operation σ} {phase : Phase}
    (h : u.register op phase = .ok v) : v.operationCount = u.operationCount + 1 := by
  obtain ⟨-, hrefused⟩ | ⟨-, haccepted⟩ := u.register_cases op phase
  · rw [hrefused] at h
    cases h
  · rw [haccepted] at h
    cases h
    cases phase <;> simp [operationCount, Phase.all] <;> omega

theorem operationCount_after (u : CompilationUnit σ) (call : UnitCall σ) :
    (u.after call).operationCount = u.operationCount + (u.acceptedBy call).length := by
  cases call with
  | register op phase =>
    simp only [after, acceptedBy]
    split
    · next v hv => exact operationCount_register hv
    · rfl
  | addSources sources => rfl
  | addClass c => rfl
  | loadClasses files => rfl
  | runPhase phase w => rfl

theorem operationCount_afterAll (u : CompilationUnit σ) (calls : List (UnitCall σ)) :
    (u.afterAll calls).operationCount = u.operationCount + (u.accepted calls).length := by
  induction calls generalizing u with
  | nil => rfl
  | cons call rest ih =>
    have hrest := ih (u.after call)
    rw [operationCount_after] at hrest
    rw [accepted, List.length_append, ← Nat.add_assoc]
    exact hrest

/-! ### Classes and sources -/

/-- The operations only add properties and no class has a property twice. -/
structure Tidy (u : CompilationUnit σ) : Prop where
  operations : ∀ phase, ∀ op ∈ u.operations phase, Operation.AddsOnly op
  classes : ∀ c ∈ u.classes, c.properties.Nodup

/-- Everything in one unit stays at its place in a later one. -/
structure Continues (u v : CompilationUnit σ) : Prop where
  sources : u.sources <+: v.sources
  classes : ∀ (i : Nat) (c : ClassNode), u.classes[i]? = some c →
    ∃ d, v.classes[i]? = some d ∧ c.Extends d

theorem Continues.refl (u : CompilationUnit σ) : u.Continues u :=
  ⟨List.prefix_rfl, fun _ c hc => ⟨c, hc, .refl c⟩⟩

theorem Continues.trans {w : CompilationUnit σ} (huv : u.Continues v) (hvw : v.Continues w) :
    u.Continues w := by
  refine ⟨huv.sources.trans hvw.sources, fun i c hc => ?_⟩
  obtain ⟨d, hd, hcd⟩ := huv.classes i c hc
  obtain ⟨e, he, hde⟩ := hvw.classes i d hd
  exact ⟨e, he, hcd.trans hde⟩

/-- Classes that are put behind the others. -/
theorem continues_of_append {classes : List ClassNode} (hsources : u.sources <+: v.sources)
    (hclasses : v.classes = u.classes ++ classes) : u.Continues v := by
  refine ⟨hsources, fun i c hc => ⟨c, ?_, .refl c⟩⟩
  obtain ⟨hi, -⟩ := List.getElem?_eq_some_iff.1 hc
  rw [hclasses, List.getElem?_append_left hi, hc]

theorem runPhase_extends (h : u.Tidy) (phase : Phase) (w : World σ) :
    List.Forall₂ ClassNode.Extends u.classes (u.runPhase phase w).2.1.classes :=
  sweepAll_extends (h.operations phase) w u.classes

theorem continues_after (h : u.Tidy) (call : UnitCall σ) : u.Continues (u.after call) := by
  cases call with
  | register op phase =>
    obtain ⟨-, hrefused⟩ | ⟨-, haccepted⟩ := u.register_cases op phase
    · simpa only [after, hrefused] using Continues.refl u
    · simp only [after, haccepted]
      exact continues_of_append List.prefix_rfl (List.append_nil _).symm
  | addSources sources =>
    exact continues_of_append (List.prefix_append _ _) (List.append_nil _).symm
  | addClass c => exact continues_of_append List.prefix_rfl rfl
  | loadClasses files => exact continues_of_append List.prefix_rfl rfl
  | runPhase phase w =>
    refine ⟨List.prefix_rfl, fun i c hc => ?_⟩
    have hextends := runPhase_extends h phase w
    obtain ⟨hi, hget⟩ := List.getElem?_eq_some_iff.1 hc
    have hi' := hextends.length_eq ▸ hi
    refine ⟨_, List.getElem?_eq_getElem hi', ?_⟩
    rw [← hget]
    exact hextends.get hi hi'

/-- A class that was read from a source has no properties. -/
theorem properties_loadedClass? {files : FileTree} {source : Path} {c : ClassNode}
    (h : loadedClass? files source = some c) : c.properties = [] := by
  unfold loadedClass? at h
  split at h
  · unfold ClassNode.ofSource at h
    split at h
    · cases h
    · cases h
      rfl
  · cases h

theorem tidy_after (h : u.Tidy) {call : UnitCall σ} (hcall : call.Plain) :
    (u.after call).Tidy := by
  cases call with
  | register op phase =>
    obtain ⟨-, hrefused⟩ | ⟨-, haccepted⟩ := u.register_cases op phase
    · simpa only [after, hrefused] using h
    · simp only [after, haccepted]
      refine ⟨fun p op' hop' => ?_, h.classes⟩
      dsimp only at hop'
      split at hop'
      · obtain hold | hnew := List.mem_append.1 hop'
        · exact h.operations p op' hold
        · rw [List.mem_singleton.1 hnew]
          exact hcall
      · exact h.operations p op' hop'
  | addSources sources => exact ⟨h.operations, h.classes⟩
  | addClass c =>
    exact ⟨h.operations, List.forall_mem_append.2 ⟨h.classes, List.forall_mem_singleton.2 hcall⟩⟩
  | loadClasses files =>
    refine ⟨h.operations, List.forall_mem_append.2 ⟨h.classes, fun c hc => ?_⟩⟩
    obtain ⟨source, -, hloaded⟩ := List.mem_filterMap.1 hc
    rw [properties_loadedClass? hloaded]
    exact List.nodup_nil
  | runPhase phase w =>
    exact ⟨h.operations, forall_of_forall₂_extends (fun c d hcd => hcd.nodup)
      (runPhase_extends h phase w) h.classes⟩

theorem tidy_empty : (empty : CompilationUnit σ).Tidy :=
  ⟨fun _ => List.forall_mem_nil _, List.forall_mem_nil _⟩

theorem Tidy.run (h : u.Tidy) {calls : List (UnitCall σ)} (hcalls : ∀ call ∈ calls, call.Plain) :
    (u.afterAll calls).Tidy := by
  induction calls generalizing u with
  | nil => exact h
  | cons call rest ih =>
    obtain ⟨hcall, hrest⟩ := List.forall_mem_cons.1 hcalls
    exact ih (tidy_after h hcall) hrest

theorem Continues.run (h : u.Tidy) {calls : List (UnitCall σ)}
    (hcalls : ∀ call ∈ calls, call.Plain) : u.Continues (u.afterAll calls) := by
  induction calls generalizing u with
  | nil => exact .refl u
  | cons call rest ih =>
    obtain ⟨hcall, hrest⟩ := List.forall_mem_cons.1 hcalls
    exact (continues_after h call).trans (ih (tidy_after h hcall) hrest)

/-! ### What a history shows -/

/-- The unit after some calls, and what they brought about. -/
structure Orderly (u : CompilationUnit σ) (calls : List (UnitCall σ)) : Prop where
  distinct : ∀ phase, (u.operationNames phase).Nodup
  listed : ∀ phase, u.operations phase =
    ((accepted empty calls).filter (·.2 = phase)).map Prod.fst
  counted : u.operationCount = (accepted empty calls).length
  /-- A registration is refused for its name and for nothing else. -/
  refused : ∀ op phase, op.name ∈ u.operationNames phase →
    u.register op phase = .error (.duplicateOperation op.name phase.name) ∧
      u.after (.register op phase) = u
  admitted : ∀ op phase, op.name ∉ u.operationNames phase → ∃ v, u.register op phase = .ok v
  properties : ∀ c ∈ u.classes, c.properties.Nodup
  injected : u.injectedClasses = u.classes.filter fun c => c.properties ≠ []

/-- A class by its name and source. -/
def identities (u : CompilationUnit σ) : List (String × Path) :=
  u.classes.map fun c => (c.name, c.source)

/-- A unit that has grown into a later one at the ends only. -/
structure Grown (u v : CompilationUnit σ) : Prop where
  sources : u.sources <+: v.sources
  identities : u.identities <+: v.identities
  properties : ∀ (i : Nat) (c d : ClassNode), u.classes[i]? = some c → v.classes[i]? = some d →
    c.properties <+: d.properties

theorem Continues.grown (h : u.Continues v) : u.Grown v := by
  refine ⟨h.sources, List.prefix_iff_getElem?.2 fun i hi => ?_, fun i c d hc hd => ?_⟩
  · have hi' : i < u.classes.length := by simpa [CompilationUnit.identities] using hi
    obtain ⟨d, hd, hextends⟩ := h.classes i _ (List.getElem?_eq_getElem hi')
    simp only [CompilationUnit.identities, List.getElem?_map, hd, Option.map_some,
      List.getElem_map, hextends.grown.1]
  · obtain ⟨d', hd', hextends⟩ := h.classes i c hc
    obtain rfl : d' = d := Option.some_inj.1 (hd'.symm.trans hd)
    exact hextends.grown.2

theorem orderly_ofHistory {calls : List (UnitCall σ)} (hcalls : ∀ call ∈ calls, call.Plain) :
    (ofHistory calls).Orderly calls where
  distinct := (registered_empty.run calls).distinct
  listed := (registered_empty.run calls).listed
  counted := (operationCount_afterAll empty calls).trans (Nat.zero_add _)
  refused op phase htaken := by
    obtain ⟨-, hrefused⟩ | ⟨hfree, -⟩ := (ofHistory calls).register_cases op phase
    · exact ⟨hrefused, by rw [after, hrefused]⟩
    · exact absurd htaken hfree
  admitted op phase hfree := by
    obtain ⟨htaken, -⟩ | ⟨-, haccepted⟩ := (ofHistory calls).register_cases op phase
    · exact absurd htaken hfree
    · exact ⟨_, haccepted⟩
  properties := (tidy_empty.run hcalls).classes
  injected := List.filter_congr fun c _ => by cases c.properties <;> rfl

/-- **What calls of its methods make of a unit.** After any calls, operations of a phase have
different names and stand in the order in which they were accepted, and no class has a property
twice; whatever calls follow, sources, classes and properties grow at their ends only. -/
theorem history_orderly (before more : List (UnitCall σ))
    (hplain : ∀ call ∈ before ++ more, call.Plain) :
    (ofHistory before).Orderly before ∧
      (ofHistory before).Grown (ofHistory (before ++ more)) := by
  obtain ⟨hbefore, hmore⟩ := List.forall_mem_append.1 hplain
  refine ⟨orderly_ofHistory hbefore, ?_⟩
  have hrun := Continues.run (tidy_empty.run hbefore) hmore
  have hall : ofHistory (before ++ more) = (ofHistory before).afterAll more := List.foldl_append
  rw [hall]
  exact hrun.grown

end CompilationUnit

/-! ## Operations that only add properties -/

theorem Injection.addsOnly (own : Option ArtefactIndex) :
    (Injection.operation (σ := σ) own Injector.standard).AddsOnly := by
  intro w c
  rw [operation_call, ClassNode.injectedFrom]
  split
  · exact ⟨Injector.domainProperties, (Injector.inject_domain c).symm⟩
  · exact .refl c

namespace Rehearsal

theorem OperationScript.addsOnly (s : OperationScript) : s.operation.AddsOnly := by
  intro w c
  unfold operation
  dsimp only
  split
  · exact .refl c
  · exact ⟨s.adds, rfl⟩

def reviewStage : Stage := ⟨FileTree.fresh [] 0, 0, none, .blank⟩

/-- Reviews every class and stops at drafts. -/
def review : OperationScript := ⟨"review", ["reviewed", "id"], some "org.Draft", "unfinished"⟩

/-- One registration of two is accepted, and the phase fails at the second class. -/
def reviewed : List (UnitCall Notes) :=
  [.register review.operation .canonicalization, .register review.operation .canonicalization,
    .addClass (bookClass plainBook), .addClass (.plain "org.Draft" plainBook),
    .runPhase .canonicalization reviewStage]

/-- Injection comes at a later phase, and the failed phase is run once more. -/
def reviewedAgain : List (UnitCall Notes) :=
  [.register (Injection.operation (some (.ofResources [domainBook])) Injector.standard) .output,
    .runPhase .output reviewStage, .runPhase .canonicalization reviewStage,
    .addSources [plainBook]]

end Rehearsal

open Rehearsal

theorem review_history_orderly :
    (∀ call ∈ reviewed ++ reviewedAgain, call.Plain) ∧
      (CompilationUnit.ofHistory reviewed).Orderly reviewed ∧
      (CompilationUnit.ofHistory reviewed).Grown
        (CompilationUnit.ofHistory (reviewed ++ reviewedAgain)) ∧
      (CompilationUnit.ofHistory reviewed).injectedClasses =
        [⟨"org.Book", plainBook, ["reviewed", "id"]⟩] ∧
      (CompilationUnit.ofHistory (reviewed ++ reviewedAgain)).injectedClasses =
        [⟨"org.Book", plainBook, ["reviewed", "id", "version"]⟩] := by
  have hplain : ∀ call ∈ reviewed ++ reviewedAgain, call.Plain := by
    intro call hcall
    simp only [reviewed, reviewedAgain, List.cons_append, List.nil_append, List.mem_cons,
      List.not_mem_nil, or_false] at hcall
    obtain rfl | rfl | rfl | rfl | rfl | rfl | rfl | rfl | rfl := hcall
    · exact review.addsOnly
    · exact review.addsOnly
    · exact List.nodup_nil
    · exact List.nodup_nil
    · trivial
    · exact Injection.addsOnly _
    all_goals trivial
  obtain ⟨horderly, hgrown⟩ := CompilationUnit.history_orderly reviewed reviewedAgain hplain
  exact ⟨hplain, horderly, hgrown, by decide +kernel, by decide +kernel⟩

end StaleBuild
