import StaleBuild.Injection

/-!
# Which classes are injected

An index finds artefacts by the classes that they declare, and of several files that declare one
class it finds the last. Injection looks a class up by its name; the source of the class has no part
in it.

    apply index? standard c = c with the domain properties, if the artefact found under
                              the name of c is one of a domain, else c              (apply_standard)

So the source of a class decides as long as no other file declares the class's name
(`ClassNode.SoleBearer`), and a file of the same name changes that both ways: a class of no artefact
is injected, and a domain class is passed over (`source_not_decisive`).
-/

namespace StaleBuild

/-! ## Looking up artefacts -/

namespace ArtefactIndex

/-- A file takes the place of those that declare its class and leaves the others where they are. -/
theorem find?_enter (table : List (String × Path)) (resource : Path) (name : String) :
    ((enter table resource).find? fun e => e.1 = name).map Prod.snd =
      if Artefact.className? resource = some name then some resource
      else (table.find? fun e => e.1 = name).map Prod.snd := by
  unfold enter
  cases hclass : Artefact.className? resource with
  | none => simp
  | some declared =>
    by_cases hname : declared = name
    · subst hname
      simp
    · have hkept : (table.filter fun old => old.1 ≠ declared).find? (fun e => e.1 = name) =
          table.find? fun e => e.1 = name := by
        rw [List.find?_filter]
        congr 1
        funext e
        by_cases he : e.1 = name
        · have hother : name ≠ declared := fun h => hname h.symm
          simp [he, hother]
        · simp [he]
      rw [List.find?_cons_of_neg (by simpa using hname), hkept, if_neg (by simpa using hname)]

theorem find?_foldl_enter (resources : List Path) (table : List (String × Path)) (name : String) :
    ((resources.foldl enter table).find? fun e => e.1 = name).map Prod.snd =
      (resources.reverse.find? fun r => Artefact.className? r = some name).or
        ((table.find? fun e => e.1 = name).map Prod.snd) := by
  induction resources generalizing table with
  | nil => rfl
  | cons resource rest ih =>
    rw [List.foldl_cons, ih, find?_enter, List.reverse_cons, List.find?_append, Option.or_assoc]
    congr 1
    by_cases hclass : Artefact.className? resource = some name <;> simp [hclass]

/-- Of the files that declare a class the last one is found. -/
theorem find?_ofResources (resources : List Path) (name : String) :
    (ofResources resources).find? name =
      resources.reverse.find? fun r => Artefact.className? r = some name := by
  have h := find?_foldl_enter resources [] name
  simpa [find?, ofResources] using h

end ArtefactIndex

/-! ## Adding properties -/

/-- Properties that are all different are added where they are missing, in order. -/
theorem ClassNode.foldl_addProperty (c : ClassNode) {ps : List String} (hps : ps.Nodup) :
    ps.foldl addProperty c =
      { c with properties := c.properties ++ ps.filter fun p => p ∉ c.properties } := by
  induction ps generalizing c with
  | nil => simp
  | cons p rest ih =>
    obtain ⟨hp, hrest⟩ := List.nodup_cons.1 hps
    rw [List.foldl_cons, ih _ hrest]
    unfold addProperty hasProperty
    by_cases hhas : p ∈ c.properties
    · simp [hhas]
    · have hothers : rest.filter (fun q => q ∉ c.properties ++ [p]) =
          rest.filter fun q => q ∉ c.properties := by
        refine List.filter_congr fun q hq => ?_
        have hne : q ≠ p := fun h => hp (h ▸ hq)
        simp [hne]
      rw [if_neg (by simpa using hhas), List.filter_cons_of_pos (by simpa using hhas), hothers]
      simp

/-- A class with the properties of a domain class behind its own. -/
def ClassNode.asDomain (c : ClassNode) : ClassNode :=
  { c with properties := c.properties ++
      Injector.domainProperties.filter fun p => p ∉ c.properties }

theorem ClassNode.mem_properties_asDomain {c : ClassNode} {p : String} :
    p ∈ c.asDomain.properties ↔ p ∈ c.properties ∨ p ∈ Injector.domainProperties := by
  by_cases hp : p ∈ c.properties <;> simp [asDomain, hp]

theorem Injector.inject_domain (c : ClassNode) : Injector.domain.inject c = c.asDomain :=
  c.foldl_addProperty (by decide)

/-! ## Injecting -/

/-- Whether an index finds a domain artefact under a name. -/
def Injection.findsDomain (index? : Option ArtefactIndex) (name : String) : Bool :=
  (index?.bind fun index => index.find? name).any fun resource =>
    Artefact.kind? resource = some "domain"

theorem Injection.findsDomain_ofResources (resources : List Path) (name : String) :
    findsDomain (some (.ofResources resources)) name =
      (resources.reverse.find? fun r => Artefact.className? r = some name).any fun r =>
        Artefact.kind? r = some "domain" := by
  rw [findsDomain, Option.bind_some, ArtefactIndex.find?_ofResources]

/-- A class after injection from an index. -/
def ClassNode.injectedFrom (index? : Option ArtefactIndex) (c : ClassNode) : ClassNode :=
  if Injection.findsDomain index? c.name then c.asDomain else c

namespace Injection

variable {σ : Type}

theorem apply_standard (index? : Option ArtefactIndex) (c : ClassNode) :
    apply index? Injector.standard c = c.injectedFrom index? := by
  unfold apply ClassNode.injectedFrom findsDomain
  cases index?.bind fun index => index.find? c.name with
  | none => rfl
  | some resource =>
    rw [← Injector.inject_domain]
    rfl

theorem operation_call (own : Option ArtefactIndex) (w : World σ) (c : ClassNode) :
    (operation own Injector.standard).call w c =
      ⟨c.injectedFrom (own.or w.published), w, none⟩ := by
  rw [← apply_standard]
  rfl

end Injection

/-- No file but the source of the class declares the class's name, and the source, if it is a domain
artefact, does. -/
structure ClassNode.SoleBearer (c : ClassNode) (resources : List Path) : Prop where
  only : ∀ r ∈ resources, Artefact.className? r = some c.name → r = c.source
  declares : c.source ∈ resources → Artefact.kind? c.source = some "domain" →
    Artefact.className? c.source = some c.name

/-- What is found under the name of a sole bearer is its source. -/
theorem ClassNode.SoleBearer.findsDomain_iff {c : ClassNode} {resources : List Path}
    (h : c.SoleBearer resources) :
    Injection.findsDomain (some (.ofResources resources)) c.name = true ↔
      c.source ∈ resources ∧ Artefact.kind? c.source = some "domain" := by
  rw [Injection.findsDomain_ofResources, Option.any_eq_true]
  constructor
  · rintro ⟨resource, hfind, hkind⟩
    have hmem : resource ∈ resources := List.mem_reverse.1 (List.mem_of_find?_eq_some hfind)
    have hclass := List.find?_some hfind
    obtain rfl := h.only resource hmem (by simpa using hclass)
    exact ⟨hmem, by simpa using hkind⟩
  · rintro ⟨hmem, hkind⟩
    have hdeclares := h.declares hmem hkind
    cases hfind : resources.reverse.find? fun r => Artefact.className? r = some c.name with
    | none =>
      have hnone := List.find?_eq_none.1 hfind c.source (List.mem_reverse.2 hmem)
      exact absurd (by simpa using hdeclares) hnone
    | some resource =>
      have hfound : resource ∈ resources := List.mem_reverse.1 (List.mem_of_find?_eq_some hfind)
      have hclass := List.find?_some hfind
      obtain rfl := h.only resource hfound (by simpa using hclass)
      exact ⟨c.source, rfl, by simpa using hkind⟩

/-! ## A shelf of artefacts -/

namespace Rehearsal

def domainBook : Path := .ofString "/app/grails-app/domain/org/Book.groovy"

def serviceBook : Path := .ofString "/app/grails-app/services/org/Book.groovy"

def plainBook : Path := .ofString "/app/src/groovy/org/Book.groovy"

/-- The class that each of the three files declares. -/
def bookClass (source : Path) : ClassNode := .plain "org.Book" source

end Rehearsal

/-! ## Which classes are injected -/

open Rehearsal

variable {σ : Type}

/-- **Injection goes by the name of the class.** The last file of the index that declares the name
decides, and the call neither fails nor touches the world. As long as the class is the sole bearer of
its name this is a matter of its source. -/
theorem injected_by_found_artefact {own : Option ArtefactIndex} {w : World σ}
    {resources : List Path} (hindex : own.or w.published = some (.ofResources resources))
    (c : ClassNode) :
    let called := (Injection.operation own Injector.standard).call w c
    let found? := resources.reverse.find? fun r => Artefact.className? r = some c.name
    called.world = w ∧ called.failure? = none ∧
      (called.node =
        if found?.any fun r => Artefact.kind? r = some "domain" then c.asDomain else c) ∧
      (c.SoleBearer resources → called.node =
        if c.source ∈ resources ∧ Artefact.kind? c.source = some "domain" then c.asDomain
        else c) := by
  intro called found?
  have hcalled : called = ⟨c.injectedFrom (some (.ofResources resources)), w, none⟩ := by
    rw [← hindex]
    exact Injection.operation_call own w c
  rw [hcalled]
  refine ⟨rfl, rfl, ?_, fun hsole => ?_⟩
  · rw [ClassNode.injectedFrom, Injection.findsDomain_ofResources]
  · simp only [ClassNode.injectedFrom, hsole.findsDomain_iff]

/-- A domain class beside a service of another name, found in the published index. -/
theorem injected_by_own_source :
    let shelf := [domainBook, .ofString "/app/grails-app/services/org/BookService.groovy"]
    let w : World Unit := ⟨FileTree.fresh [] 0, 0, some (.ofResources shelf), ()⟩
    ((none : Option ArtefactIndex).or w.published = some (.ofResources shelf) ∧
      (bookClass domainBook).SoleBearer shelf) ∧
    ((Injection.operation none Injector.standard).call w (bookClass domainBook)).node =
      ⟨"org.Book", domainBook, ["id", "version"]⟩ := by
  intro shelf w
  have hindex : (none : Option ArtefactIndex).or w.published = some (.ofResources shelf) := rfl
  have hsole : (bookClass domainBook).SoleBearer shelf := ⟨by decide +kernel, by decide +kernel⟩
  refine ⟨⟨hindex, hsole⟩, ?_⟩
  rw [(injected_by_found_artefact hindex (bookClass domainBook)).2.2.2 hsole]
  decide +kernel

/-- The source of a class does not decide. A class of no artefact is injected when a domain artefact
has its name; a domain class is passed over when a later artefact of another kind has its name. -/
theorem source_not_decisive :
    (plainBook ∉ [domainBook] ∧
      Injection.apply (some (.ofResources [domainBook])) Injector.standard (bookClass plainBook) =
        ⟨"org.Book", plainBook, ["id", "version"]⟩) ∧
    (domainBook ∈ [domainBook, serviceBook] ∧ Artefact.kind? domainBook = some "domain" ∧
      Injection.apply (some (.ofResources [domainBook, serviceBook])) Injector.standard
        (bookClass domainBook) = ⟨"org.Book", domainBook, []⟩) := by
  decide +kernel

end StaleBuild
