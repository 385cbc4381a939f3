import StaleBuild.Proofs.Decoding
import StaleBuild.Proofs.Joining
import StaleBuild.Proofs.Naming

/-!
# Artefacts below a checkout

A project that lies in some directory has its artefacts below it:

    checkout / grails-app / kind / d₁ / … / dₖ / file

What is read off such a path are the components behind its first `grails-app`. That is the one of
the project exactly if the checkout lies below none (`named_by_place_iff_outside`). If one is above
the project, as above a plugin that is kept in the `grails-app` of an application, then the kind is
what stands behind that one, and the way from there to the project becomes a part of the name of the
class.
-/

namespace StaleBuild

/-! ## Files and their extensions -/

/-- A file name without its extension, which is what stands behind the last full stop. A full stop
that comes first begins no extension. -/
def stemOf (name : String) : String :=
  let ahead := (Text.dropWhileEnd (· ≠ '.') name.toList).dropLast
  if ahead = [] then name else .ofList ahead

namespace Path

/-- The stem of an encoded name. -/
theorem splitName_encode (name : String) :
    (splitName (Utf8.encode name)).1 = Utf8.encode (stemOf name) := by
  have hencoded {cs : List Char} (h : '.' ∉ cs) : fullStop ∉ Utf8.encodeChars cs := fun hmem =>
    h (Utf8.mem_of_ascii_mem_encodeChars (by decide) hmem)
  unfold stemOf Utf8.encode
  dsimp only
  by_cases hmem : '.' ∈ name.toList
  · obtain ⟨ahead, extension, hlast, hextension⟩ := exists_last_occurrence hmem
    have hname : name.toList = ahead ++ ['.'] ++ extension := by simpa using hlast
    have hbytes : Utf8.encodeChars (ahead ++ ['.'] ++ extension) =
        Utf8.encodeChars ahead ++ fullStop :: Utf8.encodeChars extension := by
      simp only [Utf8.encodeChars, List.flatMap_append, List.append_assoc]
      rfl
    rw [hname, Text.dropWhileEnd_append (decide_ne_of_notMem hextension) (by simp),
      List.dropLast_concat]
    split
    · next hnone =>
      rw [hname, hbytes, hnone, splitName_of_tail]
      exact hencoded hextension
    · next hsome =>
      rw [hbytes, splitName_append _ (hencoded hextension), String.toList_ofList]
      obtain ⟨c, more, rfl⟩ := List.exists_cons_of_ne_nil hsome
      have hc : String.utf8EncodeChar c ≠ [] := String.utf8EncodeChar_ne_nil
      simp [Utf8.encodeChars, hc]
  · rw [Text.dropWhileEnd_eq_nil (decide_ne_of_notMem hmem), List.dropLast_nil, if_pos rfl,
      splitName_of_tail]
    exact fun h => hencoded hmem (List.mem_of_mem_tail h)

end Path

/-! ## Where a project lies -/

/-- The component that a name is. -/
def Path.spelled (name : String) : Path.Component := .normal (Utf8.encode name)

namespace Artefact

/-- The artefact of a project whose directory is the checkout. -/
def placed (checkout : Path) (kind : String) (relative : Path) : Path :=
  ((checkout.join ⟨appDirectory⟩).join (.ofString kind)).join relative

variable {p checkout relative : Path} {kind file : String} {dirs : List String}

theorem nameText?_spelled (name : String) : nameText? (Path.spelled name) = some name :=
  Utf8.decode?_encode name

theorem filterMap_nameText?_spelled (names : List String) :
    (names.map Path.spelled).filterMap nameText? = names := by
  rw [List.filterMap_map]
  have hsome : nameText? ∘ Path.spelled = some := funext nameText?_spelled
  rw [hsome, List.filterMap_some]

/-- Components that are names are put behind those of the path. -/
theorem components_placed (hkind : (Path.ofString kind).components = [Path.spelled kind])
    (hrelative : relative.components = (dirs ++ [file]).map Path.spelled) :
    (placed checkout kind relative).components = checkout.components ++
      .normal appDirectory :: Path.spelled kind :: (dirs ++ [file]).map Path.spelled := by
  have happ : (Path.mk appDirectory).components = [.normal appDirectory] := by decide +kernel
  have hnames : ∀ c ∈ (dirs ++ [file]).map Path.spelled, ∃ name, c = .normal name := fun c hc => by
    obtain ⟨name, -, rfl⟩ := List.mem_map.1 hc
    exact ⟨_, rfl⟩
  rw [placed, Path.components_join_of_normal (hrelative ▸ hnames),
    Path.components_join_of_normal (hkind ▸ by simp [Path.spelled]),
    Path.components_join_of_normal (happ ▸ by simp), happ, hkind, hrelative]
  simp only [List.append_assoc, List.cons_append, List.nil_append]

/-- What is read off the components behind the first `grails-app`. -/
theorem named_of_components {above deeper : List Path.Component} {first : Path.Component}
    (h : p.components = above ++ .normal appDirectory :: first ::
      (deeper ++ (dirs ++ [file]).map Path.spelled))
    (habove : .normal appDirectory ∉ above) :
    kind? p = nameText? first ∧
      className? p =
        some (".".intercalate (deeper.filterMap nameText? ++ dirs ++ [stemOf file])) := by
  have hlast : (deeper ++ (dirs ++ [file]).map Path.spelled).getLast? =
      some (.normal (Utf8.encode file)) := by
    rw [List.map_append, ← List.append_assoc]
    exact List.getLast?_concat
  have hdirs : (deeper ++ (dirs ++ [file]).map Path.spelled).dropLast.filterMap nameText? =
      deeper.filterMap nameText? ++ dirs := by
    rw [List.map_append, ← List.append_assoc, List.map_singleton, List.dropLast_concat,
      List.filterMap_append, filterMap_nameText?_spelled]
  rw [kind?, className?, componentsBelowApp?_eq h habove]
  generalize deeper ++ (dirs ++ [file]).map Path.spelled = below at hlast hdirs
  simp [hlast, hdirs, Path.splitName_encode, Utf8.decode?_encode]

/-- More names ahead of some make another class. -/
theorem intercalate_append_ne {names more : List String} (hnames : names ≠ []) (hmore : more ≠ []) :
    ".".intercalate (names ++ more) ≠ ".".intercalate more := by
  intro h
  have hlength := congrArg String.length h
  rw [String.intercalate_append_of_ne_nil hnames hmore, String.length_append,
    String.length_append] at hlength
  have hstop : ".".length = 1 := rfl
  omega

/-- **An artefact goes by its place below the kind exactly if the project does not lie below a
`grails-app`.** Otherwise the first one counts: what stands behind it is the kind, and all that is
below that names the class. -/
theorem named_by_place_iff_outside
    (hkind : (Path.ofString kind).components = [Path.spelled kind])
    (hrelative : relative.components = (dirs ++ [file]).map Path.spelled)
    (hp : p.same (placed checkout kind relative) = true) :
    (className? p = some (".".intercalate (dirs ++ [stemOf file])) ↔
        .normal appDirectory ∉ checkout.components) ∧
      (.normal appDirectory ∉ checkout.components → kind? p = some kind) ∧
      ∀ above first deeper, checkout.components ++ [.normal appDirectory, Path.spelled kind] =
          above ++ .normal appDirectory :: first :: deeper → .normal appDirectory ∉ above →
        kind? p = nameText? first ∧
          className? p =
            some (".".intercalate (deeper.filterMap nameText? ++ dirs ++ [stemOf file])) := by
  have hcomponents := (Path.same_iff.1 hp).trans (components_placed hkind hrelative)
  have hread (above : List Path.Component) (first : Path.Component) (deeper : List Path.Component)
      (hsplit : checkout.components ++ [.normal appDirectory, Path.spelled kind] =
        above ++ .normal appDirectory :: first :: deeper) :
      p.components = above ++ .normal appDirectory :: first ::
        (deeper ++ (dirs ++ [file]).map Path.spelled) := by
    rw [hcomponents]
    simpa using congrArg (· ++ (dirs ++ [file]).map Path.spelled) hsplit
  refine ⟨⟨fun hname hinside => ?_, fun houtside => ?_⟩, fun houtside => ?_,
    fun above first deeper hsplit => named_of_components (hread above first deeper hsplit)⟩
  · -- the kind is then one of the names ahead of the place
    obtain ⟨above, rest, hcheckout, habove⟩ := List.eq_append_cons_of_mem hinside
    obtain ⟨first, deeper, hrest, hmem⟩ : ∃ first deeper,
        rest ++ [.normal appDirectory, Path.spelled kind] = first :: deeper ∧
          Path.spelled kind ∈ deeper := by
      cases rest with
      | nil => exact ⟨_, _, rfl, List.mem_singleton_self _⟩
      | cons c more => exact ⟨c, _, rfl, by simp⟩
    have hsplit : checkout.components ++ [.normal appDirectory, Path.spelled kind] =
        above ++ .normal appDirectory :: first :: deeper := by
      rw [hcheckout, ← hrest]
      simp
    have hnames : deeper.filterMap nameText? ≠ [] :=
      List.ne_nil_of_mem (List.mem_filterMap.2 ⟨_, hmem, nameText?_spelled kind⟩)
    have hmisnamed := (named_of_components (hread above first deeper hsplit) habove).2
    rw [hname, List.append_assoc] at hmisnamed
    exact intercalate_append_ne hnames (by simp) (Option.some.inj hmisnamed).symm
  · simpa using (named_of_components (hread _ (Path.spelled kind) [] rfl) houtside).2
  · rw [(named_of_components (hread _ (Path.spelled kind) [] rfl) houtside).1, nameText?_spelled]

end Artefact

/-- A checkout that is reached through a directory above it, and a way through the project with a
separator and a full stop too many. -/
theorem odd_spelling_named_by_place :
    let checkout : Path := .ofString "work/../grails-apps"
    let relative : Path := .ofString "org//lib/./Book.domain.groovy"
    let p : Path := .ofString "work/../grails-apps//grails-app/domain/./org/lib/Book.domain.groovy"
    ((Path.ofString "domain").components = [Path.spelled "domain"] ∧
      relative.components = (["org", "lib"] ++ ["Book.domain.groovy"]).map Path.spelled ∧
      p.same (Artefact.placed checkout "domain" relative) = true ∧
      .normal Artefact.appDirectory ∉ checkout.components) ∧
    Artefact.className? p = some "org.lib.Book.domain" ∧ Artefact.kind? p = some "domain" := by
  intro checkout relative p
  have hkind : (Path.ofString "domain").components = [Path.spelled "domain"] := by decide +kernel
  have hrelative : relative.components =
      (["org", "lib"] ++ ["Book.domain.groovy"]).map Path.spelled := by decide +kernel
  have hp : p.same (Artefact.placed checkout "domain" relative) = true := by decide +kernel
  have houtside : .normal Artefact.appDirectory ∉ checkout.components := by decide +kernel
  have hname : ".".intercalate (["org", "lib"] ++ [stemOf "Book.domain.groovy"]) =
      "org.lib.Book.domain" := by decide +kernel
  have hnamed := Artefact.named_by_place_iff_outside hkind hrelative hp
  exact ⟨⟨hkind, hrelative, hp, houtside⟩, hname ▸ hnamed.1.2 houtside, hnamed.2.1 houtside⟩

/-- A plugin that is kept in the `grails-app` of an application. Its domain class is taken for one of
the kind `plugins`, and the directories from there to the plugin stand in the name of the class. -/
theorem nested_plugin_misnamed :
    let checkout : Path := .ofString "/srv/grails-app/plugins/shop"
    let relative : Path := .ofString "org/Book.groovy"
    let p := Artefact.placed checkout "domain" relative
    (p = .ofString "/srv/grails-app/plugins/shop/grails-app/domain/org/Book.groovy" ∧
      (Path.ofString "domain").components = [Path.spelled "domain"] ∧
      relative.components = (["org"] ++ ["Book.groovy"]).map Path.spelled) ∧
    (Artefact.className? p = some "shop.grails-app.domain.org.Book" ∧
      Artefact.kind? p = some "plugins") ∧
    Artefact.className? p ≠ some (".".intercalate (["org"] ++ [stemOf "Book.groovy"])) ∧
      Artefact.kind? p ≠ some "domain" := by
  decide +kernel

end StaleBuild
