import StaleBuild.Config.Project
import StaleBuild.Proofs.Destination
import StaleBuild.Proofs.Outline

/-!
# Which project files are accepted

A project file that is a document is loaded exactly if the document writes a configuration with
values that may stand there; the configuration is then the one that is written. Otherwise one thing
is reported:

    the first offence against the outline, if there is one
    the first refused value in the order of `Checked.all`, if the document has its outline

The outlines say how a configuration is written. A section is a table with no other names than those
of its fields, or a list that starts with the values of its fields. Such a list may end ahead of a
list of texts, and what stands behind the last field is not looked at. Offences come in the order of
the tables as they are read, so a table that is written at several places counts as a whole at one of
them.
-/

namespace StaleBuild

namespace ProjectConfig

open Toml (Outline)

/-! ## Outlines -/

/-- A table has to give the name, and a list cannot end ahead of it. -/
def projectOutline : Outline (Option String) where
  title := "struct ProjectSection"
  slots := [.text "name" "a string" true id id]

def buildOutline : Outline BuildSection where
  title := "struct BuildSection"
  slots :=
    [.texts "sources" "path string" BuildSection.sources Path.ofString,
      .text "destination" "path string" false BuildSection.destination Path.ofString]

def compilerOutline : Outline CompilerSection where
  title := "struct CompilerSection"
  slots :=
    [.text "command" "a string" false CompilerSection.command id,
      .texts "args" "a string" CompilerSection.args id]

def pluginsOutline : Outline PluginsSection where
  title := "struct PluginsSection"
  slots := [.texts "artefacts" "path string" PluginsSection.artefacts Path.ofString]

/-- The four sections, each of which may be missing. -/
def outline : Outline ProjectConfig where
  title := "struct ProjectConfig"
  slots :=
    [.record "project" projectOutline fun c => c.project.map fun s => some s.name,
      .record "build" buildOutline ProjectConfig.build,
      .record "compiler" compilerOutline ProjectConfig.compiler,
      .record "plugins" pluginsOutline ProjectConfig.plugins]

theorem asString_eq (v : Toml) : asString v = (Toml.asText "a string" v).map id := by
  unfold asString
  cases Toml.asText "a string" v <;> rfl

theorem asPath_eq (v : Toml) : asPath v = (Toml.asText "path string" v).map Path.ofString := rfl

open Toml (Slot)

theorem projectOutline_describes : projectOutline.Describes projectRecord where
  title := rfl
  names := rfl
  nodup := by decide
  slots := List.forall_mem_singleton.2 <|
    Slot.describes_text (fun _ s => some s) rfl rfl (fun _ v => by rw [← asString_eq]; rfl)
      fun _ _ => rfl
  frame := Toml.frame_of_singleton
  unique h := by
    obtain ⟨_, ha, hb⟩ := h _ List.mem_cons_self
    exact Slot.view_unique_text ha hb
  lacks {a given} h := by
    obtain ⟨s, hs, rfl⟩ := h _ List.mem_cons_self
    change given.lookup "name" = s.map Toml.text at hs
    simp only [projectOutline, Slot.text, List.find?_cons, List.find?_nil]
    rw [hs]
    cases s <;> rfl

theorem buildOutline_describes : buildOutline.Describes buildRecord where
  title := rfl
  names := rfl
  nodup := by decide
  slots := by
    refine List.forall_mem_cons.2 ⟨?sources, List.forall_mem_singleton.2 ?destination⟩
    case sources =>
      exact Slot.describes_texts (fun s sources => { s with sources }) asPath_eq rfl rfl
        (fun _ _ => rfl) fun _ _ => rfl
    case destination =>
      exact Slot.describes_text (fun s destination => { s with destination := some destination })
        rfl rfl (fun _ _ => rfl) fun _ _ => rfl
  frame := by
    refine Toml.frame_of_pair ?_ ?_ <;> intro a b v hassign w hagrees
    · obtain ⟨_, -, rfl⟩ := Toml.map_eq_ok_iff.1 hassign
      exact hagrees
    · obtain ⟨_, -, rfl⟩ := Toml.map_eq_ok_iff.1 hassign
      exact hagrees
  unique {a b} h := by
    obtain ⟨_, ha, hb⟩ := h _ List.mem_cons_self
    have hsources : a.sources = b.sources := Slot.view_unique_texts ha hb
    obtain ⟨_, ha, hb⟩ := h _ (List.mem_cons_of_mem _ List.mem_cons_self)
    have hdestination : a.destination = b.destination := Slot.view_unique_text ha hb
    obtain ⟨_, _⟩ := a
    cases hsources
    cases hdestination
    rfl
  lacks _ := rfl

theorem compilerOutline_describes : compilerOutline.Describes compilerRecord where
  title := rfl
  names := rfl
  nodup := by decide
  slots := by
    refine List.forall_mem_cons.2 ⟨?command, List.forall_mem_singleton.2 ?args⟩
    case command =>
      exact Slot.describes_text (fun s command => { s with command := some command }) rfl rfl
        (fun _ v => by rw [← asString_eq]; rfl) fun _ _ => rfl
    case args =>
      exact Slot.describes_texts (fun s args => { s with args }) asString_eq rfl rfl
        (fun _ _ => rfl) fun _ _ => rfl
  frame := by
    refine Toml.frame_of_pair ?_ ?_ <;> intro a b v hassign w hagrees
    · obtain ⟨_, -, rfl⟩ := Toml.map_eq_ok_iff.1 hassign
      exact hagrees
    · obtain ⟨_, -, rfl⟩ := Toml.map_eq_ok_iff.1 hassign
      exact hagrees
  unique {a b} h := by
    obtain ⟨_, ha, hb⟩ := h _ List.mem_cons_self
    have hcommand : a.command = b.command := Slot.view_unique_text ha hb
    obtain ⟨_, ha, hb⟩ := h _ (List.mem_cons_of_mem _ List.mem_cons_self)
    have hargs : a.args = b.args := Slot.view_unique_texts ha hb
    obtain ⟨_, _⟩ := a
    cases hcommand
    cases hargs
    rfl
  lacks _ := rfl

theorem pluginsOutline_describes : pluginsOutline.Describes pluginsRecord where
  title := rfl
  names := rfl
  nodup := by decide
  slots := List.forall_mem_singleton.2 <|
    Slot.describes_texts (fun _ artefacts => ⟨artefacts⟩) asPath_eq rfl rfl (fun _ _ => rfl)
      fun _ _ => rfl
  frame := Toml.frame_of_singleton
  unique {a b} h := by
    obtain ⟨_, ha, hb⟩ := h _ List.mem_cons_self
    have hartefacts : a.artefacts = b.artefacts := Slot.view_unique_texts ha hb
    obtain ⟨_⟩ := a
    cases hartefacts
    rfl
  lacks _ := rfl

/-- A written project has a name, in whichever form it is written. -/
theorem isSome_of_writes {v : Toml} {name? : Option String} (h : projectOutline.Writes v name?) :
    name?.isSome := by
  obtain ⟨s, hs, rfl⟩ := h.agrees _ List.mem_cons_self
  change (projectOutline.given v).lookup "name" = s.map Toml.text at hs
  have hcomplete := h.complete
  cases v with
  | table fields =>
    have hgiven := hcomplete _ List.mem_cons_self rfl
    change (fields.lookup "name").isSome at hgiven
    change fields.lookup "name" = s.map Toml.text at hs
    rw [hs] at hgiven
    simpa using hgiven
  | list items =>
    cases items with
    | nil => exact absurd (hcomplete _ List.mem_cons_self) Bool.false_ne_true
    | cons w rest =>
      cases s with
      | none => cases hs
      | some s => rfl
  | _ => exact hcomplete.elim

theorem outline_describes : outline.Describes record where
  title := rfl
  names := rfl
  nodup := by decide
  slots := by
    refine List.forall_mem_cons.2 ⟨?project, List.forall_mem_cons.2 ⟨?build,
      List.forall_mem_cons.2 ⟨?compiler, List.forall_mem_singleton.2 ?plugins⟩⟩⟩
    case project =>
      refine Slot.describes_record projectOutline_describes
        (fun c name? => { c with project := name?.map ProjectSection.mk }) rfl rfl (fun _ _ => rfl) ?_
      intro c v name? hwrites
      obtain ⟨name, rfl⟩ := Option.isSome_iff_exists.1 (isSome_of_writes hwrites)
      rfl
    case build =>
      exact Slot.describes_record buildOutline_describes (fun c s => { c with build := some s })
        rfl rfl (fun _ _ => rfl) fun _ _ _ _ => rfl
    case compiler =>
      exact Slot.describes_record compilerOutline_describes
        (fun c s => { c with compiler := some s }) rfl rfl (fun _ _ => rfl) fun _ _ _ _ => rfl
    case plugins =>
      exact Slot.describes_record pluginsOutline_describes
        (fun c s => { c with plugins := some s }) rfl rfl (fun _ _ => rfl) fun _ _ _ _ => rfl
  frame := by
    intro slot hslot name hname hne a b v hassign w hagrees
    have hnames : name = "project" ∨ name = "build" ∨ name = "compiler" ∨ name = "plugins" := by
      simpa [Outline.names, outline, Slot.record] using hname
    simp only [outline, List.mem_cons, List.not_mem_nil, or_false] at hslot
    -- a section is put in its own place, and all other slots look elsewhere
    rcases hnames with rfl | rfl | rfl | rfl <;>
      obtain ⟨_, -, rfl⟩ := Toml.map_eq_ok_iff.1 hassign <;>
      rcases hslot with rfl | rfl | rfl | rfl
    all_goals first
      | exact absurd rfl hne
      | exact hagrees
  unique {a b} h := by
    simp only [outline, List.forall_mem_cons] at h
    obtain ⟨⟨_, hp, hp'⟩, ⟨_, hb, hb'⟩, ⟨_, hc, hc'⟩, ⟨_, hl, hl'⟩, -⟩ := h
    have hproject := Slot.view_unique_record projectOutline_describes hp hp'
    have hbuild := Slot.view_unique_record buildOutline_describes hb hb'
    have hcompiler := Slot.view_unique_record compilerOutline_describes hc hc'
    have hplugins := Slot.view_unique_record pluginsOutline_describes hl hl'
    have hinjective : Function.Injective fun s : ProjectSection => some s.name := by
      rintro ⟨_⟩ ⟨_⟩ heq
      cases heq
      rfl
    have hproject := Option.map_injective hinjective hproject
    obtain ⟨_, _, _, _⟩ := a
    cases hproject
    cases hbuild
    cases hcompiler
    cases hplugins
    rfl
  lacks _ := rfl

/-! ## Values -/

/-- The values that are checked in a configuration. -/
inductive Checked where
  | name
  | sources
  | destination
  | command

namespace Checked

/-- The order of the checks. -/
def all : List Checked := [.name, .sources, .destination, .command]

/-- The field with the value. -/
def field : Checked → String
  | .name => "project.name"
  | .sources => "build.sources"
  | .destination => "build.destination"
  | .command => "compiler.command"

/-- What may not be. -/
def Refuses (c : ProjectConfig) : Checked → Prop
  | .name => c.name? = some ""
  | .sources => ∃ source ∈ c.sources, source.isEmpty
  | .destination => ∃ destination, c.destination? = some destination ∧
      ∃ source ∈ c.sources, destination.same source
  | .command => ∃ command, c.command? = some command ∧ Text.isAllBlank command

/-- What is said about it. -/
def reason (c : ProjectConfig) : Checked → String
  | .name => "name cannot be empty"
  | .sources => "source directory cannot be empty"
  | .destination => "'" ++ (c.destination?.map Path.text).getD "" ++ "' is also a source directory"
  | .command => "command cannot be empty"

/-- A value is refused and none that is checked ahead of it. -/
def First (c : ProjectConfig) (k : Checked) : Prop :=
  ∃ before after, all = before ++ k :: after ∧ k.Refuses c ∧
    ∀ earlier ∈ before, ¬ earlier.Refuses c

/-- The check of one value. -/
def complaint? (c : ProjectConfig) : Checked → Option (String × String)
  | .name => c.nameComplaint?
  | .sources => c.sourcesComplaint?
  | .destination => c.destinationComplaint?
  | .command => c.commandComplaint?

/-- A check refuses what it should, with the field and the reason. -/
theorem complaint?_eq (c : ProjectConfig) (k : Checked) :
    (k.Refuses c ∧ k.complaint? c = some (k.field, k.reason c)) ∨
      (¬ k.Refuses c ∧ k.complaint? c = none) := by
  cases k with
  | name =>
    rw [complaint?, nameComplaint?]
    by_cases h : c.name? = some ""
    · exact .inl ⟨h, if_pos h⟩
    · exact .inr ⟨h, if_neg h⟩
  | sources =>
    rw [complaint?, sourcesComplaint?]
    by_cases h : c.sources.any Path.isEmpty
    · exact .inl ⟨List.any_eq_true.1 h, if_pos h⟩
    · exact .inr ⟨fun hrefuses => h (List.any_eq_true.2 hrefuses), if_neg h⟩
  | destination =>
    rw [complaint?, destinationComplaint?]
    cases hdestination : c.destination? with
    | none => exact .inr ⟨fun ⟨_, h, _⟩ => (by simp [hdestination] at h), rfl⟩
    | some destination =>
      by_cases h : c.sources.any (Path.same destination)
      · refine .inl ⟨⟨destination, hdestination, List.any_eq_true.1 h⟩, ?_⟩
        rw [reason, hdestination]
        exact if_pos h
      · refine .inr ⟨fun ⟨other, hother, hrefuses⟩ => h (List.any_eq_true.2 ?_), if_neg h⟩
        cases hdestination.symm.trans hother
        exact hrefuses
  | command =>
    rw [complaint?, commandComplaint?]
    cases hcommand : c.command? with
    | none => exact .inr ⟨fun ⟨_, h, _⟩ => (by simp [hcommand] at h), rfl⟩
    | some command =>
      by_cases h : Text.isAllBlank command
      · exact .inl ⟨⟨command, hcommand, h⟩, if_pos h⟩
      · refine .inr ⟨fun ⟨other, hother, hrefuses⟩ => h ?_, if_neg h⟩
        cases hcommand.symm.trans hother
        exact hrefuses

theorem complaint?_eq_none_iff {c : ProjectConfig} {k : Checked} :
    k.complaint? c = none ↔ ¬ k.Refuses c := by
  rcases complaint?_eq c k with ⟨hrefuses, heq⟩ | ⟨hrefuses, heq⟩ <;> simp [hrefuses, heq]

theorem complaint?_eq_some_iff {c : ProjectConfig} {k : Checked} {said : String × String} :
    k.complaint? c = some said ↔ k.Refuses c ∧ said = (k.field, k.reason c) := by
  rcases complaint?_eq c k with ⟨hrefuses, heq⟩ | ⟨hrefuses, heq⟩ <;> simp [hrefuses, heq, eq_comm]

end Checked

theorem complaint?_eq_findSome? (c : ProjectConfig) :
    c.complaint? = Checked.all.findSome? (Checked.complaint? c) := by
  simp only [complaint?, Checked.all, List.findSome?_cons, List.findSome?_nil, Checked.complaint?]
  cases c.nameComplaint? <;> cases c.sourcesComplaint? <;> cases c.destinationComplaint? <;>
    cases c.commandComplaint? <;> rfl

theorem validate_eq_ok_iff {c : ProjectConfig} :
    c.validate = .ok () ↔ ∀ k : Checked, ¬ k.Refuses c := by
  have hnone : c.validate = .ok () ↔ c.complaint? = none := by
    rw [validate]
    cases c.complaint? <;> simp
  rw [hnone, complaint?_eq_findSome?, List.findSome?_eq_none_iff]
  constructor
  · intro h k
    exact Checked.complaint?_eq_none_iff.1 (h k (by cases k <;> simp [Checked.all]))
  · exact fun h k _ => Checked.complaint?_eq_none_iff.2 (h k)

theorem validate_eq_error_iff {c : ProjectConfig} {e : ConfigError} :
    c.validate = .error e ↔ ∃ k : Checked, k.First c ∧ e = .invalidValue k.field (k.reason c) := by
  have hcomplaint : c.validate = .error e ↔
      ∃ said, c.complaint? = some said ∧ e = .invalidValue said.1 said.2 := by
    rw [validate]
    cases c.complaint? <;> simp [eq_comm]
  rw [hcomplaint, complaint?_eq_findSome?]
  simp only [List.findSome?_eq_some_iff]
  constructor
  · rintro ⟨said, ⟨before, k, after, hall, hsome, hnone⟩, rfl⟩
    obtain ⟨hrefuses, rfl⟩ := Checked.complaint?_eq_some_iff.1 hsome
    exact ⟨k, ⟨before, after, hall, hrefuses,
      fun earlier hearlier => Checked.complaint?_eq_none_iff.1 (hnone earlier hearlier)⟩, rfl⟩
  · rintro ⟨k, ⟨before, after, hall, hrefuses, hnone⟩, rfl⟩
    exact ⟨_, ⟨before, k, after, hall, Checked.complaint?_eq_some_iff.2 ⟨hrefuses, rfl⟩,
      fun earlier hearlier => Checked.complaint?_eq_none_iff.2 (hnone earlier hearlier)⟩, rfl⟩

/-! ## Loading -/

section Loading

variable {tree : FileTree} {file : Path} {text : String} {document : Toml}

/-- A document is read as a record, then the values are checked. -/
theorem load_eq (htext : tree.readText file = .ok text)
    (hdocument : Toml.read text = some document) :
    load tree file = match record.read document with
      | .error offence => .error (.badShape file offence)
      | .ok c => c.validate.map fun _ => c := by
  simp only [load, Config.readRecord, htext, hdocument]
  cases record.read document <;> rfl

theorem load_eq_ok_iff (htext : tree.readText file = .ok text)
    (hdocument : Toml.read text = some document) {c : ProjectConfig} :
    load tree file = .ok c ↔ record.read document = .ok c ∧ c.validate = .ok () := by
  rw [load_eq htext hdocument]
  cases record.read document with
  | error offence => simp
  | ok given =>
    simp only [Toml.map_eq_ok_iff, Except.ok.injEq]
    constructor
    · rintro ⟨_, hvalidate, rfl⟩
      exact ⟨rfl, hvalidate⟩
    · rintro ⟨rfl, hvalidate⟩
      exact ⟨(), hvalidate, rfl⟩

theorem load_eq_error_iff (htext : tree.readText file = .ok text)
    (hdocument : Toml.read text = some document) {e : ConfigError} :
    load tree file = .error e ↔
      (∃ offence, record.read document = .error offence ∧ e = .badShape file offence) ∨
        ∃ c, record.read document = .ok c ∧ c.validate = .error e := by
  rw [load_eq htext hdocument]
  cases record.read document with
  | error offence => simp [eq_comm]
  | ok given => simp [Toml.map_eq_error_iff]

/-- A document is loaded exactly if it writes a configuration without refused values, and that is
what is loaded. Otherwise the first offence is reported, and without one the first refused value. -/
theorem load_of_document (htext : tree.readText file = .ok text)
    (hdocument : Toml.read text = some document) :
    (∀ c, load tree file = .ok c ↔ outline.Writes document c ∧ ∀ k : Checked, ¬ k.Refuses c) ∧
      ∀ e, load tree file = .error e ↔
        (∃ offence, (outline.offences document).head? = some offence ∧
          e = .badShape file offence) ∨
        ∃ c k, outline.Writes document c ∧ Checked.First c k ∧
          e = .invalidValue k.field (k.reason c) := by
  have hdistinct := (Toml.distinct_of_read hdocument).2
  constructor
  · intro c
    rw [load_eq_ok_iff htext hdocument, outline_describes.read_eq_ok_iff hdistinct,
      validate_eq_ok_iff]
  · intro e
    rw [load_eq_error_iff htext hdocument]
    simp only [outline_describes.read_eq_ok_iff hdistinct,
      outline_describes.read_eq_error_iff hdistinct, validate_eq_error_iff, exists_and_left]

end Loading

end ProjectConfig

/-! ## At the edges -/

namespace Rehearsal

/-- The project file of `shopTree`. -/
def shopFile : Path := shop.join projectFileName

def mixedText : String := "plugins = [[\"core\", \"web\"]]\nproject.name = \"shop\"\n"

/-- A section that is a list, and one that is a table. -/
def mixedDocument : Toml :=
  .table [("plugins", .list [.list [.text "core", .text "web"]]),
    ("project", .table [("name", .text "shop")])]

def mixedConfig : ProjectConfig :=
  { ProjectConfig.empty with
    project := some ⟨"shop"⟩
    plugins := some ⟨[.ofString "core", .ofString "web"]⟩ }

end Rehearsal

open Rehearsal

namespace ProjectConfig

theorem mixed_document_loaded :
    (shopTree mixedText).readText shopFile = .ok mixedText ∧
      Toml.read mixedText = some mixedDocument ∧
      load (shopTree mixedText) shopFile = .ok mixedConfig ∧
      outline.Writes mixedDocument mixedConfig ∧ ∀ k : Checked, ¬ k.Refuses mixedConfig := by
  have htext : (shopTree mixedText).readText shopFile = .ok mixedText := by decide +kernel
  have hdocument : Toml.read mixedText = some mixedDocument := by decide +kernel
  have hload : load (shopTree mixedText) shopFile = .ok mixedConfig := by decide +kernel
  exact ⟨htext, hdocument, hload, ((load_of_document htext hdocument).1 mixedConfig).1 hload⟩

/-- A list may hold more than the fields and end ahead of a list of texts, but not ahead of a text
that a table need not give. A table at two places of a text is read at the first of them, with
all its offences. -/
theorem lists_and_scattered_tables_loaded :
    load (shopTree "build = [[\"src\"], \"out\", 3]\n") shopFile =
        .ok { empty with build := some ⟨[.ofString "src"], some (.ofString "out")⟩ } ∧
      load (shopTree "compiler = [\"groovyc\"]\n") shopFile =
        .ok { empty with compiler := some ⟨some "groovyc", []⟩ } ∧
      load (shopTree "build = [[\"src\"]]\n") shopFile =
        .error (.badShape shopFile (.invalidLength 1 "struct BuildSection" 2)) ∧
      load (shopTree "project.name = \"shop\"\nbuild.sources = 1\n") shopFile =
        .error (.badShape shopFile (.invalidType (.integer 1) "a sequence")) ∧
      load (shopTree "project.name = \"shop\"\nbuild.sources = 1\nproject.owner = \"me\"\n")
          shopFile =
        .error (.badShape shopFile (.unknownField "owner" ["name"])) := by
  refine ⟨?_, ?_, ?_, ?_, ?_⟩ <;> decide +kernel

end ProjectConfig

end StaleBuild
