import StaleBuild.Toml.Reader

/-!
# A document names nothing twice

A field of a table can be defined at several places of a document: behind a header, by a key with
full stops, in a table between braces. Every place asks first whether the name is taken

    define fields name d  =  none                      if name stands for something
                          =  fields ++ [(name, d)]     otherwise

and the other changes of a table keep its names or take some out. So whatever is read, no table in
it names a field twice (`distinct_of_read`), and looking a name up finds all that is said of it.
-/

namespace StaleBuild.Toml

/-- No table within a value names a field twice. -/
inductive Distinct : Toml → Prop where
  | text (s : String) : Distinct (.text s)
  | integer (n : Int) : Distinct (.integer n)
  | float (x : Decimal.Binary64) : Distinct (.float x)
  | boolean (b : Bool) : Distinct (.boolean b)
  | moment : Distinct .moment
  | list {items : List Toml} (values : ∀ v ∈ items, Distinct v) : Distinct (.list items)
  | table {fields : List (String × Toml)} (names : (fields.map Prod.fst).Nodup)
      (values : ∀ f ∈ fields, Distinct f.2) : Distinct (.table fields)

/-- The same of what is under construction. -/
inductive Draft.Distinct : Draft → Prop where
  | value {v : Toml} (h : v.Distinct) : Draft.Distinct (.value v)
  | table {origin : Origin} {fields : List (String × Draft)} (names : (fields.map Prod.fst).Nodup)
      (drafts : ∀ f ∈ fields, Draft.Distinct f.2) : Draft.Distinct (.table origin fields)
  | tables {items : List (List (String × Draft))}
      (names : ∀ fields ∈ items, (fields.map Prod.fst).Nodup)
      (drafts : ∀ fields ∈ items, ∀ f ∈ fields, Draft.Distinct f.2) :
      Draft.Distinct (.tables items)

namespace Fields

/-- The same of the fields of a table under construction. -/
structure Distinct (fields : Fields) : Prop where
  names : (List.map Prod.fst fields).Nodup
  drafts : ∀ f ∈ fields, f.2.Distinct

variable {fields : Fields} {name : String} {d : Draft}

theorem Distinct.nil : Distinct [] := ⟨List.nodup_nil, by simp⟩

theorem distinct_iff_table {origin : Origin} :
    fields.Distinct ↔ (Draft.table origin fields).Distinct := by
  constructor
  · exact fun h => .table h.names h.drafts
  · intro h
    cases h with
    | table names drafts => exact ⟨names, drafts⟩

theorem forall_distinct_iff_tables {items : List Fields} :
    (∀ fields ∈ items, fields.Distinct) ↔ (Draft.tables items).Distinct := by
  constructor
  · exact fun h => .tables (fun fields hmem => (h fields hmem).names)
      fun fields hmem => (h fields hmem).drafts
  · intro h
    cases h with
    | tables names drafts => exact fun fields hmem => ⟨names fields hmem, drafts fields hmem⟩

theorem mem_of_draft? (h : fields.draft? name = some d) : (name, d) ∈ fields := by
  unfold draft? at h
  obtain ⟨⟨_, _⟩, hfind, rfl⟩ := Option.map_eq_some_iff.1 h
  have hname := List.find?_some hfind
  simp only [decide_eq_true_eq] at hname
  exact hname ▸ List.mem_of_find?_eq_some hfind

theorem draft?_eq_none_iff : fields.draft? name = none ↔ name ∉ List.map Prod.fst fields := by
  unfold draft?
  simp only [Option.map_eq_none_iff, List.find?_eq_none, decide_eq_true_eq, List.mem_map, not_exists,
    not_and]

theorem Distinct.draft? (h : fields.Distinct) (hdraft : fields.draft? name = some d) :
    d.Distinct := h.drafts _ (mem_of_draft? hdraft)

theorem Distinct.append (h : fields.Distinct) (hnone : fields.draft? name = none)
    (hd : d.Distinct) : Fields.Distinct (fields ++ [(name, d)]) := by
  constructor
  · have hfresh := draft?_eq_none_iff.1 hnone
    rw [List.map_append, List.map_cons, List.map_nil, List.nodup_append]
    refine ⟨h.names, by simp, fun taken htaken added hadded heq => hfresh ?_⟩
    have hname : added = name := List.mem_singleton.1 hadded
    rwa [← hname, ← heq]
  · intro f hf
    rcases List.mem_append.1 hf with hf | hf
    · exact h.drafts f hf
    · exact List.mem_singleton.1 hf ▸ hd

theorem map_fst_replace : List.map Prod.fst (fields.replace name d) = List.map Prod.fst fields := by
  unfold replace
  rw [List.map_map]
  refine List.map_congr_left fun f _ => ?_
  by_cases hf : f.1 = name <;> simp [hf]

theorem Distinct.replace (h : fields.Distinct) (hd : d.Distinct) :
    (fields.replace name d).Distinct := by
  constructor
  · rw [map_fst_replace]
    exact h.names
  · intro f hf
    obtain ⟨old, hold, rfl⟩ := List.mem_map.1 hf
    split
    · exact hd
    · exact h.drafts old hold

theorem Distinct.without (h : fields.Distinct) : (fields.without name).Distinct := by
  unfold Fields.without
  exact ⟨h.names.sublist (List.filter_sublist.map _),
    fun f hf => h.drafts f (List.mem_filter.1 hf).1⟩

theorem Distinct.define {defined : Fields} (h : fields.Distinct) (hd : d.Distinct)
    (hdefine : fields.define name d = some defined) : defined.Distinct := by
  unfold Fields.define at hdefine
  split at hdefine
  · cases hdefine
  · next hnone =>
    cases hdefine
    exact h.append hnone hd

end Fields

/-! ## Along a path -/

/-- A change that leads from tables that name nothing twice to such tables. -/
def KeepsDistinct (change : Origin → Fields → Option Fields) : Prop :=
  ∀ own before after, Fields.Distinct before → change own before = some after → after.Distinct

/-- What a change keeps at the end of a path it keeps at its beginning. -/
theorem KeepsDistinct.changeAt {change : Origin → Fields → Option Fields}
    (hchange : KeepsDistinct change) (origin : Origin) (path : List String) :
    KeepsDistinct (changeAt origin change path) := by
  intro own fields
  induction path, own, fields using changeAt.induct origin with
  | case1 own fields => exact hchange own fields
  | case2 name path _ fields hnone ih =>
    intro after h heq
    rw [Toml.changeAt, hnone] at heq
    obtain ⟨inner, hinner, rfl⟩ := Option.map_eq_some_iff.1 heq
    exact h.append hnone (Fields.distinct_iff_table.1 (ih inner .nil hinner))
  | case3 name path _ fields v hdraft =>
    intro after _ heq
    rw [Toml.changeAt, hdraft] at heq
    cases heq
  | case4 name path _ fields own inner hdraft hshut =>
    intro after _ heq
    rw [Toml.changeAt, hdraft] at heq
    simp only [if_pos hshut, reduceCtorEq] at heq
  | case5 name path _ fields own inner hdraft hopen ih =>
    intro after h heq
    rw [Toml.changeAt, hdraft] at heq
    simp only [if_neg hopen] at heq
    obtain ⟨changed, hchanged, rfl⟩ := Option.map_eq_some_iff.1 heq
    have hinner := Fields.distinct_iff_table.2 (h.draft? hdraft)
    exact h.replace (Fields.distinct_iff_table.1 (ih changed hinner hchanged))
  | case6 name path _ fields items hdraft hlast =>
    intro after _ heq
    rw [Toml.changeAt, hdraft] at heq
    simp only [hlast, reduceCtorEq] at heq
  | case7 name path _ fields items hdraft last hlast ih =>
    intro after h heq
    rw [Toml.changeAt, hdraft] at heq
    simp only [hlast] at heq
    obtain ⟨changed, hchanged, rfl⟩ := Option.map_eq_some_iff.1 heq
    have hitems := Fields.forall_distinct_iff_tables.2 (h.draft? hdraft)
    refine h.replace (Fields.forall_distinct_iff_tables.1 fun item hitem => ?_)
    rcases List.mem_append.1 hitem with hitem | hitem
    · exact hitems item (List.dropLast_subset items hitem)
    · rw [List.mem_singleton.1 hitem]
      exact ih changed (hitems last (List.mem_of_getLast? hlast)) hchanged

theorem Fields.Distinct.defineKey {fields defined : Fields} {path : List String} {name : String}
    {v : Toml} (h : fields.Distinct) (hv : v.Distinct)
    (hdefine : Toml.defineKey fields path name v = some defined) : defined.Distinct := by
  refine KeepsDistinct.changeAt (fun own before after hbefore hafter => ?_) .dotted path _ _ _ h
    hdefine
  split at hafter
  · cases hafter
  · exact hbefore.define (.value hv) hafter

/-! ## Finished tables -/

theorem map_fst_finishFields (fields : List (String × Draft)) :
    (finishFields fields).map Prod.fst = fields.map Prod.fst := by
  induction fields with
  | nil => rfl
  | cons f rest ih =>
    rw [finishFields, List.map_cons, List.map_cons, ih]

mutual

theorem Draft.Distinct.finish : ∀ {d : Draft}, d.Distinct → d.finish.Distinct
  | .value _, .value h => h
  | .table _ fields, .table names drafts =>
    .table (map_fst_finishFields fields ▸ names) (distinct_of_mem_finishFields drafts)
  | .tables _, .tables names drafts => .list (distinct_of_mem_finishItems names drafts)

theorem distinct_of_mem_finishFields : ∀ {fields : List (String × Draft)},
    (∀ f ∈ fields, f.2.Distinct) → ∀ f ∈ finishFields fields, f.2.Distinct
  | [], _ => by simp [finishFields]
  | (name, d) :: rest, h => by
    rw [finishFields, List.forall_mem_cons]
    rw [List.forall_mem_cons] at h
    exact ⟨h.1.finish, distinct_of_mem_finishFields h.2⟩

theorem distinct_of_mem_finishItems : ∀ {items : List (List (String × Draft))},
    (∀ fields ∈ items, (fields.map Prod.fst).Nodup) →
    (∀ fields ∈ items, ∀ f ∈ fields, f.2.Distinct) → ∀ v ∈ finishItems items, v.Distinct
  | [], _, _ => by simp [finishItems]
  | fields :: rest, names, drafts => by
    rw [finishItems, List.forall_mem_cons]
    rw [List.forall_mem_cons] at names drafts
    exact ⟨.table (map_fst_finishFields fields ▸ names.1) (distinct_of_mem_finishFields drafts.1),
      distinct_of_mem_finishItems names.2 drafts.2⟩

end

theorem Fields.Distinct.finish {fields : Fields} (h : fields.Distinct) :
    (Toml.table (finishFields fields)).Distinct :=
  ((@Fields.distinct_iff_table fields .header).1 h).finish

/-! ## Values -/

theorem distinct_of_inlineTable? {pairs : List (List String × Toml)} {v : Toml}
    (hpairs : ∀ pair ∈ pairs, pair.2.Distinct) (h : inlineTable? pairs = some v) : v.Distinct := by
  unfold inlineTable? at h
  obtain ⟨fields, hfields, rfl⟩ := Option.map_eq_some_iff.1 h
  -- a pair that is refused spoils the table, so the invariant speaks of fields if there are any
  refine (List.foldlRecOn (motive := fun before : Option Fields =>
    ∀ fields, before = some fields → fields.Distinct) pairs _ ?start ?step fields hfields).finish
  case start =>
    intro fields heq
    exact Option.some.inj heq ▸ .nil
  case step =>
    intro before hbefore pair hpair after hafter
    obtain ⟨between, hbetween, hafter⟩ := Option.bind_eq_some_iff.1 hafter
    obtain ⟨name, -, hdefine⟩ := Option.bind_eq_some_iff.1 hafter
    exact (hbefore between hbetween).defineKey (hpairs pair hpair) hdefine

theorem distinct_of_integer? {n : Int} {v : Toml} (h : integer? n = some v) : v.Distinct := by
  unfold integer? at h
  split at h
  · cases h
    exact .integer n
  · cases h

theorem distinct_of_readInteger {word : List Char} {v : Toml} (h : readInteger word = some v) :
    v.Distinct := by
  unfold readInteger at h
  split at h
  all_goals
    obtain ⟨_, -, hinteger⟩ := Option.bind_eq_some_iff.1 h
    exact distinct_of_integer? hinteger

theorem distinct_of_readFloat {word : List Char} {v : Toml} (h : readFloat word = some v) :
    v.Distinct := by
  unfold readFloat at h
  split at h
  split at h
  · cases h
    exact .float _
  · split at h
    · cases h
      exact .float _
    · dsimp only at h
      split at h
      · cases h
      · split at h
        · split at h
          · cases h
          · cases h
            exact .float _
        · cases h

theorem distinct_of_wordValue? {word : List Char} {v : Toml} (h : wordValue? word = some v) :
    v.Distinct := by
  unfold wordValue? at h
  split at h
  · cases h
    exact .boolean true
  · split at h
    · cases h
      exact .boolean false
    · split at h
      · cases h
        exact .moment
      · rw [Option.orElse_eq_or, Option.or_eq_some_iff] at h
        rcases h with h | ⟨-, h⟩
        · exact distinct_of_readInteger h
        · exact distinct_of_readFloat h

/-- Whatever is read with this much fuel names nothing twice. -/
structure ReadsDistinct (fuel : Nat) : Prop where
  value : ∀ depth cs v rest, readValue fuel depth cs = some (v, rest) → v.Distinct
  items : ∀ depth cs items rest, readItems fuel depth cs = some (items, rest) →
    ∀ v ∈ items, v.Distinct
  pairs : ∀ depth cs pairs rest, readPairs fuel depth cs = some (pairs, rest) →
    ∀ pair ∈ pairs, pair.2.Distinct

namespace ReadsDistinct

variable {fuel depth : Nat} {cs rest : List Char}

theorem value_succ (ih : ReadsDistinct fuel) {v : Toml}
    (h : readValue (fuel + 1) depth cs = some (v, rest)) : v.Distinct := by
  unfold readValue at h
  split at h
  · split at h
    · cases h
    · obtain ⟨⟨items, _⟩, hitems, heq⟩ := Option.map_eq_some_iff.1 h
      cases heq
      exact .list (ih.items _ _ _ _ hitems)
  · split at h
    · cases h
    · split at h
      · cases h
        exact .table List.nodup_nil (by simp)
      · obtain ⟨⟨pairs, _⟩, hpairs, h⟩ := Option.bind_eq_some_iff.1 h
        obtain ⟨table, htable, heq⟩ := Option.bind_eq_some_iff.1 h
        cases heq
        exact distinct_of_inlineTable? (ih.pairs _ _ _ _ hpairs) htable
  · obtain ⟨⟨s, _⟩, -, heq⟩ := Option.map_eq_some_iff.1 h
    cases heq
    exact .text _
  · obtain ⟨⟨s, _⟩, -, heq⟩ := Option.map_eq_some_iff.1 h
    cases heq
    exact .text _
  · obtain ⟨word, hword, heq⟩ := Option.map_eq_some_iff.1 h
    cases heq
    exact distinct_of_wordValue? hword

theorem items_succ (ih : ReadsDistinct fuel) {items : List Toml}
    (h : readItems (fuel + 1) depth cs = some (items, rest)) : ∀ v ∈ items, v.Distinct := by
  unfold readItems at h
  split at h
  · cases h
  · cases h
    simp
  · obtain ⟨⟨v, _⟩, hv, h⟩ := Option.bind_eq_some_iff.1 h
    have hv := ih.value _ _ _ _ hv
    obtain ⟨behind, -, h⟩ := Option.bind_eq_some_iff.1 h
    split at h
    · obtain ⟨⟨more, _⟩, hmore, heq⟩ := Option.bind_eq_some_iff.1 h
      cases heq
      exact List.forall_mem_cons.2 ⟨hv, ih.items _ _ _ _ hmore⟩
    · cases h
      exact List.forall_mem_singleton.2 hv
    · cases h

theorem pairs_succ (ih : ReadsDistinct fuel) {pairs : List (List String × Toml)}
    (h : readPairs (fuel + 1) depth cs = some (pairs, rest)) : ∀ pair ∈ pairs, pair.2.Distinct := by
  unfold readPairs at h
  obtain ⟨⟨path, _⟩, -, h⟩ := Option.bind_eq_some_iff.1 h
  dsimp only at h
  split at h
  · obtain ⟨⟨v, _⟩, hv, h⟩ := Option.bind_eq_some_iff.1 h
    have hv := ih.value _ _ _ _ hv
    dsimp only at h
    split at h
    · obtain ⟨⟨more, _⟩, hmore, heq⟩ := Option.bind_eq_some_iff.1 h
      cases heq
      exact List.forall_mem_cons.2 ⟨hv, ih.pairs _ _ _ _ hmore⟩
    · cases h
      exact List.forall_mem_singleton.2 hv
    · cases h
  · cases h

end ReadsDistinct

theorem readsDistinct (fuel : Nat) : ReadsDistinct fuel := by
  induction fuel with
  | zero =>
    refine ⟨fun _ _ _ _ h => ?_, fun _ _ _ _ h => ?_, fun _ _ _ _ h => ?_⟩
    · unfold readValue at h
      cases h
    · unfold readItems at h
      cases h
    · unfold readPairs at h
      cases h
  | succ fuel ih =>
    exact ⟨fun _ _ _ _ => ih.value_succ, fun _ _ _ _ => ih.items_succ, fun _ _ _ _ => ih.pairs_succ⟩

/-! ## Documents -/

namespace Drafting

/-- What is finished and what is being filled name nothing twice. -/
structure Distinct (d : Drafting) : Prop where
  root : d.root.Distinct
  fields : d.fields.Distinct

variable {d left : Drafting}

theorem Distinct.start : start.Distinct := ⟨.nil, .nil⟩

theorem Distinct.close (h : d.Distinct) {root : Fields} (hclose : d.close = some root) :
    root.Distinct := by
  unfold Drafting.close at hclose
  split at hclose
  · exact Option.some.inj hclose ▸ h.fields
  · next name _ =>
    refine KeepsDistinct.changeAt (fun _ parent after hparent hafter => ?_) .implied _ _ _ _ h.root
      hclose
    split at hafter
    · split at hafter
      · next hnone =>
        cases hafter
        refine hparent.append hnone (Fields.forall_distinct_iff_tables.1 ?_)
        exact List.forall_mem_singleton.2 h.fields
      · next items hdraft =>
        cases hafter
        have hitems := Fields.forall_distinct_iff_tables.2 (hparent.draft? hdraft)
        refine hparent.replace (Fields.forall_distinct_iff_tables.1 ?_)
        exact List.forall_mem_append.2 ⟨hitems, List.forall_mem_singleton.2 h.fields⟩
      · cases hafter
    · exact hparent.define (Fields.distinct_iff_table.1 h.fields) hafter

theorem distinct_of_fieldsAt {fields inner : Fields} {path : List String} (h : fields.Distinct)
    (hat : openTable.fieldsAt fields path = some inner) : inner.Distinct := by
  induction path generalizing fields with
  | nil =>
    cases hat
    exact h
  | cons name path ih =>
    unfold openTable.fieldsAt at hat
    split at hat
    · next hdraft => exact ih (Fields.distinct_iff_table.2 (h.draft? hdraft)) hat
    · next items hdraft =>
      obtain ⟨last, hlast, hat⟩ := Option.bind_eq_some_iff.1 hat
      have hitems := Fields.forall_distinct_iff_tables.2 (h.draft? hdraft)
      exact ih (hitems last (List.mem_of_getLast? hlast)) hat
    · cases hat

theorem distinct_of_claim {parent inner : Fields} {name : String} (h : parent.Distinct)
    (hclaim : claim parent name = some inner) : inner.Distinct := by
  unfold claim at hclaim
  split at hclaim
  · exact Option.some.inj hclaim ▸ .nil
  · next hdraft =>
    cases hclaim
    exact Fields.distinct_iff_table.2 (h.draft? hdraft)
  · cases hclaim

theorem Distinct.openTable (h : d.Distinct) {path : List String}
    (hopen : d.openTable path = some left) : left.Distinct := by
  obtain ⟨root, hclose, hopen⟩ := Option.bind_eq_some_iff.1 hopen
  obtain ⟨name, -, hopen⟩ := Option.bind_eq_some_iff.1 hopen
  obtain ⟨rest, hrest, heq⟩ := Option.bind_eq_some_iff.1 hopen
  cases heq
  have hroot := h.close hclose
  constructor
  · refine KeepsDistinct.changeAt (fun _ parent after hparent hafter => ?_) .implied _ _ _ _ hroot
      hrest
    obtain ⟨_, -, rfl⟩ := Option.map_eq_some_iff.1 hafter
    exact hparent.without
  · cases hat : (openTable.fieldsAt root path.dropLast).bind (claim · name) with
    | none => exact .nil
    | some inner =>
      obtain ⟨parent, hparent, hclaim⟩ := Option.bind_eq_some_iff.1 hat
      exact distinct_of_claim (distinct_of_fieldsAt hroot hparent) hclaim

theorem Distinct.openListed (h : d.Distinct) {path : List String}
    (hopen : d.openListed path = some left) : left.Distinct := by
  obtain ⟨root, hclose, hopen⟩ := Option.bind_eq_some_iff.1 hopen
  obtain ⟨name, -, hopen⟩ := Option.bind_eq_some_iff.1 hopen
  obtain ⟨root', hroot', heq⟩ := Option.bind_eq_some_iff.1 hopen
  cases heq
  refine ⟨?_, .nil⟩
  refine KeepsDistinct.changeAt (fun _ parent after hparent hafter => ?_) .implied _ _ _ _
    (h.close hclose) hroot'
  split at hafter
  · exact Option.some.inj hafter ▸ hparent
  · exact Option.some.inj hafter ▸ hparent
  · cases hafter

theorem Distinct.define (h : d.Distinct) {path : List String} {name : String} {v : Toml}
    (hv : v.Distinct) (hdefine : d.define path name v = some left) : left.Distinct := by
  obtain ⟨fields, hfields, rfl⟩ := Option.map_eq_some_iff.1 hdefine
  exact ⟨h.root, h.fields.defineKey hv hfields⟩

theorem Distinct.readDefinition (h : d.Distinct) {cs rest : List Char}
    (hread : readDefinition d cs = some (left, rest)) : left.Distinct := by
  unfold Toml.readDefinition at hread
  obtain ⟨⟨path, _⟩, -, hread⟩ := Option.bind_eq_some_iff.1 hread
  dsimp only at hread
  split at hread
  · obtain ⟨⟨v, _⟩, hv, hread⟩ := Option.bind_eq_some_iff.1 hread
    obtain ⟨_, -, hread⟩ := Option.bind_eq_some_iff.1 hread
    obtain ⟨name, -, hread⟩ := Option.bind_eq_some_iff.1 hread
    obtain ⟨_, hdefine, heq⟩ := Option.bind_eq_some_iff.1 hread
    cases heq
    exact h.define ((readsDistinct _).value _ _ _ _ hv) hdefine
  · cases hread

theorem Distinct.readHeader (h : d.Distinct) {cs rest : List Char}
    (hread : readHeader d cs = some (left, rest)) : left.Distinct := by
  unfold Toml.readHeader at hread
  split at hread
  · obtain ⟨⟨path, _⟩, -, hread⟩ := Option.bind_eq_some_iff.1 hread
    dsimp only at hread
    split at hread
    · obtain ⟨_, -, hread⟩ := Option.bind_eq_some_iff.1 hread
      obtain ⟨_, hopen, heq⟩ := Option.bind_eq_some_iff.1 hread
      cases heq
      exact h.openListed hopen
    · cases hread
  · obtain ⟨⟨path, _⟩, -, hread⟩ := Option.bind_eq_some_iff.1 hread
    dsimp only at hread
    split at hread
    · obtain ⟨_, -, hread⟩ := Option.bind_eq_some_iff.1 hread
      obtain ⟨_, hopen, heq⟩ := Option.bind_eq_some_iff.1 hread
      cases heq
      exact h.openTable hopen
    · cases hread
  · cases hread

/-- Line by line, nothing is named twice. -/
theorem Distinct.readLines (h : d.Distinct) {fuel : Nat} {cs : List Char}
    (hread : readLines fuel d cs = some left) : left.Distinct := by
  induction fuel generalizing d cs with
  | zero => cases hread
  | succ fuel ih =>
    unfold Toml.readLines at hread
    split at hread
    · cases hread
    · exact Option.some.inj hread ▸ h
    · obtain ⟨⟨next, _⟩, hheader, hread⟩ := Option.bind_eq_some_iff.1 hread
      exact ih (h.readHeader hheader) hread
    · obtain ⟨⟨next, _⟩, hdefinition, hread⟩ := Option.bind_eq_some_iff.1 hread
      exact ih (h.readDefinition hdefinition) hread

end Drafting

/-- A document is a table, and no table in it names a field twice. -/
theorem distinct_of_read {s : String} {v : Toml} (h : read s = some v) :
    (∃ fields, v = .table fields) ∧ v.Distinct := by
  obtain ⟨d, hlines, hfinish⟩ := Option.bind_eq_some_iff.1 h
  obtain ⟨root, hclose, rfl⟩ := Option.map_eq_some_iff.1 hfinish
  have hd := Drafting.Distinct.start.readLines hlines
  exact ⟨⟨_, rfl⟩, (hd.close hclose).finish⟩

end StaleBuild.Toml
