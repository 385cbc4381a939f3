import StaleBuild.Proofs.UniqueNames
import StaleBuild.Toml.Shape

/-!
# Records and their outlines

A record is read field by field, and reading stops at the first offence. An outline tells what there
is to be read without telling how: which record agrees with the values that its fields are given,
and all the offences of a value. If an outline describes how a record is read, then for a value that
names nothing twice

    read v = ok a     iff  a is written as v
    read v = error e  iff  e is the first offence of v

An outline consists of slots, one for each field, of three kinds: a text, a list of texts, and a
record with an outline of its own.
-/

namespace StaleBuild.Toml

/-! ## Outlines -/

/-- A field of a record, as the record is written down. -/
structure Slot (α : Type) where
  name : String
  /-- Whether a table has to give the field. -/
  required : Bool
  /-- Whether a list may end ahead of the field. -/
  optional : Bool
  /-- What is wrong with a value of the field. -/
  offences : Toml → List ShapeError
  /-- Whether a record agrees with this value of the field, or with none. -/
  Agrees : α → Option Toml → Prop

/-- The slots of a record in declaration order. -/
structure Outline (α : Type) where
  title : String
  slots : List (Slot α)

namespace Outline

variable {α : Type}

def names (o : Outline α) : List String := o.slots.map Slot.name

/-- The values that are given for fields: a table names the fields, a list goes by their order. -/
def given (o : Outline α) : Toml → List (String × Toml)
  | .table fields => fields
  | .list items => o.names.zip items
  | _ => []

/-- Nothing is missing: no required field in a table, none but optional ones behind a list. -/
def Complete (o : Outline α) : Toml → Prop
  | .table fields => ∀ slot ∈ o.slots, slot.required → (fields.lookup slot.name).isSome
  | .list items => ∀ slot ∈ o.slots.drop items.length, slot.optional
  | _ => False

/-- A record agrees with what is given for each of its fields. -/
def Agrees (o : Outline α) (a : α) (given : List (String × Toml)) : Prop :=
  ∀ slot ∈ o.slots, slot.Agrees a (given.lookup slot.name)

/-- A record is written as a value. -/
structure Writes (o : Outline α) (v : Toml) (a : α) : Prop where
  known : ∀ f ∈ o.given v, f.1 ∈ o.names
  complete : o.Complete v
  agrees : o.Agrees a (o.given v)

/-- The offences of what is given for one field. -/
def offencesAt (o : Outline α) (f : String × Toml) : List ShapeError :=
  match o.slots.find? (·.name = f.1) with
  | some slot => slot.offences f.2
  | none => [.unknownField f.1 o.names]

/-- The required fields that a table does not give. -/
def missing (o : Outline α) (fields : List (String × Toml)) : List ShapeError :=
  (o.slots.filter fun slot => slot.required && (fields.lookup slot.name).isNone).map
    (.missingField ·.name)

/-- The fields behind the end of a list that may not be missing there. -/
def cut (o : Outline α) (length : Nat) : List ShapeError :=
  ((o.slots.zipIdx.drop length).filter fun f => !f.1.optional).map
    (.invalidLength ·.2 o.title o.slots.length)

/-- What is wrong with a value besides what it gives. -/
def absences (o : Outline α) : Toml → List ShapeError
  | .table fields => o.missing fields
  | .list items => o.cut items.length
  | .moment => [.unknownField Record.momentField o.names]
  | v => [.invalidType v o.title]

/-- All offences of a value, those of what is given first. -/
def offences (o : Outline α) (v : Toml) : List ShapeError :=
  (o.given v).flatMap o.offencesAt ++ o.absences v

end Outline

/-! ## Kinds of slots -/

/-- The offence of a value that should be a text. -/
def textOffences (expected : String) : Toml → List ShapeError
  | .text _ => []
  | v => [.invalidType v expected]

/-- The offences of a value that should be a list of texts. -/
def textsOffences (expected : String) : Toml → List ShapeError
  | .list items => items.flatMap (textOffences expected)
  | v => [.invalidType v "a sequence"]

namespace Slot

variable {α β : Type}

/-- A text, or nothing. -/
def text (name expected : String) (required : Bool) (view : α → Option β) (ofText : String → β) :
    Slot α where
  name := name
  required := required
  optional := false
  offences := textOffences expected
  Agrees a w := ∃ s, w = Option.map Toml.text s ∧ view a = s.map ofText

/-- A list of texts, where nothing stands for none. -/
def texts (name expected : String) (view : α → List β) (ofText : String → β) : Slot α where
  name := name
  required := false
  optional := true
  offences := textsOffences expected
  Agrees a w := ∃ ss, w.getD (.list []) = .list (List.map Toml.text ss) ∧ view a = ss.map ofText

/-- A record, or nothing. -/
def record (name : String) (inner : Outline β) (view : α → Option β) : Slot α where
  name := name
  required := false
  optional := false
  offences := inner.offences
  Agrees a w := Option.Rel inner.Writes w (view a)

end Slot

/-! ## What a reader does -/

/-- A slot describes how its field is read. -/
structure Slot.Describes {α : Type} (slot : Slot α) (r : Record α) : Prop where
  blank : slot.Agrees r.blank none
  assign_ok : ∀ {a b v}, v.Distinct → r.assign a slot.name v = .ok b → slot.Agrees b (some v)
  assign_error : ∀ {a v e}, v.Distinct → r.assign a slot.name v = .error e →
    (slot.offences v).head? = some e
  sound : ∀ {a v}, v.Distinct → slot.Agrees a (some v) → slot.offences v = []
  mayEnd : r.mayEnd slot.name = slot.optional

/-- An outline describes how a record is read. -/
structure Outline.Describes {α : Type} (o : Outline α) (r : Record α) : Prop where
  title : r.title = o.title
  names : r.fields = o.names
  nodup : o.names.Nodup
  slots : ∀ slot ∈ o.slots, slot.Describes r
  /-- Assigning to one field changes no other. -/
  frame : ∀ slot ∈ o.slots, ∀ name ∈ o.names, name ≠ slot.name → ∀ {a b v},
    r.assign a name v = .ok b → ∀ {w}, slot.Agrees a w → slot.Agrees b w
  /-- The fields are all there is to a record. -/
  unique : ∀ {a b}, (∀ slot ∈ o.slots, ∃ w, slot.Agrees a w ∧ slot.Agrees b w) → a = b
  lacks : ∀ {a given}, o.Agrees a given → r.lacks a =
    (o.slots.find? fun slot => slot.required && (given.lookup slot.name).isNone).map Slot.name

/-! ## One field behind the other -/

namespace Record

variable {α : Type}

/-- Assign what is given for the fields, as far as there are such fields. -/
def assignAll (r : Record α) (a : α) (given : List (String × Toml)) : Except ShapeError α :=
  given.foldlM (fun a f =>
    if r.fields.contains f.1 then r.assign a f.1 f.2 else .error (.unknownField f.1 r.fields)) a

theorem assignAll_cons (r : Record α) (a : α) (f : String × Toml) (given : List (String × Toml)) :
    r.assignAll a (f :: given) =
      (if r.fields.contains f.1 then r.assign a f.1 f.2
        else .error (.unknownField f.1 r.fields)).bind (r.assignAll · given) := rfl

theorem ofFields_eq (r : Record α) (a : α) (fields : List (String × Toml)) :
    r.ofFields a fields = (r.assignAll a fields).bind fun b =>
      match r.lacks b with
      | some name => .error (.missingField name)
      | none => .ok b := by
  induction a, fields using ofFields.induct r with
  | case1 a name h => rfl
  | case2 a h => rfl
  | case3 a name v rest hknown b hassign ih =>
    rw [ofFields, if_pos hknown, hassign, assignAll_cons, if_pos hknown, hassign]
    exact ih
  | case4 a name v rest hknown e hassign =>
    rw [ofFields, if_pos hknown, hassign, assignAll_cons, if_pos hknown, hassign]
    rfl
  | case5 a name v rest hknown =>
    rw [ofFields, if_neg hknown, assignAll_cons, if_neg hknown]
    rfl

end Record

namespace Outline.Describes

variable {α : Type} {o : Outline α} {r : Record α}

/-- A list is read like a table of its values, then it must not have ended too early. -/
theorem ofItems_eq (h : o.Describes r) {left : List (Slot α)}
    (hleft : ∀ slot ∈ left, slot ∈ o.slots) (index : Nat) (a : α) (items : List Toml) :
    r.ofItems index (left.map Slot.name) a items =
      (r.assignAll a ((left.map Slot.name).zip items)).bind fun b =>
        match ((left.zipIdx index).drop items.length).find? (fun f => !f.1.optional) with
        | some f => .error (.invalidLength f.2 o.title o.slots.length)
        | none => .ok b := by
  induction left generalizing index a items with
  | nil => cases items <;> rfl
  | cons slot left ih =>
    rw [List.forall_mem_cons] at hleft
    have hslot := h.slots slot hleft.1
    cases items with
    | nil =>
      have hrest := ih hleft.2 (index + 1) a []
      rw [List.map_cons, Record.ofItems, hslot.mayEnd, List.zipIdx_cons, List.length_nil,
        List.drop_zero, List.find?_cons]
      cases hoptional : slot.optional with
      | true =>
        rw [if_pos rfl, hrest]
        simp
      | false =>
        rw [if_neg (by simp), h.title, h.names, Outline.names, List.length_map]
        rfl
    | cons v rest =>
      have hknown : r.fields.contains slot.name := by
        rw [h.names]
        exact List.contains_iff_mem.2 (List.mem_map_of_mem hleft.1)
      rw [List.map_cons, Record.ofItems, List.zip_cons_cons, Record.assignAll_cons, if_pos hknown,
        List.zipIdx_cons, List.length_cons, List.drop_succ_cons]
      cases r.assign a slot.name v with
      | error e => rfl
      | ok b => exact ih hleft.2 (index + 1) b rest

end Outline.Describes

/-! ## What is given -/

theorem lookup_of_mem {given : List (String × Toml)} {f : String × Toml}
    (hnames : (given.map Prod.fst).Nodup) (hf : f ∈ given) : given.lookup f.1 = some f.2 := by
  induction given with
  | nil => cases hf
  | cons g rest ih =>
    rw [List.map_cons, List.nodup_cons] at hnames
    rw [List.lookup_cons]
    rcases List.mem_cons.1 hf with rfl | hf
    · simp
    · have hne : f.1 ≠ g.1 := fun heq => hnames.1 (heq ▸ List.mem_map_of_mem hf)
      simp only [beq_eq_false_iff_ne.2 hne]
      exact ih hnames.2 hf

theorem lookup_eq_none {given : List (String × Toml)} {name : String}
    (hname : name ∉ given.map Prod.fst) : given.lookup name = none := by
  rw [List.lookup_eq_none_iff]
  intro f hf
  exact bne_iff_ne.2 fun heq => hname (heq ▸ List.mem_map_of_mem hf)

theorem map_fst_zip_sublist (names : List String) (items : List Toml) :
    List.Sublist ((names.zip items).map Prod.fst) names := by
  induction names generalizing items with
  | nil => exact List.nil_sublist _
  | cons name names ih =>
    cases items with
    | nil => exact List.nil_sublist _
    | cons v rest => exact (ih rest).cons_cons name

namespace Outline

variable {α : Type} {o : Outline α}

/-- A value that names nothing twice gives each field at most one value. -/
theorem distinct_given (hnodup : o.names.Nodup) {v : Toml} (hv : v.Distinct) :
    ((o.given v).map Prod.fst).Nodup ∧ ∀ f ∈ o.given v, f.2.Distinct := by
  cases hv with
  | table names values => exact ⟨names, values⟩
  | list values =>
    exact ⟨hnodup.sublist (map_fst_zip_sublist _ _), fun f hf => values _ (List.of_mem_zip hf).2⟩
  | _ => exact ⟨List.nodup_nil, by simp [given]⟩

/-- What is given for a known field is the business of its slot. -/
theorem offencesAt_of_mem {f : String × Toml} (hname : f.1 ∈ o.names) :
    ∃ slot ∈ o.slots, slot.name = f.1 ∧ o.offencesAt f = slot.offences f.2 := by
  obtain ⟨other, hother, heq⟩ := List.mem_map.1 hname
  cases hfind : o.slots.find? (·.name = f.1) with
  | none => exact absurd (decide_eq_true heq) (List.find?_eq_none.1 hfind other hother)
  | some slot =>
    have hslot : slot.name = f.1 := by simpa using List.find?_some hfind
    exact ⟨slot, List.mem_of_find?_eq_some hfind, hslot, by rw [offencesAt, hfind]⟩

theorem offencesAt_of_not_mem {f : String × Toml} (hname : f.1 ∉ o.names) :
    o.offencesAt f = [.unknownField f.1 o.names] := by
  have hnone : o.slots.find? (·.name = f.1) = none := by
    rw [List.find?_eq_none]
    intro slot hslot heq
    exact hname (of_decide_eq_true heq ▸ List.mem_map_of_mem hslot)
  rw [offencesAt, hnone]

theorem missing_eq_nil_iff {fields : List (String × Toml)} :
    o.missing fields = [] ↔ ∀ slot ∈ o.slots, slot.required → (fields.lookup slot.name).isSome := by
  simp [missing, List.filter_eq_nil_iff, Option.isSome_iff_ne_none]

theorem cut_eq_nil_iff {length : Nat} :
    o.cut length = [] ↔ ∀ slot ∈ o.slots.drop length, slot.optional := by
  have hdrop : o.slots.drop length = (o.slots.zipIdx.drop length).map Prod.fst := by
    rw [List.map_drop, List.zipIdx_map_fst]
  rw [hdrop, List.forall_mem_map, cut, List.map_eq_nil_iff, List.filter_eq_nil_iff]
  simp

theorem absences_eq_nil_iff {v : Toml} : o.absences v = [] ↔ o.Complete v := by
  cases v with
  | table fields => exact missing_eq_nil_iff
  | list items => exact cut_eq_nil_iff
  | _ => exact iff_of_false (List.cons_ne_nil _ _) not_false

/-! ## What is read -/

namespace Describes

variable {r : Record α} {a b : α} {v : Toml}

/-- A record that agrees with what was given agrees with one more value once that is assigned. -/
theorem agrees_append (h : o.Describes r) {before : List (String × Toml)} {f : String × Toml}
    (hagrees : o.Agrees a before) (hname : f.1 ∈ o.names) (hfresh : f.1 ∉ before.map Prod.fst)
    (hf : f.2.Distinct) (hassign : r.assign a f.1 f.2 = .ok b) : o.Agrees b (before ++ [f]) := by
  intro slot hslot
  rw [List.lookup_append, List.lookup_cons]
  by_cases heq : f.1 = slot.name
  · rw [heq] at hassign hfresh
    rw [lookup_eq_none hfresh, heq]
    simp only [beq_self_eq_true, Option.none_or]
    exact (h.slots slot hslot).assign_ok hf hassign
  · simp only [beq_eq_false_iff_ne.2 (Ne.symm heq), List.lookup_nil, Option.or_none]
    exact h.frame slot hslot f.1 hname heq hassign (hagrees slot hslot)

theorem assignAll_ok (h : o.Describes r) {before rest : List (String × Toml)}
    (hagrees : o.Agrees a before) (hnames : ((before ++ rest).map Prod.fst).Nodup)
    (hrest : ∀ f ∈ rest, f.2.Distinct) (hall : r.assignAll a rest = .ok b) :
    o.Agrees b (before ++ rest) ∧ ∀ f ∈ rest, f.1 ∈ o.names := by
  induction rest generalizing a before with
  | nil =>
    cases hall
    rw [List.append_nil]
    exact ⟨hagrees, by simp⟩
  | cons f rest ih =>
    rw [List.forall_mem_cons] at hrest
    rw [Record.assignAll_cons] at hall
    split at hall
    · next hknown =>
      rw [h.names, List.contains_iff_mem] at hknown
      cases hassign : r.assign a f.1 f.2 with
      | error e =>
        rw [hassign] at hall
        cases hall
      | ok c =>
        rw [hassign] at hall
        have hfresh : f.1 ∉ before.map Prod.fst := by
          rw [List.map_append, List.map_cons, List.nodup_append] at hnames
          exact fun hmem => hnames.2.2 _ hmem _ List.mem_cons_self rfl
        have hnext := h.agrees_append hagrees hknown hfresh hrest.1 hassign
        rw [List.append_cons] at hnames ⊢
        obtain ⟨hall, hknowns⟩ := ih hnext hnames hrest.2 hall
        exact ⟨hall, List.forall_mem_cons.2 ⟨hknown, hknowns⟩⟩
    · cases hall

/-- A value with which a record agrees is no offence. -/
theorem offencesAt_of_agrees (h : o.Describes r) {f : String × Toml} (hname : f.1 ∈ o.names)
    (hf : f.2.Distinct) {given : List (String × Toml)} (hlookup : given.lookup f.1 = some f.2)
    (hagrees : o.Agrees a given) : o.offencesAt f = [] := by
  obtain ⟨slot, hslot, heq, hoffences⟩ := offencesAt_of_mem hname
  have hvalue := hagrees slot hslot
  rw [heq, hlookup] at hvalue
  rw [hoffences]
  exact (h.slots slot hslot).sound hf hvalue

theorem offencesAt_of_assign (h : o.Describes r) {f : String × Toml} (hname : f.1 ∈ o.names)
    (hf : f.2.Distinct) :
    (∀ b, r.assign a f.1 f.2 = .ok b → o.offencesAt f = []) ∧
      ∀ e, r.assign a f.1 f.2 = .error e → (o.offencesAt f).head? = some e := by
  obtain ⟨slot, hslot, heq, hoffences⟩ := offencesAt_of_mem hname
  have hdescribes := h.slots slot hslot
  rw [hoffences, ← heq]
  exact ⟨fun b hassign => hdescribes.sound hf (hdescribes.assign_ok hf hassign),
    fun e hassign => hdescribes.assign_error hf hassign⟩

/-- Assigning stops at the first offence. -/
theorem assignAll_error (h : o.Describes r) {given : List (String × Toml)}
    (hgiven : ∀ f ∈ given, f.2.Distinct) {e : ShapeError} (hall : r.assignAll a given = .error e) :
    (given.flatMap o.offencesAt).head? = some e := by
  induction given generalizing a with
  | nil => cases hall
  | cons f rest ih =>
    rw [List.forall_mem_cons] at hgiven
    rw [Record.assignAll_cons] at hall
    rw [List.flatMap_cons, List.head?_append]
    split at hall
    · next hknown =>
      rw [h.names, List.contains_iff_mem] at hknown
      obtain ⟨hok, herror⟩ := h.offencesAt_of_assign (a := a) hknown hgiven.1
      cases hassign : r.assign a f.1 f.2 with
      | error e' =>
        rw [hassign] at hall
        cases hall
        rw [herror e hassign, Option.some_or]
      | ok c =>
        rw [hassign] at hall
        rw [hok c hassign, List.head?_nil, Option.none_or]
        exact ih hgiven.2 hall
    · next hunknown =>
      rw [h.names, List.contains_iff_mem] at hunknown
      cases hall
      rw [offencesAt_of_not_mem hunknown, h.names]
      rfl

/-- What came of assigning all that a value gives. -/
theorem agrees_of_assignAll (h : o.Describes r) (hv : v.Distinct)
    (hall : r.assignAll r.blank (o.given v) = .ok b) :
    (∀ f ∈ o.given v, f.1 ∈ o.names) ∧ o.Agrees b (o.given v) := by
  obtain ⟨hnames, hvalues⟩ := distinct_given h.nodup hv
  have hblank : o.Agrees r.blank [] := fun slot hslot => (h.slots slot hslot).blank
  obtain ⟨hagrees, hknown⟩ := h.assignAll_ok hblank hnames hvalues hall
  exact ⟨hknown, hagrees⟩

theorem flatMap_offencesAt_eq_nil (h : o.Describes r) (hv : v.Distinct)
    (hknown : ∀ f ∈ o.given v, f.1 ∈ o.names) (hagrees : o.Agrees a (o.given v)) :
    (o.given v).flatMap o.offencesAt = [] := by
  obtain ⟨hnames, hvalues⟩ := distinct_given h.nodup hv
  rw [List.flatMap_eq_nil_iff]
  intro f hf
  exact h.offencesAt_of_agrees (hknown f hf) (hvalues f hf) (lookup_of_mem hnames hf) hagrees

/-- Reading is assigning what is given, and looking for what is absent behind it. -/
theorem read_eq (h : o.Describes r) (hv : v.Distinct) :
    r.read v = (r.assignAll r.blank (o.given v)).bind fun b =>
      match (o.absences v).head? with
      | some e => .error e
      | none => .ok b := by
  cases v with
  | table fields =>
    rw [Record.read, Record.ofFields_eq]
    change _ = (r.assignAll r.blank fields).bind _
    cases hall : r.assignAll r.blank fields with
    | error e => rfl
    | ok b =>
      have hagrees := (h.agrees_of_assignAll hv hall).2
      have hhead : (o.absences (.table fields)).head? = (r.lacks b).map .missingField := by
        rw [h.lacks hagrees, absences, missing, List.head?_map, List.head?_filter, Option.map_map]
        rfl
      simp only [Except.bind]
      rw [hhead]
      cases r.lacks b <;> rfl
  | list items =>
    have hitems := h.ofItems_eq (fun _ hslot => hslot) 0 r.blank items
    have hhead : (o.absences (.list items)).head? =
        ((o.slots.zipIdx.drop items.length).find? fun f => !f.1.optional).map
          (.invalidLength ·.2 o.title o.slots.length) := by
      rw [absences, cut, List.head?_map, List.head?_filter]
    rw [Record.read, h.names, Outline.names, hitems, hhead]
    cases (o.slots.zipIdx.drop items.length).find? fun f => !f.1.optional <;> rfl
  | moment =>
    rw [Record.read, h.names]
    rfl
  | _ =>
    simp only [Record.read, h.title]
    rfl

theorem offences_of_writes (h : o.Describes r) (hv : v.Distinct) (hwrites : o.Writes v a) :
    o.offences v = [] := by
  rw [offences, h.flatMap_offencesAt_eq_nil hv hwrites.known hwrites.agrees,
    absences_eq_nil_iff.2 hwrites.complete, List.append_nil]

theorem writes_of_read (h : o.Describes r) (hv : v.Distinct) (hread : r.read v = .ok a) :
    o.Writes v a := by
  rw [h.read_eq hv] at hread
  cases hall : r.assignAll r.blank (o.given v) with
  | error e =>
    rw [hall] at hread
    cases hread
  | ok b =>
    obtain ⟨hknown, hagrees⟩ := h.agrees_of_assignAll hv hall
    rw [hall] at hread
    simp only [Except.bind] at hread
    split at hread
    · cases hread
    · next hnone =>
      cases hread
      exact ⟨hknown, absences_eq_nil_iff.1 (List.head?_eq_none_iff.1 hnone), hagrees⟩

theorem head?_offences_of_read (h : o.Describes r) (hv : v.Distinct) {e : ShapeError}
    (hread : r.read v = .error e) : (o.offences v).head? = some e := by
  rw [h.read_eq hv] at hread
  rw [offences, List.head?_append]
  cases hall : r.assignAll r.blank (o.given v) with
  | error e' =>
    rw [hall] at hread
    cases hread
    rw [h.assignAll_error (distinct_given h.nodup hv).2 hall, Option.some_or]
  | ok b =>
    obtain ⟨hknown, hagrees⟩ := h.agrees_of_assignAll hv hall
    rw [hall] at hread
    rw [h.flatMap_offencesAt_eq_nil hv hknown hagrees, List.head?_nil, Option.none_or]
    simp only [Except.bind] at hread
    split at hread
    · next hhead =>
      cases hread
      exact hhead
    · cases hread

theorem writes_unique (h : o.Describes r) (ha : o.Writes v a) (hb : o.Writes v b) : a = b :=
  h.unique fun slot hslot => ⟨_, ha.agrees slot hslot, hb.agrees slot hslot⟩

/-- A record is read exactly from the values as which it is written. -/
theorem read_eq_ok_iff (h : o.Describes r) (hv : v.Distinct) :
    r.read v = .ok a ↔ o.Writes v a := by
  constructor
  · exact h.writes_of_read hv
  · intro hwrites
    cases hread : r.read v with
    | error e =>
      have hhead := h.head?_offences_of_read hv hread
      rw [h.offences_of_writes hv hwrites] at hhead
      cases hhead
    | ok b => rw [h.writes_unique hwrites (h.writes_of_read hv hread)]

/-- A value that is no record is refused for its first offence. -/
theorem read_eq_error_iff (h : o.Describes r) (hv : v.Distinct) {e : ShapeError} :
    r.read v = .error e ↔ (o.offences v).head? = some e := by
  constructor
  · exact h.head?_offences_of_read hv
  · intro hhead
    cases hread : r.read v with
    | error e' =>
      have hhead' := h.head?_offences_of_read hv hread
      rw [hhead] at hhead'
      rw [Option.some.inj hhead']
    | ok b =>
      rw [h.offences_of_writes hv (h.writes_of_read hv hread)] at hhead
      cases hhead

end Describes

end Outline

/-! ## Few slots -/

section Few

variable {α : Type} {r : Record α} {s t : Slot α}

/-- Beside a single slot there is none to be changed. -/
theorem frame_of_singleton : ∀ slot ∈ [s], ∀ name ∈ [s.name], name ≠ slot.name → ∀ {a b v},
    r.assign a name v = .ok b → ∀ {w}, slot.Agrees a w → slot.Agrees b w := by
  intro slot hslot name hname hne
  cases List.mem_singleton.1 hslot
  exact absurd (List.mem_singleton.1 hname) hne

theorem frame_of_pair
    (hs : ∀ {a b v}, r.assign a t.name v = .ok b → ∀ {w}, s.Agrees a w → s.Agrees b w)
    (ht : ∀ {a b v}, r.assign a s.name v = .ok b → ∀ {w}, t.Agrees a w → t.Agrees b w) :
    ∀ slot ∈ [s, t], ∀ name ∈ [s.name, t.name], name ≠ slot.name → ∀ {a b v},
      r.assign a name v = .ok b → ∀ {w}, slot.Agrees a w → slot.Agrees b w := by
  intro slot hslot name hname hne
  simp only [List.mem_cons, List.not_mem_nil, or_false] at hslot hname
  rcases hslot with rfl | rfl <;> rcases hname with rfl | rfl
  · exact absurd rfl hne
  · exact hs
  · exact ht
  · exact absurd rfl hne

end Few

/-! ## Slots of each kind -/

theorem map_eq_ok_iff {ε α β : Type} {x : Except ε α} {f : α → β} {b : β} :
    x.map f = .ok b ↔ ∃ a, x = .ok a ∧ b = f a := by
  cases x <;> simp [Except.map, eq_comm]

theorem map_eq_error_iff {ε α β : Type} {x : Except ε α} {f : α → β} {e : ε} :
    x.map f = .error e ↔ x = .error e := by
  cases x <;> simp [Except.map]

theorem exists_of_rel {α β : Type} {R : α → β → Prop} {v : α} {x : Option β}
    (h : Option.Rel R (some v) x) : ∃ a, x = some a ∧ R v a := by
  cases h with
  | some ha => exact ⟨_, rfl, ha⟩

theorem eq_of_rel {α β : Type} {R : α → β → Prop} (hR : ∀ v a b, R v a → R v b → a = b)
    {w : Option α} {x y : Option β} (hx : Option.Rel R w x) (hy : Option.Rel R w y) : x = y := by
  cases hx with
  | none =>
    cases hy
    rfl
  | some ha =>
    obtain ⟨b, rfl, hb⟩ := exists_of_rel hy
    rw [hR _ _ _ ha hb]

theorem eq_text_of_asText {expected s : String} {v : Toml} (h : asText expected v = .ok s) :
    v = .text s := by
  unfold asText at h
  split at h <;> cases h
  rfl

theorem textOffences_of_asText {expected : String} {v : Toml} {e : ShapeError}
    (h : asText expected v = .error e) : textOffences expected v = [e] := by
  unfold asText at h
  split at h
  · cases h
  · next hother =>
    cases h
    unfold textOffences
    split
    · next s => exact absurd rfl (hother s)
    · rfl

theorem textsOffences_map_text (expected : String) (ss : List String) :
    textsOffences expected (.list (ss.map .text)) = [] := by
  rw [textsOffences, List.flatMap_eq_nil_iff, List.forall_mem_map]
  exact fun _ _ => rfl

section Items

variable {β : Type} {expected : String} {ofText : String → β} {item : Toml → Except ShapeError β}

/-- Texts are read in order, and the first item that is none is the offence. -/
theorem mapM_texts (hitem : ∀ v, item v = (asText expected v).map ofText) (items : List Toml) :
    (∀ bs, items.mapM item = .ok bs →
      ∃ ss, items = List.map Toml.text ss ∧ bs = ss.map ofText) ∧
    ∀ e, items.mapM item = .error e → (items.flatMap (textOffences expected)).head? = some e := by
  induction items with
  | nil =>
    refine ⟨fun bs h => ?_, fun e h => (by cases h)⟩
    cases h
    exact ⟨[], rfl, rfl⟩
  | cons v rest ih =>
    rw [List.mapM_cons, hitem, List.flatMap_cons, List.head?_append]
    cases hv : asText expected v with
    | error e =>
      rw [textOffences_of_asText hv]
      refine ⟨fun bs h => (by cases h), fun e h => ?_⟩
      cases h
      rfl
    | ok s =>
      rw [eq_text_of_asText hv]
      cases hrest : rest.mapM item with
      | error e =>
        refine ⟨fun bs h => (by cases h), fun e h => ?_⟩
        cases h
        exact ih.2 e hrest
      | ok bs =>
        refine ⟨fun bs h => ?_, fun e h => (by cases h)⟩
        obtain ⟨ss, rfl, rfl⟩ := ih.1 _ hrest
        cases h
        exact ⟨s :: ss, rfl, rfl⟩

theorem asList_texts (hitem : ∀ v, item v = (asText expected v).map ofText) (v : Toml) :
    (∀ bs, asList item v = .ok bs →
      ∃ ss, v = .list (List.map Toml.text ss) ∧ bs = ss.map ofText) ∧
    ∀ e, asList item v = .error e → (textsOffences expected v).head? = some e := by
  cases v with
  | list items =>
    obtain ⟨hok, herror⟩ := mapM_texts hitem items
    refine ⟨fun bs h => ?_, herror⟩
    obtain ⟨ss, rfl, rfl⟩ := hok bs h
    exact ⟨ss, rfl, rfl⟩
  | _ =>
    refine ⟨fun bs h => (by cases h), fun e h => ?_⟩
    cases h
    rfl

end Items

namespace Slot

variable {α β : Type} {r : Record α} {name expected : String} {ofText : String → β}

theorem describes_text {required : Bool} {view : α → Option β} (set : α → β → α)
    (hblank : view r.blank = none) (hmayEnd : r.mayEnd name = false)
    (hassign : ∀ a v, r.assign a name v = ((asText expected v).map ofText).map (set a))
    (hset : ∀ a x, view (set a x) = some x) :
    (text name expected required view ofText).Describes r where
  blank := ⟨none, rfl, hblank⟩
  assign_ok {a b v} _ h := by
    obtain ⟨x, hx, rfl⟩ := map_eq_ok_iff.1 (hassign a v ▸ h)
    obtain ⟨s, hs, rfl⟩ := map_eq_ok_iff.1 hx
    exact ⟨some s, by rw [eq_text_of_asText hs]; rfl, hset _ _⟩
  assign_error {a v e} _ h := by
    have he := map_eq_error_iff.1 (map_eq_error_iff.1 (hassign a v ▸ h))
    change (textOffences expected v).head? = some e
    rw [textOffences_of_asText he]
    rfl
  sound {a v} _ h := by
    obtain ⟨s, hs, -⟩ := h
    cases s with
    | none => cases hs
    | some s =>
      cases hs
      rfl
  mayEnd := hmayEnd

theorem describes_texts {view : α → List β} (set : α → List β → α)
    {item : Toml → Except ShapeError β} (hitem : ∀ v, item v = (asText expected v).map ofText)
    (hblank : view r.blank = []) (hmayEnd : r.mayEnd name = true)
    (hassign : ∀ a v, r.assign a name v = (asList item v).map (set a))
    (hset : ∀ a xs, view (set a xs) = xs) :
    (texts name expected view ofText).Describes r where
  blank := ⟨[], rfl, hblank⟩
  assign_ok {a b v} _ h := by
    obtain ⟨xs, hxs, rfl⟩ := map_eq_ok_iff.1 (hassign a v ▸ h)
    obtain ⟨ss, rfl, rfl⟩ := (asList_texts hitem v).1 xs hxs
    exact ⟨ss, rfl, hset _ _⟩
  assign_error {a v e} _ h := (asList_texts hitem v).2 e (map_eq_error_iff.1 (hassign a v ▸ h))
  sound {a v} _ h := by
    obtain ⟨ss, hss, -⟩ := h
    cases hss
    exact textsOffences_map_text expected ss
  mayEnd := hmayEnd

theorem describes_record {inner : Outline β} {r' : Record β} (hinner : inner.Describes r')
    {view : α → Option β} (set : α → β → α) (hblank : view r.blank = none)
    (hmayEnd : r.mayEnd name = false)
    (hassign : ∀ a v, r.assign a name v = (r'.read v).map (set a))
    (hset : ∀ a v x, inner.Writes v x → view (set a x) = some x) :
    (record name inner view).Describes r where
  blank := by
    change Option.Rel inner.Writes none (view r.blank)
    rw [hblank]
    exact .none
  assign_ok {a b v} hv h := by
    obtain ⟨x, hx, rfl⟩ := map_eq_ok_iff.1 (hassign a v ▸ h)
    have hwrites := hinner.writes_of_read hv hx
    change Option.Rel inner.Writes (some v) (view (set a x))
    rw [hset a v x hwrites]
    exact .some hwrites
  assign_error {a v e} hv h :=
    hinner.head?_offences_of_read hv (map_eq_error_iff.1 (hassign a v ▸ h))
  sound {a v} hv h := by
    obtain ⟨x, -, hwrites⟩ := exists_of_rel (show Option.Rel inner.Writes (some v) (view a) from h)
    exact hinner.offences_of_writes hv hwrites
  mayEnd := hmayEnd

/-- What a field is given determines its value in a record that agrees. -/
theorem view_unique_text {required : Bool} {view : α → Option β} {a b : α} {w : Option Toml}
    (ha : (text name expected required view ofText).Agrees a w)
    (hb : (text name expected required view ofText).Agrees b w) : view a = view b := by
  obtain ⟨s, rfl, hs⟩ := ha
  obtain ⟨t, hst, ht⟩ := hb
  have heq : s = t := Option.map_injective (fun _ _ h => Toml.text.inj h) hst
  rw [hs, ht, heq]

theorem view_unique_texts {view : α → List β} {a b : α} {w : Option Toml}
    (ha : (texts name expected view ofText).Agrees a w)
    (hb : (texts name expected view ofText).Agrees b w) : view a = view b := by
  obtain ⟨ss, hss, hs⟩ := ha
  obtain ⟨ts, hts, ht⟩ := hb
  have heq : ss = ts :=
    (List.map_inj_right fun _ _ => Toml.text.inj).1 (Toml.list.inj (hss.symm.trans hts))
  rw [hs, ht, heq]

theorem view_unique_record {inner : Outline β} {r' : Record β} (hinner : inner.Describes r')
    {view : α → Option β} {a b : α} {w : Option Toml} (ha : (record name inner view).Agrees a w)
    (hb : (record name inner view).Agrees b w) : view a = view b :=
  eq_of_rel (fun v _ _ (hx : inner.Writes v _) hy => hinner.writes_unique hx hy) ha hb

end Slot

end StaleBuild.Toml
