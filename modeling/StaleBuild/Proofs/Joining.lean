import Mathlib.Data.List.Basic
import StaleBuild.Path

/-!
# Components of joined paths

The components of a path are what its lead stands for and the names behind it, and a relative path
that is joined to another one gives it its names:

    p.components = p.leadComponents ++ p.names                              (components_eq)
    (p.join q).components = p.components ++ q.names                         (components_join)

So paths that differ can lead to one place below a root: one is absolute and the other is not, or
just one of them begins with a full stop (`SpelledApart`, `same_join_iff`).
-/

namespace StaleBuild.Path

/-! ## Names -/

/-- The components behind the lead. -/
def names (p : Path) : List Component := (segments p.bytes).filterMap componentOf?

/-- A relative path that begins with a full stop. -/
def isDotted (p : Path) : Bool := p.leadComponents = [.current]

theorem segments_ne_nil (bytes : Bytes) : segments bytes ≠ [] := by
  induction bytes with
  | nil => exact List.cons_ne_nil _ _
  | cons b rest ih =>
    rw [segments]
    split
    · exact List.cons_ne_nil _ _
    · split <;> exact List.cons_ne_nil _ _

theorem segments_append_separator (front rest : Bytes) :
    segments (front ++ separator :: rest) = segments front ++ segments rest := by
  induction front with
  | nil => simp [segments]
  | cons b more ih =>
    by_cases hb : b = separator
    · simp [segments, hb, ih]
    · obtain ⟨s, others, hmore⟩ := List.exists_cons_of_ne_nil (segments_ne_nil more)
      simp [segments, hb, ih, hmore]

/-- The lead holds no name. -/
theorem filterMap_segments_body (p : Path) : (segments p.body).filterMap componentOf? = p.names := by
  obtain ⟨bytes⟩ := p
  have hidle : componentOf? [] = none ∧ componentOf? [fullStop] = none := by decide
  unfold names body lead
  cases bytes with
  | nil => rfl
  | cons b rest =>
    by_cases habsolute : b = separator
    · simp [isAbsolute, habsolute, segments, hidle]
    · obtain ⟨s, others, hrest⟩ := List.exists_cons_of_ne_nil (segments_ne_nil rest)
      have hsegments : segments (b :: rest) = (b :: s) :: others := by
        simp [segments, habsolute, hrest]
      by_cases hdot : b :: s = [fullStop]
      · obtain ⟨rfl, rfl⟩ := List.cons.inj hdot
        simp [isAbsolute, habsolute, hsegments, hrest, hidle]
      · simp [isAbsolute, habsolute, hsegments, hdot]

theorem components_eq (p : Path) : p.components = p.leadComponents ++ p.names := by
  rw [components, filterMap_segments_body]

/-- A name is no lead. -/
theorem ne_lead_of_mem_names {p : Path} {c : Component} (h : c ∈ p.names) :
    c ≠ .root ∧ c ≠ .current := by
  obtain ⟨s, -, hs⟩ := List.mem_filterMap.1 h
  unfold componentOf? at hs
  split at hs
  · cases hs
  · split at hs <;> cases hs <;> exact ⟨Component.noConfusion, Component.noConfusion⟩

theorem leadComponents_of_absolute {p : Path} (h : p.isAbsolute = true) :
    p.leadComponents = [.root] := by
  rw [leadComponents, if_pos h]

theorem leadComponents_of_relative {p : Path} (h : p.isAbsolute = false) :
    p.leadComponents = if p.isDotted then [.current] else [] := by
  unfold isDotted leadComponents
  by_cases hlead : p.lead = [] <;> simp [h, hlead]

/-! ## Joining -/

theorem join_of_absolute (p : Path) {q : Path} (h : q.isAbsolute = true) : p.join q = q :=
  if_pos h

theorem join_of_empty {p q : Path} (h : p.bytes = []) : p.join q = q := by
  unfold join
  split
  · rfl
  · rw [if_pos (.inl h), h, List.nil_append]

/-- A relative path is written behind a separator, which may have been there. -/
theorem join_of_ne_empty {p q : Path} (hp : p.bytes ≠ []) (hq : q.isAbsolute = false) :
    ∃ front, (p.join q).bytes = front ++ separator :: q.bytes ∧
      (p.bytes = front ∨ p.bytes = front ++ [separator]) := by
  unfold join
  rw [if_neg (by simp [hq])]
  by_cases hend : p.bytes.getLast? = some separator
  · obtain ⟨front, hfront⟩ := List.getLast?_eq_some_iff.1 hend
    rw [if_pos (.inr hend)]
    exact ⟨front, by simp [hfront], .inr hfront⟩
  · rw [if_neg (not_or.2 ⟨hp, hend⟩)]
    exact ⟨p.bytes, rfl, .inl rfl⟩

/-- Joining keeps the lead and adds the names. -/
theorem components_join {p q : Path} (hp : p.bytes ≠ []) (hq : q.isAbsolute = false) :
    (p.join q).components = p.components ++ q.names := by
  obtain ⟨front, hjoin, hfront⟩ := join_of_ne_empty hp hq
  have hsegments : segments (p.join q).bytes = segments front ++ segments q.bytes := by
    rw [hjoin, segments_append_separator]
  have hhead : (segments p.bytes).head? = (segments (p.join q).bytes).head? := by
    rw [hsegments, List.head?_append_of_ne_nil _ (segments_ne_nil front)]
    obtain hfront | hfront := hfront
    · rw [hfront]
    · rw [hfront, segments_append_separator,
        List.head?_append_of_ne_nil _ (segments_ne_nil front)]
  have habsolute : (p.join q).isAbsolute = p.isAbsolute := by
    unfold isAbsolute
    rw [hjoin]
    obtain hfront | hfront := hfront
    · rw [hfront, List.head?_append_of_ne_nil _ (hfront ▸ hp)]
    · rw [hfront]
      cases front <;> rfl
  have hlead : (p.join q).leadComponents = p.leadComponents := by
    unfold leadComponents lead
    rw [habsolute, hhead]
  have hnames : (p.join q).names = p.names ++ q.names := by
    unfold names
    rw [hsegments, List.filterMap_append]
    obtain hfront | hfront := hfront
    · rw [hfront]
    · have hnone : (segments []).filterMap componentOf? = [] := by decide
      rw [hfront, segments_append_separator, List.filterMap_append, hnone, List.append_nil]
  rw [components_eq, components_eq, hlead, hnames, List.append_assoc]

/-- A path whose components are names is put behind any other. -/
theorem components_join_of_normal {p q : Path} (h : ∀ c ∈ q.components, ∃ name, c = .normal name) :
    (p.join q).components = p.components ++ q.components := by
  have hlead : q.leadComponents = [] := by
    rw [List.eq_nil_iff_forall_not_mem]
    intro c hc
    obtain ⟨name, rfl⟩ := h c (components_eq q ▸ List.mem_append_left _ hc)
    unfold leadComponents at hc
    split at hc
    · simp at hc
    · split at hc <;> simp at hc
  have hrelative : q.isAbsolute = false := by
    rw [← Bool.not_eq_true]
    exact fun habsolute => by simp [leadComponents_of_absolute habsolute] at hlead
  by_cases hp : p.bytes = []
  · have hnone : p.components = [] := by
      obtain ⟨bytes⟩ := p
      subst hp
      rfl
    rw [join_of_empty hp, hnone, List.nil_append]
  · rw [components_join hp hrelative, components_eq q, hlead, List.nil_append]

/-! ## One place, two spellings -/

/-- Two paths that differ and yet lead from a root to the same path. -/
def SpelledApart (root a b : Path) : Prop :=
  root.bytes ≠ [] ∧
    (a.isAbsolute = false ∧ b.isAbsolute = false ∧ a.names = b.names ∧ a.isDotted ≠ b.isDotted ∨
      a.isAbsolute = true ∧ b.isAbsolute = false ∧ a.components = root.components ++ b.names ∨
      a.isAbsolute = false ∧ b.isAbsolute = true ∧ b.components = root.components ++ a.names)

theorem same_iff {p q : Path} : p.same q = true ↔ p.components = q.components := by
  rw [same, decide_eq_true_iff]

theorem isAbsolute_eq_of_same {p q : Path} (h : p.same q = true) : p.isAbsolute = q.isAbsolute := by
  have hroot (p : Path) : p.isAbsolute = true ↔ p.components.head? = some .root := by
    rw [components_eq]
    cases habsolute : p.isAbsolute with
    | true => simp [leadComponents_of_absolute habsolute]
    | false =>
      rw [leadComponents_of_relative habsolute]
      cases p.isDotted with
      | true => simp
      | false =>
        have hname : p.names.head? ≠ some .root := fun h =>
          (ne_lead_of_mem_names (List.mem_of_head? h)).1 rfl
        simpa using hname
  have hiff : p.isAbsolute = true ↔ q.isAbsolute = true := by
    rw [hroot, hroot, same_iff.1 h]
  exact Bool.eq_iff_iff.2 hiff

/-- Relative paths are the same if both or neither begin with a full stop and the names agree. -/
theorem same_iff_of_relative {p q : Path} (hp : p.isAbsolute = false) (hq : q.isAbsolute = false) :
    p.same q = true ↔ p.isDotted = q.isDotted ∧ p.names = q.names := by
  rw [same_iff, components_eq, components_eq, leadComponents_of_relative hp,
    leadComponents_of_relative hq]
  have hname (p : Path) : p.names.head? ≠ some .current := fun h =>
    (ne_lead_of_mem_names (List.mem_of_head? h)).2 rfl
  cases p.isDotted <;> cases q.isDotted
  · simp
  · simp only [Bool.false_eq_true, if_false, if_true, List.nil_append, List.singleton_append,
      false_and, iff_false]
    exact fun h => hname p (h ▸ rfl)
  · simp only [Bool.false_eq_true, if_false, if_true, List.nil_append, List.singleton_append,
      reduceCtorEq, false_and, iff_false]
    exact fun h => hname q (h ▸ rfl)
  · simp

/-- Two paths lead from a root to the same path if they are the same or are spelled apart. -/
theorem same_join_iff (root a b : Path) :
    (root.join a).same (root.join b) = true ↔ a.same b = true ∨ SpelledApart root a b := by
  by_cases hroot : root.bytes = []
  · simp [join_of_empty hroot, SpelledApart, hroot]
  cases ha : a.isAbsolute <;> cases hb : b.isAbsolute
  · rw [same_iff, components_join hroot ha, components_join hroot hb, List.append_cancel_left_eq,
      same_iff_of_relative ha hb]
    by_cases hdotted : a.isDotted = b.isDotted <;> simp [SpelledApart, hroot, ha, hb, hdotted]
  · have hdiffer : a.same b ≠ true := fun h => by simpa [ha, hb] using isAbsolute_eq_of_same h
    rw [same_iff, components_join hroot ha, join_of_absolute root hb]
    simp [SpelledApart, hroot, ha, hb, hdiffer, eq_comm]
  · have hdiffer : a.same b ≠ true := fun h => by simpa [ha, hb] using isAbsolute_eq_of_same h
    rw [same_iff, components_join hroot hb, join_of_absolute root ha]
    simp [SpelledApart, hroot, ha, hb, hdiffer]
  · rw [join_of_absolute root ha, join_of_absolute root hb]
    simp [SpelledApart, ha, hb]

end StaleBuild.Path
