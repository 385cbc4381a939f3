import Mathlib.Data.List.TakeWhile
import StaleBuild.Proofs.Joining

/-!
# Parents of paths

A parent is what is left of a path without its last name and the idle segments around it. So it is
written at the beginning of the path, and it is shorter:

    p.parent? = some above  →  above.bytes <+: p.bytes, and shorter                    (prefix_of_parent?)

A walk along the path comes by the parent with one step to go, or the path leads nowhere at all
(`steps_of_parent?`). This last step can lead upwards as well, and then the parent lies below. As a
path, the parent is the path without its last component (`components_of_parent?`).
-/

namespace StaleBuild.Path

/-! ## Segments -/

theorem joinSegments_cons {s : Bytes} {more : List Bytes} (h : more ≠ []) :
    joinSegments (s :: more) = s ++ separator :: joinSegments more := by
  cases more with
  | nil => exact absurd rfl h
  | cons t rest => rfl

theorem joinSegments_segments (bytes : Bytes) : joinSegments (segments bytes) = bytes := by
  induction bytes with
  | nil => rfl
  | cons b rest ih =>
    rw [segments]
    split
    · next hb =>
      rw [joinSegments_cons (segments_ne_nil rest), ih, hb]
      rfl
    · obtain ⟨s, more, hrest⟩ := List.exists_cons_of_ne_nil (segments_ne_nil rest)
      rw [hrest] at ih ⊢
      dsimp only
      cases more with
      | nil => exact congrArg (b :: ·) ih
      | cons t others =>
        rw [joinSegments_cons (List.cons_ne_nil t others)] at ih ⊢
        rw [List.cons_append, ih]

theorem separator_notMem_segment {bytes s : Bytes} (h : s ∈ segments bytes) : separator ∉ s := by
  induction bytes generalizing s with
  | nil =>
    obtain rfl := List.mem_singleton.1 h
    exact List.not_mem_nil
  | cons b rest ih =>
    rw [segments] at h
    split at h
    · rcases List.mem_cons.1 h with rfl | h
      · exact List.not_mem_nil
      · exact ih h
    · next hb =>
      obtain ⟨t, more, hrest⟩ := List.exists_cons_of_ne_nil (segments_ne_nil rest)
      rw [hrest] at h ih
      rcases List.mem_cons.1 h with rfl | h
      · exact fun hmem => (List.mem_cons.1 hmem).elim (fun he => hb he.symm) (ih (.head _))
      · exact ih (.tail _ h)

/-- A segment holds bytes of the path. -/
theorem subset_of_mem_segments {bytes s : Bytes} (h : s ∈ segments bytes) : s ⊆ bytes := by
  induction bytes generalizing s with
  | nil =>
    obtain rfl := List.mem_singleton.1 h
    exact List.Subset.refl _
  | cons b rest ih =>
    rw [segments] at h
    split at h
    · rcases List.mem_cons.1 h with rfl | h
      · exact List.nil_subset _
      · exact List.subset_cons_of_subset b (ih h)
    · obtain ⟨t, more, hrest⟩ := List.exists_cons_of_ne_nil (segments_ne_nil rest)
      rw [hrest] at h ih
      rcases List.mem_cons.1 h with rfl | h
      · exact List.cons_subset_cons b (ih (.head _))
      · exact List.subset_cons_of_subset b (ih (.tail _ h))

theorem segments_of_separator_notMem {s : Bytes} (h : separator ∉ s) : segments s = [s] := by
  induction s with
  | nil => rfl
  | cons b rest ih =>
    have hb : b ≠ separator := fun hb => h (hb ▸ .head _)
    rw [segments, if_neg hb, ih fun hmem => h (.tail _ hmem)]

theorem segments_joinSegments {segs : List Bytes} (hne : segs ≠ [])
    (h : ∀ s ∈ segs, separator ∉ s) : segments (joinSegments segs) = segs := by
  induction segs with
  | nil => exact absurd rfl hne
  | cons s more ih =>
    obtain ⟨hs, hmore⟩ := List.forall_mem_cons.1 h
    by_cases hnil : more = []
    · subst hnil
      exact segments_of_separator_notMem hs
    · rw [joinSegments_cons hnil, segments_append_separator, segments_of_separator_notMem hs,
        ih hnil hmore, List.singleton_append]

/-- Segments ahead of others are written at the beginning, with the next one behind them. -/
theorem joinSegments_append (ahead : List Bytes) (s : Bytes) (behind : List Bytes) :
    ∃ rest, joinSegments (ahead ++ s :: behind) = joinSegments ahead ++ rest ∧
      s.length ≤ rest.length ∧ (ahead ≠ [] → s.length < rest.length) := by
  induction ahead with
  | nil =>
    refine ⟨joinSegments (s :: behind), rfl, ?_, absurd rfl⟩
    cases behind with
    | nil => exact Nat.le_refl _
    | cons t more => simp [joinSegments]
  | cons first more ih =>
    obtain ⟨rest, hrest, hle, hlt⟩ := ih
    have hbehind : more ++ s :: behind ≠ [] := by simp
    rw [List.cons_append, joinSegments_cons hbehind, hrest]
    by_cases hnil : more = []
    · subst hnil
      exact ⟨separator :: rest, rfl, Nat.le_succ_of_le hle, fun _ => Nat.lt_succ_of_le hle⟩
    · rw [joinSegments_cons hnil]
      exact ⟨rest, by simp, hle, fun _ => hlt hnil⟩

theorem joinSegments_prefix (ahead behind : List Bytes) :
    joinSegments ahead <+: joinSegments (ahead ++ behind) := by
  cases behind with
  | nil =>
    refine ⟨[], ?_⟩
    rw [List.append_nil, List.append_nil]
  | cons s more =>
    obtain ⟨rest, hrest, -⟩ := joinSegments_append ahead s more
    exact ⟨rest, hrest.symm⟩

/-! ## Lead and body -/

variable {p q above : Path}

theorem lead_append_body (p : Path) : p.lead ++ p.body = p.bytes := by
  obtain ⟨bytes⟩ := p
  unfold body lead
  cases bytes with
  | nil => rfl
  | cons b rest =>
    by_cases habsolute : b = separator
    · simp [isAbsolute, habsolute]
    · obtain ⟨s, more, hrest⟩ := List.exists_cons_of_ne_nil (segments_ne_nil rest)
      by_cases hdot : b :: s = [fullStop]
      · obtain ⟨rfl, rfl⟩ := List.cons.inj hdot
        simp [isAbsolute, habsolute, segments, hrest]
      · simp [isAbsolute, habsolute, segments, hrest, hdot]

/-- Behind a leading full stop the body begins with a separator, if it is there at all. -/
theorem segments_body_of_lead (h : p.lead = [fullStop]) :
    ∃ more, segments p.body = [] :: more := by
  have hbytes := p.lead_append_body
  have hhead : (segments p.bytes).head? = some [fullStop] := by
    unfold lead at h
    split at h
    · simp [separator, fullStop] at h
    · split at h
      · assumption
      · cases h
  obtain ⟨s, more, hbody⟩ := List.exists_cons_of_ne_nil (segments_ne_nil p.body)
  have hdot : fullStop ≠ separator := by decide
  rw [← hbytes, h, List.singleton_append, segments, if_neg hdot, hbody] at hhead
  obtain rfl : s = [] := by simpa using hhead
  exact ⟨more, hbody⟩

theorem lead_cases (p : Path) : p.lead = [separator] ∨ p.lead = [fullStop] ∨ p.lead = [] := by
  unfold lead
  split
  · exact .inl rfl
  · split
    · exact .inr (.inl rfl)
    · exact .inr (.inr rfl)

/-- What the lead gives on its own. -/
def leadPart {β : Type} (f : Bytes → Option β) (p : Path) : List β :=
  if p.lead = [fullStop] then (f [fullStop]).toList else []

/-- What the first segments of a body give, written behind its lead. -/
theorem filterMap_lead_append {β : Type} {f : Bytes → Option β} (hf : f [] = none)
    {kept : List Bytes} (h : kept <+: segments p.body) :
    (segments (p.lead ++ joinSegments kept)).filterMap f = leadPart f p ++ kept.filterMap f := by
  have hfree : ∀ s ∈ kept, separator ∉ s := fun s hs => separator_notMem_segment (h.subset hs)
  have hkept : (segments (joinSegments kept)).filterMap f = kept.filterMap f := by
    by_cases hnil : kept = []
    · subst hnil
      simp [joinSegments, segments, hf]
    · rw [segments_joinSegments hnil hfree]
  unfold leadPart
  rcases p.lead_cases with hlead | hlead | hlead
  · have hsegments : segments (p.lead ++ joinSegments kept) = [] :: segments (joinSegments kept) := by
      rw [hlead, List.singleton_append, segments, if_pos rfl]
    rw [hsegments, List.filterMap_cons_none hf, hkept, if_neg (by rw [hlead]; decide),
      List.nil_append]
  · obtain ⟨more, hbody⟩ := segments_body_of_lead hlead
    rw [hlead, if_pos rfl]
    have hdot : separator ∉ [fullStop] := by decide
    cases kept with
    | nil =>
      rw [joinSegments, List.append_nil, segments_of_separator_notMem hdot]
      cases hstop : f [fullStop] <;> simp [hstop]
    | cons first rest =>
      obtain rfl : first = [] := (List.cons_prefix_cons.1 (hbody ▸ h)).1
      have hjoin : [fullStop] ++ joinSegments ([] :: rest) = joinSegments ([fullStop] :: rest) := by
        cases rest <;> rfl
      have hall : ∀ s ∈ [fullStop] :: rest, separator ∉ s :=
        List.forall_mem_cons.2 ⟨hdot, fun s hs => hfree s (.tail _ hs)⟩
      rw [hjoin, segments_joinSegments (List.cons_ne_nil _ _) hall, List.filterMap_cons_none hf]
      cases hstop : f [fullStop] <;> simp [hstop]
  · rw [hlead, if_neg (by decide), List.nil_append, List.nil_append]
    exact hkept

/-- The same of the whole path. -/
theorem filterMap_segments {β : Type} {f : Bytes → Option β} (hf : f [] = none) (p : Path) :
    (segments p.bytes).filterMap f = leadPart f p ++ (segments p.body).filterMap f := by
  have h := filterMap_lead_append hf (List.prefix_refl (segments p.body))
  rwa [joinSegments_segments, lead_append_body] at h

/-! ## Parents -/

/-- A list is what `dropWhile` leaves of it behind elements that satisfy the predicate. -/
theorem exists_reverse_dropWhile (segs : List Bytes) :
    ∃ idle, segs = (segs.reverse.dropWhile isIdle).reverse ++ idle ∧ ∀ s ∈ idle, isIdle s = true := by
  refine ⟨(segs.reverse.takeWhile isIdle).reverse, ?_, fun s hs => ?_⟩
  · rw [← List.reverse_append, List.takeWhile_append_dropWhile, List.reverse_reverse]
  · exact List.mem_takeWhile_imp (List.mem_reverse.1 hs)

/-- How a path is written that has a parent: either only the full stop ahead is taken off, or the
body ends in a segment that is not idle, which goes with the idle ones around it. -/
theorem parent?_eq_some (h : p.parent? = some above) :
    ((∀ s ∈ segments p.body, isIdle s = true) ∧ p.lead = [fullStop] ∧ above = empty) ∨
      ∃ kept idle s idle', segments p.body = kept ++ idle ++ s :: idle' ∧ isIdle s = false ∧
        (∀ t ∈ idle ++ idle', isIdle t = true) ∧ above = ⟨p.lead ++ joinSegments kept⟩ := by
  unfold parent? at h
  obtain ⟨idle', hbody, hidle'⟩ := exists_reverse_dropWhile (segments p.body)
  split at h
  · next s ahead hs =>
    cases h
    obtain ⟨idle, hahead, hidle⟩ := exists_reverse_dropWhile ahead.reverse
    rw [List.reverse_reverse] at hahead
    rw [hs, List.reverse_cons, hahead, List.append_assoc, List.singleton_append] at hbody
    have hlast : isIdle s = false := by
      have hdrop := List.head?_dropWhile_not isIdle (segments p.body).reverse
      simpa [hs] using hdrop
    exact .inr ⟨_, idle, s, idle', hbody, hlast,
      List.forall_mem_append.2 ⟨hidle, hidle'⟩, rfl⟩
  · next hs =>
    rw [hs, List.reverse_nil, List.nil_append] at hbody
    rw [← hbody] at hidle'
    split at h
    · cases h
    · next hlead =>
      simp only [Bool.or_eq_true, decide_eq_true_eq, not_or] at hlead
      have hdot : p.lead = [fullStop] := by
        rcases p.lead_cases with hroot | hdot | hnone
        · have habsolute : p.isAbsolute = true := by
            have hhead := p.lead_append_body
            rw [hroot] at hhead
            simp [isAbsolute, ← hhead]
          exact absurd habsolute hlead.1
        · exact hdot
        · exact absurd hnone hlead.2
      exact .inl ⟨hidle', hdot, (Option.some.inj h).symm⟩

/-- **A parent is written at the beginning of its path, and it is shorter.** -/
theorem prefix_of_parent? (h : p.parent? = some above) :
    above.bytes <+: p.bytes ∧ above.bytes.length < p.bytes.length := by
  have hbytes := p.lead_append_body
  rcases parent?_eq_some h with ⟨-, hlead, rfl⟩ | ⟨kept, idle, s, idle', hbody, hs, -, rfl⟩
  · refine ⟨List.nil_prefix, ?_⟩
    rw [← hbytes, hlead]
    exact Nat.zero_lt_succ _
  · obtain ⟨rest, hrest, hle, -⟩ := joinSegments_append (kept ++ idle) s idle'
    have hjoin : p.body = joinSegments (kept ++ idle) ++ rest := by
      rw [← hrest, ← hbody, joinSegments_segments]
    have hkept := joinSegments_prefix kept idle
    have hs : 0 < s.length := List.length_pos_iff.2 fun hnil => by simp [hnil, isIdle] at hs
    constructor
    · rw [← hbytes, hjoin]
      exact (List.prefix_append_right_inj _).2 (hkept.trans (List.prefix_append _ _))
    · have hlength := hkept.length_le
      rw [← hbytes, hjoin]
      simp only [List.length_append]
      omega

theorem stepOf?_of_idle {s : Bytes} (h : isIdle s = true) :
    ∀ step ∈ stepOf? s, step = .here := by
  intro step hstep
  rcases Bool.or_eq_true_iff.1 h with h | h <;> rw [decide_eq_true_eq] at h <;> subst h <;>
    cases hstep
  rfl

/-- A segment that is gone into is the name of what it leads into. -/
theorem eq_of_stepOf? {s name : Bytes} (h : stepOf? s = some (.into name)) : s = name := by
  unfold stepOf? at h
  split at h
  · cases h
  · split at h
    · cases h
    · split at h
      · cases h
      · exact Step.into.inj (Option.some.inj h)

/-- A segment that is not empty leads somewhere. -/
theorem exists_stepOf? {s : Bytes} (h : s ≠ []) : ∃ step, stepOf? s = some step := by
  unfold stepOf?
  rw [if_neg h]
  split
  · exact ⟨_, rfl⟩
  · split <;> exact ⟨_, rfl⟩

theorem steps_append_separator {front rest : Bytes} (h : separator ∉ front) :
    (⟨front ++ separator :: rest⟩ : Path).steps =
      (stepOf? front).toList ++ (⟨rest⟩ : Path).steps := by
  rw [steps, segments_append_separator, segments_of_separator_notMem h, List.filterMap_append]
  cases hstep : stepOf? front <;> simp [hstep, steps]

/-- Idle segments lead nowhere. -/
theorem here_of_idle {segs : List Bytes} (h : ∀ s ∈ segs, isIdle s = true) :
    ∀ step ∈ segs.filterMap stepOf?, step = .here := by
  intro step hstep
  obtain ⟨s, hs, hstep⟩ := List.mem_filterMap.1 hstep
  exact stepOf?_of_idle (h s hs) step hstep

/-- **A walk along a path is one along its parent and one step more**, or the path leads nowhere and
its parent is empty. -/
theorem steps_of_parent? (h : p.parent? = some above) :
    (∃ front step back, p.steps = above.steps ++ front ++ step :: back ∧
      (∀ s ∈ front ++ back, s = .here) ∧ step ≠ .here) ∨
      (∀ s ∈ p.steps, s = .here) ∧ above = empty := by
  have hnone : stepOf? [] = none := rfl
  have hsteps := filterMap_segments hnone p
  rcases parent?_eq_some h with ⟨hidle, hlead, rfl⟩ | ⟨kept, idle, s, idle', hbody, hs, hidle, rfl⟩
  · right
    refine ⟨fun step hstep => ?_, rfl⟩
    rw [steps, hsteps, leadPart, if_pos hlead] at hstep
    rcases List.mem_append.1 hstep with hstep | hstep
    · exact stepOf?_of_idle rfl step (Option.mem_toList.1 hstep)
    · exact here_of_idle hidle step hstep
  · left
    obtain ⟨hidle, hidle'⟩ := List.forall_mem_append.1 hidle
    obtain ⟨step, hstep, hmoves⟩ : ∃ step, stepOf? s = some step ∧ step ≠ .here := by
      obtain ⟨hempty, hdot⟩ : s ≠ [] ∧ s ≠ [fullStop] := by simpa [isIdle] using hs
      rw [stepOf?, if_neg hempty, if_neg hdot]
      split
      · exact ⟨.up, rfl, nofun⟩
      · exact ⟨.into s, rfl, nofun⟩
    refine ⟨idle.filterMap stepOf?, step, idle'.filterMap stepOf?, ?_,
      List.forall_mem_append.2 ⟨here_of_idle hidle, here_of_idle hidle'⟩, hmoves⟩
    have hkept : kept <+: segments p.body := hbody ▸ ⟨idle ++ s :: idle', by simp⟩
    rw [steps, steps, hsteps, filterMap_lead_append hnone hkept, hbody, List.filterMap_append,
      List.filterMap_append, List.filterMap_cons_some hstep, List.append_assoc, List.append_assoc,
      List.append_assoc]

/-- A path without a parent leads nowhere. -/
theorem here_of_parent?_eq_none (h : p.parent? = none) : ∀ s ∈ p.steps, s = .here := by
  unfold parent? at h
  obtain ⟨idle, hbody, hidle⟩ := exists_reverse_dropWhile (segments p.body)
  split at h
  · cases h
  · next hs =>
    rw [hs, List.reverse_nil, List.nil_append] at hbody
    intro step hstep
    rw [steps, filterMap_segments rfl] at hstep
    rcases List.mem_append.1 hstep with hstep | hstep
    · unfold leadPart at hstep
      split at hstep
      · exact stepOf?_of_idle rfl step (Option.mem_toList.1 hstep)
      · cases hstep
    · exact here_of_idle (hbody ▸ hidle) step hstep

/-- A path without `..` among its components never leads upwards. -/
theorem up_notMem_steps (h : .parent ∉ p.components) : .up ∉ p.steps := by
  intro hup
  obtain ⟨s, hs, hstep⟩ := List.mem_filterMap.1 hup
  have hupward : s = upSegment := by
    unfold stepOf? at hstep
    split at hstep
    · cases hstep
    · split at hstep
      · cases hstep
      · split at hstep
        · assumption
        · cases hstep
  have hnames : .parent ∈ p.names := List.mem_filterMap.2 ⟨s, hs, by rw [hupward]; rfl⟩
  rw [components_eq] at h
  exact h (List.mem_append_right _ hnames)

/-- A path that starts at the root has parents that do, and no other one has. -/
theorem isAbsolute_of_parent? (h : p.parent? = some above) : above.isAbsolute = p.isAbsolute := by
  obtain ⟨rest, hrest⟩ := (prefix_of_parent? h).1
  cases habove : above.isAbsolute with
  | true =>
    cases hbytes : above.bytes with
    | nil => simp [isAbsolute, hbytes] at habove
    | cons b more =>
      rw [isAbsolute, hbytes] at habove
      rw [isAbsolute, ← hrest, hbytes]
      exact habove.symm
  | false =>
    symm
    by_contra hroot
    have hroot : p.isAbsolute = true := by simpa using hroot
    have hlead : p.lead = [separator] := if_pos hroot
    rcases parent?_eq_some h with ⟨-, hdot, -⟩ | ⟨kept, -, -, -, -, -, -, rfl⟩
    · exact absurd (hlead.symm.trans hdot) (by decide)
    · simp [isAbsolute, hlead] at habove

/-! ## Components of a parent -/

theorem lead_of_absolute (h : p.isAbsolute = true) : p.lead = [separator] := if_pos h

theorem lead_of_relative (h : p.isAbsolute = false) :
    p.lead = if (segments p.bytes).head? = some [fullStop] then [fullStop] else [] := by
  rw [lead, h, if_neg Bool.false_ne_true]

theorem isAbsolute_of_beginning (h : p.bytes <+: q.bytes) (habsolute : p.isAbsolute = true) :
    q.isAbsolute = true := by
  obtain ⟨rest, hrest⟩ := h
  unfold isAbsolute at habsolute ⊢
  cases hbytes : p.bytes with
  | nil => simp [hbytes] at habsolute
  | cons b more =>
    rw [hbytes] at habsolute
    rw [← hrest, hbytes]
    exact habsolute

/-- The lead of a path is kept where the first segments of its body are written behind it. -/
theorem lead_lead_append {kept : List Bytes} (h : kept <+: segments p.body) :
    (⟨p.lead ++ joinSegments kept⟩ : Path).lead = p.lead := by
  have hdot : fullStop ≠ separator := by decide
  rcases p.lead_cases with hlead | hlead | hlead
  · rw [hlead]
    exact lead_of_absolute (by simp [isAbsolute])
  · obtain ⟨more, hbody⟩ := segments_body_of_lead hlead
    have hhead : (segments ([fullStop] ++ joinSegments kept)).head? = some [fullStop] := by
      rw [List.singleton_append, segments, if_neg hdot]
      cases kept with
      | nil => rfl
      | cons first rest =>
        obtain rfl : first = [] := (List.cons_prefix_cons.1 (hbody ▸ h)).1
        cases rest <;> rfl
    rw [hlead, lead_of_relative (by simp [isAbsolute, hdot]), if_pos hhead]
  · have hbytes : p.body = p.bytes := by
      have hwhole := p.lead_append_body
      rwa [hlead] at hwhole
    have hrelative : p.isAbsolute = false := by
      by_contra habsolute
      rw [lead_of_absolute (by simpa using habsolute)] at hlead
      cases hlead
    have hprefix : joinSegments kept <+: p.bytes := by
      obtain ⟨rest, hrest⟩ := h
      rw [← hbytes, ← joinSegments_segments p.body, ← hrest]
      exact joinSegments_prefix kept rest
    rw [hlead, List.nil_append]
    rw [hbytes] at h
    have hkept : (⟨joinSegments kept⟩ : Path).isAbsolute = false := by
      by_contra habsolute
      rw [isAbsolute_of_beginning hprefix (by simpa using habsolute)] at hrelative
      cases hrelative
    rw [lead_of_relative hkept]
    cases kept with
    | nil => rfl
    | cons first rest =>
      have hsegments := segments_joinSegments (List.cons_ne_nil first rest)
        fun s hs => separator_notMem_segment (h.subset hs)
      obtain ⟨others, hothers⟩ := h
      rw [lead_of_relative hrelative, ← hothers] at hlead
      rw [hsegments]
      exact hlead

theorem leadComponents_eq_of_lead (h : p.lead = q.lead) : p.leadComponents = q.leadComponents := by
  have hdot : [separator] ≠ [fullStop] := by decide
  have habsolute (p : Path) : p.isAbsolute = true ↔ p.lead = [separator] := by
    constructor
    · exact lead_of_absolute
    · intro hlead
      by_contra hrelative
      rw [lead_of_relative (by simpa using hrelative)] at hlead
      split at hlead
      · exact hdot hlead.symm
      · cases hlead
  unfold leadComponents
  rw [h]
  simp only [habsolute, h]

theorem componentOf?_of_idle {s : Bytes} (h : isIdle s = true) : componentOf? s = none := if_pos h

theorem exists_componentOf? {s : Bytes} (h : isIdle s = false) : ∃ c, componentOf? s = some c := by
  unfold componentOf?
  rw [h, if_neg Bool.false_ne_true]
  split <;> exact ⟨_, rfl⟩

/-- Idle segments stand for no components. -/
theorem filterMap_componentOf?_of_idle {segs : List Bytes} (h : ∀ s ∈ segs, isIdle s = true) :
    segs.filterMap componentOf? = [] :=
  List.filterMap_eq_nil_iff.2 fun s hs => componentOf?_of_idle (h s hs)

/-- **The components of a parent are those of its path but the last one.** -/
theorem components_of_parent? (h : p.parent? = some above) :
    above.components = p.components.dropLast := by
  rcases parent?_eq_some h with ⟨hidle, hlead, rfl⟩ | ⟨kept, idle, s, idle', hbody, hs, hidle, rfl⟩
  · have hcurrent : p.leadComponents = [.current] :=
      leadComponents_eq_of_lead (q := ⟨[fullStop]⟩) hlead
    have hpath : p.components = [.current] := by
      rw [components, hcurrent, filterMap_componentOf?_of_idle hidle, List.append_nil]
    rw [hpath]
    rfl
  · obtain ⟨hidle, hidle'⟩ := List.forall_mem_append.1 hidle
    obtain ⟨c, hc⟩ := exists_componentOf? hs
    have hkept : kept <+: segments p.body := hbody ▸ ⟨idle ++ s :: idle', by simp⟩
    have hnone : componentOf? [] = none := rfl
    have hpart : leadPart componentOf? p = [] := by
      unfold leadPart
      split <;> rfl
    have habove : (⟨p.lead ++ joinSegments kept⟩ : Path).components =
        p.leadComponents ++ kept.filterMap componentOf? := by
      rw [components_eq, leadComponents_eq_of_lead (lead_lead_append hkept), names,
        filterMap_lead_append hnone hkept, hpart, List.nil_append]
    have hpath : p.components = p.leadComponents ++ kept.filterMap componentOf? ++ [c] := by
      rw [components, hbody, List.filterMap_append, List.filterMap_append,
        filterMap_componentOf?_of_idle hidle, List.append_nil, List.filterMap_cons_some hc,
        filterMap_componentOf?_of_idle hidle', List.append_assoc]
    rw [habove, hpath, List.dropLast_concat]

/-- A path with a name has a parent. -/
theorem exists_parent? (h : p.names ≠ []) : ∃ above, p.parent? = some above := by
  unfold parent?
  obtain ⟨idle, hbody, hidle⟩ := exists_reverse_dropWhile (segments p.body)
  split
  · exact ⟨_, rfl⟩
  · next hs =>
    rw [hs, List.reverse_nil, List.nil_append] at hbody
    rw [← filterMap_segments_body, hbody, filterMap_componentOf?_of_idle hidle] at h
    exact absurd rfl h

end StaleBuild.Path
