import CsyncOwncloud.Uri

/-! The catalog's records: `struct resource`, `compare_resource`, the splice loop of
`results`, and the catalog order the loop maintains. A splice keeps the list a permutation
of what was inserted, keeps it sorted, and keeps the Error entries in arrival order. -/

namespace Owncloud

inductive ResourceType
  | normal
  | collection
  | reference
  | error
  deriving DecidableEq, Repr

/-- `struct resource`; its `next` link is the list's. -/
structure Resource where
  uri : Option Bytes
  name : Bytes
  type : ResourceType
  size : UInt64
  modtime : Int
  deriving DecidableEq, Repr

def strcmpPtr : Option Bytes → Option Bytes → Option Int
  | some a, some b => some (strcmp a b)
  | _, _ => none

/-- `compare_resource`; `none` where it would hand a NULL `uri` to `strcmp`. -/
def compareResource (r1 r2 : Resource) : Option Int :=
  if r1.type = .error then some (-1)
  else if r2.type = .error then some 1
  else if r1.type = .collection then
    if r2.type ≠ .collection then some (-1) else strcmpPtr r1.uri r2.uri
  else if r2.type ≠ .collection then strcmpPtr r1.uri r2.uri else some 1

/-- The splice loop of `results`: walk on while `compare_resource (current, newres) < 0`, then
link `newres` in before `current`. -/
def insertResource (newres : Resource) : List Resource → Option (List Resource)
  | [] => some [newres]
  | cur :: rest =>
    (compareResource cur newres).bind fun c =>
      if 0 ≤ c then some (newres :: cur :: rest) else (cur :: ·) <$> insertResource newres rest

namespace ResourceType

def tier : ResourceType → Nat
  | error => 0
  | collection => 1
  | normal => 2
  | reference => 2

theorem tier_eq_zero {t : ResourceType} : t.tier = 0 ↔ t = error := by
  cases t <;> simp [tier]

end ResourceType

/-- The catalog order: Error entries first, then collections, then the rest, the last two
tiers each by `strcmp` of the decoded URI. -/
def Precedes (a b : Resource) : Prop :=
  a.type.tier < b.type.tier ∨
    a.type.tier = b.type.tier ∧ (a.type = .error ∨ strcmp (a.uri.getD []) (b.uri.getD []) ≤ 0)

instance (a b : Resource) : Decidable (Precedes a b) := inferInstanceAs (Decidable (_ ∨ _))

theorem Precedes.trans {a b c : Resource} (hab : Precedes a b) (hbc : Precedes b c) :
    Precedes a c := by
  rcases hab with h1 | ⟨h1, h2⟩ <;> rcases hbc with h3 | ⟨h3, h4⟩
  · exact .inl (by omega)
  · exact .inl (by omega)
  · exact .inl (by omega)
  · refine .inr ⟨h1.trans h3, ?_⟩
    rcases h2 with h2 | h2
    · exact .inl h2
    rcases h4 with h4 | h4
    · exact .inl (ResourceType.tier_eq_zero.mp (h1.trans (ResourceType.tier_eq_zero.mpr h4)))
    · exact .inr (strcmp_le_trans h2 h4)

/-- Two records that precede each other, neither an Error entry, carry the same URI. -/
theorem Precedes.uri_eq {a b : Resource} (ha : a.type.tier ≠ 0) (hab : Precedes a b)
    (hba : Precedes b a) : a.uri.getD [] = b.uri.getD [] := by
  rcases hab with h | ⟨h, h'⟩ <;> rcases hba with h2 | ⟨h2, h2'⟩
  · omega
  · omega
  · omega
  · have h1 := h'.resolve_left fun e => ha (ResourceType.tier_eq_zero.mpr e)
    have h3 := h2'.resolve_left fun e => ha (h.trans (ResourceType.tier_eq_zero.mpr e))
    have := strcmp_swap (a.uri.getD []) (b.uri.getD [])
    exact strcmp_eq_zero.mp (by omega)

theorem strcmpPtr_eq_some {a b : Option Bytes} {c : Int} (h : strcmpPtr a b = some c) :
    strcmp (a.getD []) (b.getD []) = c := by
  cases a <;> cases b <;> simp_all [strcmpPtr]

/-- What one comparison of the loop tells about the two records. -/
theorem compareResource_precedes {b x : Resource} {c : Int} (h : compareResource b x = some c) :
    (0 ≤ c → Precedes x b) ∧ (c < 0 → Precedes b x) := by
  have hs := strcmp_swap (b.uri.getD []) (x.uri.getD [])
  unfold compareResource at h
  unfold Precedes
  rcases hb : b.type <;> rcases hx : x.type <;>
    simp only [hb, hx, ResourceType.tier, reduceCtorEq, if_true, if_false, ne_eq, true_or,
      not_true_eq_false, not_false_eq_true, Option.some.injEq, false_or, and_true, true_and, or_true, implies_true, and_self] at h ⊢
  all_goals first
    | (subst h; omega)
    | (have hc := strcmpPtr_eq_some h; omega)

theorem insertResource_perm {x : Resource} {l l' : List Resource}
    (h : insertResource x l = some l') : l'.Perm (x :: l) := by
  induction l generalizing l' with
  | nil => cases h; exact .refl _
  | cons cur rest ih =>
    simp only [insertResource, Option.bind_eq_some] at h
    obtain ⟨c, -, h⟩ := h
    split_ifs at h
    · cases h; exact .refl _
    · obtain ⟨l'', h'', rfl⟩ := Option.map_eq_some'.mp h
      exact ((ih h'').cons cur).trans (.swap x cur rest)

theorem insertResource_sorted {x : Resource} {l l' : List Resource}
    (h : insertResource x l = some l') (hl : l.Pairwise Precedes) : l'.Pairwise Precedes := by
  induction l generalizing l' with
  | nil => cases h; exact List.pairwise_singleton _ _
  | cons cur rest ih =>
    simp only [insertResource, Option.bind_eq_some] at h
    obtain ⟨c, hc, h⟩ := h
    have hcx := compareResource_precedes hc
    obtain ⟨hcur, hrest⟩ := List.pairwise_cons.mp hl
    split_ifs at h with h0
    · cases h
      refine List.pairwise_cons.mpr ⟨fun y hy => ?_, hl⟩
      rcases List.mem_cons.mp hy with rfl | hy
      · exact hcx.1 h0
      · exact (hcx.1 h0).trans (hcur y hy)
    · obtain ⟨l'', h'', rfl⟩ := Option.map_eq_some'.mp h
      refine List.pairwise_cons.mpr ⟨fun y hy => ?_, ih h'' hrest⟩
      rcases List.mem_cons.mp ((insertResource_perm h'').subset hy) with rfl | hy
      · exact hcx.2 (by omega)
      · exact hcur y hy

def isError (r : Resource) : Bool := r.type = .error

/-- A new Error entry goes behind the Error entries already there; any other entry leaves
their order alone. -/
theorem insertResource_errors {x : Resource} {l l' : List Resource}
    (h : insertResource x l = some l') (hl : l.Pairwise Precedes) :
    l'.filter isError = l.filter isError ++ (if isError x then [x] else []) := by
  induction l generalizing l' with
  | nil => cases h; cases hx : isError x <;> simp [hx]
  | cons cur rest ih =>
    simp only [insertResource, Option.bind_eq_some] at h
    obtain ⟨c, hc, h⟩ := h
    obtain ⟨hcur, hrest⟩ := List.pairwise_cons.mp hl
    split_ifs at h with h0
    · cases h
      cases hx : isError x
      · simp [List.filter_cons, hx]
      · have hcur0 : cur.type.tier ≠ 0 := fun h0' => by
          simp [compareResource, ResourceType.tier_eq_zero.mp h0'] at hc
          omega
        have hnil : (cur :: rest).filter isError = [] := List.filter_eq_nil_iff.mpr fun y hy => by
          have : y.type.tier ≠ 0 := by
            rcases List.mem_cons.mp hy with rfl | hy
            · exact hcur0
            · rcases hcur y hy with h1 | ⟨h1, -⟩ <;> omega
          simpa [isError, ← ResourceType.tier_eq_zero] using this
        rw [List.filter_cons_of_pos hx, hnil]
        simp [hx]
    · obtain ⟨l'', h'', rfl⟩ := Option.map_eq_some'.mp h
      cases hcr : isError cur <;> simp [List.filter_cons, hcr, ih h'' hrest]

/-- Two records with non-NULL URIs always compare. -/
theorem compareResource_isSome {r1 r2 : Resource} (h1 : r1.uri.isSome) (h2 : r2.uri.isSome) :
    (compareResource r1 r2).isSome := by
  obtain ⟨a, ha⟩ := Option.isSome_iff_exists.mp h1
  obtain ⟨b, hb⟩ := Option.isSome_iff_exists.mp h2
  unfold compareResource
  simp only [ha, hb, strcmpPtr]
  split_ifs <;> rfl

theorem insertResource_isSome {x : Resource} {l : List Resource} (hx : x.uri.isSome)
    (hl : ∀ r ∈ l, r.uri.isSome) : (insertResource x l).isSome := by
  induction l with
  | nil => rfl
  | cons cur rest ih =>
    obtain ⟨c, hc⟩ :=
      Option.isSome_iff_exists.mp (compareResource_isSome (hl cur (List.mem_cons_self _ _)) hx)
    simp only [insertResource, hc, Option.some_bind]
    split_ifs
    · rfl
    · simpa using ih fun r hr => hl r (List.mem_cons_of_mem _ hr)

end Owncloud
