import Mathlib.Data.List.Nodup
import CsyncOwncloud.FileStat

/-! The listing one PropFind builds: `struct listdir_context` and the `results` callback run
over the response's entries in the order the server sent them. Whatever the order, the list
stays a sorted permutation of the records `results` kept, and with distinct URIs it is the
only such list. -/

namespace Owncloud

/-- Two sorted arrangements of the same elements agree when the order is antisymmetric on
them. -/
theorem eq_of_perm_of_pairwise {α : Type} {R : α → α → Prop} {l₁ l₂ : List α}
    (hp : l₁.Perm l₂) (h₁ : l₁.Pairwise R) (h₂ : l₂.Pairwise R)
    (anti : ∀ a ∈ l₁, ∀ b ∈ l₁, R a b → R b a → a = b) : l₁ = l₂ := by
  induction l₁ generalizing l₂ with
  | nil => exact hp.nil_eq
  | cons a l₁ ih =>
    obtain ⟨ha, hl₁⟩ := List.pairwise_cons.mp h₁
    match l₂, hp, h₂ with
    | [], hp, _ => exact absurd hp.length_eq (by simp)
    | b :: l₂, hp, h₂ =>
      obtain ⟨hb, hl₂⟩ := List.pairwise_cons.mp h₂
      have hba : b = a := by
        by_contra hne
        have hbl : b ∈ l₁ :=
          (List.mem_cons.mp (hp.symm.subset (List.mem_cons_self _ _))).resolve_left hne
        have hal : a ∈ l₂ :=
          (List.mem_cons.mp (hp.subset (List.mem_cons_self _ _))).resolve_left (Ne.symm hne)
        exact hne (anti b (List.mem_cons_of_mem _ hbl) a (List.mem_cons_self _ _) (hb a hal)
          (ha b hbl))
      subst hba
      rw [ih ((List.perm_cons b).mp hp) hl₁ hl₂ fun x hx y hy =>
        anti x (List.mem_cons_of_mem _ hx) y (List.mem_cons_of_mem _ hy)]

/-- In a sorted list, an element that nothing else precedes comes first. -/
theorem head_eq_of_pairwise {α : Type} {R : α → α → Prop} {l : List α} {a : α}
    (hl : l.Pairwise R) (ha : a ∈ l) (hmin : ∀ b ∈ l, R b a → b = a) : l.head? = some a := by
  cases l with
  | nil => cases ha
  | cons b l =>
    rcases List.mem_cons.mp ha with rfl | ha
    · rfl
    · simp [hmin b (List.mem_cons_self _ _) ((List.pairwise_cons.mp hl).1 a ha)]

/-- `struct listdir_context`; `currResource` is the list from the cursor on. -/
structure ListdirContext where
  list : List Resource
  currResource : List Resource
  target : Option Bytes
  includeTarget : Bool
  resultCount : UInt32
  deriving DecidableEq, Repr

/-- A context fresh from `c_malloc`: no list, no cursor, no count. -/
def ListdirContext.init (target : Option Bytes) (includeTarget : Bool) : ListdirContext :=
  ⟨[], [], target, includeTarget, 0⟩

/-- The two early returns of `results`: no target at all, or the target's own entry when it
was not asked for. -/
def skipsEntry (target : Option Bytes) (includeTarget : Bool) (e : PropEntry) : Bool :=
  match target with
  | none => true
  | some t => decide (nePathCompare t e.path = 0) && !includeTarget

/-- The `results` callback; `none` where its splice is undefined. -/
def results (P : Platform) (ctx : ListdirContext) (e : PropEntry) : Option ListdirContext :=
  if skipsEntry ctx.target ctx.includeTarget e then some ctx
  else (insertResource (newResource P e) ctx.list).map fun l =>
    { ctx with list := l, resultCount := ctx.resultCount + 1 }

/-- The callbacks of one PropFind, over the entries in the order the server sent them. -/
def listing (P : Platform) (ctx : ListdirContext) (es : List PropEntry) :
    Option ListdirContext :=
  es.foldlM (results P) ctx

/-- The records `results` builds for the entries it does not skip. -/
def kept (P : Platform) (target : Option Bytes) (includeTarget : Bool) (es : List PropEntry) :
    List Resource :=
  (es.filter fun e => !skipsEntry target includeTarget e).map (newResource P)

/-- What a listing is for: the records `rs`, each once, in catalog order, the Error entries
in arrival order, and their number as the `unsigned int` counter holds it. -/
structure Catalog (rs : List Resource) (ctx : ListdirContext) : Prop where
  perm : ctx.list.Perm rs
  sorted : ctx.list.Pairwise Precedes
  errors : ctx.list.filter isError = rs.filter isError
  count : ctx.resultCount.toNat = ctx.list.length % 2 ^ 32

theorem kept_append (P : Platform) (target : Option Bytes) (includeTarget : Bool) (es es' : List PropEntry) :
    kept P target includeTarget (es ++ es') = kept P target includeTarget es ++ kept P target includeTarget es' := by
  simp [kept, List.filter_append]

theorem Catalog.init (target : Option Bytes) (includeTarget : Bool) :
    Catalog [] (.init target includeTarget) :=
  ⟨.nil, .nil, rfl, rfl⟩

section
variable (P : Platform)

theorem results_frame {ctx ctx' : ListdirContext} {e : PropEntry}
    (h : results P ctx e = some ctx') :
    ctx'.target = ctx.target ∧ ctx'.includeTarget = ctx.includeTarget := by
  unfold results at h
  split_ifs at h
  · cases h; exact ⟨rfl, rfl⟩
  · obtain ⟨l, -, rfl⟩ := Option.map_eq_some'.mp h
    exact ⟨rfl, rfl⟩

/-- One callback keeps the listing a catalog of what was kept so far. -/
theorem results_catalog {rs : List Resource} {ctx ctx' : ListdirContext} {e : PropEntry}
    (hc : Catalog rs ctx) (h : results P ctx e = some ctx') :
    Catalog (rs ++ kept P ctx.target ctx.includeTarget [e]) ctx' := by
  unfold results at h
  split_ifs at h with hs
  · cases h
    simpa [kept, hs] using hc
  · obtain ⟨l, hl, rfl⟩ := Option.map_eq_some'.mp h
    have hp := insertResource_perm hl
    simp only [kept, hs, Bool.not_false, List.filter_cons_of_pos, List.filter_nil,
      List.map_cons, List.map_nil]
    refine ⟨hp.trans ((hc.perm.cons _).trans (List.perm_append_singleton _ _).symm),
      insertResource_sorted hl hc.sorted, ?_, ?_⟩
    · rw [insertResource_errors hl hc.sorted, hc.errors, List.filter_append]
      cases hx : isError (newResource P e) <;> simp [hx]
    · have h1 : (ctx.resultCount + 1).toNat = (ctx.resultCount.toNat + 1) % 2 ^ 32 := rfl
      rw [h1, hc.count, hp.length_eq, List.length_cons, Nat.mod_add_mod]

theorem listing_catalog {rs : List Resource} {ctx ctx' : ListdirContext} {es : List PropEntry}
    (hc : Catalog rs ctx) (h : listing P ctx es = some ctx') :
    Catalog (rs ++ kept P ctx.target ctx.includeTarget es) ctx' := by
  induction es generalizing rs ctx with
  | nil => cases h; simpa [kept] using hc
  | cons e es ih =>
    simp only [listing, List.foldlM_cons, Option.bind_eq_bind, Option.bind_eq_some] at h
    obtain ⟨c, hce, h⟩ := h
    have := ih (results_catalog P hc hce) h
    rw [(results_frame P hce).1, (results_frame P hce).2] at this
    rwa [show e :: es = [e] ++ es from rfl, kept_append, ← List.append_assoc]

def Decodes (e : PropEntry) : Prop := (nePathUnescape e.path).isSome

instance (e : PropEntry) : Decidable (Decodes e) := inferInstanceAs (Decidable (_ = true))

theorem newResource_uri_isSome {e : PropEntry} (h : Decodes e) : (newResource P e).uri.isSome := h

theorem listing_isSome {ctx : ListdirContext} {es : List PropEntry}
    (hctx : ∀ r ∈ ctx.list, r.uri.isSome) (hes : ∀ e ∈ es, Decodes e) :
    (listing P ctx es).isSome := by
  induction es generalizing ctx with
  | nil => rfl
  | cons e es ih =>
    have hr : ∃ c, results P ctx e = some c ∧ ∀ r ∈ c.list, r.uri.isSome := by
      unfold results
      split_ifs
      · exact ⟨ctx, rfl, hctx⟩
      · obtain ⟨l, hl⟩ := Option.isSome_iff_exists.mp
          (insertResource_isSome (newResource_uri_isSome P (hes e (List.mem_cons_self _ _))) hctx)
        refine ⟨_, by rw [hl]; rfl, fun r hr => ?_⟩
        rcases List.mem_cons.mp ((insertResource_perm hl).subset hr) with rfl | hr
        · exact newResource_uri_isSome P (hes e (List.mem_cons_self _ _))
        · exact hctx r hr
    obtain ⟨c, hc, hcs⟩ := hr
    simpa [listing, hc] using ih hcs fun e he => hes e (List.mem_cons_of_mem _ he)

/-- The listing of a whole response, when every href decodes. -/
theorem listing_init_catalog (target : Option Bytes) (includeTarget : Bool) {es : List PropEntry}
    (hes : ∀ e ∈ es, Decodes e) :
    ∃ ctx, listing P (.init target includeTarget) es = some ctx ∧
      Catalog (kept P target includeTarget es) ctx := by
  have h0 : ∀ r ∈ (ListdirContext.init target includeTarget).list, r.uri.isSome :=
    fun _ h => absurd h (List.not_mem_nil _)
  obtain ⟨ctx, h⟩ := Option.isSome_iff_exists.mp (listing_isSome P h0 hes)
  exact ⟨ctx, h, by simpa using listing_catalog P (Catalog.init target includeTarget) h⟩

theorem newResource_tier (e : PropEntry) : (newResource P e).type.tier ≠ 0 := by
  cases h : isCollection e <;> simp [newResource, h, ResourceType.tier]

/-- Whatever order the server sends a response in, the listing is the same list, provided
the kept records have distinct URIs. -/
theorem listing_perm_eq (target : Option Bytes) (includeTarget : Bool) {es es' : List PropEntry}
    (hp : es.Perm es') (hes : ∀ e ∈ es, Decodes e)
    (hd : ((kept P target includeTarget es).map (·.uri)).Nodup) :
    (listing P (.init target includeTarget) es).map (·.list) =
      (listing P (.init target includeTarget) es').map (·.list) := by
  obtain ⟨c, hc, hcat⟩ := listing_init_catalog P target includeTarget hes
  obtain ⟨c', hc', hcat'⟩ := listing_init_catalog P target includeTarget
    fun e he => hes e (hp.symm.subset he)
  have hk : (kept P target includeTarget es).Perm (kept P target includeTarget es') :=
    (hp.filter _).map _
  rw [hc, hc']
  refine congrArg some (eq_of_perm_of_pairwise (hcat.perm.trans (hk.trans hcat'.perm.symm)) hcat.sorted
    hcat'.sorted fun a ha b hb hab hba => ?_)
  have ha' := hcat.perm.subset ha
  have hb' := hcat.perm.subset hb
  refine List.inj_on_of_nodup_map hd ha' hb' ?_
  obtain ⟨ea, hea, rfl⟩ := List.mem_map.mp ha'
  obtain ⟨eb, heb, rfl⟩ := List.mem_map.mp hb'
  have hu := Precedes.uri_eq (newResource_tier P ea) hab hba
  obtain ⟨x, hx⟩ := Option.isSome_iff_exists.mp (newResource_uri_isSome P (hes ea (List.mem_filter.mp hea).1))
  obtain ⟨y, hy⟩ := Option.isSome_iff_exists.mp (newResource_uri_isSome P (hes eb (List.mem_filter.mp heb).1))
  rw [hx, hy] at hu ⊢
  exact congrArg some hu

theorem kept_include (t : Bytes) (es : List PropEntry) :
    kept P (some t) true es = es.map (newResource P) := by
  simp [kept, skipsEntry]

/-- A child's record never precedes the record of the collection it lies under. -/
theorem not_precedes_parent {e e0 : PropEntry} {p q : Bytes} (hcoll : isCollection e0 = true)
    (hp : nePathUnescape e0.path = some p) (hq : nePathUnescape e.path = some q)
    (hpq : p <+: q) (hne : q ≠ p) : ¬Precedes (newResource P e) (newResource P e0) := by
  obtain ⟨c, rfl⟩ := hpq
  have h1 := strcmp_append p c fun h => hne (by simp [h])
  have h2 := strcmp_swap p (p ++ c)
  have ht := newResource_tier P e
  have hu0 : (newResource P e0).uri = some p := hp
  have hu : (newResource P e).uri = some (p ++ c) := hq
  unfold Precedes
  rw [hu0, hu, show (newResource P e0).type = .collection by simp [newResource, hcoll]]
  rintro (h | ⟨-, h | h⟩)
  · exact ht (by simpa [ResourceType.tier] using h)
  · exact ht (ResourceType.tier_eq_zero.mpr h)
  · simp only [Option.getD_some] at h
    omega

/-- With the target included, the target's own entry heads the listing when every other
entry lies under it and it is a collection or alone. -/
theorem listing_head_self (t : Bytes) {es : List PropEntry} {e0 : PropEntry} {p : Bytes}
    (h0 : e0 ∈ es) (hp : nePathUnescape e0.path = some p)
    (hc : ∀ e ∈ es, e ≠ e0 → ∃ q, nePathUnescape e.path = some q ∧ p <+: q ∧ q ≠ p)
    (hcoll : isCollection e0 = true ∨ ∀ e ∈ es, e = e0) :
    ∃ ctx, listing P (.init (some t) true) es = some ctx ∧
      ctx.list.head? = some (newResource P e0) := by
  have hes : ∀ e ∈ es, Decodes e := fun e he => by
    by_cases h : e = e0
    · subst h; simp [Decodes, hp]
    · obtain ⟨q, hq, -⟩ := hc e he h; simp [Decodes, hq]
  obtain ⟨ctx, hl, hcat⟩ := listing_init_catalog P (some t) true hes
  refine ⟨ctx, hl, head_eq_of_pairwise hcat.sorted ?_ fun b hb hpre => ?_⟩
  · rw [hcat.perm.mem_iff, kept_include]; exact List.mem_map_of_mem _ h0
  · rw [hcat.perm.mem_iff, kept_include] at hb
    obtain ⟨e, he, rfl⟩ := List.mem_map.mp hb
    by_cases h : e = e0
    · rw [h]
    rcases hcoll with hcoll | honly
    · obtain ⟨q, hq, hpq, hne⟩ := hc e he h
      exact absurd hpre (not_precedes_parent P hcoll hp hq hpq hne)
    · rw [honly e he]

/-- With the target excluded, `results` drops an entry exactly when `ne_path_compare` matches
the target against the raw path of the href. -/
theorem results_eq_self_iff {ctx : ListdirContext} {t : Bytes} (ht : ctx.target = some t)
    (hi : ctx.includeTarget = false) (e : PropEntry) :
    results P ctx e = some ctx ↔ nePathCompare t e.path = 0 := by
  unfold results
  by_cases h : nePathCompare t e.path = 0
  · simp [skipsEntry, ht, hi, h]
  · have hk : skipsEntry ctx.target ctx.includeTarget e = false := by simp [skipsEntry, ht, h]
    rw [if_neg (by simp [hk]), iff_false_intro h, iff_false]
    intro hs
    obtain ⟨l, hl, he⟩ := Option.map_eq_some'.mp hs
    have := congrArg (·.list.length) he
    simp only [(insertResource_perm hl).length_eq, List.length_cons] at this
    omega

end

end Owncloud
