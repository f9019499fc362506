import CsyncOwncloud.Server

/-! What a listing hands out. The handle `_opendir` returns walks the catalog of the PropFind
response in order and then answers NULL; the network path of `_stat` answers the record at
the catalog's head; and `results` drops the listed directory's own entry only when its href
spells the target as `_cleanPath` does, up to letter case and one trailing slash. -/

namespace Owncloud

section
variable {σ : Type} (P : Platform) (N : Neon σ)

/-- Past the end of its list, a listing handle answers NULL and stays where it is. -/
theorem run_readdir_end (h : Nat) {c : ListdirContext} {w : World σ} (hub : w.ub = false)
    (hh : w.heap h = some (.dir c)) (hc : c.currResource = []) (k : Nat) :
    (run P N (List.replicate k (.readdir h)) w).1 = List.replicate k (.entry none) := by
  induction k with
  | zero => rfl
  | succ k ih => simpa [List.replicate_succ, run, step, hub, exec, readdir, hh, hc] using ih

/-- Successive `_readdir` calls on a handle answer the records from its cursor on, in order,
then NULL. -/
theorem run_readdir (h k : Nat) (rs : List Resource) {c : ListdirContext} {w : World σ}
    (hub : w.ub = false) (hh : w.heap h = some (.dir c)) (hc : c.currResource = rs) :
    (run P N (List.replicate (rs.length + k) (.readdir h)) w).1 =
      rs.map (fun r => .entry (some (resourceToFileStat r))) ++ List.replicate k (.entry none) := by
  induction rs generalizing c w with
  | nil => simpa using run_readdir_end P N h hub hh hc k
  | cons r rs ih =>
    rw [show (r :: rs).length + k = (rs.length + k) + 1 by simp only [List.length_cons]; omega,
      List.replicate_succ]
    simp only [run, step, hub, exec, readdir, hh, hc, List.map_cons, List.cons_append,
      Bool.false_eq_true, if_false]
    exact congrArg _ (@ih { c with currResource := rs } _ (by simpa [World.setHandle] using hub)
      (by simp [World.setHandle]) rfl)

/-- The handle `_opendir` returns, the last one allocated, holds the listing of the server's
answer, its cursor at the head. -/
theorem opendir_some {u : Bytes} {w w' : World σ} {h : Nat} (ho : opendir P N u w = (some h, w')) :
    ∃ ctx, listing P (.init (cleanPath u) false)
        (N.simplePropfind w.server ((cleanPath u).getD [])).2 = some ctx ∧
      w'.heap h = some (.dir { ctx with currResource := ctx.list }) ∧ h < w'.nextPtr := by
  unfold opendir at ho
  simp only [World.logCall, World.usePath, davConnect_server] at ho
  split at ho
  · cases ho
  · rename_i ctx hl
    split_ifs at ho
    · cases ho
    · simp only [Prod.mk.injEq, Option.some.injEq] at ho
      obtain ⟨rfl, rfl⟩ := ho
      exact ⟨ctx, hl, by simp [World.alloc], by simp [World.alloc]⟩

/-- Every response whose hrefs decode is catalogued by the listing, `_opendir`'s handle then
answers the catalog's records in order and NULL after them, and the catalog does not depend
on the order of the response when the kept records have distinct URIs. -/
theorem listing_catalog_readdir :
    (∀ (target : Option Bytes) (incl : Bool) (es : List PropEntry), (∀ e ∈ es, Decodes e) →
      ∃ ctx, listing P (.init target incl) es = some ctx ∧ Catalog (kept P target incl es) ctx) ∧
    (∀ (u : Bytes) (w w' : World σ) (h : Nat), opendir P N u w = (some h, w') → w'.ub = false →
      ∃ ctx, Catalog (kept P (cleanPath u) false
          (N.simplePropfind w.server ((cleanPath u).getD [])).2) ctx ∧
        ∀ k, (run P N (List.replicate (ctx.list.length + k) (.readdir h)) w').1 =
          ctx.list.map (fun r => .entry (some (resourceToFileStat r))) ++
            List.replicate k (.entry none)) ∧
    (∀ (target : Option Bytes) (incl : Bool) (es es' : List PropEntry), es.Perm es' →
      (∀ e ∈ es, Decodes e) → ((kept P target incl es).map (·.uri)).Nodup →
      (listing P (.init target incl) es).map (·.list) =
        (listing P (.init target incl) es').map (·.list)) := by
  refine ⟨fun target incl _ hes => listing_init_catalog P target incl hes, ?_,
    fun target incl _ _ hp hes hd => listing_perm_eq P target incl hp hes hd⟩
  intro u w w' h ho hub
  obtain ⟨ctx, hl, hh, -⟩ := opendir_some P N ho
  have hcat := listing_catalog P (Catalog.init _ _) hl
  rw [List.nil_append] at hcat
  exact ⟨ctx, hcat, fun k => run_readdir P N h k ctx.list hub hh rfl⟩

theorem listing_catalog_readdir_twin :
    let es := (twinServer.propfind (cstr "/d1")).2
    let o := opendir sampleBuild DavServer.neon (cstr "owncloud://h/d1") (.init stdDisk twinServer)
    (∃ ctx, listing sampleBuild (.init (some (cstr "/d1")) false) es = some ctx ∧
      Catalog (kept sampleBuild (some (cstr "/d1")) false es) ctx) ∧
    (∃ ctx, Catalog (kept sampleBuild (cleanPath (cstr "owncloud://h/d1")) false
        (DavServer.neon.simplePropfind twinServer ((cleanPath (cstr "owncloud://h/d1")).getD [])).2) ctx ∧
      ∀ k, (run sampleBuild DavServer.neon (List.replicate (ctx.list.length + k) (.readdir 1)) o.2).1 =
        ctx.list.map (fun r => .entry (some (resourceToFileStat r))) ++ List.replicate k (.entry none)) ∧
    (listing sampleBuild (.init (some (cstr "/d1")) false) es).map (·.list) =
      (listing sampleBuild (.init (some (cstr "/d1")) false) es.reverse).map (·.list) :=
  ⟨(listing_catalog_readdir sampleBuild DavServer.neon).1 _ _ _ (by decide),
    (listing_catalog_readdir sampleBuild DavServer.neon).2.1 (cstr "owncloud://h/d1")
      (.init stdDisk twinServer) _ 1 (Prod.ext (by decide) rfl) (by decide),
    (listing_catalog_readdir sampleBuild DavServer.neon).2.2 _ _ _ _ (List.reverse_perm _).symm (by decide)
      (by decide)⟩

theorem result_count_wraps :
    ∃ ctx, listing sampleBuild (.init (some (cstr "/d")) false)
        (List.replicate (2 ^ 32) ⟨cstr "/d/f", none, some (cstr "1"), none⟩) = some ctx ∧
      ctx.list.length = 2 ^ 32 ∧ ctx.resultCount.toNat = 0 := by
  have he : Decodes ⟨cstr "/d/f", none, some (cstr "1"), none⟩ := by decide
  have hs : skipsEntry (some (cstr "/d")) false ⟨cstr "/d/f", none, some (cstr "1"), none⟩ = false := by
    decide
  obtain ⟨ctx, hl, hcat⟩ := listing_init_catalog sampleBuild (some (cstr "/d")) false
    fun e (h : e ∈ List.replicate (2 ^ 32) _) => List.eq_of_mem_replicate h ▸ he
  have hlen : ctx.list.length = 2 ^ 32 := by
    simp only [hcat.perm.length_eq, kept, List.length_map, List.filter_replicate, hs, Bool.not_false,
      ↓reduceIte, List.length_replicate]
  exact ⟨ctx, hl, hlen, by rw [hcat.count, hlen, Nat.mod_self]⟩

/-- With the target included and `_cleanPath` accepting the URI, the network path of `_stat`
writes the URI's own entry into the buffer. -/
theorem statNetwork_answers_own_entry (u t : Bytes) (ht : cleanPath u = some t) (buf : FileStat)
    (w : World σ) (es : List PropEntry) (hr : N.simplePropfind w.server u = (neOk, es))
    (e0 : PropEntry) (p : Bytes) (h0 : e0 ∈ es) (hp : nePathUnescape e0.path = some p)
    (hc : ∀ e ∈ es, e ≠ e0 → ∃ q, nePathUnescape e.path = some q ∧ p <+: q ∧ q ≠ p)
    (hcoll : isCollection e0 = true ∨ ∀ e ∈ es, e = e0) :
    let lfs := resourceToFileStat (newResource P e0)
    (statNetwork P N u buf w).1 = 0 ∧
      (statNetwork P N u buf w).2.1 =
        some { buf with fields := lfs.fields, type := lfs.type, mtime := lfs.mtime,
                        size := lfs.size, mode := statPerms lfs.type } := by
  obtain ⟨ctx, hl, hh⟩ := listing_head_self P t h0 hp hc hcoll
  simp only [statNetwork, World.logCall, hr, ht, hl, hh]
  exact ⟨rfl, rfl⟩

theorem statNetwork_answers_own_entry_twin :
    let u := cstr "owncloud://h/d1"
    let w := (davConnect DavServer.neon u (.init stdDisk twinServer)).2
    let lfs := resourceToFileStat (newResource sampleBuild (DavServer.dirEntry (cstr "/d1")))
    (statNetwork sampleBuild DavServer.neon u .zero w).1 = 0 ∧
      (statNetwork sampleBuild DavServer.neon u .zero w).2.1 =
        some { FileStat.zero with fields := lfs.fields, type := lfs.type, mtime := lfs.mtime,
                                  size := lfs.size, mode := statPerms lfs.type } := by
  refine statNetwork_answers_own_entry sampleBuild DavServer.neon _ (cstr "/d1") (by decide) _ _ _
    (Prod.ext (by decide) rfl) _ (cstr "/d1/") (by decide) (by decide) ?_ (Or.inl (by decide))
  intro e he hne
  have hes : (DavServer.neon.simplePropfind (davConnect DavServer.neon (cstr "owncloud://h/d1")
      (.init stdDisk twinServer)).2.server (cstr "owncloud://h/d1")).2 =
      [DavServer.dirEntry (cstr "/d1"), DavServer.fileEntry (cstr "/d1/x", cstr "hello")] := by
    decide
  simp only [hes] at he
  rcases List.mem_cons.mp he with rfl | he
  · exact absurd rfl hne
  · rw [List.mem_singleton.mp he]
    exact ⟨cstr "/d1/x", by decide, by decide, by decide⟩

theorem stat_of_unparsed_uri_writes_nothing :
    let u := cstr "owncloud://h/a b"
    let self : PropEntry := ⟨cstr "/a%20b/", none, none, some collectionType⟩
    let N := { DavServer.neon with simplePropfind := fun _ _ => (neOk, [self]) }
    let w := (davConnect N (cstr "owncloud://h/") (.init stdDisk twinServer)).2
    cleanPath u = none ∧ isCollection self = true ∧ nePathUnescape self.path = some (cstr "/a b/") ∧
      (stat sampleBuild N u .zero w).1 = 0 ∧ (stat sampleBuild N u .zero w).2.2.ub = false ∧
      (stat sampleBuild N u .zero w).2.1 = some { FileStat.zero with name := some (cstr "a b") } := by
  decide

/-- With the target excluded, `results` drops an entry whose href spells the target up to
letter case and one trailing slash, so it stays out of the catalog. -/
theorem results_skips_own_href {ctx : ListdirContext} {t : Bytes} (ht : ctx.target = some t)
    (hi : ctx.includeTarget = false) (e : PropEntry)
    (hsame : e.path.map asciiLower = t.map asciiLower ∨
      (hasTrailingSlash t = false ∧ e.path.map asciiLower = (t ++ [slash]).map asciiLower) ∨
      (hasTrailingSlash e.path = false ∧ t.map asciiLower = (e.path ++ [slash]).map asciiLower)) :
    results P ctx e = some ctx := by
  rw [results_eq_self_iff P ht hi]
  rcases hsame with h | ⟨ha, h⟩ | ⟨ha, h⟩
  · exact nePathCompare_of_lower_eq h.symm
  · exact (nePathCompare_of_lower_append_slash ha h).1
  · exact (nePathCompare_of_lower_append_slash ha h).2

theorem results_skips_own_href_slash :
    results sampleBuild (.init (some (cstr "/a%28b")) false) ⟨cstr "/A%28b/", none, none, some collectionType⟩ =
      some (.init (some (cstr "/a%28b")) false) :=
  results_skips_own_href sampleBuild rfl rfl _ (Or.inr (Or.inl ⟨by decide, by decide⟩))

theorem opendir_lists_own_entry :
    let u := cstr "owncloud://h/a(b"
    let self : PropEntry := ⟨cstr "/a(b/", none, none, some collectionType⟩
    let N := { DavServer.neon with simplePropfind := fun _ _ => (neOk, [self]) }
    let o := opendir sampleBuild N u (.init stdDisk twinServer)
    cleanPath u = some (cstr "/a%28b") ∧ nePathUnescape (cstr "/a%28b") = some (cstr "/a(b") ∧
      o.1 = some 1 ∧
      (run sampleBuild N [.readdir 1] o.2).1 =
        [.entry (some (resourceToFileStat (newResource sampleBuild self)))] := by
  decide

end

end Owncloud
