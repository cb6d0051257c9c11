/-
  Linking a list at once, or declaring its classes one by one.

  A list is in a good order if every class comes after its superclass (`SuperclassFirst`).

  1. **One by one** — a list in a good order can be declared class by class into an empty pool, and
     the pool that comes of it is made of what the names denote, just as a linked pool is
     (`SuperclassFirst.declareAll_linked`).

  2. **The order** — the classes of a linked pool, sorted by the number of their ancestors, give a
     good order (`Linked.exists_superclassFirst`).

  3. **Both ways** — a good order exists exactly if the list can be linked, and then both ways lead
     to the same classes under the same names, whatever the order of the list
     (`declareAll_eq_link`).
-/
import Splice.Proofs.Pool.Closure
import Splice.Proofs.Pool.History

namespace Splice.Linking

open Walk

variable {decls ds before after : List Declaration} {n : String} {d : Declaration} {p q : Pool}
  {c : Lineage}

/-- Every class comes after its superclass. -/
def SuperclassFirst (ds : List Declaration) : Prop :=
  ∀ before d after, ds = before ++ d :: after → ∀ s, d.superclass = some s →
    ∃ e ∈ before, e.name = s

/-! ## One by one -/

/-- Declaring keeps a pool faithful. -/
theorem Faithful.declare (hp : Faithful decls p) (hd : find? decls d.name = some d)
    (h : p.declare d = some q) : Faithful decls q := by
  obtain ⟨hsup, rfl⟩ := Pool.declare_eq_some_iff.mp h
  refine hp.insert ?_ (Declaration.name_over ..)
  cases hs : d.superclass with
  | none => exact .root hd hs
  | some s =>
    obtain ⟨b, hb⟩ := hsup s hs
    rw [Option.bind_some, hb]
    exact .up hd hs (hp s b hb)

/-- Once the classes before have come in, faithfully, those after can come in too, and give a linked
    pool. -/
theorem SuperclassFirst.declareAll_rest (ho : SuperclassFirst ds)
    (hn : (ds.map Declaration.name).Nodup) (hds : ds = before ++ after) (hp : Faithful ds p)
    (hdist : p.Distinct) (hfound : ∀ e ∈ before, ∃ c, p.get? e.name = some c) :
    ∃ q, p.declareAll after = some q ∧ Linked ds q := by
  induction after generalizing before p with
  | nil =>
    rw [List.append_nil] at hds
    exact ⟨p, rfl, hp, hdist, hds ▸ hfound⟩
  | cons d after ih =>
    -- the superclass has come in before, so that it is found
    have hsup : ∀ s, d.superclass = some s → ∃ b, p.get? s = some b := fun s hs => by
      obtain ⟨e, he, rfl⟩ := ho before d after hds s hs
      exact hfound e he
    have hr := Pool.declare_eq_some_iff.mpr ⟨hsup, rfl⟩
    have hd : find? ds d.name = some d := find?_of_mem hn (by simp [hds])
    obtain ⟨q, hq, hlinked⟩ := ih (hds.trans (List.append_cons ..)) (hp.declare hd hr)
      (hdist.declare hr) fun e he => by
        rw [Pool.get?_declare hr]
        split
        · exact ⟨_, rfl⟩
        · rename_i hne
          rcases List.mem_append.mp he with he | he
          · exact hfound e he
          · exact absurd (congrArg Declaration.name (List.mem_singleton.mp he).symm) hne
    exact ⟨q, Pool.declareAll_cons_eq_some_iff.mpr ⟨_, hr, hq⟩, hlinked⟩

/-- A list in a good order comes in as a whole, and gives a linked pool. -/
theorem SuperclassFirst.declareAll_linked (ho : SuperclassFirst ds)
    (hn : (ds.map Declaration.name).Nodup) :
    ∃ p, Pool.empty.declareAll ds = some p ∧ Linked ds p :=
  ho.declareAll_rest hn rfl (fun _ _ h => absurd h nofun) Pool.distinct_empty
    fun _ h => absurd h List.not_mem_nil

/-! ## The order -/

/-- The number of ancestors of the class under a name. -/
def depth (p : Pool) (n : String) : Nat := ((p.get? n).map (·.ancestors.length)).getD 0

/-- A class has one ancestor more than its superclass. -/
theorem Linked.depth_eq (hp : Linked decls p) (hd : d ∈ decls)
    (hn : (decls.map Declaration.name).Nodup) {s : String} (hs : d.superclass = some s) :
    (∃ e ∈ decls, e.name = s) ∧ depth p d.name = depth p s + 1 := by
  obtain ⟨c, hc⟩ := hp.complete d hd
  have hsup := (hp.faithful _ c hc).superclass?_eq (find?_of_mem hn hd)
  rw [hs] at hsup
  obtain ⟨b, hb, hden⟩ := hsup
  have hanc := c.ancestors_eq
  rw [hb] at hanc
  refine ⟨hden.declared, ?_⟩
  rw [depth, depth, hc, hp.get?_eq_some_iff.mpr hden, Option.map_some, Option.map_some, hanc]
  rfl

/-- Sorted by the number of ancestors, a list that can be linked is in a good order. -/
theorem Linked.exists_superclassFirst (hp : Linked decls p)
    (hn : (decls.map Declaration.name).Nodup) : ∃ ds, ds.Perm decls ∧ SuperclassFirst ds := by
  let le (d e : Declaration) : Bool := depth p d.name ≤ depth p e.name
  have hperm : (decls.mergeSort le).Perm decls := List.mergeSort_perm decls le
  have hsorted : (decls.mergeSort le).Pairwise fun d e => le d e = true :=
    List.pairwise_mergeSort (fun a b c hab hbc => by simp only [le, decide_eq_true_eq] at *; omega)
      (fun a b => by simp only [le, Bool.or_eq_true, decide_eq_true_eq]; omega) decls
  refine ⟨_, hperm, fun before d after hds s hs => ?_⟩
  have hd : d ∈ decls := hperm.mem_iff.mp (hds ▸ List.mem_append_right _ List.mem_cons_self)
  obtain ⟨⟨e, he, rfl⟩, hdepth⟩ := hp.depth_eq hd hn hs
  have he : e ∈ before ++ d :: after := hds ▸ hperm.mem_iff.mpr he
  rcases List.mem_append.mp he with he | he
  · exact ⟨e, he, rfl⟩
  · -- from `d` on, no class has fewer ancestors than `d`
    rw [hds, List.pairwise_append, List.pairwise_cons] at hsorted
    have hle : depth p d.name ≤ depth p e.name := by
      rcases List.mem_cons.mp he with rfl | he
      · exact Nat.le_refl _
      · exact of_decide_eq_true (hsorted.2.1.1 e he)
    omega

/-! ## Both ways -/

/-- Where no name is declared twice, the order makes no difference to what is declared. -/
theorem find?_eq_of_perm (hn : (decls.map Declaration.name).Nodup) (h : ds.Perm decls)
    (n : String) : find? ds n = find? decls n := by
  refine Option.ext fun d => ?_
  rw [find?_eq_some_iff hn, find?_eq_some_iff ((h.map _).nodup_iff.mpr hn), h.mem_iff]

/-- A list that can be linked can be linked in any order, to pools that hold the same. -/
theorem Linked.link_perm (hp : Linked decls p) (hn : (decls.map Declaration.name).Nodup)
    (h : ds.Perm decls) :
    ∃ q, Pool.link ds = .ok q ∧ q.names.Perm p.names ∧ ∀ n, q.get? n = p.get? n := by
  have hfind := find?_eq_of_perm hn h
  have hnds : (ds.map Declaration.name).Nodup := (h.map _).nodup_iff.mpr hn
  obtain ⟨q, hq⟩ := link_eq_ok_iff.mpr ⟨hnds, fun d hd => by
    obtain ⟨c, hc⟩ := hp.complete d (h.mem_iff.mp hd)
    obtain ⟨es, hes⟩ := (hp.faithful _ _ hc).ends
    exact ⟨es, hes.congr fun _ x _ => (hfind x).symm⟩⟩
  have hlinked := (link_ok hq).2
  refine ⟨q, hq, ?_, fun n => hlinked.get?_congr hp fun _ x _ => hfind x⟩
  exact (hlinked.names_perm hnds).trans ((h.map _).trans (hp.names_perm hn).symm)

/-- A good order of a list without a name twice exists exactly if the list can be linked.  Declared
    one by one in such an order, or linked in any, the classes are the same. -/
theorem declareAll_eq_link (decls : List Declaration) (hn : (decls.map Declaration.name).Nodup) :
    ((∃ ds, ds.Perm decls ∧ SuperclassFirst ds) ↔ ∃ p, Pool.link decls = .ok p) ∧
    ∀ ds decls', ds.Perm decls → SuperclassFirst ds → decls'.Perm decls →
      ∃ p q, Pool.empty.declareAll ds = some p ∧ Pool.link decls' = .ok q ∧
        p.names.Perm q.names ∧ ∀ n, p.get? n = q.get? n := by
  have hlink : ∀ ds decls', ds.Perm decls → SuperclassFirst ds → decls'.Perm decls →
      ∃ p q, Pool.empty.declareAll ds = some p ∧ Pool.link decls' = .ok q ∧
        p.names.Perm q.names ∧ ∀ n, p.get? n = q.get? n := by
    intro ds decls' hds ho hdecls'
    have hnds : (ds.map Declaration.name).Nodup := (hds.map _).nodup_iff.mpr hn
    obtain ⟨p, hp, hlinked⟩ := ho.declareAll_linked hnds
    obtain ⟨q, hq, hnames, hget⟩ := hlinked.link_perm hnds (hdecls'.trans hds.symm)
    exact ⟨p, q, hp, hq, hnames.symm, fun n => (hget n).symm⟩
  refine ⟨⟨fun ⟨ds, hds, ho⟩ => ?_, fun ⟨p, hp⟩ => ?_⟩, hlink⟩
  · obtain ⟨_, q, _, hq, _⟩ := hlink ds decls hds ho (.refl decls)
    exact ⟨q, hq⟩
  · exact (link_ok hp).2.exists_superclassFirst hn

/-- Linked with the subclass first, and declared with the superclass first. -/
theorem declareAll_eq_link_subclassFirst :
    ∃ p q,
      Pool.empty.declareAll [⟨"Base", none, [.named "f"]⟩, ⟨"Target", some "Base", []⟩] = some p ∧
      Pool.link [⟨"Target", some "Base", []⟩, ⟨"Base", none, [.named "f"]⟩] = .ok q ∧
      p.names.Perm q.names ∧ ∀ n, p.get? n = q.get? n := by
  let base : Declaration := ⟨"Base", none, [.named "f"]⟩
  let target : Declaration := ⟨"Target", some "Base", []⟩
  have ho : SuperclassFirst [base, target] := by
    intro before d after hds s hs
    rcases before with _ | ⟨e, _ | ⟨e', before⟩⟩
    · obtain ⟨rfl, -⟩ := List.cons.inj hds
      exact nomatch hs
    · obtain ⟨rfl, htail⟩ := List.cons.inj hds
      obtain ⟨rfl, -⟩ := List.cons.inj htail
      exact ⟨base, List.mem_cons_self, Option.some.inj hs⟩
    · exact absurd (congrArg List.length hds) (by simp)
  exact (declareAll_eq_link [target, base] (by decide)).2 _ _ (.swap ..) ho (.refl _)

end Splice.Linking
