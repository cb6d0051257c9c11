/-
  A linked pool is a faithful image of its declarations.

  Everything follows from one equation: what a linked pool holds under a name is what the name
  denotes (`Linked.get?_eq_some_iff`), whatever the order in which the classes were built and
  whichever of them were found in the cache.

  1. **Class by class** — what a name denotes has the layer of the name's declaration, over what the
     superclass denotes (`Denotes.own_eq`, `Denotes.superclass?_eq`), so that the chain a class has
     been given by value is the chain the pool holds (`Linked.superclass?_eq`,
     `Linked.get?_ancestor`).

  2. **As a whole** — a class is read back as a declaration by naming its superclass
     (`Lineage.declaration`).  What is read back from a linked pool is what was declared, with each
     method a member of its class (`Linked.declarations_perm`).

  `Image` lists what is meant by a faithful image, and `link_image` says that linking gives one.
-/
import Splice.Proofs.Pool.Linking

namespace Splice

/-- The class as a declaration: the superclass is named, not held. -/
def Lineage.declaration (c : Lineage) : Declaration :=
  ⟨c.name, c.superclass?.map Lineage.name, c.declared⟩

/-- The declaration with each method as a member of the class. -/
def Declaration.owned (d : Declaration) : Declaration :=
  { d with methods := d.methods.map (·.declaredOn d.name) }

namespace Linking

open Walk

variable {decls : List Declaration} {n : String} {b c : Lineage} {d : Declaration} {p : Pool}

/-! ## Class by class -/

theorem Denotes.exists_find? (h : Denotes decls n c) : ∃ d, find? decls n = some d := by
  obtain ⟨ds, hds, -⟩ := h
  obtain ⟨d, -, -, hd⟩ := hds.head
  exact ⟨d, hd⟩

theorem Denotes.declared (h : Denotes decls n c) : ∃ d ∈ decls, d.name = n := by
  obtain ⟨d, hd⟩ := h.exists_find?
  exact ⟨d, find?_mem hd, find?_name hd⟩

theorem Denotes.own_eq (h : Denotes decls n c) (hd : find? decls n = some d) :
    c.own = d.layer := by
  obtain ⟨ds, hds, hc⟩ := h
  obtain ⟨e, es, rfl, he⟩ := hds.head
  obtain rfl : d = e := Option.some.inj (hd.symm.trans he)
  exact (List.cons.inj hc).1

theorem Denotes.name_eq (h : Denotes decls n c) : c.name = n := by
  obtain ⟨d, hd⟩ := h.exists_find?
  rw [Lineage.name, h.own_eq hd, Declaration.name_layer, find?_name hd]

/-- The superclass of what a name denotes is what the superclass denotes. -/
theorem Denotes.superclass?_eq (h : Denotes decls n c) (hd : find? decls n = some d) :
    match d.superclass with
    | none => c.superclass? = none
    | some p => ∃ b, c.superclass? = some b ∧ Denotes decls p b := by
  obtain ⟨ds, hds, hc⟩ := h
  cases hds with
  | root hd' hs =>
    obtain rfl : _ = _ := Option.some.inj (hd.symm.trans hd')
    rw [hs]
    dsimp only
    rw [Lineage.superclass?, (List.cons.inj hc).2]
    rfl
  | @up _ p _ es hd' hp hes =>
    obtain rfl : _ = _ := Option.some.inj (hd.symm.trans hd')
    rw [hp]
    -- the walk from the superclass is not empty, and neither are the layers above `c`
    obtain ⟨e, fs, rfl, -⟩ := hes.head
    refine ⟨⟨e.layer, fs.map Declaration.layer⟩, ?_, e :: fs, hes, rfl⟩
    rw [Lineage.superclass?, (List.cons.inj hc).2]
    rfl

/-- What a linked pool holds is what the names denote. -/
theorem Linked.get?_eq_some_iff (hp : Linked decls p) :
    p.get? n = some c ↔ Denotes decls n c := by
  constructor
  · exact hp.faithful n c
  · intro hc
    obtain ⟨d, hd, rfl⟩ := hc.declared
    obtain ⟨b, hb⟩ := hp.complete d hd
    rw [hb, (hp.faithful _ _ hb).unique hc]

theorem Linked.get?_isSome_iff (hp : Linked decls p) :
    (∃ c, p.get? n = some c) ↔ ∃ d ∈ decls, d.name = n := by
  constructor
  · rintro ⟨c, hc⟩
    exact (hp.faithful n c hc).declared
  · rintro ⟨d, hd, rfl⟩
    exact hp.complete d hd

/-- The superclass of a class is what the pool holds under the superclass's name. -/
theorem Linked.superclass?_eq (hp : Linked decls p) (h : Denotes decls n c)
    (hd : find? decls n = some d) : c.superclass? = d.superclass.bind p.get? := by
  have hsup := h.superclass?_eq hd
  cases hs : d.superclass with
  | none =>
    rw [hs] at hsup
    exact hsup
  | some q =>
    rw [hs] at hsup
    obtain ⟨b, hb, hq⟩ := hsup
    rw [hb, Option.bind_some, hp.get?_eq_some_iff.mpr hq]

theorem Denotes.superclass?_name_eq (h : Denotes decls n c) (hd : find? decls n = some d) :
    c.superclass?.map Lineage.name = d.superclass := by
  have hsup := h.superclass?_eq hd
  cases hs : d.superclass with
  | none =>
    rw [hs] at hsup
    rw [hsup, Option.map_none]
  | some q =>
    rw [hs] at hsup
    obtain ⟨b, hb, hq⟩ := hsup
    rw [hb, Option.map_some, hq.name_eq]

/-- The names along the chain of a class are the names along the walk. -/
theorem Denotes.names_eq (h : Denotes decls n c) : ∃ ds, Ends decls n ds ∧
    c.name :: c.ancestorNames = ds.map Declaration.name := by
  obtain ⟨ds, hds, hc⟩ := h
  refine ⟨ds, hds, ?_⟩
  calc c.name :: c.ancestorNames = c.chain.map Layer.name := rfl
    _ = (ds.map Declaration.layer).map Layer.name := by rw [hc]
    _ = ds.map Declaration.name := by rw [List.map_map]; rfl

theorem Denotes.nodup (h : Denotes decls n c) : (c.name :: c.ancestorNames).Nodup := by
  obtain ⟨ds, hds, hnames⟩ := h.names_eq
  rw [hnames]
  exact hds.nodup

/-- Every layer above a class is a class of the pool, with the layers above it. -/
theorem Linked.get?_ancestor (hp : Linked decls p) (h : Denotes decls n c)
    {below above : List Layer} {l : Layer} (hl : c.ancestors = below ++ l :: above) :
    p.get? l.name = some ⟨l, above⟩ := by
  obtain ⟨ds, hds, hc⟩ := h
  have hsplit : ds.map Declaration.layer = (c.own :: below) ++ l :: above := by
    rw [← hc, Lineage.chain, hl, List.cons_append]
  obtain ⟨as, rest, rfl, -, hrest⟩ := List.map_eq_append_iff.mp hsplit
  obtain ⟨e, bs, rfl, rfl, rfl⟩ := List.map_eq_cons_iff.mp hrest
  exact hp.get?_eq_some_iff.mpr ⟨e :: bs, hds.cut.2, rfl⟩

/-! ## As a whole -/

theorem Linked.names_perm (hp : Linked decls p) (hn : (decls.map Declaration.name).Nodup) :
    p.names.Perm (decls.map Declaration.name) := by
  refine (List.perm_ext_iff_of_nodup hp.distinct hn).mpr fun n => ?_
  rw [Pool.mem_names_iff, hp.get?_isSome_iff, List.mem_map]

theorem Denotes.declaration_eq (h : Denotes decls n c) (hd : find? decls n = some d) :
    c.declaration = d.owned := by
  have hown := h.own_eq hd
  have hsup := h.superclass?_name_eq hd
  rw [Lineage.declaration, Lineage.name, Lineage.declared, hown, hsup]
  rfl

/-- What is read back from a linked pool is what was declared. -/
theorem Linked.declarations_perm (hp : Linked decls p)
    (hn : (decls.map Declaration.name).Nodup) :
    (p.classes.map Lineage.declaration).Perm (decls.map Declaration.owned) := by
  have hleft : ((p.classes.map Lineage.declaration).map Declaration.name).Nodup := by
    rw [List.map_map]
    exact hp.distinct
  have hright : ((decls.map Declaration.owned).map Declaration.name).Nodup := by
    rw [List.map_map]
    exact hn
  -- neither list holds anything twice, since no name does
  refine (List.perm_ext_iff_of_nodup hleft.of_map hright.of_map).mpr fun e => ?_
  simp only [List.mem_map]
  constructor
  · rintro ⟨c, hc, rfl⟩
    have hden := hp.faithful _ _ (hp.distinct.get?_eq_some_iff.mpr ⟨hc, rfl⟩)
    obtain ⟨d, hd, hdn⟩ := hden.declared
    exact ⟨d, hd, (hden.declaration_eq (hdn ▸ find?_of_mem hn hd)).symm⟩
  · rintro ⟨d, hd, rfl⟩
    obtain ⟨c, hc⟩ := hp.complete d hd
    exact ⟨c, (hp.distinct.get?_eq_some_iff.mp hc).1,
      (hp.faithful _ _ hc).declaration_eq (find?_of_mem hn hd)⟩

/-! ## The image -/

/-- The pool `p` is a faithful image of the declarations. -/
structure Image (decls : List Declaration) (p : Pool) : Prop where
  /-- There is one class for each declaration, and no other. -/
  size : p.size = decls.length
  names : p.names.Perm (decls.map Declaration.name)
  /-- A class is found under its own name, and under no other. -/
  lookup : ∀ n c, p.get? n = some c ↔ c ∈ p.classes ∧ c.name = n
  /-- A class has the methods of its declaration, in order and as they are declared but for the
      class they belong to. -/
  methods : ∀ d ∈ decls, ∃ c, p.get? d.name = some c ∧
    c.declared = d.methods.map (·.declaredOn d.name)
  /-- A class has no superclass if its declaration names none, and else the class the pool holds
      under that name. -/
  superclass : ∀ d ∈ decls, ∀ c, p.get? d.name = some c →
    (c.superclass? = none ↔ d.superclass = none) ∧ c.superclass? = d.superclass.bind p.get?
  /-- The names along the chain of a class are those along the superclass walk, each once. -/
  chain : ∀ n c, p.get? n = some c →
    (∃ ds, Ends decls n ds ∧ c.name :: c.ancestorNames = ds.map Declaration.name) ∧
    (c.name :: c.ancestorNames).Nodup
  /-- An ancestor is a class of the pool, with what stands above it in the chain. -/
  ancestors : ∀ n c, p.get? n = some c → ∀ below l above, c.ancestors = below ++ l :: above →
    p.get? l.name = some ⟨l, above⟩
  /-- The declarations can be read back. -/
  declarations : (p.classes.map Lineage.declaration).Perm (decls.map Declaration.owned)

/-- Linking gives a faithful image of the declarations. -/
theorem link_image (h : Pool.link decls = .ok p) : Image decls p := by
  obtain ⟨hn, hp⟩ := link_ok h
  have hnames := hp.names_perm hn
  refine
    { size := by rw [Pool.size_eq, hnames.length_eq, List.length_map]
      names := hnames
      lookup := fun n c => hp.distinct.get?_eq_some_iff
      methods := fun d hd => ?_
      superclass := fun d hd c hc => ?_
      chain := fun n c hc => ⟨(hp.faithful n c hc).names_eq, (hp.faithful n c hc).nodup⟩
      ancestors := fun n c hc below l above hl => hp.get?_ancestor (hp.faithful n c hc) hl
      declarations := hp.declarations_perm hn }
  · obtain ⟨c, hc⟩ := hp.complete d hd
    refine ⟨c, hc, ?_⟩
    rw [Lineage.declared, (hp.faithful _ _ hc).own_eq (find?_of_mem hn hd)]
    rfl
  · have hden := hp.faithful _ _ hc
    have hd := find?_of_mem hn hd
    refine ⟨?_, hp.superclass?_eq hden hd⟩
    rw [← hden.superclass?_name_eq hd, Option.map_eq_none_iff]

/-- Declared before its superclass, a class is nevertheless built after it. -/
theorem link_image_outOfOrder :
    ∃ p, Pool.link [⟨"C", some "B", [.named "f"]⟩, ⟨"A", none, [.named "f"]⟩, ⟨"B", some "A", []⟩]
        = .ok p ∧
      Image [⟨"C", some "B", [.named "f"]⟩, ⟨"A", none, [.named "f"]⟩, ⟨"B", some "A", []⟩] p := by
  have h : Pool.link
      [⟨"C", some "B", [.named "f"]⟩, ⟨"A", none, [.named "f"]⟩, ⟨"B", some "A", []⟩] =
      .ok ⟨[⟨⟨"A", [(Method.named "f").declaredOn "A"]⟩, []⟩,
        ⟨⟨"B", []⟩, [⟨"A", [(Method.named "f").declaredOn "A"]⟩]⟩,
        ⟨⟨"C", [(Method.named "f").declaredOn "C"]⟩,
          [⟨"B", []⟩, ⟨"A", [(Method.named "f").declaredOn "A"]⟩]⟩]⟩ := by cbv
  exact ⟨_, h, link_image h⟩

end Linking

end Splice
