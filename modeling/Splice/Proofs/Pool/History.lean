/-
  What a pool holds after any history of insertions.

  A history is a list of declarations that come in one after the other (`Pool.declareAll`).  Each of
  them becomes a class over what the pool holds at that moment under the name it extends, which may
  be the name of the class itself.

  1. **One insertion** — `Pool.declare_eq_some_iff` says all that one insertion does; what is found
     afterwards, and under which names, follows from it.

  2. **A whole history** — what has come in last under a name is found there
     (`get?_declareAll_last`), and where nothing has come in, what was there before
     (`get?_declareAll_of_forall_ne`).  What a class has inherited is settled when it comes in, so
     that no later insertion under another name touches it.

  3. **Whose methods** — along the chain of a class every method belongs to the layer it stands in
     (`Lineage.Owned`).  Linked pools hold only such classes, and insertions add only such.

  `Snapshot` puts these together.
-/
import Mathlib.Data.List.Dedup
import Splice.Proofs.Pool.Image

namespace Splice

/-! ## Whose methods -/

/-- Along the chain every method belongs to the layer it stands in. -/
def Lineage.Owned (c : Lineage) : Prop := ∀ l ∈ c.chain, ∀ m ∈ l.methods, m.declaringClass = l.name

/-- The methods that are seen on a class belong, in order, to the layers of its chain. -/
theorem Lineage.Owned.map_declaringClass {c : Lineage} (h : c.Owned) :
    c.visible.map Method.declaringClass =
      c.chain.flatMap fun l => l.methods.map fun _ => l.name := by
  rw [visible, List.map_flatMap]
  exact List.flatMap_congr fun l hl => List.map_congr_left (h l hl)

theorem Declaration.owned_layer (d : Declaration) :
    ∀ m ∈ d.layer.methods, m.declaringClass = d.layer.name := by
  intro m hm
  obtain ⟨m, -, rfl⟩ := List.mem_map.mp hm
  rfl

/-- A class over an owned one is owned. -/
theorem Declaration.owned_over (d : Declaration) {parent : Option Lineage}
    (h : ∀ b, parent = some b → b.Owned) : (d.over parent).Owned := by
  cases parent with
  | none =>
    intro l hl
    rw [d.chain_over_none, List.mem_singleton] at hl
    exact hl ▸ d.owned_layer
  | some b =>
    intro l hl
    rw [d.chain_over_some, List.mem_cons] at hl
    rcases hl with rfl | hl
    · exact d.owned_layer
    · exact h b rfl l hl

theorem Linking.Denotes.owned {decls : List Declaration} {n : String} {c : Lineage}
    (h : Denotes decls n c) : c.Owned := by
  obtain ⟨ds, -, hc⟩ := h
  intro l hl
  rw [hc] at hl
  obtain ⟨d, -, rfl⟩ := List.mem_map.mp hl
  exact d.owned_layer

namespace Pool

variable {start p q : Pool} {d : Declaration} {ds before after : List Declaration} {n : String}
  {c : Lineage}

/-! ## One insertion -/

/-- A declaration comes in if it extends nothing or a name the pool has, and becomes a class over
    what the pool holds under that name. -/
theorem declare_eq_some_iff :
    p.declare d = some q ↔ (∀ s, d.superclass = some s → ∃ b, p.get? s = some b) ∧
      q = p.insert (d.over (d.superclass.bind p.get?)) := by
  rw [declare]
  cases hs : d.superclass with
  | none => simp [eq_comm]
  | some s => cases hb : p.get? s <;> simp [hb, eq_comm]

theorem get?_declare (h : p.declare d = some q) (n : String) :
    q.get? n = if d.name = n then some (d.over (d.superclass.bind p.get?)) else p.get? n := by
  obtain ⟨-, rfl⟩ := declare_eq_some_iff.mp h
  rw [get?_insert, Declaration.name_over]

theorem get?_declare_self (h : p.declare d = some q) :
    q.get? d.name = some (d.over (d.superclass.bind p.get?)) := by
  rw [get?_declare h, if_pos rfl]

theorem get?_declare_of_ne (h : p.declare d = some q) (hn : n ≠ d.name) :
    q.get? n = p.get? n := by
  rw [get?_declare h, if_neg hn.symm]

/-- The class `c` is as the declaration `d` says, over what the pool `q` holds. -/
structure Describes (q : Pool) (d : Declaration) (c : Lineage) : Prop where
  name : c.name = d.name
  declared : c.declared = d.methods.map (·.declaredOn d.name)
  /-- Its own methods are seen first, and then those seen on the class it extends. -/
  parent : match d.superclass with
    | none => c.superclass? = none ∧ c.visible = c.declared
    | some s => ∃ b, q.get? s = some b ∧ c.superclass? = some b ∧
        c.visible = c.declared ++ b.visible

/-- What is found under the name of the class that has come in. -/
theorem describes_of_declare (h : p.declare d = some q) :
    ∃ c, q.get? d.name = some c ∧ Describes p d c := by
  let c := d.over (d.superclass.bind p.get?)
  have hsup : c.superclass? = d.superclass.bind p.get? := Declaration.superclass?_over ..
  have hvisible := c.visible_eq
  rw [hsup] at hvisible
  refine ⟨c, get?_declare_self h, Declaration.name_over .., ?_, ?_⟩
  · rw [Lineage.declared, Declaration.own_over]
  · cases hs : d.superclass with
    | none =>
      rw [hs] at hsup hvisible
      exact ⟨hsup, hvisible.trans (List.append_nil _)⟩
    | some s =>
      obtain ⟨b, hb⟩ := (declare_eq_some_iff.mp h).1 s hs
      rw [hs, Option.bind_some, hb] at hsup hvisible
      exact ⟨b, hb, hsup, hvisible⟩

theorem names_declare (h : p.declare d = some q) :
    q.names = if d.name ∈ p.names then p.names else p.names ++ [d.name] := by
  obtain ⟨-, rfl⟩ := declare_eq_some_iff.mp h
  rw [names_insert, Declaration.name_over]

theorem Distinct.declare (hp : p.Distinct) (h : p.declare d = some q) : q.Distinct := by
  obtain ⟨-, rfl⟩ := declare_eq_some_iff.mp h
  exact hp.insert _

/-- Every class of the pool is owned. -/
def Owned (p : Pool) : Prop := ∀ n c, p.get? n = some c → c.Owned

theorem Owned.declare (hp : p.Owned) (h : p.declare d = some q) : q.Owned := by
  intro n c hc
  rw [get?_declare h] at hc
  split at hc
  · obtain rfl := Option.some.inj hc
    refine d.owned_over fun b hb => ?_
    obtain ⟨s, -, hs⟩ := Option.bind_eq_some_iff.mp hb
    exact hp s b hs
  · exact hp n c hc

/-! ## A whole history -/

/-- The pool after declarations have come in one after the other. -/
def declareAll (p : Pool) (ds : List Declaration) : Option Pool := ds.foldlM declare p

/-- A history that is cut in two goes through the pool in between. -/
theorem declareAll_append (p : Pool) (as bs : List Declaration) :
    p.declareAll (as ++ bs) = (p.declareAll as).bind (·.declareAll bs) := List.foldlM_append

theorem declareAll_cons (p : Pool) (d : Declaration) (ds : List Declaration) :
    p.declareAll (d :: ds) = (p.declare d).bind (·.declareAll ds) := rfl

theorem declareAll_cons_eq_some_iff :
    p.declareAll (d :: ds) = some q ↔ ∃ r, p.declare d = some r ∧ r.declareAll ds = some q := by
  rw [declareAll_cons, Option.bind_eq_some_iff]

/-- A history can be cut at any declaration. -/
theorem declareAll_cut (h : p.declareAll (before ++ d :: after) = some q) :
    ∃ r s, p.declareAll before = some r ∧ r.declare d = some s ∧ s.declareAll after = some q := by
  rw [declareAll_append, Option.bind_eq_some_iff] at h
  obtain ⟨r, hr, h⟩ := h
  obtain ⟨s, hs, h⟩ := declareAll_cons_eq_some_iff.mp h
  exact ⟨r, s, hr, hs, h⟩

/-- Where nothing comes in, what is there stays. -/
theorem get?_declareAll_of_forall_ne (h : p.declareAll ds = some q)
    (hn : ∀ d ∈ ds, d.name ≠ n) : q.get? n = p.get? n := by
  induction ds generalizing p with
  | nil => rw [← Option.some.inj h]
  | cons d ds ih =>
    obtain ⟨r, hr, h⟩ := declareAll_cons_eq_some_iff.mp h
    rw [ih h fun e he => hn e (List.mem_cons_of_mem d he),
      get?_declare_of_ne hr (hn d List.mem_cons_self).symm]

/-- What has come in last under a name is found there. -/
theorem get?_declareAll_last (h : p.declareAll (before ++ d :: after) = some q)
    (hlast : ∀ e ∈ after, e.name ≠ d.name) :
    ∃ r c, p.declareAll before = some r ∧ q.get? d.name = some c ∧ Describes r d c := by
  obtain ⟨r, s, hr, hs, h⟩ := declareAll_cut h
  obtain ⟨c, hc, hd⟩ := describes_of_declare hs
  exact ⟨r, c, hr, (get?_declareAll_of_forall_ne h hlast).trans hc, hd⟩

/-- What one insertion keeps, a history keeps. -/
theorem declareAll_induction {P : Pool → Prop} (hp : P p)
    (step : ∀ {p q : Pool} {d : Declaration}, P p → p.declare d = some q → P q)
    (h : p.declareAll ds = some q) : P q := by
  induction ds generalizing p with
  | nil => exact Option.some.inj h ▸ hp
  | cons d ds ih =>
    obtain ⟨r, hr, h⟩ := declareAll_cons_eq_some_iff.mp h
    exact ih (step hp hr) h

theorem Distinct.declareAll (hp : p.Distinct) (h : p.declareAll ds = some q) : q.Distinct :=
  declareAll_induction hp Distinct.declare h

theorem Owned.declareAll (hp : p.Owned) (h : p.declareAll ds = some q) : q.Owned :=
  declareAll_induction hp Owned.declare h

/-- The names of the pool are those it had and those that have come in. -/
theorem mem_names_declareAll (h : p.declareAll ds = some q) :
    n ∈ q.names ↔ n ∈ p.names ∨ n ∈ ds.map Declaration.name := by
  induction ds generalizing p with
  | nil => simp [← Option.some.inj h]
  | cons d ds ih =>
    obtain ⟨r, hr, h⟩ := declareAll_cons_eq_some_iff.mp h
    have hnames : n ∈ r.names ↔ n ∈ p.names ∨ n = d.name := by
      rw [names_declare hr]
      split
      · rename_i hd
        exact ⟨.inl, fun hn => hn.elim id (· ▸ hd)⟩
      · rw [List.mem_append, List.mem_singleton]
    rw [ih h, hnames, List.map_cons, List.mem_cons, or_assoc]

theorem size_declareAll (hp : p.Distinct) (h : p.declareAll ds = some q) :
    q.size = (p.names ++ ds.map Declaration.name).dedup.length := by
  rw [size_eq]
  refine List.Perm.length_eq ((List.perm_ext_iff_of_nodup (hp.declareAll h) ?_).mpr fun n => ?_)
  · exact List.nodup_dedup _
  · rw [mem_names_declareAll h, List.mem_dedup, List.mem_append]

/-! ## The snapshot -/

/-- What the pool `p` is after the history `ds` has come in over the pool `start`. -/
structure Snapshot (start : Pool) (ds : List Declaration) (p : Pool) : Prop where
  /-- What has come in last under a name is found there, over the pool as it was just before. -/
  last : ∀ before d after, ds = before ++ d :: after → (∀ e ∈ after, e.name ≠ d.name) →
    ∃ q c, start.declareAll before = some q ∧ p.get? d.name = some c ∧ Describes q d c
  /-- Where nothing has come in, what was there at the start is found. -/
  original : ∀ n, (∀ d ∈ ds, d.name ≠ n) → p.get? n = start.get? n
  /-- A class is found under its own name. -/
  name : ∀ n c, p.get? n = some c → c.name = n
  /-- There are as many classes as there are names. -/
  size : p.size = (start.names ++ ds.map Declaration.name).dedup.length
  /-- Every method that is seen belongs to the layer of the chain that brings it. -/
  owned : ∀ n c, p.get? n = some c → c.visible.map Method.declaringClass =
    c.chain.flatMap fun l => l.methods.map fun _ => l.name
  /-- While a class comes in, nothing changes under another name, be it that of a subclass: the
      class there is the same, with its ancestors and whatever is seen or resolved on it. -/
  others : ∀ before d after, ds = before ++ d :: after →
    ∃ q r, start.declareAll before = some q ∧ q.declare d = some r ∧
      ∀ n, n ≠ d.name → r.get? n = q.get? n

theorem owned_empty : empty.Owned := fun _ _ h => absurd h nofun

/-- Every history of a pool that is empty or linked leaves a snapshot. -/
theorem declareAll_snapshot (hstart : start = empty ∨ ∃ decls, Pool.link decls = .ok start)
    (h : start.declareAll ds = some p) : Snapshot start ds p := by
  obtain ⟨hdistinct, howned⟩ : start.Distinct ∧ start.Owned := by
    rcases hstart with rfl | ⟨decls, hlink⟩
    · exact ⟨distinct_empty, owned_empty⟩
    · have hlinked := (Linking.link_ok hlink).2
      exact ⟨hlinked.distinct, fun n c hc => (hlinked.faithful n c hc).owned⟩
  exact
    { last := fun before d after hds hlast => by
        subst hds
        exact get?_declareAll_last h hlast
      original := fun n hn => get?_declareAll_of_forall_ne h hn
      name := fun n c hc => name_of_get? hc
      size := size_declareAll hdistinct h
      owned := fun n c hc => (howned.declareAll h n c hc).map_declaringClass
      others := fun before d after hds => by
        subst hds
        obtain ⟨q, r, hq, hr, -⟩ := declareAll_cut h
        exact ⟨q, r, hq, hr, fun n hn => get?_declare_of_ne hr hn⟩ }

/-- The superclass is replaced by a class that extends it and has its name. -/
theorem declareAll_snapshot_ownName :
    ∃ start p, Pool.link [⟨"Target", some "Base", []⟩, ⟨"Base", none, [.named "f"]⟩] = .ok start ∧
      start.declareAll [⟨"Base", some "Base", [.named "g"]⟩] = some p ∧
      Snapshot start [⟨"Base", some "Base", [.named "g"]⟩] p := by
  let f : Layer := ⟨"Base", [(Method.named "f").declaredOn "Base"]⟩
  let g : Layer := ⟨"Base", [(Method.named "g").declaredOn "Base"]⟩
  have hlink : Pool.link [⟨"Target", some "Base", []⟩, ⟨"Base", none, [.named "f"]⟩] =
      .ok ⟨[⟨f, []⟩, ⟨⟨"Target", []⟩, [f]⟩]⟩ := by cbv
  have hrun : declareAll ⟨[⟨f, []⟩, ⟨⟨"Target", []⟩, [f]⟩]⟩ [⟨"Base", some "Base", [.named "g"]⟩] =
      some ⟨[⟨g, [f]⟩, ⟨⟨"Target", []⟩, [f]⟩]⟩ := by cbv
  exact ⟨_, _, hlink, hrun, declareAll_snapshot (.inr ⟨_, hlink⟩) hrun⟩

end Pool

end Splice
