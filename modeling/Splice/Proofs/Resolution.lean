/-
  Which of several methods of one name is resolved.

  A class may declare a name more than once, and so may each of its ancestors.  Resolution looks at
  the class from the front and at its ancestors from the back:

      own methods       a   f₁  f₂          f₁, the FIRST, if there is one
      near ancestor     f₃  b
      farther ancestor  f₄  f₅  c           f₅, the LAST of the farthest that declares one
      farthest          d

  1. **Lists** — the last method of a name in two lists put together is that of the second, if it
     has one (`lastNamed?_append`); so in a whole chain it is that of the farthest layer that has
     one (`lastNamed?_layers_eq_some_iff`, by induction on the chain).

  2. **Any target** — without a method of its own, a target is looked through in the order of its
     enumeration, whatever that has to do with what it declares (`Fallback`).

  3. **Classes** — `Picks` is the picture above, and what resolution comes to on every class
     (`outcome_resolve_iff`).  A class that is put together method by method knows of each of them
     whose it is (`Lineage.Assembled.owned`), so that the method found names the layer it is
     picked from.
-/
import Splice.Proofs.Pool.History
import Splice.Proofs.Pool.Resolution

namespace Splice

variable {name : String} {m : Method} {ms ns : List Method} {c : Lineage} {ls : List Layer}
  {l : Layer} {e : Failure}

/-! ## Lists -/

/-- `m` has the name, and no method before it has. -/
def FirstNamed (name : String) (ms : List Method) (m : Method) : Prop :=
  m.name = name ∧ ∃ before after, ms = before ++ m :: after ∧ ∀ n ∈ before, n.name ≠ name

/-- `m` has the name, and no method after it has. -/
def LastNamed (name : String) (ms : List Method) (m : Method) : Prop :=
  m.name = name ∧ ∃ before after, ms = before ++ m :: after ∧ ∀ n ∈ after, n.name ≠ name

/-- The layer declares no method of the name. -/
def Layer.Lacks (l : Layer) (name : String) : Prop := ∀ m ∈ l.methods, m.name ≠ name

theorem lastNamed?_append (name : String) (ms ns : List Method) :
    lastNamed? name (ms ++ ns) = (lastNamed? name ns).or (lastNamed? name ms) := by
  unfold lastNamed?
  rw [List.reverse_append, List.find?_append]

/-- Along a chain the last method of a name is that of the farthest layer that has one. -/
theorem lastNamed?_layers_eq_some_iff :
    lastNamed? name (ls.flatMap Layer.methods) = some m ↔
      ∃ near l far, ls = near ++ l :: far ∧ LastNamed name l.methods m ∧
        ∀ k ∈ far, k.Lacks name := by
  induction ls with
  | nil => exact ⟨nofun, fun ⟨near, l, far, h, _⟩ => absurd h.symm (by simp)⟩
  | cons l ls ih =>
    rw [List.flatMap_cons, lastNamed?_append, Option.or_eq_some_iff]
    constructor
    · rintro (hrest | ⟨hnone, hhere⟩)
      · obtain ⟨near, k, far, rfl, hm, hfar⟩ := ih.mp hrest
        exact ⟨l :: near, k, far, rfl, hm, hfar⟩
      · have hlacks : ∀ k ∈ ls, k.Lacks name := fun k hk x hx =>
          lastNamed?_eq_none_iff.mp hnone x (List.mem_flatMap.mpr ⟨k, hk, hx⟩)
        exact ⟨[], l, ls, rfl, lastNamed?_eq_some_iff.mp hhere, hlacks⟩
    · rintro ⟨near, k, far, hls, hm, hfar⟩
      cases near with
      | nil =>
        obtain ⟨rfl, rfl⟩ := List.cons.inj hls
        refine .inr ⟨lastNamed?_eq_none_iff.mpr fun x hx => ?_, lastNamed?_eq_some_iff.mpr hm⟩
        obtain ⟨k, hk, hx⟩ := List.mem_flatMap.mp hx
        exact hfar k hk x hx
      | cons l' near =>
        obtain ⟨rfl, rfl⟩ := List.cons.inj hls
        exact .inl (ih.mpr ⟨near, k, far, rfl, hm, hfar⟩)

/-! ## Any target -/

namespace Target

/-- What comes of resolving a name on a target. -/
structure Fallback {μ : Type} [Target μ] (t : μ) (name : String) (r : Except Failure Method) :
    Prop where
  /-- The target's own answer is taken, whatever it is. -/
  declared : ∀ m, declared? t name = some m → r = .ok m
  /-- Without one, the entry of the enumeration is taken after which no other has the name. -/
  found : declared? t name = none → ∀ m, r = .ok m ↔ LastNamed name (visible t) m
  /-- There may be none. -/
  failed : declared? t name = none → ∀ e, r = .error e ↔
    (∀ m ∈ visible t, m.name ≠ name) ∧ e = .methodNotFound (Target.name t) name

theorem fallback_resolve {μ : Type} [Target μ] (t : μ) (name : String) :
    Fallback t name (resolve t name).outcome := by
  rw [outcome_resolve]
  refine ⟨fun m hm => ?_, fun hnone m => ?_, fun hnone e => ?_⟩
  · rw [hm, Option.some_or]
  · rw [hnone, Option.none_or]
    cases hlast : lastNamed? name (visible t) with
    | some x =>
      have hx : LastNamed name (visible t) m ↔ some x = some m := by
        rw [← hlast]
        exact lastNamed?_eq_some_iff.symm
      rw [hx, Option.some.injEq]
      exact ⟨Except.ok.inj, congrArg Except.ok⟩
    | none =>
      refine iff_of_false nofun fun hm => ?_
      exact absurd (hlast.symm.trans (lastNamed?_eq_some_iff.mpr hm)) nofun
  · rw [hnone, Option.none_or]
    cases hlast : lastNamed? name (visible t) with
    | some x =>
      refine iff_of_false nofun fun h => ?_
      exact absurd (hlast.symm.trans (lastNamed?_eq_none_iff.mpr h.1)) nofun
    | none =>
      have hseen := lastNamed?_eq_none_iff.mp hlast
      exact ⟨fun h => ⟨hseen, (Except.error.inj h).symm⟩, fun h => h.2 ▸ rfl⟩

end Target

/-! ## Classes -/

namespace Lineage

theorem declared?_eq_some_iff : c.declared? name = some m ↔ FirstNamed name c.own.methods m := by
  rw [declared?, List.find?_eq_some_iff_append]
  simp only [beq_iff_eq, Bool.not_eq_true', beq_eq_false_iff_ne, FirstNamed]

theorem declared?_eq_none_iff : c.declared? name = none ↔ c.own.Lacks name := by
  rw [declared?, List.find?_eq_none]
  simp only [beq_iff_eq, Layer.Lacks, ne_eq]

/-- The method `m` of the layer `l` is what a name stands for on a class. -/
inductive Picks (c : Lineage) (name : String) : Layer → Method → Prop
  /-- The class declares the name itself: its first method of the name. -/
  | own {m : Method} (hm : FirstNamed name c.own.methods m) : Picks c name c.own m
  /-- It does not: the last method of the name of the farthest ancestor that declares it. -/
  | inherited {near far : List Layer} {l : Layer} {m : Method} (hown : c.own.Lacks name)
      (hl : c.ancestors = near ++ l :: far) (hm : LastNamed name l.methods m)
      (hfar : ∀ k ∈ far, k.Lacks name) : Picks c name l m

theorem Picks.mem (h : c.Picks name l m) : l ∈ c.chain ∧ m ∈ l.methods := by
  cases h with
  | own hm =>
    obtain ⟨-, before, after, hms, -⟩ := hm
    exact ⟨List.mem_cons_self, by simp [hms]⟩
  | inherited _ hl hm _ =>
    obtain ⟨-, before, after, hms, -⟩ := hm
    exact ⟨by simp [chain, hl], by simp [hms]⟩

/-- A class without a method of the name has of it what its ancestors have. -/
theorem lastNamed?_visible (h : c.own.Lacks name) :
    lastNamed? name c.visible = lastNamed? name (c.ancestors.flatMap Layer.methods) := by
  have hown : lastNamed? name c.own.methods = none := lastNamed?_eq_none_iff.mpr h
  rw [visible, chain, List.flatMap_cons, lastNamed?_append, hown, Option.or_none]

/-- What is resolved on a class is what the name stands for there. -/
theorem outcome_resolve_iff : (Target.resolve c name).outcome = .ok m ↔ ∃ l, c.Picks name l m := by
  have hrule := Target.fallback_resolve c name
  cases hd : c.declared? name with
  | some x =>
    rw [hrule.declared x hd]
    have hx : FirstNamed name c.own.methods x := declared?_eq_some_iff.mp hd
    constructor
    · intro h
      obtain rfl := Except.ok.inj h
      exact ⟨c.own, .own hx⟩
    · rintro ⟨l, hm | ⟨hown, -, -, -⟩⟩
      · exact congrArg Except.ok (Option.some.inj (hd.symm.trans (declared?_eq_some_iff.mpr hm)))
      · exact absurd (hd.symm.trans (declared?_eq_none_iff.mpr hown)) nofun
  | none =>
    have hown : c.own.Lacks name := declared?_eq_none_iff.mp hd
    have hlast : LastNamed name c.visible m ↔
        lastNamed? name (c.ancestors.flatMap Layer.methods) = some m := by
      rw [← lastNamed?_visible hown]
      exact lastNamed?_eq_some_iff.symm
    rw [hrule.found hd, show Target.visible c = c.visible from rfl, hlast,
      lastNamed?_layers_eq_some_iff]
    constructor
    · rintro ⟨near, l, far, hl, hm, hfar⟩
      exact ⟨l, .inherited hown hl hm hfar⟩
    · rintro ⟨l, hm | ⟨-, hl, hm, hfar⟩⟩
      · exact absurd ((declared?_eq_some_iff.mpr hm).symm.trans hd) nofun
      · exact ⟨_, l, _, hl, hm, hfar⟩

/-- Resolution fails if no layer of the chain declares the name. -/
theorem outcome_resolve_eq_error_iff :
    (Target.resolve c name).outcome = .error e ↔
      (∀ l ∈ c.chain, l.Lacks name) ∧ e = .methodNotFound c.name name := by
  have hseen : (∀ l ∈ c.chain, l.Lacks name) ↔ ∀ y ∈ c.visible, y.name ≠ name := by
    simp only [Layer.Lacks, visible, List.mem_flatMap, forall_exists_index, and_imp]
    exact ⟨fun h y l hl hy => h l hl y hy, fun h l hl y hy => h y l hl hy⟩
  rw [hseen]
  exact Target.resolve_eq_error_iff

/-- Put together from classes without methods, by extending them and adding methods to them. -/
inductive Assembled : Lineage → Prop
  | root (name : String) : Assembled (.root name)
  | extending {c p : Lineage} (hc : Assembled c) (hp : Assembled p) : Assembled (c.extending p)
  | withMethod {c : Lineage} (hc : Assembled c) (m : Method) : Assembled (c.withMethod m)

theorem Assembled.owned (h : c.Assembled) : c.Owned := by
  induction h with
  | root name =>
    intro l hl x hx
    obtain rfl := List.mem_singleton.mp hl
    exact absurd hx List.not_mem_nil
  | @extending c p _ _ hc hp =>
    intro l hl
    rcases List.mem_cons.mp hl with rfl | hl
    · exact hc c.own List.mem_cons_self
    · exact hp l hl
  | @withMethod c _ m hc =>
    intro l hl x hx
    rcases List.mem_cons.mp hl with rfl | hl
    · rcases List.mem_append.mp hx with hx | hx
      · exact hc c.own List.mem_cons_self x hx
      · obtain rfl := List.mem_singleton.mp hx
        rfl
    · exact hc l (List.mem_cons_of_mem c.own hl) x hx

/-- Nearer ancestors do not matter if a farther one declares the name. -/
theorem outcome_resolve_nearer {own : Layer} {far : List Layer} (hown : own.Lacks name)
    (hfar : ∃ k ∈ far, ¬ k.Lacks name) (near near' : List Layer) :
    (Target.resolve (⟨own, near ++ far⟩ : Lineage) name).outcome =
      (Target.resolve (⟨own, near' ++ far⟩ : Lineage) name).outcome := by
  obtain ⟨x, hx⟩ : ∃ x, lastNamed? name (far.flatMap Layer.methods) = some x := by
    refine Option.ne_none_iff_exists'.mp fun hnone => ?_
    obtain ⟨k, hk, hdeclares⟩ := hfar
    exact hdeclares fun y hy =>
      lastNamed?_eq_none_iff.mp hnone y (List.mem_flatMap.mpr ⟨k, hk, hy⟩)
  have hfound : ∀ near : List Layer,
      (Target.resolve (⟨own, near ++ far⟩ : Lineage) name).outcome = .ok x := by
    intro near
    obtain ⟨ns, l, fs, rfl, hm, hlacks⟩ := lastNamed?_layers_eq_some_iff.mp hx
    have hl : near ++ (ns ++ l :: fs) = (near ++ ns) ++ l :: fs := by rw [List.append_assoc]
    exact outcome_resolve_iff.mpr ⟨l, .inherited hown hl hm hlacks⟩
  rw [hfound near, hfound near']

end Lineage

/-- What comes of resolving a name on a class. -/
structure Resolution (c : Lineage) (name : String) (r : Except Failure Method) : Prop where
  /-- The method found is the one the name stands for. -/
  found : ∀ m, r = .ok m ↔ ∃ l, c.Picks name l m
  /-- There is none exactly if neither the class nor an ancestor declares the name. -/
  failed : ∀ e, r = .error e ↔
    (∀ l ∈ c.chain, l.Lacks name) ∧ e = .methodNotFound c.name name
  /-- What is found is seen on the class and has the name. -/
  seen : ∀ m, r = .ok m → m.name = name ∧ m ∈ c.visible
  /-- It belongs to the class or the ancestor it is picked from. -/
  declaring : c.Assembled → ∀ l m, c.Picks name l m → m.declaringClass = l.name
  /-- If the class does not declare the name but a far ancestor does, the nearer ones may be any. -/
  nearer : ∀ near far, c.ancestors = near ++ far → c.own.Lacks name →
    (∃ k ∈ far, ¬ k.Lacks name) →
    ∀ near', (Target.resolve (⟨c.own, near' ++ far⟩ : Lineage) name).outcome = r

/-- Of the class's own methods of a name the first is resolved, of inherited ones the last of the
    farthest ancestor; and of any target without an own answer the last of its enumeration. -/
theorem resolve_rule (name : String) :
    (∀ c : Lineage, Resolution c name (Target.resolve c name).outcome) ∧
    (∀ {μ : Type} [Target μ] (t : μ), Target.Fallback t name (Target.resolve t name).outcome) := by
  refine ⟨fun c => ?_, fun t => Target.fallback_resolve t name⟩
  exact
    { found := fun m => Lineage.outcome_resolve_iff
      failed := fun e => Lineage.outcome_resolve_eq_error_iff
      seen := fun m hm => (Target.name_of_resolve hm).symm
      declaring := fun hc l m h => hc.owned l h.mem.1 m h.mem.2
      nearer := fun near far hl hown hfar near' => by
        have hc : c = ⟨c.own, near ++ far⟩ := by rw [← hl]
        rw [hc]
        exact Lineage.outcome_resolve_nearer hown hfar near' near }

/-- Two methods of the name on either of two ancestors, and a farthest one with none. -/
theorem resolve_rule_overloads :
    let c : Lineage := ((Lineage.root "C").extending
      ((((Lineage.root "B").extending
        ((((Lineage.root "A").extending (.root "Top")).withMethod
          ((Method.named "f").withParameter "int")).withMethod
          ((Method.named "f").withParameter "String"))).withMethod
        (.named "f")).withMethod ((Method.named "f").withParameter "Key")))
    c.Assembled ∧ ∃ m, (Target.resolve c "f").outcome = .ok m ∧ m.parameters = ["String"] ∧
      (∃ l, c.Picks "f" l m ∧ m.declaringClass = l.name) ∧
      m.name = "f" ∧ m ∈ c.visible := by
  intro c
  have hassembled : c.Assembled :=
    .extending (.root "C") (.withMethod (.withMethod (.extending (.root "B")
      (.withMethod (.withMethod (.extending (.root "A") (.root "Top")) _) _)) _) _)
  have hrule := (resolve_rule "f").1 c
  obtain ⟨m, hm, hparameters⟩ :
      ∃ m, (Target.resolve c "f").outcome = .ok m ∧ m.parameters = ["String"] := ⟨_, rfl, rfl⟩
  obtain ⟨l, hl⟩ := (hrule.found m).mp hm
  exact ⟨hassembled, m, hm, hparameters, ⟨l, hl, hrule.declaring hassembled l m hl⟩,
    hrule.seen m hm⟩

end Splice
