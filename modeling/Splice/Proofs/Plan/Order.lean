/-
  Declarations may stand in any order.

  Which class is built first, which ones are then found in the cache, and at which class a cycle is
  noticed all depend on the order of the list.  What two orders of one list come to is nevertheless
  the same, but for the fault that is reported when there are several.

  1. **A name declared twice** — this fault goes before all others, so that whether it is the one
     reported is a matter of the names alone (`saysRepeated_iff`), and these are the same in any
     order.

  2. **Two orders** — `SameInAnyOrder` lists what two orders have in common: whether the list can
     be linked, what is found under every name, every plan, and which of the two kinds of failure it
     is (`link_order`).
-/
import Splice.Proofs.Plan.Closure
import Splice.Proofs.Pool.Incremental

namespace Splice.Linking

open Walk

variable {decls ds : List Declaration} {n : String} {e : Failure} {p : Pool}

/-! ## A name declared twice -/

/-- The failure says that a class is declared more than once. -/
def SaysRepeated (e : Failure) : Prop :=
  ∃ n, e = .configuration ("class " ++ n ++ " is declared more than once")

theorem FirstRepeat.saysRepeated (h : FirstRepeat decls e) : SaysRepeated e := by
  obtain ⟨n, -, he⟩ := firstRepeat_iff.mp h
  exact ⟨n, he⟩

/-- The fault of a walk is another one. -/
theorem FirstFault.not_saysRepeated (h : FirstFault decls e) : ¬ SaysRepeated e := by
  obtain ⟨_, d, _, -, -, hf⟩ := h
  rintro ⟨n, rfl⟩
  exact nomatch hf

/-- Linking reports a name declared twice exactly if there is one, whatever else is wrong. -/
theorem saysRepeated_iff (h : Pool.link decls = .error e) :
    SaysRepeated e ↔ ¬ (decls.map Declaration.name).Nodup := by
  rcases link_eq_error_iff.mp h with hr | ⟨hn, hf⟩
  · exact iff_of_true hr.saysRepeated hr.not_nodup
  · exact iff_of_false hf.not_saysRepeated (not_not_intro hn)

/-! ## Two orders -/

/-- A list that can be linked can be linked in any other order, to a pool that holds the same. -/
theorem link_perm_ok (h : ds.Perm decls) (hp : Pool.link decls = .ok p) :
    ∃ q, Pool.link ds = .ok q ∧ q.names.Perm p.names ∧ q.get? = p.get? := by
  obtain ⟨hn, hlinked⟩ := link_ok hp
  obtain ⟨q, hq, hnames, hget⟩ := hlinked.link_perm hn h
  exact ⟨q, hq, hnames, funext hget⟩

/-- What two lists have in common of which one is the other in another order. -/
structure SameInAnyOrder (ds decls : List Declaration) : Prop where
  /-- If one can be linked, the other can. -/
  accepted : (∃ q, Pool.link ds = .ok q) ↔ ∃ p, Pool.link decls = .ok p
  /-- The pools hold the same under every name: the same methods, each of the same class, and the
      same chain of ancestors.  So whatever is seen or resolved on a class is the same too. -/
  pools : ∀ q p, Pool.link ds = .ok q → Pool.link decls = .ok p →
    q.names.Perm p.names ∧ q.get? = p.get?
  /-- Every plan is the same, with all that is put on record on the way. -/
  plans : (∃ p, Pool.link decls = .ok p) →
    ∀ (r : Request) (c : Config), Manifest.plan ⟨ds, r⟩ c = Manifest.plan ⟨decls, r⟩ c
  /-- Either both failures say that a name is declared twice or neither does. -/
  rejected : ∀ e f, Pool.link ds = .error e → Pool.link decls = .error f →
    (SaysRepeated e ↔ SaysRepeated f)

/-- Nothing depends on the order of the declarations but which of several faults is reported. -/
theorem link_order (h : ds.Perm decls) : SameInAnyOrder ds decls where
  accepted := by
    constructor
    · rintro ⟨q, hq⟩
      obtain ⟨p, hp, -⟩ := link_perm_ok h.symm hq
      exact ⟨p, hp⟩
    · rintro ⟨p, hp⟩
      obtain ⟨q, hq, -⟩ := link_perm_ok h hp
      exact ⟨q, hq⟩
  pools := by
    intro q p hq hp
    obtain ⟨q', hq', hsame⟩ := link_perm_ok h hp
    obtain rfl : q = q' := Except.ok.inj (hq.symm.trans hq')
    exact hsame
  plans := by
    rintro ⟨p, hp⟩ r c
    obtain ⟨q, hq, -, hget⟩ := link_perm_ok h hp
    have hbuilder : r.builder q.get? c = r.builder p.get? c := by rw [hget]
    rw [Manifest.plan_eq, Manifest.plan_eq, hq, hp, Attempt.ofExcept_ok_bind,
      Attempt.ofExcept_ok_bind, hbuilder]
  rejected := by
    intro e f he hf
    have hnames : (ds.map Declaration.name).Nodup ↔ (decls.map Declaration.name).Nodup :=
      (h.map Declaration.name).nodup_iff
    rw [saysRepeated_iff he, saysRepeated_iff hf, hnames]

/-- Three classes, the lowest declared first and then last; and a cycle, which is noticed at the
    class that is declared first. -/
theorem link_order_cycle :
    (∃ q p, Pool.link [⟨"C", some "B", [.named "f"]⟩, ⟨"A", none, [.named "f"]⟩,
          ⟨"B", some "A", []⟩] = .ok q ∧
        Pool.link [⟨"A", none, [.named "f"]⟩, ⟨"B", some "A", []⟩,
          ⟨"C", some "B", [.named "f"]⟩] = .ok p ∧ q.get? = p.get?) ∧
    ∃ e f, Pool.link [⟨"A", some "B", []⟩, ⟨"B", some "A", []⟩] = .error e ∧
      Pool.link [⟨"B", some "A", []⟩, ⟨"A", some "B", []⟩] = .error f ∧ e ≠ f ∧
      (SaysRepeated e ↔ SaysRepeated f) := by
  let a : Declaration := ⟨"A", none, [.named "f"]⟩
  let b : Declaration := ⟨"B", some "A", []⟩
  let c : Declaration := ⟨"C", some "B", [.named "f"]⟩
  let a' : Declaration := ⟨"A", some "B", []⟩
  have hchain : [c, a, b].Perm [a, b, c] := by decide
  have hcycle : [a', b].Perm [b, a'] := .swap ..
  have hp : ∃ p, Pool.link [a, b, c] = .ok p := ⟨_, by cbv⟩
  have he : Pool.link [a', b] = .error (.inheritanceCycle "A") := by cbv
  have hf : Pool.link [b, a'] = .error (.inheritanceCycle "B") := by cbv
  obtain ⟨q, hq⟩ := (link_order hchain).accepted.mpr hp
  obtain ⟨p, hp⟩ := hp
  exact ⟨⟨q, p, hq, hp, ((link_order hchain).pools q p hq hp).2⟩,
    _, _, he, hf, by decide, (link_order hcycle).rejected _ _ he hf⟩

end Splice.Linking
