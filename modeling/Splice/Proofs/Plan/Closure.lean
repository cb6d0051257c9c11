/-
  A plan depends only on the ancestors of the class it is about.

  Two manifests that ask for the same are planned side by side.

  1. **What the stages read** — the builder of a request reads one class, the one it asks for
     (`Request.builder_congr`), and what follows the stages reads only that class's name
     (`Request.finish_complete`).

  2. **Two manifests** — a plan is the same over both if they declare the same on the superclass
     walk from the class; at a call it is enough that both declare the class
     (`Manifest.plan_closure`).  The same plan is the same answer and the same records.
-/
import Splice.Proofs.Plan
import Splice.Proofs.Pool.Closure

namespace Splice

variable {classes classes' : String → Option Lineage} {t : Lineage} {c : Config} {template : String}

/-! ## What the stages read -/

namespace Request

/-- The stages of a request read one class and no other. -/
theorem builder_congr {r : Request} (h : classes r.className = classes' r.className) (c : Config) :
    r.builder classes c = r.builder classes' c := by
  cases r with
  | atCall side n method callee body text =>
    have h : classes n = classes' n := h
    simp only [builder, Builder.intoNamed, h]
  | overriding side n method body =>
    have h : classes n = classes' n := h
    simp only [builder, Builder.intoNamed, h]

/-- What follows the stages of a request. -/
def finish (r : Request) (c : Config) (className template : String) : Attempt Summary := do
  let text ← Attempt.ofLogged (Template.fill template c.bodyTag r.body)
  Attempt.ofLogged (.write .info ("Planned insertion into " ++ className ++ "." ++ r.method))
  pure ⟨className, r.method, r.body, text, r.point⟩

/-- Of the class, all that is read after the stages is its name. -/
theorem finish_complete (r : Request) (c : Config) (t : Lineage) (template : String) :
    ((r.complete c t template).finalize >>= fun i => do
      Attempt.ofLogged
        (.write .info ("Planned insertion into " ++ i.target.name ++ "." ++ i.method))
      pure i.summary) = r.finish c t.name template := by
  have hfinalize : (r.complete c t template).finalize = (do
      let text ← Attempt.ofLogged (Template.fill template c.bodyTag r.body)
      pure ⟨t, r.method, r.point, r.body, text⟩) := rfl
  rw [hfinalize]
  simp only [bind_assoc, pure_bind]
  rfl

end Request

/-! ## Two manifests -/

namespace Manifest

variable {m m' : Manifest} {p p' : Pool}

/-- A plan at a call, for a class that is declared. -/
theorem plan_atCall {side : Template.Side} {n method callee body text : String}
    (hr : m.request = .atCall side n method callee body text) (h : Pool.link m.classes = .ok p)
    (hn : ∃ d ∈ m.classes, d.name = n) (c : Config) :
    m.plan c = m.request.finish c n text := by
  obtain ⟨t, ht⟩ := (Linking.link_ok h).2.get?_isSome_iff.mpr hn
  rw [plan_eq, h, Attempt.ofExcept_ok_bind, hr, Request.builder_atCall ht, pure_bind,
    Request.finish_complete, Pool.name_of_get? ht]

/-- Two manifests that ask for the same and can be linked have the same plan if they declare the
    same on the superclass walk from the class; at a call, if both of them declare the class. -/
theorem plan_closure (m m' : Manifest) (c : Config) (hr : m.request = m'.request)
    (h : ∃ p, Pool.link m.classes = .ok p) (h' : ∃ p, Pool.link m'.classes = .ok p) :
    (Walk.SameWalk m.classes m'.classes m.request.className → m.plan c = m'.plan c) ∧
    (∀ side n method callee body text, m.request = .atCall side n method callee body text →
      (∃ d ∈ m.classes, d.name = n) → (∃ d ∈ m'.classes, d.name = n) →
      m.plan c = m'.plan c) := by
  obtain ⟨p, hp⟩ := h
  obtain ⟨p', hp'⟩ := h'
  obtain ⟨hn, hlinked⟩ := Linking.link_ok hp
  obtain ⟨hn', hlinked'⟩ := Linking.link_ok hp'
  constructor
  · intro hsame
    have hclass := hlinked.get?_congr hlinked' fun _ _ hx => hsame.find?_eq hn hn' hx
    rw [plan_eq, plan_eq, hp, hp', Attempt.ofExcept_ok_bind, Attempt.ofExcept_ok_bind,
      Request.builder_congr hclass, hr]
  · intro side n method callee body text hcall hd hd'
    rw [plan_atCall hcall hp hd, plan_atCall (hr ▸ hcall) hp' hd', hr]

/-- One list has a class below the target as well, and the ancestor first; and at a call the target
    may have lost both its ancestor and its methods. -/
theorem plan_closure_subclassAdded :
    (plan ⟨[⟨"Target", some "Base", [.named "g"]⟩, ⟨"Base", none, [.named "f"]⟩],
        .overriding .before "Target" "f" "x();"⟩ {} =
      plan ⟨[⟨"Base", none, [.named "f"]⟩, ⟨"Sub", some "Target", [.named "f"]⟩,
        ⟨"Target", some "Base", [.named "g"]⟩], .overriding .before "Target" "f" "x();"⟩ {}) ∧
    (plan ⟨[⟨"Target", some "Base", [.named "g"]⟩, ⟨"Base", none, [.named "f"]⟩],
        .atCall .after "Target" "g" "f" "x();" "BODY"⟩ {} =
      plan ⟨[⟨"Target", none, []⟩], .atCall .after "Target" "g" "f" "x();" "BODY"⟩ {}) := by
  let base : Declaration := ⟨"Base", none, [.named "f"]⟩
  let target : Declaration := ⟨"Target", some "Base", [.named "g"]⟩
  let sub : Declaration := ⟨"Sub", some "Target", [.named "f"]⟩
  let bare : Declaration := ⟨"Target", none, []⟩
  have htwo : ∃ p, Pool.link [target, base] = .ok p := ⟨_, by cbv⟩
  have hthree : ∃ p, Pool.link [base, sub, target] = .ok p := ⟨_, by cbv⟩
  have hbare : ∃ p, Pool.link [bare] = .ok p := ⟨_, by cbv⟩
  have hwalk : Walk.SameWalk [target, base] [base, sub, target] "Target" := by
    intro ds x hx d hd
    -- `sub` is the one declaration that makes a difference, and the walk does not come to it
    have hsub : x ≠ "Sub" := by
      rcases hx with _ | ⟨hfind, hp, h⟩
      · decide
      · obtain rfl := Option.some.inj hfind
        obtain rfl := Option.some.inj hp
        rcases h with _ | ⟨hfind, hp, -⟩
        · decide
        · obtain rfl := Option.some.inj hfind
          cases hp
    have hne : d ≠ sub := fun h => hsub (hd ▸ congrArg Declaration.name h)
    simp only [List.mem_cons, List.not_mem_nil, or_false, hne, false_or]
    exact or_comm
  let call : Request := .atCall .after "Target" "g" "f" "x();" "BODY"
  exact ⟨(plan_closure ⟨[target, base], _⟩ ⟨[base, sub, target], _⟩ {} rfl htwo hthree).1 hwalk,
    (plan_closure ⟨[target, base], call⟩ ⟨[bare], call⟩ {} rfl htwo hbare).2 _ _ _ _ _ _ rfl
      ⟨target, List.mem_cons_self, rfl⟩ ⟨bare, List.mem_cons_self, rfl⟩⟩

end Manifest

end Splice
