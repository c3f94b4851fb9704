import Stencil.Proofs.Engine.Caching
import Stencil.Proofs.Render.Covered

/-!
Renderings with and without a cache. If loads by name agree then so does everything that renders: the
layouts of a template that waits for them, what is included or imported, and the output. The bounds on
chains of layouts are different on the two sides, but neither is ever reached.
-/
namespace Stencil

namespace Environment

variable {env : Environment} {sources : String → Prop} {S : Comparison Store Store} {jump : Jump}

section Agreement

variable (htransparent : env.Transparent sources S)
  (h : Guarantee.vacuous.Alike S Eq env.caching env jump jump)

include htransparent h

/-- The layout of a template is the same file on both sides, and a new one in the chain. -/
theorem agree_layout (context : Context) (chain : List String) (template : Template) (name : Expr)
    (line : Nat) :
    Agree S (Fault.Alike Eq) (EqualWith fun layout => env.HasSource layout.id ∧ layout.id ∉ chain)
      (template.layout jump env.caching context chain name line)
      (template.layout jump env context chain name line) := by
  unfold Template.layout
  refine (h.layoutName (Guarantee.knownContext_vacuous context) rfl rfl name).bindWith fun name _ => ?_
  refine ((htransparent.load name template.origin).alike h.refl).bind ?_
  rintro ⟨stamp, layout⟩ ⟨stamp', _⟩ ⟨rfl, hsource⟩
  dsimp only
  split
  · exact Agree.bind (V := fun _ _ => False) (Agree.throw rfl) fun _ _ hfalse => hfalse.elim
  · rename_i hnew
    rw [List.contains_iff_mem] at hnew
    exact Agree.pure ⟨rfl, hsource, hnew⟩

/-- A chain of layouts goes on as long as there are files, whatever the bounds on the two sides. -/
theorem agree_program (context : Context) {bound bound' : Nat} {first : String} {above : List String}
    (hnodup : above.Nodup) (hsources : ∀ key ∈ above, env.HasSource key)
    (hbound : env.loader.size ≤ bound + above.length)
    (hbound' : env.loader.size ≤ bound' + above.length) (template : Template) :
    Agree S (Fault.Alike Eq) (EqualWith Guarantee.vacuous.KnownProgram)
      (template.program jump env.caching context bound (first :: above))
      (template.program jump env context bound' (first :: above)) := by
  induction bound using Nat.strongRecOn generalizing bound' above template with
  | _ bound ih =>
    cases hbody : template.body with
    | ready program =>
      rw [Template.program_ready _ _ _ _ _ hbody, Template.program_ready _ _ _ _ _ hbody]
      exact Agree.pure ⟨rfl, Guarantee.knownProgram_vacuous program⟩
    | failed error =>
      rw [Template.program_failed _ _ _ _ _ hbody, Template.program_failed _ _ _ _ _ hbody]
      exact Agree.throw rfl
    | deferred name line tokens =>
      rw [Template.program_deferred _ _ _ _ _ hbody, Template.program_deferred _ _ _ _ _ hbody]
      refine (agree_layout htransparent h context (first :: above) template name line).bindWith
        fun layout ⟨hsource, hnew⟩ => ?_
      -- one more file above the template, and there are no more of them than sources
      have habove : (above ++ [layout.id]).Nodup := by
        refine List.nodup_append.mpr ⟨hnodup, List.pairwise_singleton _ _, fun key hkey other hother => ?_⟩
        have hother : other = layout.id := List.mem_singleton.mp hother
        rintro rfl
        exact hnew (hother ▸ List.mem_cons_of_mem first hkey)
      have hfiles : ∀ key ∈ above ++ [layout.id], env.HasSource key := by
        intro key hkey
        rcases List.mem_append.mp hkey with hkey | hkey
        · exact hsources key hkey
        · exact List.mem_singleton.mp hkey ▸ hsource
      have hlength : above.length + 1 ≤ env.loader.size := by
        have hle := holdsAtMost_size htransparent.stored _ habove hfiles
        simpa only [List.length_append, List.length_singleton] using hle
      obtain ⟨more, rfl⟩ : ∃ more, bound = more + 1 := ⟨bound - 1, by omega⟩
      obtain ⟨more', rfl⟩ : ∃ more', bound' = more' + 1 := ⟨bound' - 1, by omega⟩
      have hmore : env.loader.size ≤ more + (above ++ [layout.id]).length := by
        simp only [List.length_append, List.length_singleton]
        omega
      have hmore' : env.loader.size ≤ more' + (above ++ [layout.id]).length := by
        simp only [List.length_append, List.length_singleton]
        omega
      refine (ih more (Nat.lt_succ_self more) habove hfiles hmore hmore' layout).bindWith
        fun program _ => ?_
      exact ((agree_ofExcept (fun _ => rfl) _).mono fun _ _ hab =>
        ⟨hab.1, Guarantee.knownProgram_vacuous _⟩).alike h.refl

/-- The program of a template, whatever the two stores keep. -/
theorem agree_wholeProgram (context : Context) (template : Template) :
    Agree S (Fault.Alike Eq) (EqualWith Guarantee.vacuous.KnownProgram)
      (template.wholeProgram jump env.caching context) (template.wholeProgram jump env context) := by
  have hcaching : env.caching.loader.isStored = true := htransparent.stored
  rw [Template.wholeProgram_of_stored htransparent.stored, Template.wholeProgram_of_stored hcaching]
  have hget : Agree S (Fault.Alike Eq) (fun _ _ => True) (get : LoadM Store) (get : LoadM Store) :=
    ⟨fun _ _ hrelated => Or.inl ⟨True.intro, hrelated⟩, fun t hbeyond => ⟨hbeyond, t, True.intro⟩⟩
  refine hget.bind fun s t _ => ?_
  have hbound (store : Store) :
      env.loader.size ≤ env.loader.size + store.cache.length + 1 + ([] : List String).length := by
    omega
  exact agree_program htransparent h context List.nodup_nil (List.forall_mem_nil _) (hbound s) (hbound t)
    template

theorem agree_execute (template : Template) (ancestors : List String) :
    Agree (Guarantee.vacuous.Related S) (Fault.Alike Eq) Equal
      (template.execute jump env.caching ancestors) (template.execute jump env ancestors) := by
  refine Guarantee.agree_execute h.refl (fun _ _ => True.intro) ?_ ?_
  · exact fun context _ => agree_wholeProgram htransparent h context template
  · intro _ program hprogram
    exact h.jumps ⟨env, program.blocks, ancestors ++ [template.id], template.origin, 0⟩ _
      hprogram.2 hprogram.1

/-- What is included or imported agrees. -/
theorem agree_visits : Guarantee.vacuous.VisitsAlike S Eq env.caching env jump jump := by
  refine .of_at fun frame => Guarantee.visitsAlikeAt_of_execute
    (P := fun template => env.HasSource template.id) h.refl rfl (Or.inr fun _ => True.intro) ?_
    fun template _ => agree_execute htransparent h template frame.ancestors
  exact fun name => (htransparent.load name frame.origin).alike h.refl

end Agreement

variable (htransparent : env.Transparent sources S)

include htransparent

/-- Renderings of every depth agree. -/
theorem Transparent.alike (depth : Nat) :
    Guarantee.vacuous.Alike S Eq env.caching env (Render.upToDepth depth) (Render.upToDepth depth) := by
  refine Guarantee.alike_upToDepth (K := fun env₁ env₂ => env₁ = env.caching ∧ env₂ = env)
    (R := fun _ _ => S) (fun _ => rfl) ?_ ?_ depth env.caching env ⟨rfl, rfl⟩
  · rintro _ _ ⟨rfl, rfl⟩
    exact ⟨rfl, rfl, rfl, rfl⟩
  · rintro jump halike _ _ ⟨rfl, rfl⟩
    exact agree_visits htransparent (halike _ _ ⟨rfl, rfl⟩)

/-- A template renders to the same output with and without a cache, or fails with the same error. -/
theorem Transparent.renderTemplate (template : Template) (context : Context) (ancestors : List String) :
    Agree S (Fault.Alike Eq) Equal (Engine.renderTemplate env.caching template context ancestors)
      (Engine.renderTemplate env template context ancestors) := by
  rw [renderTemplate_eq, renderTemplate_eq]
  have hexecute := agree_execute htransparent (htransparent.alike Render.depthLimit) template ancestors
  refine Agree.bind (Guarantee.inside (V := Equal) (Guarantee.knownContext_vacuous context) ?_) ?_
  · change Agree _ _ _ (if env.settings.debug = true then _ else _)
      (if env.settings.debug = true then _ else _)
    split
    · exact hexecute
    · refine Guarantee.orElse (fun _ => rfl) hexecute fun error _ heq => ?_
      rw [heq]
      exact Agree.pure (Equal.refl _)
  · rintro ⟨text, after⟩ ⟨_, _⟩ ⟨⟨rfl, -⟩, -⟩
    exact Agree.pure (Equal.refl text)

end Environment

end Stencil
