import Mathlib
import CsgPreview.Proofs.Csg.Routing
import CsgPreview.Proofs.Pipeline.Generation

/-!
The chains a build draws, and where each of their entries comes from.

A build evaluates the tree, normalizes the main term and every overlay term, and imports them
into three chains: the main term under no flags, the highlights under the highlight flag and the
backgrounds under the background flag. The evaluation routes every primitive to one of the three
(`SceneTree.Routes`), and normalization only regroups the leaves of a term and spreads the flags
it finds in it, so each entry of a chain is a primitive of the part of the tree that chain draws,
in that chain's color mode: `Material` in the main chain, `Highlight` and `Background` in the
other two.
-/

namespace CsgPreview.Scene.SceneTree

open Csg Pipeline

variable (t : SceneTree)

/-- Where the geometry drawn in a color mode comes from: the main chain draws primitives reached
from the root through clean nodes, the overlay chains primitives owned by a `#` or a `%` node. -/
def DrawnAs : ColorMode → Leaf → Prop
  | .material, l => t.CleanLeaf t.root l
  | .highlight, l => ∃ n, t.HighlightOwner n ∧ t.OwnedLeaf n l
  | .background, l => ∃ n, t.BackgroundOwner n ∧ t.OwnedLeaf n l

/-- Every entry of the chain is drawn in `mode` and comes from where that mode's geometry
comes from. -/
def ChainDrawnAs (mode : ColorMode) (chain : RenderChain) : Prop :=
  ∀ e ∈ chain.entries.toList, e.mode = mode ∧ t.DrawnAs mode e.leaf

/-- The three chains of a build, each drawing its own part of the tree in its own mode. -/
def ChainsRouted (chains : CompiledChains) : Prop :=
  t.ChainDrawnAs .material chains.primary ∧ t.ChainDrawnAs .highlight chains.highlights ∧
    t.ChainDrawnAs .background chains.background

/-- The terms of an evaluation, each within what its chain may draw, under its chain's flags. -/
structure Drawn (ev : Evaluated) : Prop where
  primary : OptWithin (t.DrawnAs .material) {} ev.primary
  highlights : ∀ x ∈ ev.highlights.toList, x.Within (t.DrawnAs .highlight) ⟨true, false⟩
  backgrounds : ∀ x ∈ ev.backgrounds.toList, x.Within (t.DrawnAs .background) ⟨false, true⟩

variable {t}

theorem exists_owner_of_mem {R : Term → Nat → Prop} {terms : List Term} {owners : List Nat}
    (h : List.Forall₂ R terms owners) {x : Term} (mem : x ∈ terms) : ∃ n, R x n := by
  induction h with
  | nil => simp at mem
  | cons head _ ih =>
    rcases List.mem_cons.mp mem with rfl | later
    · exact ⟨_, head⟩
    · exact ih later

theorem Routes.drawn {ev : Evaluated} (h : t.Routes ev) : t.Drawn ev := by
  obtain ⟨primary, ho, bo, highlights, backgrounds, -⟩ := h
  refine ⟨primary, fun x mem => ?_, fun x mem => ?_⟩
  · obtain ⟨n, owner, within⟩ := exists_owner_of_mem highlights mem
    exact within.mono (fun _ owned => ⟨n, owner, owned⟩) (Flags.le_refl _)
  · obtain ⟨n, owner, within⟩ := exists_owner_of_mem backgrounds mem
    exact within.mono (fun _ owned => ⟨n, owner, owned⟩) (Flags.le_refl _)

theorem drawnAs_chainEntries {mode : ColorMode} {G : Flags} {x term : Term}
    (hx : x.Within (t.DrawnAs mode) G) (hnorm : Regroups x (some term))
    (hG : ColorMode.ofFlags G = mode) :
    ∀ e ∈ term.chainEntries .union G, e.mode = mode ∧ t.DrawnAs mode e.leaf := by
  intro e mem
  have ⟨drawn, hmode⟩ := Term.chainEntries_within (hnorm _ _ hx) (Flags.le_refl G) .union e mem
  exact ⟨hmode.trans hG, drawn⟩

theorem ChainsRouted.of_parts {ev : Evaluated} {chains : CompiledChains} (drawn : t.Drawn ev)
    (primary : ∀ tree : SceneTree, tree.Drawn ev → tree.ChainDrawnAs .material chains.primary)
    (highlights : ∀ (tree : SceneTree) (mode : ColorMode), ColorMode.ofFlags ⟨true, false⟩ = mode →
      (∀ x ∈ ev.highlights.toList, x.Within (tree.DrawnAs mode) ⟨true, false⟩) →
        tree.ChainDrawnAs mode chains.highlights)
    (backgrounds : ∀ (tree : SceneTree) (mode : ColorMode), ColorMode.ofFlags ⟨false, true⟩ = mode →
      (∀ x ∈ ev.backgrounds.toList, x.Within (tree.DrawnAs mode) ⟨false, true⟩) →
        tree.ChainDrawnAs mode chains.background) :
    t.ChainsRouted chains :=
  ⟨primary t drawn, highlights t .highlight rfl drawn.highlights,
    backgrounds t .background rfl drawn.backgrounds⟩

theorem chainDrawnAs_empty (mode : ColorMode) : t.ChainDrawnAs mode {} := by
  intro e mem
  simp at mem

theorem ChainDrawnAs.append {mode : ColorMode} {G : Flags} {chain : RenderChain} {x term : Term}
    (hold : t.ChainDrawnAs mode chain) (hx : x.Within (t.DrawnAs mode) G)
    (hnorm : Regroups x (some term)) (hG : ColorMode.ofFlags G = mode) :
    t.ChainDrawnAs mode (chain.append term .union G) := by
  intro e mem
  rw [RenderChain.append_entries, List.mem_append] at mem
  rcases mem with old | new
  · exact hold e old
  · exact drawnAs_chainEntries hx hnorm hG e new

end CsgPreview.Scene.SceneTree

namespace CsgPreview.Pipeline.Session

open Std.Do Csg Scene

set_option mvcgen.warning false

@[spec 3000] theorem evaluateTree_drawn (tree : SceneTree) :
    ⦃fun _ _ => ⌜True⌝⦄ evaluateTree tree
    ⦃post⟨fun terms _ _ => ⌜tree.Drawn terms⌝, fun _ _ _ => ⌜True⌝⟩⦄ := by
  unfold evaluateTree
  mvcgen [update, tell, triple_logged]
  exact (evaluate_routes ⟨rfl, rfl⟩ _ ‹_›).drawn

@[spec 3000] theorem normalizeTerm_regroups (term : Term) :
    ⦃fun _ _ => ⌜True⌝⦄ normalizeTerm term
    ⦃post⟨fun r _ _ => ⌜Regroups term r.1⌝, fun _ _ _ => ⌜True⌝⟩⦄ := by
  unfold normalizeTerm
  mvcgen [update, triple_logged]
  exact normalize_regroups term _ _ _ ‹_›

@[spec 3000] theorem normalizePrimary_routed (ev : Evaluated) :
    ⦃fun _ _ => ⌜True⌝⦄ normalizePrimary ev.primary
    ⦃post⟨fun r _ _ => ⌜∀ tree : SceneTree, tree.Drawn ev → tree.ChainDrawnAs .material r.1⌝,
      fun _ _ _ => ⌜True⌝⟩⦄ := by
  unfold normalizePrimary
  cases primary : ev.primary with
  | none =>
    mvcgen
    exact fun tree _ => SceneTree.chainDrawnAs_empty .material
  | some x =>
    mvcgen
    case vc1 =>
      -- the normalized main term, imported under no flags
      rename_i r t found _ _ regroups
      intro tree drawn
      have within : x.Within (tree.DrawnAs .material) {} := by simpa [primary] using drawn.primary
      exact (SceneTree.chainDrawnAs_empty .material).append within (found ▸ regroups) rfl
    case vc2 => exact fun tree _ => SceneTree.chainDrawnAs_empty .material

theorem overlayStep_routed {terms : Array Term} {flags : Flags} {chain : RenderChain}
    {pref suff : List Term} {cur t : Term} {r : Option Term × Bool}
    (before : ∀ (tree : SceneTree) (mode : ColorMode), ColorMode.ofFlags flags = mode →
      (∀ x ∈ terms.toList, x.Within (tree.DrawnAs mode) flags) → tree.ChainDrawnAs mode chain)
    (cursor : terms.toList = pref ++ cur :: suff) (found : r.1 = some t)
    (regroups : Regroups cur r.1) :
    ∀ (tree : SceneTree) (mode : ColorMode), ColorMode.ofFlags flags = mode →
      (∀ x ∈ terms.toList, x.Within (tree.DrawnAs mode) flags) →
        tree.ChainDrawnAs mode (chain.append t .union flags) := by
  intro tree mode hmode within
  exact (before tree mode hmode within).append (within cur (by simp [cursor])) (found ▸ regroups)
    hmode

@[spec 3000] theorem normalizeOverlays_routed (label : String) (terms : Array Term) (flags : Flags) :
    ⦃fun _ _ => ⌜True⌝⦄ normalizeOverlays label terms flags
    ⦃post⟨fun r _ _ => ⌜∀ (tree : SceneTree) (mode : ColorMode), ColorMode.ofFlags flags = mode →
        (∀ x ∈ terms.toList, x.Within (tree.DrawnAs mode) flags) → tree.ChainDrawnAs mode r.1⌝,
      fun _ _ _ => ⌜True⌝⟩⦄ := by
  unfold normalizeOverlays
  mvcgen invariants
  · post⟨fun loop _ _ => ⌜∀ (tree : SceneTree) (mode : ColorMode), ColorMode.ofFlags flags = mode →
        (∀ x ∈ terms.toList, x.Within (tree.DrawnAs mode) flags) →
          tree.ChainDrawnAs mode loop.2.1⌝, fun _ _ _ => ⌜True⌝⟩
  case vc1 => exact overlayStep_routed ‹_› ‹_› ‹_› ‹_›
  case vc4 | vc6 => exact fun tree mode _ _ => SceneTree.chainDrawnAs_empty mode

@[spec 3000] theorem buildChains_routed (current : Option SceneTree) :
    ⦃fun s _ => ⌜s.coordinator.tree = current⌝⦄ buildChains
    ⦃post⟨fun chains _ _ => ⌜∃ tree, current = some tree ∧ tree.ChainsRouted chains⌝,
      fun _ _ _ => ⌜True⌝⟩⦄ := by
  unfold buildChains
  mvcgen [update]
  -- with the preview available or not, each chain comes from its part of the evaluated tree
  case vc1 | vc2 =>
    exact ⟨_, (‹_ = current›).symm.trans ‹_›, .of_parts ‹SceneTree.Drawn _ _› ‹_› ‹_› ‹_›⟩

theorem buildProducts_routed (current : Option SceneTree) :
    ⦃fun s _ => ⌜s.coordinator.tree = current⌝⦄ buildProducts
    ⦃⇓ r _ _ => ⌜∀ chains, r = .ok chains → ∃ tree, current = some tree ∧
      tree.ChainsRouted chains⌝⦄ := by
  unfold buildProducts
  mvcgen [update]
  all_goals subst_vars
  all_goals simp_all

end CsgPreview.Pipeline.Session

namespace CsgPreview.Pipeline

open Csg Scene

/-- Overlay routing. An evaluation from a walk with no overlays yet gives a main term of
primitives reached from the effective root through nodes that are neither disabled, `%` nor `#`;
each highlight and each background term has an owner, a node reached through enabled nodes that
is the nearest `#` or `%` node of every leaf of the term, marked `#` and not `%` for a highlight
and `%` for a background; in a tree laid out in pre-order no node owns two terms. A build draws
every entry of its main chain from the main term's part of the tree in the `Material` mode, and
every entry of its highlight and background chains from a highlight or background owner, in the
`Highlight` or `Background` mode. -/
theorem overlays_routed (tree : SceneTree) (cache : Cache.LruCache Geometry.Shape)
    (tessellations : Cache.Tessellations) (progress : Progress) (cancel : CancelToken)
    (log : Array LogRecord) (s : Session) (log' : Array LogRecord) :
    (∀ ev, (((evaluate tree).run.run
        ⟨cache, tessellations, progress, #[], #[], cancel⟩).run log).run.1.1 = .ok ev →
      tree.Routes ev) ∧
    (∀ chains, ((Session.buildProducts.run s).run log').run.1.1 = .ok chains →
      ∃ built, s.coordinator.tree = some built ∧ built.ChainsRouted chains) :=
  ⟨fun _ evaluated => evaluate_routes ⟨rfl, rfl⟩ log evaluated,
    fun chains built => Session.run_of_triple (Session.buildProducts_routed s.coordinator.tree) rfl
      log' chains built⟩

end CsgPreview.Pipeline
