import BulletinPipeline.Proofs.Schema.Legality
import Mathlib.Data.List.Chain

namespace BulletinPipeline.Environment

open Relation

-- The descriptors that references can stand for.
def Defines (env : Environment) (d : Descriptor) : Prop :=
  d ∈ env.descriptors.map Prod.snd

-- A name denotes one descriptor.
def NamesUnique (env : Environment) : Prop :=
  ∀ d e, env.Defines d → env.Defines e → d.name = e.name → d = e

-- A reference that stands for nothing counts as one to a type that is no schema.
def target (env : Environment) (r : SchemaRef) : Descriptor :=
  (env.resolve? r).getD (.concrete r.name)

def Edge (env : Environment) (d e : Descriptor) : Prop :=
  ∃ r ∈ d.references, env.target r = e

abbrev Reaches (env : Environment) : Descriptor → Descriptor → Prop :=
  ReflTransGen env.Edge

structure Valid (env : Environment) (d : Descriptor) : Prop where
  legal  : ∀ e, env.Reaches d e → e.Legal
  simple : ∀ walk, (d :: walk).IsChain env.Edge → ((d :: walk).map Descriptor.name).Nodup

variable {env : Environment} {c d e : Descriptor} {r : SchemaRef}

theorem namesUnique_of_nodup (h : env.names.Nodup) : env.NamesUnique := by
  intro d e hd he hn
  have hm : env.names = (env.descriptors.map Prod.snd).map Descriptor.name := by simp [names]
  exact List.inj_on_of_nodup_map (hm ▸ h) hd he hn

theorem defines_of_resolve? (h : env.resolve? r = some d) : env.Defines d :=
  List.mem_map_of_mem (Entries.mem_of_lookup h)

theorem target_of_resolve? (h : env.resolve? r = some d) : env.target r = d := by
  simp [target, h]

theorem not_legal_concrete (name : String) : ¬(Descriptor.concrete name).Legal :=
  fun h => nomatch h.contract

theorem resolve?_of_legal_target (h : (env.target r).Legal) :
    env.resolve? r = some (env.target r) := by
  cases hr : env.resolve? r
  case none   => simp [target, hr, not_legal_concrete] at h
  case some d => rw [target_of_resolve? hr]

theorem defines_of_edge (h : env.Edge d e) (hl : e.Legal) : env.Defines e := by
  have ⟨_, _, hr⟩ := h
  subst hr
  exact defines_of_resolve? (resolve?_of_legal_target hl)

theorem exists_walk_of_reaches (h : env.Reaches c e) :
    ∃ walk, (c :: walk).IsChain env.Edge ∧ e ∈ c :: walk := by
  have ⟨walk, hc, hl⟩ := List.exists_isChain_cons_of_relationReflTransGen h
  exact ⟨walk, hc, hl ▸ List.getLast_mem _⟩

theorem reaches_of_mem_walk {walk : List Descriptor} (h : (c :: walk).IsChain env.Edge)
    (hm : e ∈ c :: walk) : env.Reaches c e := by
  have hp : (c :: walk).Pairwise env.Reaches := (h.imp fun _ _ => ReflTransGen.single).pairwise
  cases List.mem_cons.mp hm
  case inl he => exact he ▸ .refl
  case inr ht => exact List.rel_of_pairwise_cons hp ht

namespace Valid

theorem self_legal (h : env.Valid d) : d.Legal :=
  h.legal d .refl

theorem of_edge (h : env.Valid d) (he : env.Edge d c) : env.Valid c where
  legal e hr   := h.legal e (.head he hr)
  simple walk hw := (h.simple (c :: walk) (hw.cons_cons he)).of_cons

theorem name_ne (h : env.Valid d) (he : env.Edge d c) (hr : env.Reaches c e) :
    e.name ≠ d.name := by
  have ⟨walk, hw, hm⟩ := exists_walk_of_reaches hr
  have hn := (List.nodup_cons.mp <| h.simple (c :: walk) (hw.cons_cons he)).1
  exact fun hc => hn (hc ▸ List.mem_map_of_mem hm)

theorem resolve? (h : env.Valid d) (hr : r ∈ d.references) :
    ∃ e, env.resolve? r = some e ∧ env.Edge d e :=
  have he : env.Edge d (env.target r) := ⟨r, hr, rfl⟩
  ⟨_, resolve?_of_legal_target (h.of_edge he).self_legal, he⟩

end Valid

-- A walk from a descriptor is the descriptor, or one step and a walk from there.
theorem valid_iff :
    env.Valid d ↔ d.Legal ∧ ∀ c, env.Edge d c →
      env.Valid c ∧ ∀ e, env.Reaches c e → e.name ≠ d.name where
  mp h       := ⟨h.self_legal, fun _ hc => ⟨h.of_edge hc, fun _ => h.name_ne hc⟩⟩
  mpr := fun ⟨hl, hs⟩ => {
    legal := fun e hr => by
      cases ReflTransGen.cases_head hr
      case inl he => exact he ▸ hl
      case inr hc =>
        have ⟨c, hc, hr⟩ := hc
        exact (hs c hc).1.legal e hr
    simple := fun walk hw => by
      cases walk
      case nil => simp
      case cons c walk =>
        have ⟨hc, hw⟩ := List.isChain_cons_cons.mp hw
        have ⟨hv, hn⟩ := hs c hc
        refine List.nodup_cons.mpr ⟨fun hm => ?_, hv.simple walk hw⟩
        have ⟨e, he, hd⟩ := List.mem_map.mp hm
        exact hn e (reaches_of_mem_walk hw he) hd
  }

-- Where a name denotes one descriptor, a walk that comes back to a name goes round in a circle, and a
-- circle is no walk of a valid descriptor.
theorem NamesUnique.valid_of_edges (u : env.NamesUnique) (hd : env.Defines d) (hl : d.Legal)
    (hs : ∀ c, env.Edge d c → env.Valid c) : env.Valid d := by
  refine valid_iff.mpr ⟨hl, fun c hc => ⟨hs c hc, fun e hr hn => ?_⟩⟩
  have he : env.Defines e := by
    cases ReflTransGen.cases_tail hr
    case inl he => exact he ▸ defines_of_edge hc (hs c hc).self_legal
    case inr hb =>
      have ⟨_, _, hb⟩ := hb
      exact defines_of_edge hb ((hs c hc).legal e hr)
  cases u e d he hd hn
  have ⟨b, hb, hbc⟩ := TransGen.head'_iff.mp (TransGen.tail' hr hc)
  exact (hs c hc).name_ne hb hbc rfl

end BulletinPipeline.Environment
