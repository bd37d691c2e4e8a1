import BulletinPipeline.Proofs.Recursion.Evaluation
import BulletinPipeline.Proofs.Schema.Outcome
import BulletinPipeline.Proofs.Schema.Reordering
import BulletinPipeline.Proofs.ValueType
import Mathlib.Data.List.Find

namespace BulletinPipeline

def Config.withProperty (c : Config) (name : String) (v : Value) : Config :=
  ⟨c.schema, Entries.insert name v c.properties⟩

namespace Schema

open Materializing

-- The schema has one more property than another one, and its place is among the properties before and after it.
structure Extends (t s : Schema) (p : Property) (before after : List Property) : Prop where
  name      : t.name = s.name
  old       : s.properties = before ++ after
  new       : t.properties = before ++ p :: after
  ascending : t.optionNames.Pairwise (· < ·)

section Assembly

variable {M : Type → Type} [Monad M] [MonadExcept Error M] {s t : Schema} {p : Property}
  {before after : List Property} {convert : Value → Signature → Except ConversionError Value}
  {inner : SchemaRef → Entries Value → M Config} {raw : Entries Value} {v : Value}

theorem assign_of_absent (hl : raw.lookup p.name = none) (hv : p.accessor.returns.empty? = some v) :
    s.assign convert inner raw p = pure (p.name, v) := by
  simp only [assign, hl, hv]

theorem assign_eq_of_name_eq (hn : t.name = s.name) : t.assign convert inner raw = s.assign convert inner raw := by
  funext p
  unfold assign
  rw [hn]

namespace Extends

theorem references (h : t.Extends s p before after) (hp : p.nested? = none) : t.references = s.references := by
  simp only [Schema.references, h.old, h.new, List.filterMap_append, List.filterMap_cons, hp]

theorem mem_optionNames (h : t.Extends s p before after) {k : String} :
    k ∈ t.optionNames ↔ k = p.name ∨ k ∈ s.optionNames := by
  simp only [optionNames, h.old, h.new, List.map_append, List.map_cons, List.mem_append, List.mem_cons]
  exact or_left_comm

theorem ascending_old (h : t.Extends s p before after) : s.optionNames.Pairwise (· < ·) := by
  have ha := h.ascending
  rw [optionNames, h.new] at ha
  rw [optionNames, h.old]
  exact ha.sublist (((List.sublist_cons_self p after).append_left before).map _)

theorem unknown?_eq (h : t.Extends s p before after) (hk : p.name ∉ Entries.keys raw) :
    t.unknown? raw = s.unknown? raw := by
  refine List.find?_congr fun k hm => ?_
  have hn : k ≠ p.name := fun he => hk (he ▸ hm)
  rw [Bool.eq_iff_iff, isNone_property?_iff h.ascending, isNone_property?_iff h.ascending_old, h.mem_optionNames,
    or_iff_right hn]

theorem bounds (h : t.Extends s p before after) :
    (∀ k ∈ before.map Property.name, k < p.name) ∧ ∀ k ∈ after.map Property.name, p.name < k := by
  have ha := h.ascending
  rw [optionNames, h.new, List.map_append, List.map_cons] at ha
  obtain ⟨_, hp, hb⟩ := List.pairwise_append.mp ha
  exact ⟨fun k hk => hb k hk _ List.mem_cons_self, fun k hk => List.rel_of_pairwise_cons hp hk⟩

end Extends

end Assembly

variable {s t : Schema} {p : Property} {before after ps : List Property} {m : Memory}
  {convert : Value → Signature → Except ConversionError Value}
  {inner : SchemaRef → Entries Value → Materializing Config} {raw bs : Entries Value} {v : Value}

theorem keys_of_mapM_assign (h : (ps.mapM (s.assign convert inner raw) m).1 = .ok bs) :
    Entries.keys bs = ps.map Property.name := by
  have hf := forall₂_of_mapM (I := fun _ => True) (fun _ _ _ _ => trivial) trivial h
  refine (List.forall₂_eq_eq_eq ▸ List.forall₂_map_left_iff.mpr (List.forall₂_map_right_iff.mpr ?_)).symm
  refine hf.imp fun q b hb => ?_
  have ⟨n, _, hb⟩ := hb
  rw [assign_apply] at hb
  exact (Property.assign_eq_ok_iff.mp hb).1.symm

namespace Extends

-- The steps before the new property and those after it are the same, and the new one does nothing.
theorem assemble_fst_eq (h : t.Extends s p before after) (hk : p.name ∉ Entries.keys raw)
    (hv : p.accessor.returns.empty? = some v) :
    (t.assemble convert inner raw m).1 = (s.assemble convert inner raw m).1.map (·.withProperty p.name v) := by
  have hp : s.assign convert inner raw p = pure (p.name, v) :=
    assign_of_absent (Entries.lookup_eq_none_iff.mpr hk) hv
  rw [assemble, assemble, h.unknown?_eq hk]
  cases s.unknown? raw
  case some key => rw [h.name]; rfl
  case none     =>
    simp only [h.old, h.new, List.mapM_append, List.mapM_cons, assign_eq_of_name_eq h.name, hp, h.name, pure_bind,
      bind_assoc]
    rw [bind_apply, bind_apply]
    rcases hb : before.mapM (s.assign convert inner raw) m with ⟨x, m'⟩
    cases x
    case error => rfl
    case ok bs =>
      dsimp only
      rw [bind_apply, bind_apply]
      rcases ha : after.mapM (s.assign convert inner raw) m' with ⟨y, m''⟩
      cases y
      case error => rfl
      case ok as =>
        have hb := keys_of_mapM_assign (congrArg Prod.fst hb)
        have ha := keys_of_mapM_assign (congrArg Prod.fst ha)
        have hi := Entries.insert_append (a := v) (hb ▸ h.bounds.1) (ha ▸ h.bounds.2)
        exact congrArg (fun ps => Except.ok (Config.mk s.name ps)) hi.symm

theorem fill_fst_eq {env : Environment} (h : t.Extends s p before after) (hk : p.name ∉ Entries.keys raw)
    (hv : p.accessor.returns.empty? = some v) :
    (t.fill env convert raw [] m).1 = (s.fill env convert raw [] m).1.map (·.withProperty p.name v) := by
  rw [fill_eq, fill_eq, if_neg List.not_mem_nil, if_neg List.not_mem_nil, h.name]
  exact h.assemble_fst_eq hk hv

end Extends
end Schema

namespace Descriptor

variable {d e : Descriptor} {a : Signature}

def extend (d : Descriptor) (a : Signature) : Descriptor :=
  { d with members := d.members ++ [⟨a, .abstract⟩] }

theorem accessors_extend (d : Descriptor) (a : Signature) : (d.extend a).accessors = d.accessors ++ [a] := by
  simp [accessors, extend]

theorem Legal.extend (h : d.Legal) (ha : a.params = []) (hn : propertyName a.name ∉ d.table.optionNames) :
    (d.extend a).Legal where
  contract := h.contract
  tagged   := h.tagged
  noParams b hb := by
    rw [accessors_extend, List.mem_append, List.mem_singleton] at hb
    exact hb.elim (h.noParams b) (· ▸ ha)
  distinct := by
    rw [accessors_extend, List.map_append, List.map_singleton, ← List.concat_eq_append]
    exact h.distinct.concat fun hm => hn (h.mem_optionNames.mpr (List.mem_map.mp hm))

theorem Legal.mem_properties_extend (h : d.Legal) (ha : a.params = [])
    (hn : propertyName a.name ∉ d.table.optionNames) {p : Property} :
    p ∈ d.table.properties ↔ p ∈ (d.extend a).table.properties ∧ p.name ≠ propertyName a.name := by
  rw [h.mem_properties, (h.extend ha hn).mem_properties, accessors_extend, List.mem_append, List.mem_singleton]
  constructor
  case mp =>
    intro ⟨hm, hp⟩
    exact ⟨⟨.inl hm, hp⟩, fun he => hn (h.mem_optionNames.mpr ⟨p.accessor, hm, hp.symm.trans he⟩)⟩
  case mpr =>
    intro ⟨⟨hm, hp⟩, he⟩
    exact ⟨hm.resolve_right fun hm => he (hm ▸ hp), hp⟩

theorem Legal.table_extend (h : d.Legal) (ha : a.params = []) (hn : propertyName a.name ∉ d.table.optionNames) :
    ∃ before after, (d.extend a).table.Extends d.table ⟨propertyName a.name, a⟩ before after := by
  have hm : ⟨propertyName a.name, a⟩ ∈ (d.extend a).table.properties := by
    simp [(h.extend ha hn).mem_properties, accessors_extend]
  obtain ⟨before, after, hs⟩ := List.append_of_mem hm
  have hl := (d.extend a).ascending_optionNames
  have ho := hl
  rw [Schema.optionNames, hs, List.map_append, List.map_cons] at ho
  -- The other properties are those with other names.
  have hne : propertyName a.name ∉ (before ++ after).map Property.name := by
    rw [List.map_append]
    exact (List.nodup_cons.mp (List.nodup_middle.mp (ho.imp ne_of_lt))).1
  have ho : ((before ++ after).map Property.name).Pairwise (· < ·) := by
    rw [List.map_append]
    exact ho.sublist ((List.sublist_cons_self ..).append_left _)
  refine ⟨before, after, rfl, ?_, hs, hl⟩
  refine Entries.eq_of_mem_iff_of_ascending d.ascending_optionNames ho fun p => ?_
  rw [h.mem_properties_extend ha hn, hs, List.mem_append, List.mem_append, List.mem_cons]
  constructor
  case mp =>
    rintro ⟨hp, hn⟩
    exact hp.imp_right fun hp => hp.resolve_left fun he => hn (congrArg Property.name he)
  case mpr =>
    intro hp
    exact ⟨hp.imp_right .inr, fun he => hne (he ▸ List.mem_map_of_mem (List.mem_append.mpr hp))⟩

end Descriptor

namespace ValueType

theorem exists_empty? {t u : ValueType} (h : t.inner? = some u) : ∃ v, t.empty? = some v := by
  cases t <;> cases h <;> exact ⟨_, rfl⟩

end ValueType

namespace Materializer

open Environment

variable {env : Environment} {d e : Descriptor} {s : Schema} {a : Signature} {t : ValueType}

-- The new accessor may stand anywhere among the others.
theorem materialize_of_extended (hs : (validate env d .fresh).1 = .ok s) (ha : a.params = [])
    (ht : a.returns.inner? = some t) (hr : ∀ r, t ≠ .schema r) (hn : propertyName a.name ∉ s.optionNames)
    (he : (d.extend a).Alike e) :
    (∃ s', (validate env e .fresh).1 = .ok s')
    ∧ ∃ v, a.returns.empty? = some v ∧ (Unrepeated env d → ∀ converter raw,
      propertyName a.name ∉ Entries.keys raw →
        (materialize env converter e raw .fresh).1
          = (materialize env converter d raw .fresh).1.map (·.withProperty (propertyName a.name) v)) := by
  obtain ⟨hl, rfl⟩ := legal_of_validate_fresh hs
  have ⟨before, after, hx⟩ := hl.table_extend ha hn
  have hle := hl.extend ha hn
  have hte := he.table_eq hle
  have hp : (Property.mk (propertyName a.name) a).nested? = none := ValueType.schemaRef?_eq_none ht hr
  have ⟨v, hv⟩ := ValueType.exists_empty? ht
  cases fresh_twins env hl (he.legal hle) he.name (hte ▸ hx.references hp)
  case inl hf =>
    have ⟨_, hf, _⟩ := hf
    exact nomatch hs.symm.trans hf
  case inr hd =>
    have ⟨_, hd, hm⟩ := hd
    refine ⟨⟨_, hd⟩, v, hv, fun hu converter raw hk => ?_⟩
    have hn := hu.misses hs
    have ⟨m, m', hm, hr⟩ := hm hn
    rw [(hr converter raw).1, (hr converter raw).2, (Overlooks.fill (hn.table hl) raw [] m m' hm).fst_eq, hte]
    exact hx.fill_fst_eq hk hv

def axleNote : Signature :=
  ⟨"Axle", "getNote", [], .optionalInt⟩

def axleNoted : Descriptor :=
  { axle with members := ⟨axleNote, .abstract⟩ :: axle.members }

theorem materialize_of_extended_axle :
    (validate axles axle .fresh).1 = .ok axle.table
      ∧ axleNote.returns.inner? = some .int ∧ propertyName axleNote.name ∉ axle.table.optionNames
      ∧ (axle.extend axleNote).Alike axleNoted ∧ Unrepeated axles axle
      ∧ (materialize axles .standard axle axleRaw .fresh).1 = .ok axleConfig
      ∧ (materialize axles .standard axleNoted axleRaw .fresh).1
          = .ok ⟨"Axle", axleConfig.properties ++ [("note", .optionalInt none)]⟩ := by
  have hn : propertyName axleNote.name ∉ axle.table.optionNames := by decide
  have he : (axle.extend axleNote).Alike axleNoted := ⟨rfl, rfl, rfl, by decide⟩
  have hu : Unrepeated axles axle := .inl namesUnique_axles
  obtain ⟨_, v, hv, hm⟩ := materialize_of_extended validate_axle rfl rfl (by simp) hn he
  have hm := hm hu .standard axleRaw (by decide)
  cases hv
  rw [materialize_axle] at hm
  exact ⟨validate_axle, rfl, hn, he, hu, materialize_axle, hm⟩

def deskNoted : Descriptor :=
  desk.extend ⟨"Desk", "note", [], .optionalInt⟩

-- The same desk as before: memory has the extended one under its name.
theorem not_materialize_deskNoted :
    (validate desks desk .fresh).1 = .ok desk.table ∧ "note" ∉ desk.table.optionNames
      ∧ (materialize desks .standard desk deskRaw .fresh).1 = .ok deskConfig
      ∧ (materialize desks .standard deskNoted deskRaw .fresh).1
          = .error (.schema (.circular ["Form", "Clerk", "Desk", "Form"])) := by
  have hs : (validate desks desk .fresh).1 = .ok desk.table := validate_of_within (n := 3) rfl
  have he : (materialize desks .standard deskNoted deskRaw .fresh).1
      = .error (.schema (.circular ["Form", "Clerk", "Desk", "Form"])) :=
    materialize_of_within (n := 5) rfl
  exact ⟨hs, by decide, materialize_desk, he⟩

end Materializer
end BulletinPipeline
